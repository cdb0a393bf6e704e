import Mathlib
import ClaimCheck.Proofs.Channel.Queues
import ClaimCheck.Proofs.Codec.Resolvable
import ClaimCheck.Proofs.Relay.Follows

/-!
# How far a message has got

Sending a message has two effects, in this order: a body that is too large is put into a blob of its
own, and the message is put on the channel, with its body or with an envelope that names the blob.
Either may fail, and nothing is done after a failure.  `Progress` says how far a message has got,
`Parcel.Moves` which requests may be asked then and how far it gets by each, and `Parcel.follows_send`
that sending a message asks no others and how far it has got by the outcome.

Wherever a message is (`Parcel.Reached`), its blob holds its whole body once it is stored, and it is
on the channel with an envelope exactly when its body is too large.
-/

namespace ClaimCheck

/-- A message that is sent: under which configuration, and where to. -/
structure Parcel where
  config : Config
  message : Message
  destination : String

namespace Parcel

/-- The attempt to send the message. -/
def attempt (p : Parcel) : Attempt ChannelFault Receipt :=
  (ChannelGateway.ofConfig p.config).send p.message p.destination

/-- The body is too large for the channel. -/
def isLarge (p : Parcel) : Bool := p.config.threshold.exceededBy p.message.body.utf8ByteSize

/-- The bytes of the body. -/
def bytes (p : Parcel) : ByteArray := p.message.body.toUTF8

/-- The message as it is put on the channel: with its own body, or with the envelope of the place
where its body is kept. -/
def onChannel (p : Parcel) : Option Locator → Message
  | none => p.message
  | some place => { p.message with body := (EncodedBody.claimCheck place).text }

end Parcel

/-! ## Progress -/

/-- How far a message has got: nothing was done, its body is kept at a place, or it is on the
channel, maybe with an envelope. -/
inductive Progress where
  | fresh
  | stored (place : Locator)
  | sent (claim : Option Locator)

namespace Progress

/-- Where a message stands before it is put on the channel. -/
def ready : Option Locator → Progress
  | none => fresh
  | some place => stored place

/-- The place where the body is kept, if it is. -/
def place? : Progress → Option Locator
  | fresh => none
  | stored place => some place
  | sent claim => claim

/-- The message is on the channel. -/
def isSent : Progress → Bool
  | sent _ => true
  | _ => false

/-- How far a message gets by a put of its body. -/
def afterPut (place : Locator) : Except Store.Fault Unit → Progress
  | .ok _ => stored place
  | .error _ => fresh

/-- How far a message gets by an attempt to put it on the channel. -/
def afterEnqueue (claim : Option Locator) : Except TransportFault Unit → Progress
  | .ok _ => sent claim
  | .error _ => ready claim

/-- A message that was sent is on the channel as its receipt says, and one that was not is not. -/
def Ends (st : Progress) : Except ChannelFault Receipt → Prop
  | .ok receipt => st = sent receipt.claimCheck
  | .error _ => st.isSent = false

@[simp] lemma place?_fresh : fresh.place? = none := rfl

@[simp] lemma place?_stored (place : Locator) : (stored place).place? = some place := rfl

@[simp] lemma place?_sent (claim : Option Locator) : (sent claim).place? = claim := rfl

@[simp] lemma place?_ready (claim : Option Locator) : (ready claim).place? = claim := by
  cases claim <;> rfl

@[simp] lemma isSent_ready (claim : Option Locator) : (ready claim).isSent = false := by
  cases claim <;> rfl

end Progress

/-! ## Encoding -/

namespace Codec

open Progress

variable {codec : Codec} {text : String} {moves : Progress → (r : Request) → r.Reply → Progress → Prop}

/-- Offloading stores a text, or it fails and nothing is stored. -/
lemma follows_offload (hidle : ∀ st r reply, r.IsIdle → moves st r reply st)
    (hput : ∀ endpoint, codec.endpoint = some endpoint → ∀ id reply,
      moves fresh (.call ⟨endpoint.account⟩
        (.put (freshPlace codec.threshold.container id) text.toUTF8)) reply
        (afterPut (freshPlace codec.threshold.container id) reply)) :
    Follows moves (fun st outcome => match outcome with
      | .ok place => st = stored place
      | .error _ => st = fresh) fresh (codec.offload text).run := by
  unfold offload requiredEndpoint
  refine .attempt_bind ?_
  rw [Attempt.run_ofOutcome]
  cases hendpoint : codec.endpoint with
  | none => rfl
  | some endpoint =>
    refine .attempt_bind fun id _ => ⟨fresh, hidle fresh _ id trivial, ?_⟩
    refine .attempt_bind (.attempt_wrapping
      (.within hidle (fun session hclient reply _ => ?_) fun fault => rfl))
    rw [hclient]
    refine ⟨_, hput endpoint hendpoint id reply, ?_⟩
    cases reply <;> rfl

/-- Encoding a text leaves it ready to be handed over, in a blob of its own exactly when it is too
large, or it fails. -/
lemma follows_encodeText (hidle : ∀ st r reply, r.IsIdle → moves st r reply st)
    (hput : codec.threshold.exceededBy text.utf8ByteSize = true →
      ∀ endpoint, codec.endpoint = some endpoint → ∀ id reply,
        moves fresh (.call ⟨endpoint.account⟩
          (.put (freshPlace codec.threshold.container id) text.toUTF8)) reply
          (afterPut (freshPlace codec.threshold.container id) reply)) :
    Follows moves (fun st outcome => match outcome with
      | .ok encoded => st = ready encoded.locator? ∧
          encoded.locator?.isSome = codec.threshold.exceededBy text.utf8ByteSize ∧
          ∀ inline, encoded = .inline inline → inline = text
      | .error _ => st = fresh) fresh (codec.encodeText text).run := by
  unfold encodeText
  split
  · next hlarge =>
    refine .attempt_map ((follows_offload hidle (hput hlarge)).mono fun st outcome hstored => ?_)
    rcases outcome with fault | place
    · exact hstored
    · exact ⟨hstored, hlarge.symm, fun inline heq => by cases heq⟩
  · next hsmall =>
    exact ⟨rfl, (Bool.eq_false_iff.mpr hsmall).symm, fun inline heq => by cases heq; rfl⟩

end Codec

/-! ## Sending -/

/-- A payload is sent as the body of a message with nothing beside it, or it has no text and nothing
is asked for it. -/
lemma ChannelGateway.run_sendPayload (g : ChannelGateway) (payload : Payload)
    (destination : String) :
    (g.sendPayload payload destination).run = match payload.text with
      | .error cause => .done (.error (.codec (.serialization cause)))
      | .ok body => (g.send { body } destination).run := by
  unfold sendPayload
  rw [Attempt.run_bind, Attempt.run_ofOutcome]
  cases payload.text <;> rfl

namespace Parcel

open Progress

/-- The requests that may be asked for a message, and how far it gets by each. -/
inductive Moves (p : Parcel) : Progress → (r : Request) → r.Reply → Progress → Prop
  | idle (st : Progress) {r : Request} (reply : r.Reply) (hr : r.IsIdle) : Moves p st r reply st
  | put {account : String} (hlarge : p.isLarge = true)
    (haccount : p.config.offloadAccount = some account) (id : Uuid)
    (reply : Except Store.Fault Unit) :
    Moves p fresh
      (.call ⟨account⟩ (.put (Codec.freshPlace p.config.offloadContainer id) p.bytes)) reply
      (afterPut (Codec.freshPlace p.config.offloadContainer id) reply)
  | enqueue {claim : Option Locator} (hclaim : claim.isSome = p.isLarge) (space : String)
    (credential : Identity.Credential) (reply : Except TransportFault Unit) :
    Moves p (ready claim) (.enqueue space credential p.destination (p.onChannel claim)) reply
      (afterEnqueue claim reply)

variable {p : Parcel}

/-- Encoding the body leaves the message ready for the channel, with an envelope exactly when the
body is too large, or it fails. -/
lemma follows_encodeText (p : Parcel) (access : Access) :
    Follows p.Moves (fun st outcome => match outcome with
      | .ok encoded => st = ready encoded.locator? ∧ encoded.locator?.isSome = p.isLarge ∧
          { p.message with body := encoded.text } = p.onChannel encoded.locator?
      | .error _ => st = fresh)
      fresh (({ Codec.ofConfig p.config with access } : Codec).encodeText p.message.body).run := by
  refine (Codec.follows_encodeText (fun st _ => .idle st)
    fun hlarge endpoint hendpoint id => ?_).mono fun st outcome hready => ?_
  · have haccount : p.config.offloadAccount = some endpoint.account := by
      obtain ⟨account, haccount, heq⟩ := Option.map_eq_some_iff.mp hendpoint
      rw [haccount, ← heq]
    exact .put hlarge haccount id
  · rcases outcome with fault | encoded
    · exact hready
    · obtain ⟨hst, hlarge, htext⟩ := hready
      refine ⟨hst, hlarge, ?_⟩
      cases encoded with
      | inline text =>
        cases htext text rfl
        rfl
      | claimCheck place => rfl

/-- How far a message has got by the outcome of its sending: a receipt says how it was put on the
channel, and a fault whether the body was encoded before. -/
def Concludes (p : Parcel) (st : Progress) : Except ChannelFault Receipt → Prop
  | .ok receipt => st = sent receipt.claimCheck ∧ receipt.destination = p.destination ∧
      receipt.bodyLength = (p.onChannel receipt.claimCheck).body.utf8ByteSize
  | .error (.config _) | .error (.codec _) => st = fresh
  | .error (.identity _) | .error (.transport _) =>
    ∃ claim, st = ready claim ∧ claim.isSome = p.isLarge

/-- Sending a message asks what may be asked for it, whoever it is sent and its body is stored as. -/
lemma follows_send (p : Parcel) (space : Option String) (access : Access)
    (selector : Identity.Selector) :
    Follows p.Moves p.Concludes fresh
      ((ChannelGateway.mk space { Codec.ofConfig p.config with access } selector).send p.message
        p.destination).run := by
  unfold ChannelGateway.send
  refine .attempt_bind ?_
  rw [Attempt.run_ofOutcome]
  cases Config.required .channelNamespace space with
  | error fault => exact rfl
  | ok space =>
    refine .attempt_bind (.attempt_wrapping
      ((p.follows_encodeText access).mono fun st outcome hready => ?_))
    rcases outcome with fault | encoded
    · exact hready
    · obtain ⟨rfl, hclaim, hmessage⟩ := hready
      refine .attempt_bind (.withCredential (fun st _ => .idle st) (fun credential reply _ => ?_)
        fun fault => ⟨_, rfl, hclaim⟩)
      rw [hmessage]
      refine ⟨_, .enqueue hclaim space credential reply, ?_⟩
      rcases reply with fault | _
      · exact ⟨_, rfl, hclaim⟩
      · exact ⟨rfl, rfl, rfl⟩

/-- A receipt says where the message was sent and how many bytes its body has on the channel. -/
def Measures (p : Parcel) : Except ChannelFault Receipt → Prop
  | .ok receipt => receipt.destination = p.destination ∧
      receipt.bodyLength = (p.onChannel receipt.claimCheck).body.utf8ByteSize
  | .error _ => True

/-- Sending a message asks what may be asked for it, and the receipt says how it was put on the
channel and measures it. -/
lemma follows_attempt_measured (p : Parcel) :
    Follows p.Moves (fun st outcome => st.Ends outcome ∧ p.Measures outcome) fresh p.attempt.run := by
  refine (p.follows_send p.config.channelNamespace (Access.ofConfig p.config)
    (Identity.Selector.ofConfig p.config)).mono fun st outcome hconcludes => ?_
  rcases outcome with (fault | fault | fault | fault) | receipt
  · obtain ⟨claim, rfl, -⟩ := hconcludes
    exact ⟨isSent_ready claim, trivial⟩
  · subst hconcludes
    exact ⟨rfl, trivial⟩
  · obtain ⟨claim, rfl, -⟩ := hconcludes
    exact ⟨isSent_ready claim, trivial⟩
  · subst hconcludes
    exact ⟨rfl, trivial⟩
  · exact hconcludes

/-- Sending a message asks what may be asked for it, and the receipt says how it was put on the
channel. -/
lemma follows_attempt (p : Parcel) : Follows p.Moves Ends fresh p.attempt.run :=
  p.follows_attempt_measured.mono fun _ _ hends => hends.1

/-! ## What a message has reached -/

/-- In a world that a message has got so far in, its blob holds its whole body if it is stored, and
it is on the channel with an envelope exactly when its body is too large. -/
structure Reached (p : Parcel) (st : Progress) (w : World) : Prop where
  held : ∀ place, st.place? = some place → ∃ account id,
    p.config.offloadAccount = some account ∧
      place = Codec.freshPlace p.config.offloadContainer id ∧ w.Holds account place p.bytes
  claimed : ∀ claim, st = sent claim → claim.isSome = p.isLarge

variable {st st' : Progress} {w : World} {r : Request} {h : Happening}

/-- Nothing holds of a message for which nothing was done. -/
lemma reached_fresh (p : Parcel) (w : World) : p.Reached fresh w where
  held _ hplace := by cases hplace
  claimed _ hsent := by cases hsent

/-- What happens leaves a message where it is unless it drops its blob. -/
lemma Reached.apply (hreached : p.Reached st w)
    (hkept : ∀ account place, p.config.offloadAccount = some account →
      place.container = p.config.offloadContainer → ¬ w.Drops account place h) :
    p.Reached st (h.apply w) := by
  refine ⟨fun place hplace => ?_, hreached.claimed⟩
  obtain ⟨account, id, haccount, hfresh, hholds⟩ := hreached.held place hplace
  subst hfresh
  exact ⟨account, id, haccount, rfl, hholds.apply (hkept account _ haccount rfl)⟩

/-- A put that succeeds leaves a blob that holds what was put. -/
lemma holds_answer_put {account : String} {place : Locator} {data : ByteArray}
    (hok : (World.answer (.call ⟨account⟩ (.put place data)) w).1 = .ok ()) :
    (World.answer (.call ⟨account⟩ (.put place data)) w).2.Holds account place data := by
  unfold World.Holds
  rw [World.account_answer_call, if_pos rfl]
  rw [World.answer_call_fst] at hok
  exact Store.Account.blob?_answer_put_of_ok hok

/-- A request for a message drops no blob. -/
lemma Moves.not_drops {reply : r.Reply} (hmove : p.Moves st r reply st') (account : String)
    (place : Locator) : ¬ w.Drops account place (.asked r) := by
  cases hmove with
  | idle _ _ hr =>
    cases r with
    | call => exact hr.elim
    | _ => exact id
  | put => exact fun hdrops => hdrops.2.2
  | enqueue => exact id

/-- What waits on the channel, given what waited there when nothing was done for a message. -/
def queuesAt (p : Parcel) (first : Queues) : Progress → Queues
  | sent claim => first.push p.destination (p.onChannel claim)
  | _ => first

/-- A request for a message puts nothing else on the channel. -/
lemma Moves.queues {first : Queues} (hmove : p.Moves st r (World.answer r w).1 st')
    (hqueues : w.queues = p.queuesAt first st) :
    (World.answer r w).2.queues = p.queuesAt first st' := by
  have hready : ∀ claim, p.queuesAt first (ready claim) = first := by
    intro claim
    cases claim <;> rfl
  cases hmove with
  | @idle _ r _ hr =>
    rw [World.queues_answer w (by rintro _ _ _ _ rfl; exact hr)]
    exact hqueues
  | @put account _ _ id =>
    rw [World.queues_answer w (by simp [Request.IsNoEnqueue])]
    cases (World.answer (.call ⟨account⟩ (.put
      (Codec.freshPlace p.config.offloadContainer id) p.bytes)) w).1 <;> exact hqueues
  | @enqueue claim _ space credential =>
    rw [hready] at hqueues
    rcases w.answer_enqueue space credential p.destination (p.onChannel claim) with
      hanswer | ⟨fault, hanswer⟩
    · rw [hanswer]
      exact congrArg (Queues.push · p.destination (p.onChannel claim)) hqueues
    · rw [hanswer]
      exact hqueues.trans (hready claim).symm

/-- A request for a message takes it where it is said to be then. -/
lemma Moves.reached (hmove : p.Moves st r (World.answer r w).1 st') (hreached : p.Reached st w) :
    p.Reached st' (World.answer r w).2 := by
  have hsame : p.Reached st (World.answer r w).2 :=
    hreached.apply (h := .asked r) fun account place _ _ => hmove.not_drops account place
  cases hmove with
  | idle => exact hsame
  | @put account hlarge haccount id =>
    cases hput : (World.answer (.call ⟨account⟩ (.put
      (Codec.freshPlace p.config.offloadContainer id) p.bytes)) w).1 with
    | error fault => exact hsame
    | ok _ =>
      refine ⟨fun place hplace => ?_, fun _ hsent => by cases hsent⟩
      cases hplace
      exact ⟨account, id, haccount, rfl, holds_answer_put hput⟩
  | @enqueue claim hclaim space credential =>
    cases henqueue : (World.answer
      (.enqueue space credential p.destination (p.onChannel claim)) w).1 with
    | error fault => exact hsame
    | ok _ =>
      refine ⟨fun place hplace => hsame.held place ((place?_ready claim).trans hplace), ?_⟩
      rintro other hsent
      cases hsent
      exact hclaim

end Parcel

/-- A configuration of a channel that keeps bodies of more than four bytes in blobs. -/
def channelConfig : Config := { stairlockConfig with channelNamespace := some "relay" }

end ClaimCheck
