import Mathlib
import ClaimCheck.Proofs.Channel.Progress
import ClaimCheck.Proofs.Codec.Encoding

/-!
# What a send that failed leaves behind

A message is sent in two steps, and the second one may fail when the first one is done: then the blob
of the body is there and nothing refers to it.  `Parcel.Fails` says what a send that failed has left:
nothing on the channel, and at most this one blob.

The sender need not be alone.  Whatever else happens between its requests counts, as long as it leaves
the channel and the contents of the accounts as they are (`World.LeavesContents`): time passes,
backends fail and work again, others acquire credentials and draw identifiers.  So a fault may come
up at any step, whatever the steps before it met.  The proof follows the send through its requests
(`Parcel.follows_send`) and keeps `Parcel.LeftBehind`.
-/

namespace ClaimCheck

open Progress

namespace World

variable {w w' w'' : World} {account : String} {place : Locator} {data : ByteArray}

/-! ## What is gained and what is kept -/

/-- All accounts hold in a later world what they held. -/
def KeepsContents (w w' : World) : Prop :=
  ∀ name, (w'.account name).containers = (w.account name).containers

/-- What happens leaves the channel and the contents of all accounts as they are. -/
def LeavesContents (w : World) (h : Happening) : Prop :=
  (h.apply w).queues = w.queues ∧ w.KeepsContents (h.apply w)

/-- A blob that was not there is new in a later world, and it is all that is new. -/
structure Gains (w : World) (account : String) (place : Locator) (data : ByteArray)
    (w' : World) : Prop where
  free : (w.account account).blob? place = none
  containers : (w'.account account).containers = ((w.account account).seed place data).containers
  others : ∀ name, name ≠ account → (w'.account name).containers = (w.account name).containers

/-- What is kept twice is kept. -/
lemma KeepsContents.trans (h : w.KeepsContents w') (h' : w'.KeepsContents w'') :
    w.KeepsContents w'' := fun name => (h' name).trans (h name)

/-- What was gained is kept. -/
lemma Gains.trans_keeps (h : w.Gains account place data w') (hkeeps : w'.KeepsContents w'') :
    w.Gains account place data w'' where
  free := h.free
  containers := (hkeeps account).trans h.containers
  others name hne := (hkeeps name).trans (h.others name hne)

/-- What is kept may be kept before something is gained. -/
lemma KeepsContents.trans_gains (hkeeps : w.KeepsContents w')
    (h : w'.Gains account place data w'') : w.Gains account place data w'' where
  free := by
    rw [Store.Account.blob?_eq, ← hkeeps account]
    exact h.free
  containers := by
    rw [h.containers]
    exact Store.Account.containers_seed_congr (hkeeps account) place data
  others name hne := (h.others name hne).trans (hkeeps name)

/-- A request that is not a call keeps all contents. -/
lemma keepsContents_answer (w : World) {r : Request} (hr : ∀ client call, r ≠ .call client call) :
    w.KeepsContents (answer r w).2 := by
  intro name
  rw [account_answer_of_not_call w hr]

/-- A put that is refused keeps all contents. -/
lemma keepsContents_put {fault : Store.Fault}
    (hrefused : (answer (.call ⟨account⟩ (.put place data)) w).1 = .error fault) :
    w.KeepsContents (answer (.call ⟨account⟩ (.put place data)) w).2 := by
  intro name
  rw [account_answer_call]
  split
  · next hname =>
    change account = name at hname
    subst hname
    exact Store.Account.containers_answer_of_error hrefused
  · rfl

/-- A put that succeeds gains its blob. -/
lemma gains_put (hok : (answer (.call ⟨account⟩ (.put place data)) w).1 = .ok ()) :
    w.Gains account place data (answer (.call ⟨account⟩ (.put place data)) w).2 := by
  rw [answer_call_fst] at hok
  refine ⟨(Store.Account.answer_put_eq_ok_iff.mp hok).2, ?_, ?_⟩
  · rw [account_answer_call, if_pos rfl]
    exact Store.Account.containers_answer_put_of_ok hok
  · intro name hne
    rw [account_answer_call, if_neg hne.symm]

end World

/-! ## A send request by request -/

/-- A fault that comes up when the body is encoded already. -/
def ChannelFault.isLate : ChannelFault → Bool
  | .identity _ | .transport _ => true
  | .config _ | .codec _ => false

namespace Parcel

variable {p : Parcel} {first w w' : World} {st st' : Progress} {r : Request}

/-- What the accounts hold, given the world in which nothing was done for the message: what they held
if its body is not in a blob, and otherwise the blob of the whole body besides. -/
def HasContents (p : Parcel) (first w : World) : Option Locator → Prop
  | none => first.KeepsContents w
  | some place => ∃ account id, p.config.offloadAccount = some account ∧
      place = Codec.freshPlace p.config.offloadContainer id ∧ first.Gains account place p.bytes w

/-- What there is of a message that has got so far. -/
structure LeftBehind (p : Parcel) (first : World) (st : Progress) (w : World) : Prop where
  queues : w.queues = p.queuesAt first.queues st
  contents : p.HasContents first w st.place?

/-- What keeps all contents keeps the blob of a message. -/
lemma HasContents.trans_keeps {place? : Option Locator} (h : p.HasContents first w place?)
    (hkeeps : w.KeepsContents w') : p.HasContents first w' place? := by
  cases place? with
  | none => exact h.trans hkeeps
  | some place =>
    obtain ⟨account, id, haccount, hfresh, hgains⟩ := h
    exact ⟨account, id, haccount, hfresh, hgains.trans_keeps hkeeps⟩

/-- A request for a message leaves of it what there should be then. -/
lemma Moves.leftBehind (hmove : p.Moves st r (World.answer r w).1 st')
    (h : p.LeftBehind first st w) : p.LeftBehind first st' (World.answer r w).2 := by
  refine ⟨hmove.queues h.queues, ?_⟩
  have hcontents := h.contents
  cases hmove with
  | idle _ _ hr =>
    exact hcontents.trans_keeps (w.keepsContents_answer (by rintro _ _ rfl; exact hr))
  | @put account hlarge haccount id =>
    cases hput : (World.answer (.call ⟨account⟩
      (.put (Codec.freshPlace p.config.offloadContainer id) p.bytes)) w).1 with
    | error fault => exact hcontents.trans (World.keepsContents_put hput)
    | ok _ => exact ⟨account, id, haccount, rfl, hcontents.trans_gains (World.gains_put hput)⟩
  | @enqueue claim hclaim space credential =>
    rw [place?_ready] at hcontents
    have hkept := hcontents.trans_keeps (w.keepsContents_answer
      (r := .enqueue space credential p.destination (p.onChannel claim)) (by simp))
    cases (World.answer (.enqueue space credential p.destination (p.onChannel claim)) w).1 with
    | error fault =>
      change p.HasContents first _ (ready claim).place?
      rwa [place?_ready]
    | ok _ => exact hkept

/-- What is left of a message that was not sent: nothing on the channel, and in the accounts only the
blob of the whole body, if the body was too large and encoded when the fault came up. -/
structure Fails (p : Parcel) (w : World) (fault : ChannelFault) (w' : World) : Prop where
  queues : w'.queues = w.queues
  kept_of_early : fault.isLate = false → w.KeepsContents w'
  kept_of_inline : p.isLarge = false → w.KeepsContents w'
  orphan : fault.isLate = true → p.isLarge = true → ∃ account id,
    p.config.offloadAccount = some account ∧
      w.Gains account (Codec.freshPlace p.config.offloadContainer id) p.bytes w'

variable {fault : ChannelFault}

/-- Nothing is left where nothing was done. -/
lemma LeftBehind.fails_of_fresh (h : p.LeftBehind w fresh w') (hearly : fault.isLate = false) :
    p.Fails w fault w' where
  queues := h.queues
  kept_of_early _ := h.contents
  kept_of_inline _ := h.contents
  orphan hlate := by
    rw [hearly] at hlate
    cases hlate

/-- At most the blob is left where the message was ready for the channel. -/
lemma LeftBehind.fails_of_ready {claim : Option Locator} (h : p.LeftBehind w (ready claim) w')
    (hclaim : claim.isSome = p.isLarge) (hlate : fault.isLate = true) : p.Fails w fault w' := by
  have hnotEarly : fault.isLate ≠ false := by simp [hlate]
  obtain ⟨hqueues, hcontents⟩ := h
  rw [place?_ready] at hcontents
  cases claim with
  | none =>
    refine ⟨hqueues, fun hearly => absurd hearly hnotEarly, fun _ => hcontents, ?_⟩
    intro _ hlarge
    rw [hlarge] at hclaim
    cases hclaim
  | some place =>
    obtain ⟨account, id, haccount, rfl, hgains⟩ := hcontents
    refine ⟨hqueues, fun hearly => absurd hearly hnotEarly, ?_, ?_⟩
    · intro hsmall
      rw [hsmall] at hclaim
      cases hclaim
    · intro _ _
      exact ⟨account, id, haccount, hgains⟩

/-- A send that fails leaves what is said of it, whatever else happens that leaves the channel and
the contents as they are. -/
lemma fails_of_send {space : Option String} {access : Access} {selector : Identity.Selector}
    (hrun : RunsAmid World.LeavesContents
      ((ChannelGateway.mk space (Codec.forConfig p.config access) selector).send p.message
        p.destination).run w (.error fault) w') : p.Fails w fault w' := by
  obtain ⟨st, hconcludes, hleft⟩ := (p.follows_send space access selector).amid hrun
    (p.LeftBehind w)
    (fun _ _ _ hleaves h => ⟨hleaves.1.trans h.queues, h.contents.trans_keeps hleaves.2⟩)
    (fun _ _ _ _ hmove h => hmove.leftBehind h) ⟨rfl, fun _ => rfl⟩
  cases fault with
  | transport cause =>
    obtain ⟨claim, rfl, hclaim⟩ := hconcludes
    exact hleft.fails_of_ready hclaim rfl
  | codec cause =>
    subst hconcludes
    exact hleft.fails_of_fresh rfl
  | identity cause =>
    obtain ⟨claim, rfl, hclaim⟩ := hconcludes
    exact hleft.fails_of_ready hclaim rfl
  | config cause =>
    subst hconcludes
    exact hleft.fails_of_fresh rfl

end Parcel

/-! ## Failed sends -/

namespace ChannelGateway

/-- The gateway of a configuration, with an access and a selector of its own. -/
def forConfig (c : Config) (access : Access) (selector : Identity.Selector) : ChannelGateway :=
  ⟨c.channelNamespace, Codec.forConfig c access, selector⟩

variable {c : Config} {access : Access} {selector : Identity.Selector} {destination : String}

/-- Without a namespace nothing is asked for a message. -/
lemma run_send_of_none (hnone : c.channelNamespace = none) (message : Message) :
    ((forConfig c access selector).send message destination).run =
      .done (.error (.config (.missing .channelNamespace))) := by
  have hspace : (forConfig c access selector).channelNamespace = none := hnone
  unfold send
  rw [Attempt.run_bind, Attempt.run_ofOutcome, hspace]
  rfl

/-- A send that fails leaves every queue as it was.  Without a namespace nothing is asked at all, so
the world is as it was, whatever the body.  A fault of the encoding leaves the contents of all
accounts as they were, and a fault that comes up when the body is encoded leaves one blob more, in the
container of the configuration and with the whole body, exactly if the body was too large for the
channel.  All this holds amid whatever else happens that leaves the channel and the contents alone, a
run that nothing interrupts included, and for payloads as it does for messages. -/
theorem failed_send_residue (c : Config) (access : Access) (selector : Identity.Selector)
    (destination : String) :
    (c.channelNamespace = none →
      (∀ message, ((forConfig c access selector).send message destination).run =
        .done (.error (.config (.missing .channelNamespace)))) ∧
      ∀ payload, ∃ fault, ((forConfig c access selector).sendPayload payload destination).run =
        .done (.error fault)) ∧
    (∀ message w fault w',
      RunsAmid World.LeavesContents ((forConfig c access selector).send message destination).run w
        (.error fault) w' →
      (Parcel.mk c message destination).Fails w fault w') ∧
    ∀ payload w fault w',
      RunsAmid World.LeavesContents
        ((forConfig c access selector).sendPayload payload destination).run w (.error fault) w' →
      match payload.text with
      | .error cause => fault = .codec (.serialization cause) ∧ w'.queues = w.queues ∧
          w.KeepsContents w'
      | .ok body => (Parcel.mk c { body } destination).Fails w fault w' := by
  refine ⟨fun hnone => ⟨run_send_of_none hnone, fun payload => ?_⟩, ?_, ?_⟩
  · rw [run_sendPayload]
    cases payload.text with
    | error cause => exact ⟨_, rfl⟩
    | ok body => exact ⟨_, run_send_of_none hnone _⟩
  · intro message w fault w' hrun
    exact Parcel.fails_of_send (p := ⟨c, message, destination⟩) hrun
  · intro payload w fault w' hrun
    rw [run_sendPayload] at hrun
    cases htext : payload.text with
    | error cause =>
      rw [htext] at hrun
      have hfault := hrun.of_done
      have hnothing : (Program.done (.error (.codec (.serialization cause))) :
          Relay (Except ChannelFault Receipt)).AsksOnly fun _ => False := trivial
      have hkept := hrun.keeps (P := fun w' => w'.queues = w.queues ∧ w.KeepsContents w') hnothing
        (fun _ _ hleaves h => ⟨hleaves.1.trans h.1, h.2.trans hleaves.2⟩)
        (fun _ _ hnone => hnone.elim) ⟨rfl, fun _ => rfl⟩
      cases hfault
      exact ⟨rfl, hkept⟩
    | ok body =>
      rw [htext] at hrun
      exact Parcel.fails_of_send (p := ⟨c, { body }, destination⟩) hrun

/-- Without a namespace nothing is asked, and an identity backend that fails when the body has been
put into its blob leaves the blob. -/
theorem failed_send_residue_interrupted :
    ((forConfig {} ⟨.ambient⟩ .ambient).send { body := "hello" } "queue").run =
        .done (.error (.config (.missing .channelNamespace))) ∧
      ∃ w', RunsAmid World.LeavesContents
          ((forConfig channelConfig ⟨.ambient⟩ .ambient).send { body := "hello" } "queue").run
          World.repeating (.error (.identity ⟨.ambient⟩)) w' ∧
        ∃ account id, channelConfig.offloadAccount = some account ∧
          World.repeating.Gains account (Codec.freshPlace channelConfig.offloadContainer id)
            "hello".toUTF8 w' := by
  refine ⟨((failed_send_residue {} ⟨.ambient⟩ .ambient "queue").1 rfl).1 _, ?_⟩
  obtain ⟨w', hrun⟩ : ∃ w', RunsAmid World.LeavesContents
      ((forConfig channelConfig ⟨.ambient⟩ .ambient).send { body := "hello" } "queue").run
      World.repeating (.error (.identity ⟨.ambient⟩)) w' :=
    -- the body takes six requests, and the backend fails before the next one
    ⟨_, .ask (.ask (.ask (.ask (.ask (.ask (.meanwhile
      (h := .outside (.setIdentityFailing true)) ⟨rfl, fun _ => rfl⟩ (.ask (.done _ _))))))))⟩
  have hfails := (failed_send_residue channelConfig ⟨.ambient⟩ .ambient "queue").2.1 _ _ _ _ hrun
  exact ⟨w', hrun, hfails.orphan rfl rfl⟩

end ChannelGateway

end ClaimCheck
