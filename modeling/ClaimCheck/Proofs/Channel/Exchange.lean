import Mathlib
import ClaimCheck.Proofs.Channel.Progress
import ClaimCheck.Proofs.Codec.Transparency

/-!
# From the sender to the receiver

An exchange is any sequence of messages and payloads that are sent and of messages that are taken
from the channel, while in between anything may happen that leaves the channel alone: backends fail
and work again, blobs are written or deleted, time passes.

Whatever was done (`Exchange.exchange_faithful`), each destination has got exactly the messages of
the sends that succeeded, in the order in which they were sent, and each message carries what its
sender put beside the body and the body itself or its envelope.  A receiver that decodes it gets the
sender's body as long as the blob was not dropped in the meantime.  The proof follows one send
through its requests (`Parcel.run_attempt`); an exchange then keeps `Exchange.Consistent` deed by
deed.
-/

namespace ClaimCheck

open Progress

/-! ## One send -/

/-- What is the case of a message that has got so far, given the world in which nothing was done for
it. -/
structure Parcel.Underway (p : Parcel) (first : World) (st : Progress) (w : World) : Prop where
  reached : p.Reached st w
  queues : w.queues = p.queuesAt first.queues st
  spared : ∀ account place data, first.Holds account place data → w.Holds account place data

variable {p : Parcel} {w : World}

/-- Sending a message gets it on the channel exactly when it succeeds, and the receipt measures it. -/
lemma Parcel.run_attempt_measured (p : Parcel) (w : World) :
    ∃ st, (st.Ends (w.run p.attempt.run).1 ∧ p.Measures (w.run p.attempt.run).1) ∧
      p.Underway w st (w.run p.attempt.run).2 := by
  refine p.follows_attempt_measured.run (p.Underway w) (fun st r st' w' hmove h => ?_)
    ⟨p.reached_fresh w, rfl, fun _ _ _ => id⟩
  exact ⟨hmove.reached h.reached, hmove.queues h.queues, fun account place data hfirst =>
    (h.spared account place data hfirst).apply (h := .asked r) (hmove.not_drops account place)⟩

/-- Sending a message gets it on the channel exactly when it succeeds. -/
lemma Parcel.run_attempt (p : Parcel) (w : World) :
    ∃ st, st.Ends (w.run p.attempt.run).1 ∧ p.Underway w st (w.run p.attempt.run).2 := by
  obtain ⟨st, ⟨hends, -⟩, hunderway⟩ := p.run_attempt_measured w
  exact ⟨st, hends, hunderway⟩

/-- The message that a payload is sent as; one that has no text is not sent. -/
def Payload.asMessage (payload : Payload) : Message := { body := payload.text.toOption.getD "" }

/-- A payload is sent as its message, or it has no text and nothing is done. -/
lemma run_sendPayload (c : Config) (payload : Payload) (destination : String) :
    (∃ fault, ((ChannelGateway.ofConfig c).sendPayload payload destination).run =
        .done (.error fault)) ∨
      ((ChannelGateway.ofConfig c).sendPayload payload destination).run =
        (Parcel.mk c payload.asMessage destination).attempt.run := by
  unfold Payload.asMessage
  rw [ChannelGateway.run_sendPayload]
  cases payload.text with
  | error cause => exact .inl ⟨_, rfl⟩
  | ok body => exact .inr rfl

/-! ## Exchanges -/

/-- A message that was sent, and the place of its body if the receipt names one. -/
structure Delivery where
  parcel : Parcel
  claimCheck : Option Locator

/-- The message that is on the channel. -/
def Delivery.onChannel (δ : Delivery) : Message := δ.parcel.onChannel δ.claimCheck

/-- What is done in an exchange: something is sent or taken, or something else happens. -/
inductive Deed where
  | send (parcel : Parcel)
  | sendPayload (config : Config) (payload : Payload) (destination : String)
  | take (taking : Taking)
  | other (happening : Happening) (hkept : happening.KeepsQueues)

/-- What is remembered of an exchange: the messages that were sent, and what else happened in which
world. -/
inductive Entry where
  | sent (delivery : Delivery)
  | happened (before : World) (happening : Happening)

namespace Entry

/-- The delivery that an entry tells of. -/
def delivery? : Entry → Option Delivery
  | sent δ => some δ
  | happened _ _ => none

/-- What happened drops a blob. -/
def Drops (account : String) (place : Locator) : Entry → Prop
  | sent _ => False
  | happened before happening => before.Drops account place happening

end Entry

/-- An exchange: the world, what was done, the last thing first, and the messages that were taken,
the first ones first. -/
structure Exchange where
  world : World
  log : List Entry := []
  taken : List (String × Message) := []

namespace Exchange

/-- The exchange after an attempt to send a message. -/
def afterAttempt (s : Exchange) (p : Parcel) (attempt : Relay (Except ChannelFault Receipt)) :
    Exchange :=
  match s.world.run attempt with
  | (.ok receipt, world) =>
    { s with world, log := .sent ⟨p, receipt.claimCheck⟩ :: s.log }
  | (.error _, world) => { s with world }

/-- The exchange after a deed. -/
def step (s : Exchange) : Deed → Exchange
  | .send p => s.afterAttempt p p.attempt.run
  | .sendPayload c payload destination =>
    s.afterAttempt ⟨c, payload.asMessage, destination⟩
      ((ChannelGateway.ofConfig c).sendPayload payload destination).run
  | .take taking =>
    { s with
      world := taking.change.apply s.world
      taken := s.taken ++ taking.entries s.world.queues }
  | .other happening _ =>
    { s with
      world := happening.apply s.world
      log := .happened s.world happening :: s.log }

/-- The exchange after some deeds. -/
def run (w : World) (deeds : List Deed) : Exchange := deeds.foldl step { world := w }

@[simp] lemma step_send (s : Exchange) (p : Parcel) :
    s.step (.send p) = s.afterAttempt p p.attempt.run := rfl

@[simp] lemma log_step_take (s : Exchange) (taking : Taking) :
    (s.step (.take taking)).log = s.log := rfl

/-- The last deed comes after all others. -/
lemma run_append (w : World) (deeds : List Deed) (deed : Deed) :
    run w (deeds ++ [deed]) = (run w deeds).step deed :=
  List.foldl_concat step _ deed deeds

/-- The deliveries of an exchange, the first ones first. -/
def deliveries (s : Exchange) : List Delivery := (s.log.filterMap Entry.delivery?).reverse

/-- What was put on the channel, the first messages first. -/
def put (s : Exchange) : List (String × Message) :=
  s.deliveries.map fun δ => (δ.parcel.destination, δ.onChannel)

/-! ## What every deed keeps -/

/-- Everything that was put on the channel is accounted for, and every delivery is where its receipt
says unless its blob was dropped since. -/
structure Consistent (first : Queues) (s : Exchange) : Prop where
  accounted : Queues.Accounted first s.put s.taken s.world.queues
  claimed : ∀ δ ∈ s.deliveries, δ.claimCheck.isSome = δ.parcel.isLarge
  held : ∀ later δ earlier, s.log = later ++ .sent δ :: earlier →
    ∀ place, δ.claimCheck = some place → ∃ account id,
      δ.parcel.config.offloadAccount = some account ∧
        place = Codec.freshPlace δ.parcel.config.offloadContainer id ∧
        ((∀ entry ∈ later, ¬ entry.Drops account place) →
          s.world.Holds account place δ.parcel.bytes)

variable {first : Queues} {s : Exchange}

/-- The first exchange of all. -/
lemma consistent_start (w : World) : Consistent w.queues { world := w } where
  accounted := Queues.accounted_start _
  claimed := by simp [deliveries]
  held later δ earlier hlog := by simp at hlog

/-- A world in which no blob was dropped leaves all deliveries where they are. -/
lemma Consistent.held_spared (h : Consistent first s) {w : World}
    (hspared : ∀ account place data, s.world.Holds account place data →
      w.Holds account place data) {later earlier : List Entry} {δ : Delivery}
    (hlog : s.log = later ++ .sent δ :: earlier) {place : Locator}
    (hplace : δ.claimCheck = some place) : ∃ account id,
      δ.parcel.config.offloadAccount = some account ∧
        place = Codec.freshPlace δ.parcel.config.offloadContainer id ∧
        ((∀ entry ∈ later, ¬ entry.Drops account place) →
          w.Holds account place δ.parcel.bytes) := by
  obtain ⟨account, id, haccount, hfresh, hheld⟩ := h.held later δ earlier hlog place hplace
  exact ⟨account, id, haccount, hfresh, fun hkept => hspared _ _ _ (hheld hkept)⟩

/-- A message that was sent is one more delivery. -/
lemma Consistent.sent (h : Consistent first s) {claim : Option Locator} {world : World}
    (hunderway : p.Underway s.world (Progress.sent claim) world) :
    Consistent first { s with world, log := .sent ⟨p, claim⟩ :: s.log } := by
  have hdeliveries : deliveries ⟨world, .sent ⟨p, claim⟩ :: s.log, s.taken⟩ =
      s.deliveries ++ [⟨p, claim⟩] := by
    simp [deliveries, Entry.delivery?]
  refine ⟨?_, ?_, ?_⟩
  · have hqueues : world.queues = s.world.queues.push p.destination (p.onChannel claim) :=
      hunderway.queues
    unfold put
    rw [hdeliveries, hqueues, List.map_append]
    exact h.accounted.push _ _
  · intro δ hδ
    rw [hdeliveries, List.mem_append, List.mem_singleton] at hδ
    rcases hδ with hδ | rfl
    · exact h.claimed δ hδ
    · exact hunderway.reached.claimed _ rfl
  · intro later δ earlier hlog place hplace
    cases later with
    | nil =>
      cases hlog
      obtain ⟨account, id, haccount, hfresh, hholds⟩ := hunderway.reached.held place hplace
      exact ⟨account, id, haccount, hfresh, fun _ => hholds⟩
    | cons entry later =>
      obtain ⟨rfl, htail⟩ := List.cons.inj hlog
      obtain ⟨account, id, haccount, hfresh, hheld⟩ :=
        h.held_spared hunderway.spared htail hplace
      exact ⟨account, id, haccount, hfresh, fun hkept =>
        hheld fun entry hentry => hkept entry (List.mem_cons_of_mem _ hentry)⟩

/-- A message that was not sent leaves no trace on the channel. -/
lemma Consistent.not_sent (h : Consistent first s) {st : Progress} {world : World}
    (hunderway : p.Underway s.world st world) (hst : st.isSent = false) :
    Consistent first { s with world } := by
  have hqueues : world.queues = s.world.queues := by
    rw [hunderway.queues]
    cases st with
    | sent claim => cases hst
    | _ => rfl
  refine ⟨?_, h.claimed, fun later δ earlier hlog place hplace =>
    h.held_spared hunderway.spared hlog hplace⟩
  change Queues.Accounted first s.put s.taken world.queues
  rw [hqueues]
  exact h.accounted

/-- An attempt to send keeps everything consistent. -/
lemma Consistent.afterAttempt (h : Consistent first s) {attempt : Relay (Except ChannelFault Receipt)}
    (hattempt : (∃ fault, attempt = .done (.error fault)) ∨ attempt = p.attempt.run) :
    Consistent first (s.afterAttempt p attempt) := by
  rcases hattempt with ⟨fault, rfl⟩ | rfl
  · exact ⟨h.accounted, h.claimed, h.held⟩
  · obtain ⟨st, hends, hunderway⟩ := p.run_attempt s.world
    unfold Exchange.afterAttempt
    split
    · next receipt world hrun =>
      rw [hrun] at hends hunderway
      cases hends
      exact h.sent hunderway
    · next fault world hrun =>
      rw [hrun] at hends hunderway
      exact h.not_sent hunderway hends

/-- Every deed keeps everything consistent. -/
lemma Consistent.step (h : Consistent first s) (deed : Deed) : Consistent first (s.step deed) := by
  cases deed with
  | send p => exact h.afterAttempt (.inr rfl)
  | sendPayload c payload destination => exact h.afterAttempt (run_sendPayload c payload destination)
  | take taking =>
    refine ⟨h.accounted.take taking, h.claimed, fun later δ earlier hlog place hplace => ?_⟩
    refine h.held_spared (fun account place data hholds => ?_) hlog hplace
    refine hholds.apply (h := .outside taking.change) ?_
    cases taking <;> exact id
  | other happening hkept =>
    refine ⟨?_, ?_, fun later δ earlier hlog place hplace => ?_⟩
    · change Queues.Accounted first s.put s.taken (happening.apply s.world).queues
      rw [hkept.queues_apply]
      exact h.accounted
    · exact h.claimed
    · cases later with
      | nil => cases hlog
      | cons entry later =>
        obtain ⟨rfl, htail⟩ := List.cons.inj hlog
        obtain ⟨account, id, haccount, hfresh, hheld⟩ := h.held later δ earlier htail place hplace
        refine ⟨account, id, haccount, hfresh, fun hnone => ?_⟩
        exact (hheld fun entry hentry => hnone entry (List.mem_cons_of_mem _ hentry)).apply
          (hnone _ List.mem_cons_self)

/-- Every exchange is consistent. -/
lemma consistent_run (w : World) (deeds : List Deed) : Consistent w.queues (run w deeds) := by
  induction deeds using List.reverseRecOn with
  | nil => exact consistent_start w
  | append_singleton deeds deed ih =>
    rw [run_append]
    exact ih.step deed

/-! ## What the receiver gets -/

/-- A text is an object with the member that tells an envelope. -/
def IsClaimCheck (text : String) : Prop :=
  ∃ value, Json.Value.parse text = .ok value ∧ (value.member? claimCheckLabel).isSome

/-- A text that is no such object is a plain body. -/
lemma isPlain_ofText {text : String} (h : ¬ IsClaimCheck text) :
    ReceivedBody.isPlain (ReceivedBody.ofText text) = true := by
  unfold ReceivedBody.ofText
  cases hread : Json.Value.parse text with
  | error fault => rfl
  | ok value =>
    rw [ReceivedBody.isPlain_ofValue, Bool.not_eq_true', Bool.eq_false_iff]
    exact fun hmember => h ⟨value, hread, hmember⟩

/-- A message is decoded like its body. -/
lemma run_receiveMessage {c : Config} {message : Message} {text : String}
    (hdecode : (w.run ((Codec.ofConfig c).decode message.body).run).1 = .ok text) :
    (w.run ((ChannelGateway.ofConfig c).receiveMessage message).run).1 = .ok text := by
  unfold World.run ChannelGateway.receiveMessage ChannelGateway.receive
  rw [Attempt.run_wrapping, Program.run_bind]
  exact congrArg (Except.mapError ChannelFault.codec) hdecode

/-- The message of a delivery can be decoded: its configuration was accepted, a body that stays
inline is not taken for an envelope, and for a body that is kept in a blob sessions are opened, the
account is available and nothing that happened since dropped the blob. -/
structure Receivable (s : Exchange) (δ : Delivery) (later : List Entry) : Prop where
  accepted : δ.parcel.config.IsAccepted
  plain : δ.claimCheck = none → ¬ IsClaimCheck δ.parcel.message.body
  opens : δ.claimCheck ≠ none → s.world.Opens
  available : δ.claimCheck ≠ none → ∀ account, δ.parcel.config.offloadAccount = some account →
    (s.world.account account).isUnavailable = false
  kept : ∀ account place, δ.parcel.config.offloadAccount = some account →
    δ.claimCheck = some place → ∀ entry ∈ later, ¬ entry.Drops account place

/-- The message of a delivery that can be decoded gives its sender's body. -/
lemma Consistent.receive (h : Consistent first s) {later earlier : List Entry} {δ : Delivery}
    (hlog : s.log = later ++ .sent δ :: earlier) (hreceivable : s.Receivable δ later) :
    (s.world.run ((ChannelGateway.ofConfig δ.parcel.config).receiveMessage δ.onChannel).run).1 =
      .ok δ.parcel.message.body := by
  refine run_receiveMessage ?_
  unfold Delivery.onChannel
  cases hplace : δ.claimCheck with
  | none =>
    have hplain := isPlain_ofText (hreceivable.plain hplace)
    change (s.world.run ((Codec.ofConfig δ.parcel.config).decode δ.parcel.message.body).run).1 = _
    rw [Codec.run_decode_of_isPlain hplain]
    rfl
  | some place =>
    obtain ⟨account, id, haccount, hfresh, hheld⟩ := h.held later δ earlier hlog place hplace
    have hholds := hheld (hreceivable.kept account place haccount hplace)
    have hsome : δ.claimCheck ≠ none := by simp [hplace]
    have hendpoint : (Codec.ofConfig δ.parcel.config).endpoint =
        some ⟨account, δ.parcel.config.endpointSuffix⟩ := by
      change δ.parcel.config.offloadAccount.map _ = _
      rw [haccount]
      rfl
    have hpath : Locator.ofPath place.path = .ok place := by
      obtain ⟨hempty, hslash⟩ := hreceivable.accepted.offloadContainer
      subst hfresh
      exact Locator.ofPath_path hempty hslash (Codec.name_freshPlace_ne _ id)
    exact Codec.run_decode_of_holds hendpoint hpath (hreceivable.opens hsome)
      (hreceivable.available hsome account haccount) hholds

/-! ## Whole exchanges -/

/-- What an exchange owes to senders and receivers, when `first` is what waited on the channel at
the beginning. -/
structure Faithful (first : Queues) (s : Exchange) : Prop where
  /-- Each destination has got, or will get, the messages that were sent to it, in order. -/
  inOrder : ∀ destination,
    valuesAt destination s.taken ++ s.world.queues.messages destination =
      first.messages destination ++
        (s.deliveries.filter fun δ => δ.parcel.destination = destination).map Delivery.onChannel
  /-- An envelope is sent exactly in the place of a body that is too large. -/
  claimed : ∀ δ ∈ s.deliveries, δ.claimCheck.isSome = δ.parcel.isLarge
  /-- A receiver gets the body that was sent. -/
  received : ∀ later δ earlier, s.log = later ++ .sent δ :: earlier → s.Receivable δ later →
    (s.world.run ((ChannelGateway.ofConfig δ.parcel.config).receiveMessage δ.onChannel).run).1 =
      .ok δ.parcel.message.body

/-- The messages that were put on the channel for one destination. -/
lemma valuesAt_put (s : Exchange) (destination : String) :
    valuesAt destination s.put =
      (s.deliveries.filter fun δ => δ.parcel.destination = destination).map Delivery.onChannel := by
  unfold valuesAt put
  rw [List.filter_map, List.map_map]
  rfl

/-- Every exchange is faithful, from whatever world it starts and whatever is done in it. -/
theorem exchange_faithful (w : World) (deeds : List Deed) : Faithful w.queues (run w deeds) := by
  have h := consistent_run w deeds
  refine ⟨fun destination => ?_, h.claimed, fun later δ earlier hlog => h.receive hlog⟩
  rw [← valuesAt_put]
  exact h.accounted destination

/-- The log after an attempt to send: a send that succeeded comes last. -/
lemma log_afterAttempt (s : Exchange) (p : Parcel)
    (attempt : Relay (Except ChannelFault Receipt)) :
    (s.afterAttempt p attempt).log =
      (((s.world.run attempt).1.toOption.map Receipt.claimCheck).map fun claim =>
        Entry.sent ⟨p, claim⟩).toList ++ s.log := by
  unfold afterAttempt
  split
  · next receipt world hrun =>
    rw [hrun]
    rfl
  · next fault world hrun =>
    rw [hrun]
    rfl

/-- A message to the queue, with a session id. -/
def toQueue (body : String) : Parcel := ⟨channelConfig, { body, sessionId := some "s1" }, "queue"⟩

/-- A world that draws one identifier after another. -/
def countingWorld : World :=
  { World.repeating with ids := { draw := fun n => ⟨BitVec.ofNat 128 n⟩ } }

/-- A short body is sent, and then the channel fails after a longer one was stored. -/
def failedDeeds : List Deed :=
  [.send (toQueue "hi"), .other (.outside (.setChannelFailing true)) trivial,
    .send (toQueue "lost body"), .other (.outside (.setChannelFailing false)) trivial]

/-- The channel works again for another long body, and the first message is taken. -/
def interruptedDeeds : List Deed := failedDeeds ++ [.send (toQueue "hello")] ++ [.take (.pop "queue")]

/-- The last message.  The identifier before the one of its place was drawn for the message that was
not sent. -/
def lastDelivery : Delivery := ⟨toQueue "hello", some (Codec.freshPlace "sb-messages" ⟨1⟩)⟩

/-- The last message is the last thing that is remembered. -/
lemma log_interrupted : (run countingWorld interruptedDeeds).log =
    .sent lastDelivery :: (run countingWorld failedDeeds).log := by
  have hsent : ((run countingWorld failedDeeds).world.run
      (toQueue "hello").attempt.run).1.toOption.map Receipt.claimCheck =
        some lastDelivery.claimCheck := by decide +kernel
  unfold interruptedDeeds
  rw [run_append, log_step_take, run_append, step_send, log_afterAttempt, hsent]
  rfl

/-- The message that was taken is the first one, the last one waits as an envelope and gives its
body, and the one between them has left nothing on the channel. -/
theorem interrupted_exchange_faithful :
    Faithful {} (run countingWorld interruptedDeeds) ∧
      (run countingWorld interruptedDeeds).taken = [("queue", (toQueue "hi").message)] ∧
      (run countingWorld interruptedDeeds).world.queues.messages "queue" =
        [lastDelivery.onChannel] ∧
      ((run countingWorld interruptedDeeds).world.run
        ((ChannelGateway.ofConfig lastDelivery.parcel.config).receiveMessage
          lastDelivery.onChannel).run).1 = .ok "hello" := by
  have hfaithful : Faithful {} (run countingWorld interruptedDeeds) :=
    exchange_faithful countingWorld interruptedDeeds
  have hreceivable : (run countingWorld interruptedDeeds).Receivable lastDelivery [] := by
    refine ⟨.inr ⟨channelConfig, [], rfl⟩, ?_, fun _ => ⟨?_, ?_⟩, ?_, ?_⟩
    · exact fun hnone => by cases hnone
    · decide +kernel
    · decide +kernel
    · rintro - account hsome
      cases hsome
      decide +kernel
    · exact fun account place _ _ entry hentry => by cases hentry
  have hreceived := hfaithful.received [] lastDelivery _ log_interrupted hreceivable
  refine ⟨hfaithful, ?_, ?_, hreceived⟩
  · decide +kernel
  · decide +kernel

end Exchange

end ClaimCheck
