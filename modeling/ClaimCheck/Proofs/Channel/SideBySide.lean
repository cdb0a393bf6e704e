import Mathlib
import ClaimCheck.Proofs.Channel.Progress

/-!
# Senders side by side

Any number of messages are sent at once, the requests of their senders answered in any order, while
others take messages from the channel and decode them, backends fail and work again, and identifiers
are drawn from any supply (`Senders.Step`).  Nobody drops a blob of the container that bodies are
offloaded to.

`Senders.claim_checks_sound` says what holds in every state of such a run: every envelope on the
channel names a blob that holds the whole body of its own sender, no two senders have offloaded to
the same blob, also when they drew the same identifier, and each has put at most one message on the
channel, exactly one when it succeeded.  The invariant (`Senders.Consistent`) ties how far each
sender has got to the offloads and the messages that are on record; a blob that holds one body
refuses every other, which keeps the offloads apart.
-/

namespace ClaimCheck

open Progress

/-! ## What requests leave behind -/

/-- The blob that a request has made. -/
def Request.offloaded? : (r : Request) → r.Reply → Option (String × Locator)
  | .call client (.put place _), .ok _ => some (client.account, place)
  | _, _ => none

/-- The message that a request has put on the channel, with its destination. -/
def Request.enqueued? : (r : Request) → r.Reply → Option (String × Message)
  | .enqueue _ _ destination message, .ok _ => some (destination, message)
  | _, _ => none

section World

variable {w : World} {r : Request}

/-- What a request puts on the channel is accounted for. -/
lemma Queues.Accounted.answer {first : Queues} {put taken : List (String × Message)}
    (h : Accounted first put taken w.queues) (r : Request) :
    Accounted first (put ++ (r.enqueued? (World.answer r w).1).toList) taken
      (World.answer r w).2.queues := by
  by_cases hr : r.IsNoEnqueue
  · have hnone : r.enqueued? (World.answer r w).1 = none := by
      cases r with
      | enqueue space credential destination message => exact absurd rfl (hr _ _ _ _)
      | _ => rfl
    rw [World.queues_answer w hr, hnone, Option.toList_none, List.append_nil]
    exact h
  · cases r with
    | enqueue space credential destination message =>
      rcases w.answer_enqueue space credential destination message with hanswer | ⟨fault, hanswer⟩
      · rw [hanswer]
        exact h.push destination message
      · rw [hanswer]
        exact (List.append_nil put).symm ▸ h
    | _ => exact absurd (by simp [Request.IsNoEnqueue]) hr

/-- The place of a blob that a request has made was free. -/
lemma World.free_of_offloaded {account : String} {place : Locator}
    (h : r.offloaded? (World.answer r w).1 = some (account, place)) (data : ByteArray) :
    ¬ w.Holds account place data := by
  intro hholds
  cases r with
  | call client call =>
    cases call with
    | put other bytes =>
      cases hanswer : (World.answer (.call client (.put other bytes)) w).1 with
      | error fault =>
        rw [hanswer] at h
        cases h
      | ok _ =>
        rw [hanswer] at h
        cases h
        rw [World.answer_call_fst] at hanswer
        cases havailable : (w.account client.account).isUnavailable with
        | true =>
          rw [Store.Account.answer_of_unavailable havailable] at hanswer
          cases hanswer
        | false =>
          rw [Store.Account.answer_put_of_taken havailable hholds] at hanswer
          cases hanswer
    | _ => cases h
  | _ => cases h

end World

namespace Parcel

variable {p : Parcel} {st st' : Progress} {r : Request} {reply : r.Reply}

/-- What is on the channel for a message that has got so far. -/
def sentAt (p : Parcel) : Progress → List (String × Message)
  | sent claim => [(p.destination, p.onChannel claim)]
  | _ => []

/-- A message is on the channel when it was before or is put there now. -/
lemma Moves.sentAt_eq (hmove : p.Moves st r reply st') :
    p.sentAt st' = p.sentAt st ++ (r.enqueued? reply).toList := by
  cases hmove with
  | idle _ _ hr =>
    have hnone : r.enqueued? reply = none := by
      cases r with
      | enqueue => exact hr.elim
      | _ => rfl
    rw [hnone, Option.toList_none, List.append_nil]
  | put _ _ _ reply => cases reply <;> rfl
  | @enqueue claim _ _ _ reply => cases reply <;> cases claim <;> rfl

/-- A body is stored when it was before or a blob is made for it now. -/
lemma Moves.stored_iff (hmove : p.Moves st r reply st') (account : String) (place : Locator) :
    (st'.place? = some place ∧ p.config.offloadAccount = some account) ↔
      (st.place? = some place ∧ p.config.offloadAccount = some account) ∨
        r.offloaded? reply = some (account, place) := by
  cases hmove with
  | idle _ _ hr =>
    have hnone : r.offloaded? reply = none := by
      cases r with
      | call => exact hr.elim
      | _ => rfl
    simp [hnone]
  | put hlarge haccount id reply =>
    rcases reply with fault | _
    · simp [afterPut, Request.offloaded?]
    · simp [afterPut, Request.offloaded?, haccount, and_comm]
  | enqueue _ _ _ reply =>
    rcases reply with fault | _ <;> simp [afterEnqueue, Request.offloaded?]

end Parcel

/-! ## Runs -/

/-- Senders at work: the world, what each sender has still to do, the blobs that were made for the
bodies and the messages that were put on the channel, with the senders that did so, and the messages
that were taken. -/
structure Senders (ι : Type) where
  world : World
  calls : ι → Relay (Except ChannelFault Receipt)
  offloads : List (ι × String × Locator) := []
  enqueued : List (ι × String × Message) := []
  taken : List (String × Message) := []

namespace Senders

variable {ι : Type} [DecidableEq ι] {p : ι → Parcel} {s s' : Senders ι} {w : World} {i : ι}

/-- No sender has done anything. -/
def start (p : ι → Parcel) (w : World) : Senders ι := ⟨w, fun i => (p i).attempt.run, [], [], []⟩

/-- A sender has its request answered. -/
def advance (s : Senders ι) (i : ι) (r : Request)
    (next : r.Reply → Relay (Except ChannelFault Receipt)) : Senders ι where
  world := (World.answer r s.world).2
  calls := Function.update s.calls i (next (World.answer r s.world).1)
  offloads := (r.offloaded? (World.answer r s.world).1).toList.map (Prod.mk i) ++ s.offloads
  enqueued := s.enqueued ++ (r.enqueued? (World.answer r s.world).1).toList.map (Prod.mk i)
  taken := s.taken

/-- One step: a sender has a request answered, messages are taken, or something else happens that
leaves the channel alone and drops no blob of a container that bodies are offloaded to. -/
inductive Step (p : ι → Parcel) : Senders ι → Senders ι → Prop
  | own {s : Senders ι} (i : ι) {r : Request} {next : r.Reply → Relay (Except ChannelFault Receipt)}
    (hcall : s.calls i = .ask r next) : Step p s (s.advance i r next)
  | take (s : Senders ι) (t : Taking) :
    Step p s { s with
      world := t.change.apply s.world, taken := s.taken ++ t.entries s.world.queues }
  | other {s : Senders ι} {h : Happening} (hqueues : h.KeepsQueues)
    (hkept : ∀ i account place, (p i).config.offloadAccount = some account →
      place.container = (p i).config.offloadContainer → ¬ s.world.Drops account place h) :
    Step p s { s with world := h.apply s.world }

/-- A state that senders can get to. -/
def Reachable (p : ι → Parcel) (w : World) (s : Senders ι) : Prop :=
  Relation.ReflTransGen (Step p) (start p w) s

/-! ## What every step keeps -/

/-- How far each sender has got agrees with the world and with what is on record. -/
structure Consistent (p : ι → Parcel) (first : Queues) (s : Senders ι) (standing : ι → Progress) :
    Prop where
  calls : ∀ i, Follows (p i).Moves Ends (standing i) (s.calls i)
  reached : ∀ i, (p i).Reached (standing i) s.world
  accounted : Queues.Accounted first (s.enqueued.map Prod.snd) s.taken s.world.queues
  sent : ∀ i, valuesAt i s.enqueued = (p i).sentAt (standing i)
  stored : ∀ i account place, (i, account, place) ∈ s.offloads ↔
    (standing i).place? = some place ∧ (p i).config.offloadAccount = some account
  apart : (s.offloads.map Prod.snd).Nodup

variable {first : Queues} {standing : ι → Progress}

/-- The first state. -/
lemma consistent_start (p : ι → Parcel) (w : World) :
    Consistent p w.queues (start p w) fun _ => fresh where
  calls i := (p i).follows_attempt
  reached i := (p i).reached_fresh w
  accounted := Queues.accounted_start _
  sent _ := rfl
  stored i account place := by simp [start]
  apart := List.nodup_nil

/-- The blob of an offload that is on record holds the body of its sender. -/
lemma Consistent.holds (h : Consistent p first s standing) {account : String} {place : Locator}
    (hmem : (i, account, place) ∈ s.offloads) :
    (p i).config.offloadAccount = some account ∧
      (∃ id, place = Codec.freshPlace (p i).config.offloadContainer id) ∧
      s.world.Holds account place (p i).bytes := by
  obtain ⟨hplace, haccount⟩ := (h.stored i account place).mp hmem
  obtain ⟨account', id, haccount', hfresh, hholds⟩ := (h.reached i).held place hplace
  have hsame : account = account' := Option.some.inj (haccount.symm.trans haccount')
  exact ⟨haccount, ⟨id, hfresh⟩, hsame ▸ hholds⟩

section Advance

variable {r : Request} {next : r.Reply → Relay (Except ChannelFault Receipt)}

/-- The messages that are on record after a request. -/
lemma enqueued_advance (s : Senders ι) (i : ι) :
    (s.advance i r next).enqueued.map Prod.snd =
      s.enqueued.map Prod.snd ++ (r.enqueued? (World.answer r s.world).1).toList := by
  unfold advance
  rw [List.map_append, List.map_map]
  exact congrArg _ (List.map_id _)

/-- The offloads that are on record after a request. -/
lemma mem_offloads_advance (s : Senders ι) (i j : ι) (account : String) (place : Locator) :
    (j, account, place) ∈ (s.advance i r next).offloads ↔
      (j = i ∧ r.offloaded? (World.answer r s.world).1 = some (account, place)) ∨
        (j, account, place) ∈ s.offloads := by
  unfold advance
  rw [List.mem_append]
  simp [Option.mem_toList, eq_comm, and_comm]

/-- The offloads stay apart: the place of a new one was free. -/
lemma Consistent.apart_advance (h : Consistent p first s standing) :
    ((s.advance i r next).offloads.map Prod.snd).Nodup := by
  unfold advance
  rw [List.map_append, List.map_map]
  refine List.Nodup.append ?_ h.apart ?_
  · cases r.offloaded? (World.answer r s.world).1 <;> simp
  · rintro ⟨account, place⟩ hnew hold
    have hoffloaded : r.offloaded? (World.answer r s.world).1 = some (account, place) := by
      simpa [Option.mem_toList] using hnew
    obtain ⟨⟨j, entry⟩, hmem, rfl⟩ := List.mem_map.mp hold
    exact World.free_of_offloaded hoffloaded _ (h.holds hmem).2.2

/-- A request of a sender takes it further and leaves the others where they are. -/
lemma Consistent.own (h : Consistent p first s standing) (hcall : s.calls i = .ask r next) :
    ∃ standing', Consistent p first (s.advance i r next) standing' := by
  have hfollows := h.calls i
  rw [hcall] at hfollows
  obtain ⟨st, hmove, hrest⟩ := hfollows.of_ask s.world
  refine ⟨Function.update standing i st, fun j => ?_, fun j => ?_, ?_, fun j => ?_,
    fun j account place => ?_, h.apart_advance⟩
  · unfold advance
    dsimp only
    rcases eq_or_ne j i with rfl | hne
    · rw [Function.update_self, Function.update_self]
      exact hrest
    · rw [Function.update_of_ne hne, Function.update_of_ne hne]
      exact h.calls j
  · rcases eq_or_ne j i with rfl | hne
    · rw [Function.update_self]
      exact hmove.reached (h.reached j)
    · rw [Function.update_of_ne hne]
      exact (h.reached j).apply (h := .asked r) fun account place _ _ =>
        hmove.not_drops account place
  · rw [enqueued_advance]
    exact h.accounted.answer r
  · unfold advance
    rw [valuesAt_append, valuesAt_map, h.sent j]
    rcases eq_or_ne j i with rfl | hne
    · rw [if_pos rfl, Function.update_self, hmove.sentAt_eq]
    · rw [if_neg hne, Function.update_of_ne hne, List.append_nil]
  · rw [mem_offloads_advance, h.stored j]
    rcases eq_or_ne j i with rfl | hne
    · rw [Function.update_self, hmove.stored_iff]
      tauto
    · rw [Function.update_of_ne hne]
      tauto

end Advance

/-- Every step leads from what is consistent to what is. -/
lemma Consistent.step (h : Consistent p first s standing) (hstep : Step p s s') :
    ∃ standing', Consistent p first s' standing' := by
  cases hstep with
  | own i hcall => exact h.own hcall
  | take t =>
    refine ⟨standing, h.calls, fun i => ?_, h.accounted.take t, h.sent, h.stored, h.apart⟩
    refine (h.reached i).apply (h := .outside t.change) fun account place _ _ => ?_
    cases t <;> exact id
  | @other happening hqueues hkept =>
    refine ⟨standing, h.calls, fun i => ?_, ?_, h.sent, h.stored, h.apart⟩
    · exact (h.reached i).apply (hkept i)
    · change Queues.Accounted first _ s.taken (happening.apply s.world).queues
      rw [hqueues.queues_apply]
      exact h.accounted

/-- Every state that senders can get to is consistent. -/
lemma Reachable.consistent (hreachable : Reachable p w s) :
    ∃ standing, Consistent p w.queues s standing := by
  induction hreachable with
  | refl => exact ⟨_, consistent_start p w⟩
  | tail _ hstep ih =>
    obtain ⟨standing, h⟩ := ih
    exact h.step hstep

/-! ## What holds in every state -/

/-- A receiver takes a body for the claim check of a place. -/
def Refers (body : String) (place : Locator) : Prop :=
  ∃ path, ReceivedBody.ofText body = .ok (.claimCheck path) ∧ Locator.ofPath path = .ok place

/-- Claim checks are sound, when `first` is what waited on the channel at the beginning. -/
structure Sound (p : ι → Parcel) (first : Queues) (s : Senders ι) : Prop where
  /-- Every message that waits or was taken was there at the beginning or was put by a sender. -/
  accounted : ∀ destination,
    valuesAt destination s.taken ++ s.world.queues.messages destination =
      first.messages destination ++ valuesAt destination (s.enqueued.map Prod.snd)
  /-- A message that a sender put is its own, or has an envelope in the place of its body that names
  a blob to which this sender has offloaded. -/
  carried : ∀ i destination message, (i, destination, message) ∈ s.enqueued →
    destination = (p i).destination ∧
      (message = (p i).message ∧ (p i).isLarge = false ∨
        ∃ account place, (i, account, place) ∈ s.offloads ∧ Refers message.body place ∧
          message = (p i).onChannel (some place) ∧ (p i).isLarge = true)
  /-- A blob to which a sender has offloaded holds the sender's whole body. -/
  held : ∀ i account place, (i, account, place) ∈ s.offloads →
    (p i).config.offloadAccount = some account ∧ s.world.Holds account place (p i).bytes
  /-- No two offloads went to the same blob. -/
  apart : (s.offloads.map Prod.snd).Nodup
  /-- A sender has put at most one message on the channel. -/
  atMostOnce : ∀ i, (valuesAt i s.enqueued).length ≤ 1
  /-- A sender that succeeded has put one message on the channel. -/
  once : ∀ i receipt, s.calls i = .done (.ok receipt) → (valuesAt i s.enqueued).length = 1
  /-- A sender that failed has put none. -/
  never : ∀ i fault, s.calls i = .done (.error fault) → valuesAt i s.enqueued = []

/-- A value that is listed under a key is among the values there. -/
lemma mem_valuesAt {β : Type} {i : ι} {value : β} {entries : List (ι × β)}
    (h : (i, value) ∈ entries) : value ∈ valuesAt i entries :=
  List.mem_map.mpr ⟨(i, value), List.mem_filter.mpr ⟨h, by simp⟩, rfl⟩

/-- The envelope of a place that a body was offloaded to refers to the place. -/
lemma refers_freshPlace {c : Config} (hc : c.IsAccepted) (id : Uuid) :
    Refers (EncodedBody.claimCheck (Codec.freshPlace c.offloadContainer id)).text
      (Codec.freshPlace c.offloadContainer id) := by
  obtain ⟨hempty, hslash⟩ := hc.offloadContainer
  exact ⟨_, ReceivedBody.ofText_envelope _,
    Locator.ofPath_path hempty hslash (Codec.name_freshPlace_ne _ id)⟩

/-- What a sender put on the channel is its message. -/
lemma Consistent.carried (h : Consistent p first s standing)
    (haccepted : ∀ i, (p i).config.IsAccepted) {destination : String} {message : Message}
    (hmem : (i, destination, message) ∈ s.enqueued) :
    destination = (p i).destination ∧
      (message = (p i).message ∧ (p i).isLarge = false ∨
        ∃ account place, (i, account, place) ∈ s.offloads ∧ Refers message.body place ∧
          message = (p i).onChannel (some place) ∧ (p i).isLarge = true) := by
  have hvalue := mem_valuesAt hmem
  rw [h.sent i] at hvalue
  cases hstanding : standing i with
  | fresh =>
    rw [hstanding] at hvalue
    cases hvalue
  | stored place =>
    rw [hstanding] at hvalue
    cases hvalue
  | sent claim =>
    rw [hstanding] at hvalue
    obtain ⟨rfl, rfl⟩ := Prod.mk.inj (List.mem_singleton.mp hvalue)
    refine ⟨rfl, ?_⟩
    have hclaimed := (h.reached i).claimed claim hstanding
    cases claim with
    | none => exact .inl ⟨rfl, hclaimed.symm⟩
    | some place =>
      have hplace : (standing i).place? = some place := by rw [hstanding, place?_sent]
      obtain ⟨account, id, haccount, hfresh, -⟩ := (h.reached i).held place hplace
      refine .inr ⟨account, place, (h.stored i account place).mpr ⟨hplace, haccount⟩, ?_, rfl,
        hclaimed.symm⟩
      subst hfresh
      exact refers_freshPlace (haccepted i) id

/-- Claim checks are sound in every state that senders can get to side by side, from whatever world
they start, when their configurations were accepted and nobody drops a blob of the containers that
bodies are offloaded to. -/
theorem claim_checks_sound (haccepted : ∀ i, (p i).config.IsAccepted)
    (hreachable : Reachable p w s) : Sound p w.queues s := by
  obtain ⟨standing, h⟩ := hreachable.consistent
  have hended : ∀ i result, s.calls i = .done result → (standing i).Ends result := by
    intro i result hcall
    have hfollows := h.calls i
    rw [hcall] at hfollows
    exact hfollows
  refine ⟨h.accounted, fun i destination message => h.carried haccepted, ?_, h.apart, ?_, ?_, ?_⟩
  · intro i account place hmem
    obtain ⟨haccount, -, hholds⟩ := h.holds hmem
    exact ⟨haccount, hholds⟩
  · intro i
    rw [h.sent i]
    cases standing i <;> simp [Parcel.sentAt]
  · intro i receipt hcall
    have hsent : standing i = sent receipt.claimCheck := hended i _ hcall
    rw [h.sent i, hsent]
    rfl
  · intro i fault hcall
    have hnot : (standing i).isSent = false := hended i _ hcall
    rw [h.sent i]
    cases hstanding : standing i with
    | sent claim =>
      rw [hstanding] at hnot
      cases hnot
    | _ => rfl

/-- Lets one sender have its next request answered. -/
def proceed (s : Senders ι) (i : ι) : Senders ι :=
  match s.calls i with
  | .done _ => s
  | .ask r next => s.advance i r next

/-- Every order of the requests of senders is that of a run. -/
lemma reachable_foldl_proceed (p : ι → Parcel) (w : World) (order : List ι) :
    Reachable p w (order.foldl proceed (start p w)) := by
  induction order using List.reverseRecOn with
  | nil => exact .refl
  | append_singleton order i ih =>
    rw [List.foldl_concat]
    set s := order.foldl proceed (start p w)
    unfold proceed
    split
    · exact ih
    · next hcall => exact ih.tail (.own i hcall)

/-- Two senders with long bodies. -/
def twoParcels (i : Bool) : Parcel :=
  ⟨channelConfig, { body := if i then "second" else "hello" }, "queue"⟩

/-- A run in which both draw the same identifier before one of them stores its body. -/
def twoSendersRun : Senders Bool :=
  ([false, true, true] ++ List.replicate 12 false ++ List.replicate 12 true).foldl proceed
    (start twoParcels World.repeating)

/-- The body of the one that comes first is stored and its message sent, and the other one, which
finds the place taken, sends nothing. -/
theorem two_senders_sound :
    Sound twoParcels {} twoSendersRun ∧
      twoSendersRun.offloads = [(false, "stairlock", repeatedPlace)] ∧
      twoSendersRun.enqueued =
        [(false, "queue", (twoParcels false).onChannel (some repeatedPlace))] := by
  have haccepted : channelConfig.IsAccepted := .inr ⟨channelConfig, [], rfl⟩
  have hreachable : Reachable twoParcels World.repeating twoSendersRun :=
    reachable_foldl_proceed _ _ _
  have hsound : Sound twoParcels {} twoSendersRun :=
    claim_checks_sound (fun _ => haccepted) hreachable
  refine ⟨hsound, ?_, ?_⟩
  · decide +kernel
  · decide +kernel

end Senders

end ClaimCheck
