import Mathlib
import ClaimCheck.Proofs.Channel.Exchange
import ClaimCheck.Proofs.Codec.Size

/-!
# Bodies on a channel stay small

A body that is within the threshold goes on the channel as it is, and any other one is replaced by an
envelope, whose size depends on the container alone.  So no body on the channel is larger than
`Config.bodyBound`, whatever the bodies were that were sent (`Exchange.bodies_bounded`).

That an exchange is consistent says which message each delivery put on the channel and that nothing
else was put there; what remains is to measure the message of one delivery
(`Delivery.utf8ByteSize_le`).  A receipt gives the size of the body that went on the channel, in
whatever world the message is sent (`Parcel.queues_of_sent`).
-/

namespace ClaimCheck

open Json

/-- The most bytes that a body has on the channel when large bodies are offloaded. -/
def Config.bodyBound (c : Config) : Nat :=
  max c.threshold.maxInlineBytes.toNat (64 + 6 * c.offloadContainer.utf8ByteSize)

/-! ## One message -/

namespace Parcel

variable {p : Parcel} {claim : Option Locator}

/-- A message that goes on the channel with an envelope has a body of 64 bytes and those of the
container. -/
lemma utf8ByteSize_of_claimed {place : Locator} {id : Uuid}
    (hfresh : place = Codec.freshPlace p.config.offloadContainer id) :
    (p.onChannel (some place)).body.utf8ByteSize = 64 + escapedSize p.config.offloadContainer := by
  rw [hfresh]
  exact utf8ByteSize_envelope p.config.offloadContainer id

/-- A message whose body is kept only if it is too large is within the bound. -/
lemma utf8ByteSize_onChannel_le (henabled : p.config.threshold.enabled = true)
    (hclaimed : claim.isSome = p.isLarge)
    (hfresh : ∀ place, claim = some place →
      ∃ id, place = Codec.freshPlace p.config.offloadContainer id) :
    (p.onChannel claim).body.utf8ByteSize ≤ p.config.bodyBound := by
  unfold Config.bodyBound
  cases claim with
  | none =>
    have hsmall : ¬ p.config.threshold.maxInlineBytes.toNat < p.message.body.utf8ByteSize := by
      have hnot : p.config.threshold.exceededBy p.message.body.utf8ByteSize = false := hclaimed.symm
      unfold Threshold.exceededBy at hnot
      rw [henabled, Bool.true_and] at hnot
      exact of_decide_eq_false hnot
    change p.message.body.utf8ByteSize ≤ _
    omega
  | some place =>
    obtain ⟨id, hplace⟩ := hfresh place rfl
    have hsize := utf8ByteSize_of_claimed hplace
    have hescaped := escapedSize_le p.config.offloadContainer
    omega

/-- The ways in which a message is sent: as it is, or as the text of a payload. -/
inductive IsSentBy (p : Parcel) : Relay (Except ChannelFault Receipt) → Prop
  | message : IsSentBy p p.attempt.run
  | payload {payload : Payload} (hmessage : p.message = payload.asMessage) :
    IsSentBy p ((ChannelGateway.ofConfig p.config).sendPayload payload p.destination).run

/-- A message that is sent as a payload is sent like any other if its payload has a text. -/
lemma IsSentBy.eq_or_fails {attempt : Relay (Except ChannelFault Receipt)}
    (hsent : p.IsSentBy attempt) :
    (∃ fault, attempt = .done (.error fault)) ∨ attempt = p.attempt.run := by
  cases hsent with
  | message => exact .inr rfl
  | @payload payload hmessage =>
    have hsame : p = ⟨p.config, payload.asMessage, p.destination⟩ := by rw [← hmessage]
    have hpayload := run_sendPayload p.config payload p.destination
    rw [← hsame] at hpayload
    exact hpayload

/-- A message that was sent is the one message that was put on the channel, at the destination that
its receipt names and with a body of the size that its receipt gives, which for an envelope is that
of any envelope of the container. -/
lemma queues_of_sent {attempt : Relay (Except ChannelFault Receipt)} (hsent : p.IsSentBy attempt)
    {w w' : World} {receipt : Receipt} (hrun : w.run attempt = (.ok receipt, w')) :
    w'.queues = w.queues.push receipt.destination (p.onChannel receipt.claimCheck) ∧
      receipt.destination = p.destination ∧
      receipt.bodyLength = (p.onChannel receipt.claimCheck).body.utf8ByteSize ∧
      receipt.claimCheck.isSome = p.isLarge ∧
      (receipt.claimCheck.isSome = true →
        receipt.bodyLength = 64 + escapedSize p.config.offloadContainer) := by
  rcases hsent.eq_or_fails with ⟨fault, rfl⟩ | rfl
  · cases hrun
  · obtain ⟨st, ⟨hends, hmeasures⟩, hunderway⟩ := p.run_attempt_measured w
    rw [hrun] at hends hmeasures hunderway
    obtain ⟨hdestination, hlength⟩ := hmeasures
    have hst : st = .sent receipt.claimCheck := hends
    subst hst
    refine ⟨?_, hdestination, hlength, hunderway.reached.claimed _ rfl, ?_⟩
    · rw [hdestination]
      exact hunderway.queues
    · intro hsome
      obtain ⟨place, hplace⟩ := Option.isSome_iff_exists.mp hsome
      obtain ⟨account, id, -, hfresh, -⟩ := hunderway.reached.held place hplace
      rw [hlength, hplace]
      exact utf8ByteSize_of_claimed hfresh

end Parcel

/-! ## Exchanges under one configuration -/

/-- What a deed sends is sent under a configuration. -/
def Deed.IsUnder (c : Config) : Deed → Prop
  | .send p => p.config = c
  | .sendPayload config _ _ => config = c
  | .take _ => True
  | .other _ _ => True

namespace Exchange

variable {c : Config} {s : Exchange}

/-- An attempt to send adds at most the delivery of its message. -/
lemma config_afterAttempt {p : Parcel} {attempt : Relay (Except ChannelFault Receipt)}
    (hp : p.config = c) (h : ∀ δ ∈ s.deliveries, δ.parcel.config = c) :
    ∀ δ ∈ (s.afterAttempt p attempt).deliveries, δ.parcel.config = c := by
  intro δ hδ
  unfold deliveries at hδ
  rw [log_afterAttempt, List.filterMap_append, List.mem_reverse, List.mem_append] at hδ
  rcases hδ with hδ | hδ
  · obtain ⟨entry, hentry, hdelivery⟩ := List.mem_filterMap.mp hδ
    rw [Option.mem_toList, Option.map_map, Option.map_eq_some_iff] at hentry
    obtain ⟨receipt, -, rfl⟩ := hentry
    cases hdelivery
    exact hp
  · exact h δ (List.mem_reverse.mpr hδ)

/-- All deliveries of an exchange are under the configuration of its deeds. -/
lemma config_run {w : World} {deeds : List Deed} (hdeeds : ∀ deed ∈ deeds, deed.IsUnder c) :
    ∀ δ ∈ (run w deeds).deliveries, δ.parcel.config = c := by
  -- the log grows with the last deed, so the induction takes that one off
  induction deeds using List.reverseRecOn with
  | nil => simp [run, deliveries]
  | append_singleton deeds deed ih =>
    have hbefore := ih fun deed hdeed => hdeeds deed (List.mem_append_left _ hdeed)
    have hlast : deed.IsUnder c := hdeeds deed (by simp)
    rw [run_append]
    cases deed with
    | send p => exact config_afterAttempt hlast hbefore
    | sendPayload config payload destination => exact config_afterAttempt hlast hbefore
    | take taking => exact hbefore
    | other happening hkept =>
      intro δ hδ
      exact hbefore δ (by simpa [step, deliveries, Entry.delivery?] using hδ)

/-- A delivery has a fresh place in the container of its configuration, if it has one. -/
lemma Consistent.fresh {first : Queues} (h : Consistent first s) {δ : Delivery}
    (hδ : δ ∈ s.deliveries) {place : Locator} (hplace : δ.claimCheck = some place) :
    ∃ id, place = Codec.freshPlace δ.parcel.config.offloadContainer id := by
  unfold deliveries at hδ
  obtain ⟨entry, hentry, hdelivery⟩ := List.mem_filterMap.mp (List.mem_reverse.mp hδ)
  obtain rfl : entry = .sent δ := by
    cases entry with
    | sent other =>
      cases hdelivery
      rfl
    | happened before happening => cases hdelivery
  obtain ⟨later, earlier, hlog⟩ := List.append_of_mem hentry
  obtain ⟨account, id, -, hfresh, -⟩ := h.held later δ earlier hlog place hplace
  exact ⟨id, hfresh⟩

/-- When large bodies are offloaded, every message that is or was on the channel has a body within
the bound, whatever was sent; each envelope has 64 bytes and those of the container between quotes,
and each receipt gives the size of the body that its message has on the channel. -/
theorem bodies_bounded (henabled : c.threshold.enabled = true) {w : World}
    (hfirst : ∀ destination, ∀ message ∈ w.queues.messages destination,
      message.body.utf8ByteSize ≤ c.bodyBound)
    {deeds : List Deed} (hdeeds : ∀ deed ∈ deeds, deed.IsUnder c) :
    (∀ destination, ∀ message ∈ valuesAt destination (run w deeds).taken ++
        (run w deeds).world.queues.messages destination,
      message.body.utf8ByteSize ≤ c.bodyBound) ∧
    (∀ δ ∈ (run w deeds).deliveries, δ.claimCheck.isSome = true →
      δ.onChannel.body.utf8ByteSize = 64 + escapedSize c.offloadContainer) ∧
    ∀ (p : Parcel) (attempt : Relay (Except ChannelFault Receipt)), p.config = c →
      p.IsSentBy attempt → ∀ (v v' : World) (receipt : Receipt), v.run attempt = (.ok receipt, v') →
        v'.queues = v.queues.push receipt.destination (p.onChannel receipt.claimCheck) ∧
        receipt.bodyLength = (p.onChannel receipt.claimCheck).body.utf8ByteSize ∧
        (receipt.claimCheck.isSome = true →
          receipt.bodyLength = 64 + escapedSize c.offloadContainer) := by
  have hconsistent := consistent_run w deeds
  have hconfig := config_run (w := w) hdeeds
  refine ⟨?_, ?_, ?_⟩
  · intro destination message hmessage
    -- what is or was there is what was there first and what the deliveries put there
    rw [hconsistent.accounted destination, List.mem_append, valuesAt_put] at hmessage
    rcases hmessage with hmessage | hmessage
    · exact hfirst destination message hmessage
    · obtain ⟨δ, hfilter, rfl⟩ := List.mem_map.mp hmessage
      have hδ := List.mem_of_mem_filter hfilter
      have hc := hconfig δ hδ
      have hle := Parcel.utf8ByteSize_onChannel_le (p := δ.parcel) (by rw [hc, henabled])
        (hconsistent.claimed δ hδ) fun place hplace => hconsistent.fresh hδ hplace
      rw [hc] at hle
      exact hle
  · intro δ hδ hsome
    obtain ⟨place, hplace⟩ := Option.isSome_iff_exists.mp hsome
    obtain ⟨id, hfresh⟩ := hconsistent.fresh hδ hplace
    unfold Delivery.onChannel
    rw [hplace, Parcel.utf8ByteSize_of_claimed hfresh, hconfig δ hδ]
  · rintro p attempt rfl hsent v v' receipt hrun
    obtain ⟨hqueues, -, hlength, -, henvelope⟩ := Parcel.queues_of_sent hsent hrun
    exact ⟨hqueues, hlength, henvelope⟩

/-- What was sent in the exchange that was interrupted is within the bound of its configuration, and
the receipt of the last message measures its envelope. -/
theorem interrupted_bodies_bounded :
    channelConfig.bodyBound = 130 ∧
      (∀ message ∈ (run countingWorld interruptedDeeds).world.queues.messages "queue",
        message.body.utf8ByteSize ≤ 130) ∧
      lastDelivery ∈ (run countingWorld interruptedDeeds).deliveries ∧
      lastDelivery.onChannel.body.utf8ByteSize = 75 ∧
      ∃ receipt w', (run countingWorld failedDeeds).world.run (toQueue "hello").attempt.run =
          (.ok receipt, w') ∧
        receipt.bodyLength = ((toQueue "hello").onChannel receipt.claimCheck).body.utf8ByteSize := by
  have hbound : channelConfig.bodyBound = 130 := by decide
  have hdelivered : lastDelivery ∈ (run countingWorld interruptedDeeds).deliveries := by
    unfold deliveries
    rw [log_interrupted]
    simp [Entry.delivery?]
  have hdeeds : ∀ deed ∈ interruptedDeeds, deed.IsUnder channelConfig := by
    intro deed hdeed
    simp only [interruptedDeeds, failedDeeds, List.cons_append, List.nil_append, List.mem_cons,
      List.not_mem_nil, or_false] at hdeed
    rcases hdeed with rfl | rfl | rfl | rfl | rfl | rfl
    all_goals trivial
  obtain ⟨hqueues, hdeliveries, hreceipts⟩ := bodies_bounded (c := channelConfig)
    (w := countingWorld) rfl (by rintro destination message ⟨⟩) hdeeds
  have hsize := hdeliveries lastDelivery hdelivered rfl
  have hsent : ((run countingWorld failedDeeds).world.run
      (toQueue "hello").attempt.run).1.toOption.isSome = true := by decide +kernel
  refine ⟨hbound, ?_, hdelivered, hsize, ?_⟩
  · intro message hmessage
    rw [← hbound]
    exact hqueues "queue" message (List.mem_append_right _ hmessage)
  · rcases hrun : (run countingWorld failedDeeds).world.run (toQueue "hello").attempt.run with
      ⟨fault | receipt, w'⟩
    · rw [hrun] at hsent
      cases hsent
    · obtain ⟨-, hlength, -⟩ := hreceipts (toQueue "hello") _ rfl .message _ w' receipt hrun
      exact ⟨receipt, w', rfl, hlength⟩

end Exchange

end ClaimCheck
