import Mathlib
import ClaimCheck.Proofs.Codec.Resolvable
import ClaimCheck.Proofs.Json.Compact

/-!
# Inline bodies

A payload that is not offloaded is sent as its text, and the receiver tells an envelope from any
other body by the text alone.  The text comes back as it is, without a request of any kind, unless
the payload is itself an object with a claim check that the receiver can read
(`Codec.inline_transparent_iff`): such a body is taken for an envelope whoever wrote it.

What the receiver reads need not be the document that was written, but it has the same keys
(`Json.Value.agrees_of_parse_compact`), so no other payload can be mistaken for an envelope, whatever
its shape.
-/

namespace ClaimCheck

open Json

/-! ## What a compact document is as a body -/

/-- A payload is an object with a member that is called like the member of an envelope. -/
def Payload.HasClaimCheck (payload : Payload) : Prop :=
  ∃ value, payload.document = .ok value ∧ (value.member? claimCheckLabel).isSome

/-- A text is a document that is read. -/
def IsDocument (text : String) : Prop := ∃ value, Value.parse text = .ok value

/-- The member under a key is the first one listed. -/
lemma Json.Value.firstKind?_members (value : Value) (key : String) :
    Value.firstKind? value.members key = (value.member? key).map Value.kind := by
  cases value <;> rfl

/-- A document that was read has a claim check exactly when the one that was written has. -/
lemma Json.Value.Agrees.isSome_member? {written read : Value} (h : written.Agrees read)
    (key : String) : (read.member? key).isSome = (written.member? key).isSome := by
  have hlast : (Value.lastKind? written.members key).isSome =
      (Value.firstKind? written.members key).isSome := by
    unfold Value.lastKind? Value.firstKind?
    rw [Option.isSome_map, Option.isSome_map, Bool.eq_iff_iff, List.lookup_isSome_iff,
      List.lookup_isSome_iff]
    simp
  have hread := congrArg Option.isSome (h.members_eq key)
  rw [hlast, Value.firstKind?_members, Value.firstKind?_members, Option.isSome_map,
    Option.isSome_map] at hread
  exact hread

/-- A body that is given back as it is. -/
def ReceivedBody.isPlain : Except Fault ReceivedBody → Bool
  | .ok .notJson => true
  | .ok .otherJson => true
  | _ => false

/-- A document is a plain body exactly when it has no claim check. -/
lemma ReceivedBody.isPlain_ofValue (value : Value) :
    isPlain (ofValue value) = !(value.member? claimCheckLabel).isSome := by
  unfold ofValue
  cases value.member? claimCheckLabel with
  | none => rfl
  | some member => cases member <;> rfl

/-- The text of a payload is a plain body unless the payload has a claim check and is read. -/
lemma Payload.isPlain_ofText_iff {payload : Payload} {text : String}
    (htext : payload.text = .ok text) :
    ReceivedBody.isPlain (ReceivedBody.ofText text) = true ↔
      ¬ (payload.HasClaimCheck ∧ IsDocument text) := by
  unfold Payload.text at htext
  cases hdocument : payload.document with
  | error cause =>
    rw [hdocument] at htext
    cases htext
  | ok written =>
    rw [hdocument] at htext
    cases htext
    have hclaim : payload.HasClaimCheck ↔ (written.member? claimCheckLabel).isSome := by
      unfold Payload.HasClaimCheck
      rw [hdocument]
      constructor
      · rintro ⟨value, hvalue, hmember⟩
        cases hvalue
        exact hmember
      · exact fun hmember => ⟨written, rfl, hmember⟩
    unfold ReceivedBody.ofText
    rw [hclaim]
    cases hread : Value.parse written.compact with
    | error fault =>
      refine iff_of_true rfl ?_
      rintro ⟨-, value, hvalue⟩
      rw [hread] at hvalue
      cases hvalue
    | ok read =>
      have hdocument : IsDocument written.compact := ⟨read, hread⟩
      rw [ReceivedBody.isPlain_ofValue,
        (Value.agrees_of_parse_compact hread).isSome_member? claimCheckLabel]
      simp [hdocument]

/-! ## Decoding -/

namespace Codec

variable {codec : Codec} {text : String}

/-- A plain body is given back without a request. -/
lemma run_decode_of_isPlain (h : ReceivedBody.isPlain (ReceivedBody.ofText text) = true) :
    (codec.decode text).run = .done (.ok text) := by
  unfold decode
  rw [Attempt.run_bind, Attempt.run_ofOutcome]
  cases hbody : ReceivedBody.ofText text with
  | error fault =>
    rw [hbody] at h
    cases h
  | ok body =>
    rw [hbody] at h
    cases body with
    | claimCheck path => cases h
    | notJson => rfl
    | otherJson => rfl

/-- Fetching a blob asks a request or fails at once. -/
lemma run_fetch_ne_done (place : Locator) (result : String) :
    (codec.fetch place).run ≠ .done (.ok result) := by
  unfold fetch requiredEndpoint
  rw [Attempt.run_bind, Attempt.run_ofOutcome]
  cases codec.endpoint with
  | none => exact fun h => by cases h
  | some endpoint => exact fun h => by cases h

/-- A body that is not plain asks a request or fails. -/
lemma run_decode_ne_done (h : ReceivedBody.isPlain (ReceivedBody.ofText text) = false)
    (result : String) : (codec.decode text).run ≠ .done (.ok result) := by
  unfold decode
  rw [Attempt.run_bind, Attempt.run_ofOutcome]
  cases hbody : ReceivedBody.ofText text with
  | error fault => exact fun h => by cases h
  | ok body =>
    rw [hbody] at h
    cases body with
    | notJson => cases h
    | otherJson => cases h
    | claimCheck path =>
      change (Attempt.ofOutcome CodecFault.locator (Locator.ofPath path) >>= codec.fetch).run ≠ _
      rw [Attempt.run_bind, Attempt.run_ofOutcome]
      cases Locator.ofPath path with
      | error fault => exact fun h => by cases h
      | ok place => exact run_fetch_ne_done place result

/-! ## Encoding and decoding -/

/-- A text is not offloaded: offloading is off, or the text is no larger than what stays inline. -/
def StaysInline (c : Config) (text : String) : Prop :=
  c.threshold.enabled = false ∨ text.utf8ByteSize ≤ c.threshold.maxInlineBytes.toNat

/-- A text stays inline exactly if it does not exceed the threshold. -/
lemma staysInline_iff {c : Config} :
    StaysInline c text ↔ (ofConfig c).threshold.exceededBy text.utf8ByteSize = false := by
  change _ ↔ c.threshold.exceededBy text.utf8ByteSize = false
  unfold StaysInline Threshold.exceededBy
  rw [Bool.and_eq_false_iff, decide_eq_false_iff_not, Nat.not_lt]

/-- A text that does not exceed the threshold is encoded as it is without a request. -/
lemma run_encodeText_of_small (hsmall : codec.threshold.exceededBy text.utf8ByteSize = false) :
    (codec.encodeText text).run = .done (.ok (.inline text)) := by
  unfold encodeText
  rw [hsmall]
  rfl

/-- A payload that is not offloaded is encoded as its text without a request. -/
lemma run_encode_of_staysInline {c : Config} {payload : Payload} (htext : payload.text = .ok text)
    (hinline : StaysInline c text) :
    ((ofConfig c).encode payload).run = .done (.ok (.inline text)) := by
  unfold encode
  rw [htext, Attempt.run_bind, Attempt.run_ofOutcome]
  exact run_encodeText_of_small (staysInline_iff.mp hinline)

/-- A payload that is not offloaded comes back from its body as its text, and neither encoding nor
decoding asks any request, so nothing is called, connected to or acquired in any world; the one
exception is a payload that is itself an object with a claim check and that is read as a document. -/
theorem inline_transparent_iff (c : Config) {payload : Payload} (htext : payload.text = .ok text)
    (hinline : StaysInline c text) :
    ((ofConfig c).encode payload).run = .done (.ok (.inline text)) ∧
      (((ofConfig c).decode (EncodedBody.inline text).text).run = .done (.ok text) ↔
        ¬ (payload.HasClaimCheck ∧ IsDocument text)) := by
  refine ⟨run_encode_of_staysInline htext hinline, ?_⟩
  change ((ofConfig c).decode text).run = _ ↔ _
  rw [← payload.isPlain_ofText_iff htext]
  cases hplain : ReceivedBody.isPlain (ReceivedBody.ofText text) with
  | true => exact iff_of_true (run_decode_of_isPlain hplain) rfl
  | false => exact iff_of_false (run_decode_ne_done hplain text) Bool.false_ne_true

/-- A payload with a claim check deeper inside. -/
def nestedPayload : Payload :=
  .value (.object [("data", .object [(claimCheckLabel, .string "c1/a")])])

/-- The text of the payload with a claim check deeper inside. -/
def nestedText : String := "\x7b\"data\":\x7b\"claim_check\":\"c1/a\"\x7d\x7d"

/-- A claim check deeper inside a payload is not looked at. -/
theorem inline_transparent_nested :
    ((ofConfig {}).encode nestedPayload).run = .done (.ok (.inline nestedText)) ∧
      ((ofConfig {}).decode nestedText).run = .done (.ok nestedText) := by
  have htext : nestedPayload.text = .ok nestedText := rfl
  have hplain : ¬ nestedPayload.HasClaimCheck := by
    rintro ⟨value, hvalue, hmember⟩
    cases hvalue
    exact absurd hmember (by decide)
  obtain ⟨hencode, hdecode⟩ := inline_transparent_iff {} htext (.inl rfl)
  exact ⟨hencode, hdecode.mpr fun h => hplain h.1⟩

/-- A payload that looks like the envelope of a blob. -/
def envelopePayload : Payload := .value (EncodedBody.envelope ⟨"c1", "a"⟩)

/-- The text of the payload that looks like an envelope. -/
def envelopeText : String := "\x7b\"claim_check\":\"c1/a\"\x7d"

/-- A configuration that offloads to an account. -/
def offloadingConfig : Config := { offloadAccount := some "stairlock" }

/-- A world in which the account holds the blob. -/
def envelopeWorld : World :=
  World.repeating.setAccount "stairlock" (Store.Account.seed {} ⟨"c1", "a"⟩ "data".toUTF8)

/-- A payload that looks like an envelope stays inline, and its body gives the text of the blob in
the place of its own text. -/
theorem envelope_payload_resolved :
    envelopePayload.text = .ok envelopeText ∧ StaysInline offloadingConfig envelopeText ∧
      (envelopeWorld.run ((ofConfig offloadingConfig).decode
        (EncodedBody.inline envelopeText).text).run).1 = .ok "data" ∧ "data" ≠ envelopeText := by
  have hendpoint : (ofConfig offloadingConfig).endpoint = some ⟨"stairlock", "core.windows.net"⟩ :=
    rfl
  have hplace : Locator.ofPath (Locator.mk "c1" "a").path = .ok ⟨"c1", "a"⟩ := rfl
  have hholds : envelopeWorld.Holds "stairlock" ⟨"c1", "a"⟩ "data".toUTF8 := rfl
  have hbody : (EncodedBody.inline envelopeText).text = (EncodedBody.claimCheck ⟨"c1", "a"⟩).text :=
    rfl
  refine ⟨rfl, .inr (by decide), ?_, by decide⟩
  rw [hbody]
  exact run_decode_of_holds hendpoint hplace ⟨rfl, by decide⟩ rfl hholds

end Codec

end ClaimCheck
