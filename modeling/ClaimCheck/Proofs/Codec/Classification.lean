import Mathlib
import ClaimCheck.Proofs.Codec.Transparency
import ClaimCheck.Proofs.Json.ReadBack

/-!
# What a document is as a body

Whether a body is taken for an envelope is decided by one member of the document that it writes: the
last one that is called like the member of an envelope (`Json.Value.HasMember`).  If this is a text,
the body is a claim check with that text as its path; if it is anything else, the body is malformed;
and without such a member the body is passed on.  Nothing else in the document matters, neither the
other members, whatever they are called, nor what is deeper inside
(`ReceivedBody.ofText_compact`).

The body is read from the compact text of the document, so this rests on two facts about documents
without fractions: they are read at all, however large they are (`Json.Value.parse_compact`), and what
is read has the same kinds of members as what was written (`Json.Value.agrees_of_parse_compact`).
-/

namespace ClaimCheck

open Json

/-! ## The member that counts -/

namespace Json.Value

/-- A value has a member under a key that counts: no later one has the same key. -/
def HasMember (v : Value) (key : String) (member : Value) : Prop :=
  ∃ before after, v = .object (before ++ (key, member) :: after) ∧ key ∉ after.map Prod.fst

variable {v : Value} {key : String} {member other : Value}

/-- The member that counts is the one that is found from the end. -/
lemma hasMember_iff : v.HasMember key member ↔ v.members.reverse.lookup key = some member := by
  rw [List.lookup_eq_some_iff]
  constructor
  · rintro ⟨before, after, rfl, hlast⟩
    refine ⟨after.reverse, before.reverse, by simp [members], ?_⟩
    intro entry hentry
    simp only [List.mem_reverse] at hentry
    simp only [bne_iff_ne, ne_eq]
    intro heq
    exact hlast (heq ▸ List.mem_map_of_mem hentry)
  · rintro ⟨after, before, heq, hlast⟩
    have hmembers : v.members = before.reverse ++ (key, member) :: after.reverse := by
      rw [← List.reverse_reverse v.members, heq]
      simp
    cases v with
    | object entries =>
      refine ⟨before.reverse, after.reverse, congrArg object hmembers, ?_⟩
      simp only [List.map_reverse, List.mem_reverse, List.mem_map, not_exists, not_and]
      intro entry hentry hkey
      simpa [hkey] using hlast entry hentry
    | _ => simp [members] at hmembers

end Json.Value

/-! ## Bodies -/

namespace ReceivedBody

/-- What a document is as a body, by the kind of its member that is called like that of an envelope,
if it has one. -/
def ofKind : Option Kind → Except Fault ReceivedBody
  | none => .ok .otherJson
  | some (.text path) => .ok (.claimCheck path)
  | some _ => .error .claimCheckNotText

/-- Of the member only its kind is looked at. -/
lemma ofValue_eq (v : Value) :
    ofValue v = ofKind ((v.member? claimCheckLabel).map Value.kind) := by
  unfold ofValue
  cases v.member? claimCheckLabel with
  | none => rfl
  | some member => cases member <;> rfl

section Member

variable {member : Option Value}

/-- A member makes a claim check if it is a text. -/
lemma ofKind_eq_claimCheck_iff {path : String} :
    ofKind (member.map Value.kind) = .ok (.claimCheck path) ↔ member = some (.string path) := by
  rcases member with _ | member
  · simp [ofKind]
  · cases member <;> simp [ofKind, Value.kind]

/-- A member makes a body malformed if it is no text. -/
lemma ofKind_eq_error_iff :
    ofKind (member.map Value.kind) = .error .claimCheckNotText ↔
      ∃ value, member = some value ∧ ∀ path, value ≠ .string path := by
  rcases member with _ | member
  · simp [ofKind]
  · cases member <;> simp [ofKind, Value.kind]

/-- A body is passed on if there is no member. -/
lemma ofKind_eq_otherJson_iff :
    ofKind (member.map Value.kind) = .ok .otherJson ↔ member = none := by
  rcases member with _ | member
  · simp [ofKind]
  · cases member <;> simp [ofKind, Value.kind]

end Member

variable {v : Value}

/-- The compact text of a document is the body that the last member of the document with the label
says. -/
lemma ofText_compact (hv : v.IsWhole maxLevels) :
    ofText v.compact = ofKind ((v.members.reverse.lookup claimCheckLabel).map Value.kind) := by
  have hread := Value.parse_compact hv
  have hmembers := (Value.agrees_of_parse_compact hread).members_eq claimCheckLabel
  unfold ofText
  rw [hread]
  dsimp only
  rw [ofValue_eq, ← Value.firstKind?_members, hmembers]
  rfl

/-- A document without fractions, however large and nested as deep as documents may be, is a claim
check exactly if it has a text for the label, it is malformed exactly if it has anything else for the
label, and it is passed on exactly if it has nothing for the label.  So two documents with the same
member for the label are the same body, whatever else they hold. -/
theorem classified_by_member (hv : v.IsWhole 127) :
    (∀ path, ofText v.compact = .ok (.claimCheck path) ↔
      v.HasMember claimCheckLabel (.string path)) ∧
    (ofText v.compact = .error .claimCheckNotText ↔
      ∃ member, v.HasMember claimCheckLabel member ∧ ∀ path, member ≠ .string path) ∧
    (ofText v.compact = .ok .otherJson ↔ ∀ member, ¬ v.HasMember claimCheckLabel member) ∧
    ∀ other : Value, other.IsWhole 127 →
      (∀ member, other.HasMember claimCheckLabel member ↔ v.HasMember claimCheckLabel member) →
        ofText other.compact = ofText v.compact := by
  refine ⟨fun path => ?_, ?_, ?_, ?_⟩
  · rw [ofText_compact hv, ofKind_eq_claimCheck_iff, Value.hasMember_iff]
  · rw [ofText_compact hv, ofKind_eq_error_iff]
    simp only [Value.hasMember_iff]
  · rw [ofText_compact hv, ofKind_eq_otherJson_iff, Option.eq_none_iff_forall_ne_some]
    simp only [Value.hasMember_iff, ne_eq]
  · intro other hother hsame
    have hlookup : other.members.reverse.lookup claimCheckLabel =
        v.members.reverse.lookup claimCheckLabel := by
      apply Option.ext
      intro member
      rw [← Value.hasMember_iff, hsame, Value.hasMember_iff]
    rw [ofText_compact hv, ofText_compact hother, hlookup]

/-- A document with a claim check among members that look like one. -/
def lookalikes : Value :=
  .object
    [("claim_checks", .string "c2/b"), ("claim_check", .string "c1/a"),
      ("data", .array [.object [("claim_check", .null)], .string "\"claim_check\":1"])]

/-- Members that look like a claim check leave it what it is. -/
theorem classified_among_lookalikes :
    ofText lookalikes.compact = .ok (.claimCheck "c1/a") ∧
      lookalikes.HasMember claimCheckLabel (.string "c1/a") := by
  have hdeeper : (Value.object [("claim_check", .null)]).IsWhole 125 := by
    refine .object fun entry hentry => ?_
    rw [List.mem_singleton] at hentry
    subst hentry
    exact .null
  have hwhole : lookalikes.IsWhole 127 := by
    refine .object fun entry hentry => ?_
    simp only [List.mem_cons, List.not_mem_nil, or_false] at hentry
    rcases hentry with rfl | rfl | rfl
    · exact .string _
    · exact .string _
    · refine .array fun item hitem => ?_
      simp only [List.mem_cons, List.not_mem_nil, or_false] at hitem
      rcases hitem with rfl | rfl
      · exact hdeeper
      · exact .string _
  have hmember : lookalikes.HasMember claimCheckLabel (.string "c1/a") :=
    ⟨[("claim_checks", .string "c2/b")], [("data", _)], rfl, by decide⟩
  exact ⟨((classified_by_member hwhole).1 "c1/a").mpr hmember, hmember⟩

end ReceivedBody

end ClaimCheck
