import Mathlib
import ClaimCheck.Web.Address
import ClaimCheck.Proofs.Web.Percent

/-!
# Segments with percent signs

A path is resolved before its segments are used: a segment of one dot stays where it is, one of two
dots goes back, and either leaves an empty segment if it is the last one.  Since a dot may be written
with a percent sign, it is the text that a segment stands for that counts.  `follow` takes this text,
and the written segments are resolved to the writing of what is reached by following the texts
(`resolveFrom_percentEncode`).  A path without dots in the place of a segment is resolved to itself
(`destination_of_noDots`).
-/

namespace ClaimCheck.Web.Address

open Text

variable {digit : Nat → Char} {keep : Char → Bool} {c : Char} {cs segment : List Char}
  {passed segments : List (List Char)}

/-! ## Characters of written segments -/

/-- Characters that never have to be written with percent signs. -/
def isUnreserved (c : Char) : Bool :=
  c.isAlphanum || c == '-' || c == '.' || c == '_' || c == '~'

/-- Only characters that never have to be written with percent signs are kept. -/
def KeepsUnreserved (keep : Char → Bool) : Prop := ∀ c, keep c = true → isUnreserved c = true

/-- A percent sign is not kept. -/
lemma KeepsUnreserved.percent (hkeep : KeepsUnreserved keep) : keep '%' = false := by
  rw [Bool.eq_false_iff]
  intro hpercent
  exact absurd (hkeep '%' hpercent) (by decide)

/-- What is written has unreserved characters and percent signs only. -/
lemma isUnreserved_of_mem_percentEncode (hdigit : WritesHex digit) (hkeep : KeepsUnreserved keep)
    (h : c ∈ percentEncode digit keep cs) : isUnreserved c = true ∨ c = '%' := by
  rcases mem_percentEncode hdigit h with hkept | hpercent | hdigits
  · exact .inl (hkeep c hkept)
  · exact .inr hpercent
  · refine .inl ?_
    rw [isUnreserved, hdigits]
    rfl

/-- Any other character is not among what is written. -/
lemma notMem_percentEncode (hdigit : WritesHex digit) (hkeep : KeepsUnreserved keep)
    (hreserved : isUnreserved c = false) (hpercent : c ≠ '%') :
    c ∉ percentEncode digit keep cs := by
  intro hmem
  rcases isUnreserved_of_mem_percentEncode hdigit hkeep hmem with h | h
  · rw [hreserved] at h
    cases h
  · exact hpercent h

/-- A character of ASCII is one byte. -/
lemma charBytes_of_ascii (h : c.toNat < 0x80) : charBytes c = [UInt8.ofNat c.toNat] := by
  have hle : c.val.toNat ≤ 127 := Nat.le_of_lt_succ h
  unfold charBytes String.utf8EncodeChar
  rw [if_pos hle]
  rfl

/-- The bytes of any other character start with one that is not in ASCII. -/
lemma charBytes_of_not_ascii (h : ¬ c.toNat < 0x80) :
    ∃ first others, charBytes c = first :: others ∧ 0x80 ≤ first.toNat := by
  have hlt : ¬ c.val.toNat ≤ 127 := fun hle => h (Nat.lt_succ_of_le hle)
  have hhigh : ∀ n, 0x80 ≤ n → n < 0x100 → 0x80 ≤ (UInt8.ofNat n).toNat := by
    intro n hle hlt
    rw [UInt8.toNat_ofNat', Nat.mod_eq_of_lt hlt]
    exact hle
  unfold charBytes String.utf8EncodeChar
  dsimp only
  rw [if_neg hlt]
  split
  · exact ⟨_, _, rfl, hhigh _ (by omega) (by omega)⟩
  split
  · exact ⟨_, _, rfl, hhigh _ (by omega) (by omega)⟩
  · exact ⟨_, _, rfl, hhigh _ (by omega) (by omega)⟩

/-- Every character has a byte. -/
lemma charBytes_ne_nil (c : Char) : charBytes c ≠ [] := by
  by_cases h : c.toNat < 0x80
  · rw [charBytes_of_ascii h]
    exact List.cons_ne_nil _ _
  · obtain ⟨first, others, hbytes, -⟩ := charBytes_of_not_ascii h
    rw [hbytes]
    exact List.cons_ne_nil _ _

/-- Something is written for every text but the empty one. -/
lemma percentEncode_eq_nil_iff : percentEncode digit keep cs = [] ↔ cs = [] := by
  cases cs with
  | nil => exact iff_of_true rfl rfl
  | cons c cs =>
    refine iff_of_false ?_ (List.cons_ne_nil c cs)
    cases hc : keep c with
    | true =>
      rw [percentEncode_cons_of_keep hc]
      exact List.cons_ne_nil _ _
    | false =>
      obtain ⟨b, bytes, hbytes⟩ := List.exists_cons_of_ne_nil (charBytes_ne_nil c)
      rw [percentEncode_cons_of_not_keep hc, hbytes]
      exact List.cons_ne_nil _ _

/-! ## Dots -/

/-- The byte of a dot. -/
def dotByte : UInt8 := 0x2E

/-- A character of ASCII is the byte of a dot if it is one. -/
lemma ofNat_toNat_eq_dotByte_iff (hascii : c.toNat < 0x80) :
    UInt8.ofNat c.toNat = dotByte ↔ c = '.' := by
  have hdot : c = '.' ↔ c.toNat = 46 := ⟨fun h => h ▸ rfl, fun h => Char.toNat_inj.mp h⟩
  have hbyte : (UInt8.ofNat c.toNat).toNat = c.toNat := by
    rw [UInt8.toNat_ofNat']
    omega
  rw [← UInt8.toNat_inj, hbyte, hdot]
  rfl

/-- A written byte is a dot if it is the byte of one. -/
lemma dropDot?_percentTriple (hdigit : WritesHex digit) (b : UInt8) (cs : List Char) :
    dropDot? (percentTriple digit b ++ cs) = if b = dotByte then some cs else none := by
  have hlt : b.toNat < 256 := b.toNat_lt
  have hhigh := hexValue?_eq_some_iff.mp (hdigit (b.toNat / 16) (by omega))
  have hlow := hexValue?_eq_some_iff.mp (hdigit (b.toNat % 16) (by omega))
  change dropDot? ('%' :: digit (b.toNat / 16) :: digit (b.toNat % 16) :: cs) = _
  generalize digit (b.toNat / 16) = high at hhigh
  generalize digit (b.toNat % 16) = low at hlow
  have hdrop : dropDot? ('%' :: high :: low :: cs) =
      if high = '2' ∧ (low = 'e' ∨ low = 'E') then some cs else none := by
    by_cases htwo : high = '2'
    · subst htwo
      rw [dropDot?]
      simp only [true_and]
    · rw [if_neg fun h => htwo h.1]
      unfold dropDot?
      split
      · next heq => cases heq
      · next heq =>
        cases heq
        exact absurd rfl htwo
      · rfl
  have hdot : (high = '2' ∧ (low = 'e' ∨ low = 'E')) ↔ b = dotByte := by
    have htwo : high = '2' ↔ high.toNat = 50 := ⟨fun h => h ▸ rfl, fun h => Char.toNat_inj.mp h⟩
    have he : low = 'e' ↔ low.toNat = 101 := ⟨fun h => h ▸ rfl, fun h => Char.toNat_inj.mp h⟩
    have hE : low = 'E' ↔ low.toNat = 69 := ⟨fun h => h ▸ rfl, fun h => Char.toNat_inj.mp h⟩
    have hb : b = dotByte ↔ b.toNat = 46 := UInt8.toNat_inj.symm
    rw [htwo, he, hE, hb]
    omega
  rw [hdrop]
  exact if_congr hdot rfl rfl

/-- A dot is dropped from what is written for a text exactly if the text starts with one. -/
lemma dropDot?_percentEncode_cons (hdigit : WritesHex digit) (hkeep : KeepsUnreserved keep) :
    dropDot? (percentEncode digit keep (c :: cs)) =
      if c = '.' then some (percentEncode digit keep cs) else none := by
  cases hc : keep c with
  | true =>
    rw [percentEncode_cons_of_keep hc]
    by_cases hdot : c = '.'
    · subst hdot
      rfl
    · have hpercent : c ≠ '%' := by
        rintro rfl
        rw [hkeep.percent] at hc
        cases hc
      rw [if_neg hdot]
      unfold dropDot?
      split
      · next heq => exact absurd (List.cons.inj heq).1 hdot
      · next heq => exact absurd (List.cons.inj heq).1 hpercent
      · rfl
  | false =>
    rw [percentEncode_cons_of_not_keep hc]
    by_cases hascii : c.toNat < 0x80
    · rw [charBytes_of_ascii hascii, List.flatMap_singleton, dropDot?_percentTriple hdigit]
      exact if_congr (ofNat_toNat_eq_dotByte_iff hascii) rfl rfl
    · obtain ⟨first, others, hbytes, hfirst⟩ := charBytes_of_not_ascii hascii
      have hbyte : first ≠ dotByte := by
        rintro rfl
        exact absurd hfirst (by decide)
      have hdot : c ≠ '.' := by
        rintro rfl
        exact hascii (by decide)
      rw [hbytes, List.flatMap_cons, List.append_assoc, dropDot?_percentTriple hdigit,
        if_neg hbyte, if_neg hdot]

/-- Nothing is left behind a dot only where a dot was all that was written. -/
lemma dropDot?_percentEncode_eq_nil_iff (hdigit : WritesHex digit) (hkeep : KeepsUnreserved keep) :
    dropDot? (percentEncode digit keep segment) = some [] ↔ segment = ['.'] := by
  cases segment with
  | nil => exact iff_of_false (fun h => by cases h) fun h => by cases h
  | cons c rest =>
    rw [dropDot?_percentEncode_cons hdigit hkeep, List.cons.injEq]
    split
    · next hdot => rw [Option.some_inj, percentEncode_eq_nil_iff, and_iff_right hdot]
    · next hdot => exact iff_of_false (fun h => by cases h) fun h => hdot h.1

/-- Nothing is left behind two dots only where two dots were all that was written. -/
lemma bind_dropDot?_percentEncode_eq_nil_iff (hdigit : WritesHex digit)
    (hkeep : KeepsUnreserved keep) :
    (dropDot? (percentEncode digit keep segment)).bind dropDot? = some [] ↔
      segment = ['.', '.'] := by
  cases segment with
  | nil => exact iff_of_false (fun h => by cases h) fun h => by cases h
  | cons c rest =>
    rw [dropDot?_percentEncode_cons hdigit hkeep, List.cons.injEq]
    split
    · next hdot =>
      rw [Option.bind_some, dropDot?_percentEncode_eq_nil_iff hdigit hkeep, and_iff_right hdot]
    · next hdot => exact iff_of_false (fun h => by cases h) fun h => hdot h.1

/-- What a segment says is told by what is left behind its dots. -/
lemma stepOf_eq (segment : List Char) : stepOf segment =
    if dropDot? segment = some [] then .stay
    else if (dropDot? segment).bind dropDot? = some [] then .back
    else .down segment := by
  unfold stepOf
  cases dropDot? segment with
  | none => rfl
  | some rest =>
    cases rest with
    | nil => rfl
    | cons c rest =>
      rw [if_neg fun h => List.cons_ne_nil c rest (Option.some_inj.mp h)]
      rfl

/-- What a written segment says is told by the text that it stands for. -/
lemma stepOf_percentEncode (hdigit : WritesHex digit) (hkeep : KeepsUnreserved keep)
    (segment : List Char) : stepOf (percentEncode digit keep segment) =
      if segment = ['.'] then .stay
      else if segment = ['.', '.'] then .back
      else .down (percentEncode digit keep segment) := by
  rw [stepOf_eq]
  exact if_congr (dropDot?_percentEncode_eq_nil_iff hdigit hkeep) rfl
    (if_congr (bind_dropDot?_percentEncode_eq_nil_iff hdigit hkeep) rfl rfl)

/-! ## Paths -/

/-- Follows a segment from those that were passed, the last one first. -/
def follow (passed : List (List Char)) (segment : List Char) : List (List Char) :=
  if segment = ['.'] then passed
  else if segment = ['.', '.'] then passed.tail
  else segment :: passed

/-- Whether a segment is one dot or two. -/
def isDots (segment : List Char) : Bool := segment == ['.'] || segment == ['.', '.']

/-- A segment is no dots if it is neither one nor two. -/
lemma isDots_eq_false_iff : isDots segment = false ↔ segment ≠ ['.'] ∧ segment ≠ ['.', '.'] := by
  rw [isDots, Bool.or_eq_false_iff, beq_eq_false_iff_ne, beq_eq_false_iff_ne]

/-- A segment is one dot, two dots or neither. -/
lemma dots_cases (segment : List Char) :
    segment = ['.'] ∨ segment = ['.', '.'] ∨ isDots segment = false := by
  rw [isDots_eq_false_iff]
  by_cases hone : segment = ['.']
  · exact .inl hone
  by_cases htwo : segment = ['.', '.']
  · exact .inr (.inl htwo)
  · exact .inr (.inr ⟨hone, htwo⟩)

/-- A segment that is no dots is passed. -/
lemma follow_of_noDots (h : isDots segment = false) : follow passed segment = segment :: passed := by
  obtain ⟨hone, htwo⟩ := isDots_eq_false_iff.mp h
  rw [follow, if_neg hone, if_neg htwo]

/-- Where segments lead from those that were passed, the last one first.  Dots at the end leave an
empty segment. -/
def destination (passed segments : List (List Char)) : List (List Char) :=
  if segments.getLast?.any isDots then [] :: segments.foldl follow passed
  else segments.foldl follow passed

/-- Where segments lead is told step by step. -/
lemma destination_cons_cons (next : List Char) (more : List (List Char)) :
    destination passed (segment :: next :: more) =
      destination (follow passed segment) (next :: more) := by
  unfold destination
  rw [List.getLast?_cons_cons]
  rfl

/-- A last segment that is no dots is where the path leads. -/
lemma destination_singleton (h : isDots segment = false) :
    destination passed [segment] = segment :: passed := by
  unfold destination
  rw [List.getLast?_singleton, Option.any_some, if_neg (Bool.eq_false_iff.mp h), List.foldl_cons,
    List.foldl_nil, follow_of_noDots h]

/-- A written segment is no drive, since a colon or a bar is never kept. -/
lemma isDrive_percentEncode (hdigit : WritesHex digit) (hkeep : KeepsUnreserved keep)
    (segment : List Char) : isDrive (percentEncode digit keep segment) = false := by
  have hcolon : ':' ∉ percentEncode digit keep segment :=
    notMem_percentEncode hdigit hkeep (by decide) (by decide)
  have hbar : '|' ∉ percentEncode digit keep segment :=
    notMem_percentEncode hdigit hkeep (by decide) (by decide)
  generalize percentEncode digit keep segment = written at hcolon hbar
  unfold isDrive
  split
  · next letter mark =>
    simp only [List.mem_cons, List.not_mem_nil, or_false, not_or] at hcolon hbar
    have hmark : (mark == ':' || mark == '|') = false := by
      rw [Bool.or_eq_false_iff, beq_eq_false_iff_ne, beq_eq_false_iff_ne]
      exact ⟨Ne.symm hcolon.2, Ne.symm hbar.2⟩
    rw [hmark, Bool.and_false]
  · rfl

/-- Going back leaves the last of the written segments. -/
lemma goBack_map_percentEncode (hdigit : WritesHex digit) (hkeep : KeepsUnreserved keep)
    (passed : List (List Char)) : goBack (passed.map (percentEncode digit keep)) =
      passed.tail.map (percentEncode digit keep) := by
  cases passed with
  | nil => rfl
  | cons last before =>
    rw [List.map_cons, goBack, if_neg (Bool.eq_false_iff.mp (isDrive_percentEncode hdigit hkeep last))]
    rfl

/-- A written segment that is no dots goes down. -/
lemma stepOf_of_noDots (hdigit : WritesHex digit) (hkeep : KeepsUnreserved keep)
    (h : isDots segment = false) :
    stepOf (percentEncode digit keep segment) = .down (percentEncode digit keep segment) := by
  obtain ⟨hone, htwo⟩ := isDots_eq_false_iff.mp h
  rw [stepOf_percentEncode hdigit hkeep, if_neg hone, if_neg htwo]

/-- Written segments are resolved to the writing of where their texts lead. -/
lemma resolveFrom_percentEncode (hdigit : WritesHex digit) (hkeep : KeepsUnreserved keep)
    (passed segments : List (List Char)) :
    resolveFrom (passed.map (percentEncode digit keep)) (segments.map (percentEncode digit keep)) =
      (destination passed segments).reverse.map (percentEncode digit keep) := by
  have hstay : stepOf (percentEncode digit keep ['.']) = .stay := by
    rw [stepOf_percentEncode hdigit hkeep, if_pos rfl]
  have hup : stepOf (percentEncode digit keep ['.', '.']) = .back := by
    rw [stepOf_percentEncode hdigit hkeep, if_neg (by decide), if_pos rfl]
  -- the last segment stands apart, since dots there leave an empty one behind
  induction segments generalizing passed with
  | nil =>
    rw [List.map_nil, resolveFrom, ← List.map_reverse]
    rfl
  | cons segment rest ih =>
    have hback := goBack_map_percentEncode hdigit hkeep passed
    cases rest with
    | nil =>
      rw [List.map_cons, List.map_nil, resolveFrom, List.map_reverse]
      rcases dots_cases segment with rfl | rfl | hdots
      · rw [hstay]
        rfl
      · rw [hup]
        dsimp only
        rw [hback]
        rfl
      · rw [stepOf_of_noDots hdigit hkeep hdots, destination_singleton hdots]
        rfl
    | cons next more =>
      rw [destination_cons_cons, List.map_cons, List.map_cons, resolveFrom, ← List.map_cons]
      · rcases dots_cases segment with rfl | rfl | hdots
        · rw [hstay]
          exact ih passed
        · rw [hup]
          dsimp only
          rw [hback]
          exact ih passed.tail
        · rw [stepOf_of_noDots hdigit hkeep hdots, follow_of_noDots hdots]
          exact ih (segment :: passed)
      · exact List.cons_ne_nil _ _

/-- Without dots in the place of a segment, segments lead to themselves. -/
lemma destination_of_noDots (h : ∀ segment ∈ segments, isDots segment = false) :
    destination passed segments = segments.reverse ++ passed := by
  induction segments generalizing passed with
  | nil => rfl
  | cons segment rest ih =>
    obtain ⟨hsegment, hrest⟩ := List.forall_mem_cons.mp h
    cases rest with
    | nil => exact destination_singleton hsegment
    | cons next more =>
      have hreverse : (segment :: next :: more).reverse = (next :: more).reverse ++ [segment] :=
        List.reverse_cons
      rw [destination_cons_cons, follow_of_noDots hsegment, ih hrest, hreverse, List.append_assoc,
        List.singleton_append]

end ClaimCheck.Web.Address
