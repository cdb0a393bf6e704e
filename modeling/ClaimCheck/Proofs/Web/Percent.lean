import Mathlib
import ClaimCheck.Web.Percent

/-!
# Writing text with percent signs

`percentEncode` keeps some of the characters of a text and writes every byte of the others as a
percent sign with two digits.  As long as the percent sign itself is not kept, the text is read back
from what was written (`percentDecode?_percentEncode`), whatever its characters are and in whichever
case the digits are written.
-/

namespace ClaimCheck.Web

open Text

variable {digit : Nat → Char} {keep : Char → Bool} {c : Char} {cs : List Char}

/-! ## Letters and digits -/

/-- A lower-case letter by its number. -/
lemma isLower_iff_toNat : c.isLower = true ↔ 97 ≤ c.toNat ∧ c.toNat ≤ 122 := by
  simp only [Char.isLower, Bool.and_eq_true, decide_eq_true_eq, ge_iff_le, UInt32.le_iff_toNat_le]
  rfl

/-- A letter or a digit by its number. -/
lemma isAlphanum_iff_toNat : c.isAlphanum = true ↔
    (65 ≤ c.toNat ∧ c.toNat ≤ 90) ∨ (97 ≤ c.toNat ∧ c.toNat ≤ 122) ∨
      (48 ≤ c.toNat ∧ c.toNat ≤ 57) := by
  have hupper : c.isUpper = true ↔ 65 ≤ c.toNat ∧ c.toNat ≤ 90 := by
    simp only [Char.isUpper, decide_eq_true_eq, ge_iff_le, UInt32.le_iff_toNat_le]
    rfl
  rw [Char.isAlphanum, Char.isAlpha, Bool.or_eq_true, Bool.or_eq_true, hupper, isLower_iff_toNat,
    Char.isDigit_iff_toNat, or_assoc]
  rfl

/-- The value of a hexadecimal digit by its number. -/
lemma hexValue?_eq_some_iff {n : Nat} : hexValue? c = some n ↔
    (48 ≤ c.toNat ∧ c.toNat ≤ 57 ∧ c.toNat = n + 48) ∨
      (97 ≤ c.toNat ∧ c.toNat ≤ 102 ∧ c.toNat = n + 87) ∨
      (65 ≤ c.toNat ∧ c.toNat ≤ 70 ∧ c.toNat = n + 55) := by
  have hvalue : hexValue? c =
      if 48 ≤ c.toNat ∧ c.toNat ≤ 57 then some (c.toNat - 48)
      else if 97 ≤ c.toNat ∧ c.toNat ≤ 102 then some (c.toNat - 97 + 10)
      else if 65 ≤ c.toNat ∧ c.toNat ≤ 70 then some (c.toNat - 65 + 10)
      else none := rfl
  rw [hvalue]
  split
  · rw [Option.some_inj]
    omega
  split
  · rw [Option.some_inj]
    omega
  split
  · rw [Option.some_inj]
    omega
  · refine iff_of_false (fun h => by cases h) ?_
    omega

/-- A way to write numbers below sixteen as hexadecimal digits, in either case. -/
def WritesHex (digit : Nat → Char) : Prop := ∀ n < 16, hexValue? (digit n) = some n

/-- The lower-case digits are hexadecimal digits. -/
lemma writesHex_hexDigit : WritesHex hexDigit := by unfold WritesHex; decide

/-- The upper-case digits are hexadecimal digits. -/
lemma writesHex_upperHexDigit : WritesHex upperHexDigit := by unfold WritesHex; decide

/-- A written digit is a letter or a decimal digit. -/
lemma WritesHex.isAlphanum (hdigit : WritesHex digit) {n : Nat} (hn : n < 16) :
    (digit n).isAlphanum = true := by
  have hvalue := hexValue?_eq_some_iff.mp (hdigit n hn)
  rw [isAlphanum_iff_toNat]
  omega

/-! ## Encoding -/

/-- A byte as a percent sign and two digits. -/
def percentTriple (digit : Nat → Char) (b : UInt8) : List Char :=
  ['%', digit (b.toNat / 16), digit (b.toNat % 16)]

/-- A text in which some characters are kept and all bytes of the others are written with percent
signs. -/
def percentEncode (digit : Nat → Char) (keep : Char → Bool) (cs : List Char) : List Char :=
  cs.flatMap fun c => if keep c then [c] else (charBytes c).flatMap (percentTriple digit)

/-- A character that is kept stands for itself. -/
lemma percentEncode_cons_of_keep (h : keep c = true) :
    percentEncode digit keep (c :: cs) = c :: percentEncode digit keep cs := by
  rw [percentEncode, List.flatMap_cons, if_pos h]
  rfl

/-- A character that is not kept is written byte by byte. -/
lemma percentEncode_cons_of_not_keep (h : keep c = false) :
    percentEncode digit keep (c :: cs) =
      (charBytes c).flatMap (percentTriple digit) ++ percentEncode digit keep cs := by
  rw [percentEncode, List.flatMap_cons, if_neg (Bool.eq_false_iff.mp h)]
  rfl

/-- A text of characters that are kept is written as it is. -/
lemma percentEncode_of_keep (h : ∀ c ∈ cs, keep c = true) : percentEncode digit keep cs = cs := by
  induction cs with
  | nil => rfl
  | cons c cs ih =>
    obtain ⟨hc, hcs⟩ := List.forall_mem_cons.mp h
    rw [percentEncode_cons_of_keep hc, ih hcs]

/-- What is written are characters that are kept, percent signs and digits. -/
lemma mem_percentEncode (hdigit : WritesHex digit) (h : c ∈ percentEncode digit keep cs) :
    keep c = true ∨ c = '%' ∨ c.isAlphanum = true := by
  obtain ⟨written, -, hc⟩ := List.mem_flatMap.mp h
  split at hc
  · next hkeep =>
    rw [List.mem_singleton.mp hc]
    exact .inl hkeep
  · obtain ⟨b, -, hb⟩ := List.mem_flatMap.mp hc
    have hlt : b.toNat < 256 := b.toNat_lt
    have hhigh : (digit (b.toNat / 16)).isAlphanum = true := hdigit.isAlphanum (by omega)
    have hlow : (digit (b.toNat % 16)).isAlphanum = true := hdigit.isAlphanum (by omega)
    simp only [percentTriple, List.mem_cons, List.not_mem_nil, or_false] at hb
    rcases hb with rfl | rfl | rfl
    · exact .inr (.inl rfl)
    · exact .inr (.inr hhigh)
    · exact .inr (.inr hlow)

/-! ## Decoding -/

/-- What was decoded first stays in front. -/
lemma percentBytesFrom_append (before first : List UInt8) (cs : List Char) :
    percentBytesFrom (before ++ first) cs = first.reverse ++ percentBytesFrom before cs := by
  induction before, cs using percentBytesFrom.induct with
  | case1 before a b rest high low hlow hhigh ih =>
    rw [percentBytesFrom, percentBytesFrom, hhigh, hlow]
    exact ih
  | case2 before a b rest hdigits ih =>
    rw [percentBytesFrom, percentBytesFrom]
    split
    · next hhigh hlow => exact absurd hlow (hdigits _ _ hhigh)
    · rw [← List.cons_append, ih]
  | case3 before c rest hmark ih =>
    rw [percentBytesFrom, percentBytesFrom, ← List.append_assoc, ih]
    · exact hmark
    · exact hmark
  | case4 before => rw [percentBytesFrom, percentBytesFrom, List.reverse_append]

/-- What was decoded before stands in front of what is decoded. -/
lemma percentBytesFrom_eq (before : List UInt8) (cs : List Char) :
    percentBytesFrom before cs = before.reverse ++ percentBytes cs :=
  percentBytesFrom_append [] before cs

/-- Any character but a percent sign stands for its bytes. -/
lemma percentBytes_cons_of_ne (hc : c ≠ '%') :
    percentBytes (c :: cs) = charBytes c ++ percentBytes cs := by
  rw [percentBytes, percentBytesFrom, percentBytesFrom_eq, List.append_nil, List.reverse_reverse]
  intro a b rest hmark
  exact absurd hmark hc

/-- A written byte is read back. -/
lemma percentBytes_percentTriple (hdigit : WritesHex digit) (b : UInt8) (cs : List Char) :
    percentBytes (percentTriple digit b ++ cs) = b :: percentBytes cs := by
  have hlt : b.toNat < 256 := b.toNat_lt
  have hhigh : hexValue? (digit (b.toNat / 16)) = some (b.toNat / 16) := hdigit _ (by omega)
  have hlow : hexValue? (digit (b.toNat % 16)) = some (b.toNat % 16) := hdigit _ (by omega)
  have hbyte : UInt8.ofNat (b.toNat / 16 * 16 + b.toNat % 16) = b := by
    rw [Nat.div_add_mod', UInt8.ofNat_toNat]
  change percentBytesFrom [] ('%' :: digit (b.toNat / 16) :: digit (b.toNat % 16) :: cs) = _
  rw [percentBytesFrom, hhigh, hlow]
  dsimp only
  rw [hbyte, percentBytesFrom_eq]
  rfl

/-- Written bytes are read back. -/
lemma percentBytes_flatMap_percentTriple (hdigit : WritesHex digit) (bytes : List UInt8)
    (cs : List Char) :
    percentBytes (bytes.flatMap (percentTriple digit) ++ cs) = bytes ++ percentBytes cs := by
  induction bytes with
  | nil => rfl
  | cons b bytes ih =>
    rw [List.flatMap_cons, List.append_assoc, percentBytes_percentTriple hdigit, ih,
      List.cons_append]

/-- The bytes of a text are read back if no percent sign of it is kept. -/
lemma percentBytes_percentEncode (hdigit : WritesHex digit)
    (hkeep : '%' ∈ cs → keep '%' = false) :
    percentBytes (percentEncode digit keep cs) = cs.flatMap charBytes := by
  induction cs with
  | nil => rfl
  | cons c cs ih =>
    have hrest := ih fun hmem => hkeep (List.mem_cons_of_mem _ hmem)
    rw [List.flatMap_cons]
    cases hc : keep c with
    | true =>
      have hne : c ≠ '%' := by
        rintro rfl
        rw [hkeep List.mem_cons_self] at hc
        cases hc
      rw [percentEncode_cons_of_keep hc, percentBytes_cons_of_ne hne, hrest]
    | false =>
      rw [percentEncode_cons_of_not_keep hc, percentBytes_flatMap_percentTriple hdigit, hrest]

/-- The bytes of characters are read as these characters. -/
lemma fromUTF8?_flatMap_charBytes (cs : List Char) :
    String.fromUTF8? ⟨(cs.flatMap charBytes).toArray⟩ = some (String.ofList cs) := by
  have hbytes : (⟨(cs.flatMap charBytes).toArray⟩ : ByteArray) = (String.ofList cs).toUTF8 :=
    ByteArray.ext List.data_toByteArray.symm
  rw [hbytes, Utf8.fromUTF8?_toUTF8]

/-- A text is read back from what was written for it, whatever is kept but the percent sign. -/
lemma percentDecode?_percentEncode (hdigit : WritesHex digit) (hkeep : keep '%' = false)
    (cs : List Char) : percentDecode? (percentEncode digit keep cs) = some cs := by
  rw [percentDecode?, percentBytes_percentEncode hdigit fun _ => hkeep,
    fromUTF8?_flatMap_charBytes, Option.map_some, String.toList_ofList]

/-- A text without percent signs stands for itself. -/
lemma percentDecode?_of_notMem (h : '%' ∉ cs) : percentDecode? cs = some cs := by
  -- it is what is written for it when every character is kept
  have hkept : percentEncode hexDigit (fun _ => true) cs = cs := percentEncode_of_keep fun _ _ => rfl
  have hbytes : percentBytes cs = cs.flatMap charBytes := by
    rw [← percentBytes_percentEncode writesHex_hexDigit fun hmem => absurd hmem h, hkept]
  rw [percentDecode?, hbytes, fromUTF8?_flatMap_charBytes, Option.map_some, String.toList_ofList]

end ClaimCheck.Web
