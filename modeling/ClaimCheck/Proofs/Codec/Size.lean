import Mathlib
import ClaimCheck.Proofs.Codec.Envelope

/-!
# How long envelopes are

Nothing in an envelope depends on the body that it stands for but the identifier, and identifiers are
all written with 36 characters that need no escape.  So an envelope has 64 bytes and those of the
container between quotes (`utf8ByteSize_envelope`), where each byte of the container takes up to six:
a control character is written as a backslash, a letter and four digits (`escapedSize_le`).
-/

namespace ClaimCheck

open Text

namespace Json

/-! ## Texts between quotes -/

/-- The bytes that a text takes between quotes. -/
def escapedSize (s : String) : Nat := (String.ofList (escaped s)).utf8ByteSize

/-- The bytes of a text are those of its characters. -/
lemma utf8Len_toList (s : String) : String.utf8Len s.toList = s.utf8ByteSize := by
  rw [← String.utf8ByteSize_ofList, String.ofList_toList]

/-- A character takes at most six times its bytes. -/
lemma utf8Len_escapedChar_le (c : Char) : String.utf8Len (escapedChar c) ≤ 6 * c.utf8Size := by
  have hpos := c.utf8Size_pos
  have hletter : ∀ letter : Char, letter.utf8Size = 1 →
      String.utf8Len ['\\', letter] ≤ 6 * c.utf8Size := by
    intro letter hone
    have hslash : '\\'.utf8Size = 1 := rfl
    rw [String.utf8Len_cons, String.utf8Len_cons, String.utf8Len_nil, hone, hslash]
    omega
  unfold escapedChar
  split
  · exact hletter '"' rfl
  split
  · exact hletter '\\' rfl
  split
  · exact hletter 'b' rfl
  split
  · exact hletter 't' rfl
  split
  · exact hletter 'n' rfl
  split
  · exact hletter 'f' rfl
  split
  · exact hletter 'r' rfl
  split
  · -- the bound is reached here: four digits behind a backslash and a letter, for one byte
    next hcontrol =>
    have hall : ∀ n < 0x20, String.utf8Len (['\\', 'u'] ++ fixedHex hexDigit 4 n) = 6 := by decide
    rw [hall c.toNat hcontrol]
    omega
  · rw [String.utf8Len_cons, String.utf8Len_nil]
    omega

/-- A text takes between quotes at most six times its bytes. -/
lemma escapedSize_le (s : String) : escapedSize s ≤ 6 * s.utf8ByteSize := by
  have hchars : ∀ cs : List Char,
      String.utf8Len (cs.flatMap escapedChar) ≤ 6 * String.utf8Len cs := by
    intro cs
    induction cs with
    | nil => exact le_rfl
    | cons c cs ih =>
      have hchar := utf8Len_escapedChar_le c
      rw [List.flatMap_cons, String.utf8Len_append, String.utf8Len_cons]
      omega
  unfold escapedSize escaped
  rw [String.utf8ByteSize_ofList, ← utf8Len_toList s]
  exact hchars s.toList

/-- A character that is one byte and stands for itself between quotes. -/
def IsPlainChar (c : Char) : Prop := c.utf8Size = 1 ∧ escapedChar c = [c]

instance (c : Char) : Decidable (IsPlainChar c) := inferInstanceAs (Decidable (_ ∧ _))

/-- Characters that stand for themselves take one byte each. -/
lemma utf8Len_flatMap_of_plain {cs : List Char} (h : ∀ c ∈ cs, IsPlainChar c) :
    String.utf8Len (cs.flatMap escapedChar) = cs.length := by
  induction cs with
  | nil => rfl
  | cons c cs ih =>
    obtain ⟨hone, hself⟩ := h c List.mem_cons_self
    have hrest := ih fun d hd => h d (List.mem_cons_of_mem c hd)
    rw [List.flatMap_cons, String.utf8Len_append, hrest, hself, String.utf8Len_cons,
      String.utf8Len_nil, hone, List.length_cons]
    omega

end Json

open Json

/-! ## Fresh names -/

/-- Digits are plain characters, as many as were asked for. -/
lemma isPlainChar_fixedHex (width n : Nat) :
    (fixedHex hexDigit width n).length = width ∧
      ∀ c ∈ fixedHex hexDigit width n, IsPlainChar c := by
  have hdigit : ∀ n < 16, IsPlainChar (hexDigit n) := by decide
  induction width generalizing n with
  | zero => exact ⟨rfl, by simp [fixedHex]⟩
  | succ width ih =>
    obtain ⟨hlength, hplain⟩ := ih (n / 16)
    rw [fixedHex]
    constructor
    · rw [List.length_append, hlength, List.length_singleton]
    · intro c hc
      rcases List.mem_append.mp hc with hc | hc
      · exact hplain c hc
      · rw [List.mem_singleton.mp hc]
        exact hdigit _ (Nat.mod_lt n (by decide))

/-- An identifier is written with 36 plain characters. -/
lemma Uuid.isPlainChar_toChars (id : Uuid) :
    id.toChars.length = 36 ∧ ∀ c ∈ id.toChars, IsPlainChar c := by
  have hlength : ∀ width n, (fixedHex hexDigit width n).length = width :=
    fun width n => (isPlainChar_fixedHex width n).1
  have hplain : ∀ width n, ∀ c ∈ fixedHex hexDigit width n, IsPlainChar c :=
    fun width n => (isPlainChar_fixedHex width n).2
  have hdash : IsPlainChar '-' := by decide
  have hversion : IsPlainChar '4' := by decide
  have hvariant : IsPlainChar (hexDigit (8 + id.field 60 % 4)) := by
    have hdigit : ∀ n < 16, IsPlainChar (hexDigit n) := by decide
    exact hdigit _ (by omega)
  unfold toChars
  constructor
  · simp [hlength]
  · intro c hc
    simp only [List.mem_append, List.mem_cons] at hc
    rcases hc with ((((hc | rfl | hc) | rfl | rfl | hc) | rfl | rfl | hc) | rfl | hc)
    all_goals first | exact hplain _ _ c hc | assumption

/-- The name of a fresh place is written with 45 plain characters. -/
lemma Codec.isPlainChar_freshPlace (container : String) (id : Uuid) :
    (freshPlace container id).name.toList.length = 45 ∧
      ∀ c ∈ (freshPlace container id).name.toList, IsPlainChar c := by
  obtain ⟨hlength, hplain⟩ := id.isPlainChar_toChars
  have hstart : "msg-".toList = ['m', 's', 'g', '-'] := rfl
  have hend : ".json".toList = ['.', 'j', 's', 'o', 'n'] := rfl
  have hstartPlain : (['m', 's', 'g', '-'].all fun c => IsPlainChar c) = true := by decide
  have hendPlain : (['.', 'j', 's', 'o', 'n'].all fun c => IsPlainChar c) = true := by decide
  rw [toList_freshPlace, hstart, hend]
  constructor
  · rw [List.length_append, List.length_append, hlength]
    rfl
  · intro c hc
    rcases List.mem_append.mp hc with hc | hc
    · rcases List.mem_append.mp hc with hc | hc
      · exact of_decide_eq_true (List.all_eq_true.mp hstartPlain c hc)
      · exact hplain c hc
    · exact of_decide_eq_true (List.all_eq_true.mp hendPlain c hc)

/-! ## Envelopes -/

/-- The bytes of an envelope of a fresh place. -/
lemma utf8ByteSize_envelope (container : String) (id : Uuid) :
    (EncodedBody.claimCheck (Codec.freshPlace container id)).text.utf8ByteSize =
      64 + escapedSize container := by
  obtain ⟨hlength, hplain⟩ := Codec.isPlainChar_freshPlace container id
  have hname := utf8Len_flatMap_of_plain hplain
  rw [hlength] at hname
  have hpath : escaped (Codec.freshPlace container id).path =
      escaped container ++ '/' :: (Codec.freshPlace container id).name.toList.flatMap escapedChar := by
    have hself : escapedChar '/' = ['/'] := by decide
    unfold escaped
    rw [Locator.toList_path, List.flatMap_append, List.flatMap_cons, hself, List.singleton_append]
    rfl
  have hlabel : String.utf8Len ('\x7b' :: stringChars claimCheckLabel ++ [':', '"']) = 16 := by decide
  have htext : (EncodedBody.claimCheck (Codec.freshPlace container id)).text =
      String.ofList ('\x7b' :: stringChars claimCheckLabel ++ [':', '"'] ++
        (escaped (Codec.freshPlace container id).path ++ ['"', '\x7d'])) := by
    change String.ofList (compactChars (.object [(claimCheckLabel, .string _)])) = _
    simp [compactChars, compactMembers, compactMoreMembers, stringChars]
  have hslash : '/'.utf8Size = 1 := rfl
  have hclose : String.utf8Len ['"', '\x7d'] = 2 := rfl
  rw [htext, String.utf8ByteSize_ofList, String.utf8Len_append, hlabel, hpath,
    String.utf8Len_append, String.utf8Len_append, String.utf8Len_cons, hname, hslash, hclose]
  unfold escapedSize
  rw [String.utf8ByteSize_ofList]
  omega

end ClaimCheck
