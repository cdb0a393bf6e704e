import Mathlib
import ClaimCheck.Json.Reader

/-!
# Texts in documents

A text that is written between quotes reads back as itself, whatever characters it has
(`readString_escaped`): each character is written as one unit (`escapedChar`) that the reader takes
as that character, be it a letter after a backslash, four hexadecimal digits or the character
itself.

An object with one member whose value is a text therefore reads back as that object
(`Value.parse_compact_member`).
-/

namespace ClaimCheck.Json

open Text

/-! ## Escapes -/

/-- The characters of an escape that was read already are passed. -/
lemma readStringFrom_append (passed before rest : List Char) :
    readStringFrom passed.length before (passed ++ rest) = readStringFrom 0 before rest := by
  induction passed with
  | nil => rfl
  | cons c passed ih =>
    rw [List.length_cons, List.cons_append, readStringFrom, ih]

/-- A backslash and a letter stand for one character. -/
lemma readStringFrom_simple {letter c : Char} (hletter : letter ≠ 'u')
    (h : simpleEscape? letter = some c) (before rest : List Char) :
    readStringFrom 0 before ('\\' :: letter :: rest) = readStringFrom 0 (c :: before) rest := by
  have hread : readEscape (letter :: rest) = .ok (c, 1) := by
    rw [readEscape, if_neg hletter, h]
  rw [readStringFrom, if_neg (by decide), if_pos rfl, hread]
  exact readStringFrom_append [letter] (c :: before) rest

/-- The four digits that are written for a control character. -/
lemma fixedHex_control {n : Nat} (h : n < 0x20) :
    (fixedHex hexDigit 4 n).length = 4 ∧ byteLength (fixedHex hexDigit 4 n) = 4 ∧
      ((fixedHex hexDigit 4 n).all fun c => c.utf8Size = 1) = true ∧
      hexValueOf? (fixedHex hexDigit 4 n) = some n := by
  have hall : ∀ n < 0x20,
      (fixedHex hexDigit 4 n).length = 4 ∧ byteLength (fixedHex hexDigit 4 n) = 4 ∧
        ((fixedHex hexDigit 4 n).all fun c => c.utf8Size = 1) = true ∧
        hexValueOf? (fixedHex hexDigit 4 n) = some n := by decide
  exact hall n h

/-- Four digits stand for the control character that they were written for. -/
lemma readHexEscape_fixedHex {n : Nat} (h : n < 0x20) (rest : List Char) :
    readHexEscape (fixedHex hexDigit 4 n ++ rest) = .ok n := by
  obtain ⟨hlength, hbytes, hall, hvalue⟩ := fixedHex_control h
  have htake : (fixedHex hexDigit 4 n ++ rest).take 4 = fixedHex hexDigit 4 n := by
    rw [List.take_append_of_le_length (by rw [hlength]), List.take_of_length_le (by rw [hlength])]
  unfold readHexEscape
  simp only [htake, hbytes, hall, if_true, hvalue]
  rfl

/-- A control character reads back from its escape. -/
lemma readStringFrom_control {c : Char} (h : c.toNat < 0x20) (before rest : List Char) :
    readStringFrom 0 before ('\\' :: 'u' :: (fixedHex hexDigit 4 c.toNat ++ rest)) =
      readStringFrom 0 (c :: before) rest := by
  have hread : readEscape ('u' :: (fixedHex hexDigit 4 c.toNat ++ rest)) = .ok (c, 5) := by
    have htrailing : isTrailing c.toNat = false := by
      simp only [isTrailing, Bool.and_eq_false_imp, decide_eq_true_eq]
      omega
    have hleading : isLeading c.toNat = false := by
      simp only [isLeading, Bool.and_eq_false_imp, decide_eq_true_eq]
      omega
    rw [readEscape, if_pos rfl, readHexEscape_fixedHex h]
    simp [bind, Except.bind, htrailing, hleading]
  have hlength : ('u' :: fixedHex hexDigit 4 c.toNat).length = 5 := by
    rw [List.length_cons, (fixedHex_control h).1]
  rw [readStringFrom, if_neg (by decide), if_pos rfl, hread]
  have := readStringFrom_append ('u' :: fixedHex hexDigit 4 c.toNat) (c :: before) rest
  rwa [hlength] at this

/-- Every character reads back from the way it is written between quotes. -/
lemma readStringFrom_escapedChar (c : Char) (before rest : List Char) :
    readStringFrom 0 before (escapedChar c ++ rest) = readStringFrom 0 (c :: before) rest := by
  unfold escapedChar
  split
  · next h =>
    subst h
    exact readStringFrom_simple (by decide) (by decide) before rest
  split
  · next h =>
    subst h
    exact readStringFrom_simple (by decide) (by decide) before rest
  split
  · next h =>
    have hc : c = '\x08' := Char.toNat_inj.mp h
    subst hc
    exact readStringFrom_simple (by decide) (by decide) before rest
  split
  · next h =>
    subst h
    exact readStringFrom_simple (by decide) (by decide) before rest
  split
  · next h =>
    subst h
    exact readStringFrom_simple (by decide) (by decide) before rest
  split
  · next h =>
    have hc : c = '\x0c' := Char.toNat_inj.mp h
    subst hc
    exact readStringFrom_simple (by decide) (by decide) before rest
  split
  · next h =>
    subst h
    exact readStringFrom_simple (by decide) (by decide) before rest
  split
  · next h => exact readStringFrom_control h before rest
  · next hquote hslash _ _ _ _ _ hcontrol =>
    rw [List.singleton_append, readStringFrom, if_neg hquote, if_neg hslash, if_neg hcontrol]

/-! ## Texts -/

/-- A text reads back from its characters between quotes. -/
lemma readString_escaped (s : String) (rest : List Char) :
    readString (escaped s ++ '"' :: rest) = .ok (s, rest) := by
  have hfrom : ∀ (cs before : List Char),
      readStringFrom 0 before (cs.flatMap escapedChar ++ '"' :: rest) =
        .ok (String.ofList (before.reverse ++ cs), rest) := by
    intro cs
    induction cs with
    | nil =>
      intro before
      rw [List.flatMap_nil, List.nil_append, readStringFrom, if_pos rfl, List.append_nil]
    | cons c cs ih =>
      intro before
      rw [List.flatMap_cons, List.append_assoc, readStringFrom_escapedChar, ih,
        List.reverse_cons, List.append_assoc, List.singleton_append]
  have := hfrom s.toList []
  rwa [List.reverse_nil, List.nil_append, String.ofList_toList] at this

/-- A text value reads back from its characters. -/
lemma readValue_stringChars (fuel levels : Nat) (s : String) (rest : List Char) :
    readValue fuel levels (stringChars s ++ rest) = .ok (.string s, rest) := by
  have hchars : stringChars s ++ rest = '"' :: (escaped s ++ '"' :: rest) := by
    rw [stringChars, List.append_assoc, List.cons_append, List.singleton_append]
  rw [hchars, readValue.eq_def]
  simp [skipSpace, isSpace, isDigit, readString_escaped, Except.map]

/-! ## Objects with one text -/

/-- The members of an object with one text read back. -/
lemma readMembers_single (fuel levels : Nat) (key text : String) :
    readMembers (readEntry (readValue (fuel + 2) levels)) (fuel + 2) true []
        (compactMembers [(key, .string text)]) = .ok ([(key, .string text)], []) := by
  have hmembers : compactMembers [(key, .string text)] =
      '"' :: (escaped key ++ '"' :: ':' :: (stringChars text ++ ['\x7d'])) := by
    simp [compactMembers, compactChars, compactMoreMembers, stringChars]
  have hkey : nextKey true ('"' :: (escaped key ++ '"' :: ':' :: (stringChars text ++ ['\x7d']))) =
      .ok (some key, ':' :: (stringChars text ++ ['\x7d'])) := by
    simp [nextKey, skipSpace, isSpace, readString_escaped, Except.map]
  have hentry : readEntry (readValue (fuel + 2) levels) key []
      (':' :: (stringChars text ++ ['\x7d'])) = .ok ([(key, .string text)], ['\x7d']) := by
    have hcolon : readColon (':' :: (stringChars text ++ ['\x7d'])) =
        .ok (stringChars text ++ ['\x7d']) := by
      simp [readColon, skipSpace, isSpace]
    rw [readEntry, hcolon]
    dsimp only
    rw [readValue_stringChars]
    rfl
  have hend : nextKey false ['\x7d'] = .ok (none, []) := by
    simp [nextKey, skipSpace, isSpace]
  rw [hmembers, readMembers, hkey]
  dsimp only
  rw [hentry]
  dsimp only
  rw [readMembers, hend]

/-- A compact object with one text reads back as that object. -/
theorem Value.parse_compact_member (key text : String) :
    Value.parse (Value.object [(key, .string text)]).compact =
      .ok (.object [(key, .string text)]) := by
  have hchars : (Value.object [(key, .string text)]).compact.toList =
      '\x7b' :: compactMembers [(key, .string text)] := by
    rw [Value.compact, String.toList_ofList, compactChars]
  have hread : readValue ((compactMembers [(key, .string text)]).length + 1 + 1) maxLevels
      ('\x7b' :: compactMembers [(key, .string text)]) =
        .ok (.object [(key, .string text)], []) := by
    rw [readValue.eq_def]
    simp [skipSpace, isSpace, isDigit, maxLevels, readMembers_single, Except.map]
  rw [Value.parse, readAll, hchars, List.length_cons, hread]
  simp [skipSpace]

end ClaimCheck.Json
