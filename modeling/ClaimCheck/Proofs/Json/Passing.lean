import Mathlib
import ClaimCheck.Proofs.Json.Numbers

/-!
# Numbers with space behind them

A reader that reads something reads the same when a character of space is added to its text, which it
leaves behind the rest: one reader *passes* to another, often to itself (`Passes`).  The readers of
numbers have most to lose, since a number at the end of a text ends there without a character that
says so; space is none that goes on with it.
-/

namespace ClaimCheck.Json

open Text

variable {α β : Type} {c : Char}

/-- What one reader reads of a text, the next reads of that text with a character more, which it
leaves. -/
def Passes (c : Char) (reader next : Reader α) : Prop :=
  ∀ cs a rest, reader cs = .ok (a, rest) → next (cs ++ [c]) = .ok (a, rest ++ [c])

/-- Readers that go on with the value of a first one. -/
lemma Passes.andThen {reader next : Reader α} {f g : α → Reader β}
    (h : Passes c reader next) (hthen : ∀ a, Passes c (f a) (g a)) :
    Passes c
      (fun cs => match reader cs with
        | .error fault => .error fault
        | .ok (a, rest) => f a rest)
      (fun cs => match next cs with
        | .error fault => .error fault
        | .ok (a, rest) => g a rest) := by
  intro cs b rest heq
  dsimp only at heq ⊢
  cases hread : reader cs with
  | error fault =>
    rw [hread] at heq
    cases heq
  | ok result =>
    rw [hread] at heq
    rw [h cs result.1 result.2 hread]
    exact hthen _ _ b rest heq

/-- What is made of a value is made of the same value. -/
lemma Passes.map {reader next : Reader α} (h : Passes c reader next) (f : α → β) :
    Passes c (fun cs => (reader cs).map fun (a, rest) => (f a, rest))
      (fun cs => (next cs).map fun (a, rest) => (f a, rest)) := by
  intro cs b rest heq
  dsimp only at heq ⊢
  cases hread : reader cs with
  | error fault =>
    rw [hread] at heq
    cases heq
  | ok result =>
    rw [hread] at heq
    cases heq
    rw [h cs result.1 result.2 hread]
    rfl

/-! ## Numbers -/

/-- Space does not go on with a number. -/
lemma isNumeric_of_isSpace (hc : isSpace c = true) : isNumeric c = false := by
  by_contra hnumeric
  have hspace := (of_isNumeric (Bool.not_eq_false _ ▸ hnumeric)).1
  rw [hc] at hspace
  cases hspace

/-- Space is no digit. -/
lemma isDigit_of_isSpace (hc : isSpace c = true) : isDigit c = false := by
  by_contra hdigit
  have hnumeric := isNumeric_of_isDigit (Bool.not_eq_false _ ▸ hdigit)
  rw [isNumeric_of_isSpace hc] at hnumeric
  cases hnumeric

/-- Digits are dropped up to what follows them. -/
lemma dropWhile_isDigit_concat (hc : isSpace c = true) (cs : List Char) :
    (cs ++ [c]).dropWhile isDigit = cs.dropWhile isDigit ++ [c] := by
  have hlast : [c].dropWhile isDigit = [c] := by
    rw [List.dropWhile_cons_of_neg (by simp [isDigit_of_isSpace hc])]
  rw [List.dropWhile_append, hlast]
  split
  · next hempty => rw [List.isEmpty_iff.mp hempty, List.nil_append]
  · rfl

/-- A fraction takes nothing more. -/
lemma passes_readFraction (c : Char) (negative : Bool) (digits : Nat) (exponent : Int) :
    Passes c (readFraction negative digits exponent) (readFraction negative digits exponent) := by
  intro cs a rest h
  unfold readFraction at h ⊢
  dsimp only at h ⊢
  split at h
  · cases h
    rfl
  · cases h

/-- The digits of an exponent end where they did. -/
lemma passes_readExponentDigits (hc : isSpace c = true) (negative below : Bool) (digits : Nat)
    (start : Int) (exponent : Nat) :
    Passes c (readExponentDigits negative below digits start exponent)
      (readExponentDigits negative below digits start exponent) := by
  intro cs a rest h
  induction cs generalizing exponent with
  | nil =>
    rw [List.nil_append, readExponentDigits, if_neg (by simp [isDigit_of_isSpace hc])]
    exact passes_readFraction c _ _ _ [] a rest h
  | cons d cs ih =>
    rw [readExponentDigits] at h
    rw [List.cons_append, readExponentDigits]
    by_cases hdigit : isDigit d = true
    · rw [if_pos hdigit] at h ⊢
      -- the digits of an exponent that is too large are dropped at once
      by_cases hlarge : maxExponent < exponent * 10 + digitValue d
      · rw [if_pos hlarge] at h ⊢
        split at h
        · cases h
        · next hbelow =>
          cases h
          rw [if_neg hbelow, dropWhile_isDigit_concat hc]
      · rw [if_neg hlarge] at h ⊢
        exact ih _ h
    · rw [if_neg hdigit] at h ⊢
      exact passes_readFraction c _ _ _ (d :: cs) a rest h

/-- A text with space at its end that starts with something else started with it before. -/
lemma exists_of_concat_eq_cons {d : Char} {cs rest : List Char} (hc : isSpace c = true)
    (hd : isSpace d = false) (h : cs ++ [c] = d :: rest) : ∃ left, cs = d :: left := by
  cases cs with
  | nil =>
    cases h
    rw [hc] at hd
    cases hd
  | cons e cs =>
    cases h
    exact ⟨cs, rfl⟩

/-- A text that does not start with something else than space does not do so with space at its end. -/
lemma concat_ne_cons {d : Char} {cs rest : List Char} (hc : isSpace c = true)
    (hd : isSpace d = false) (hcs : ∀ left, cs = d :: left → False) (h : cs ++ [c] = d :: rest) :
    False := by
  obtain ⟨left, hleft⟩ := exists_of_concat_eq_cons hc hd h
  exact hcs left hleft

/-- The digits of an exponent, of which there is at least one. -/
def readExponentBehind (negative below : Bool) (digits : Nat) (start : Int) : Reader Value
  | [] => .error (.before .endInValue [])
  | d :: rest =>
    if isDigit d then readExponentDigits negative below digits start (digitValue d) rest
    else .error (.past .invalidNumber (d :: rest))

/-- An exponent behind its sign is read alike. -/
lemma passes_readExponentBehind (hc : isSpace c = true) (negative below : Bool) (digits : Nat)
    (start : Int) : Passes c (readExponentBehind negative below digits start)
      (readExponentBehind negative below digits start) := by
  intro cs a rest h
  cases cs with
  | nil => cases h
  | cons d cs =>
    rw [readExponentBehind] at h
    rw [List.cons_append, readExponentBehind]
    split at h
    · next hdigit =>
      rw [if_pos hdigit]
      exact passes_readExponentDigits hc _ _ _ _ _ cs a rest h
    · cases h

/-- The sign of an exponent, and the text behind it. -/
def exponentSign : List Char → Bool × List Char
  | '+' :: rest => (false, rest)
  | '-' :: rest => (true, rest)
  | rest => (false, rest)

/-- The sign of an exponent is told by its first character. -/
lemma exponentSign_concat (hc : isSpace c = true) (cs : List Char) :
    exponentSign (cs ++ [c]) = ((exponentSign cs).1, (exponentSign cs).2 ++ [c]) := by
  unfold exponentSign
  split
  · next heq =>
    obtain ⟨left, rfl⟩ := exists_of_concat_eq_cons hc (by decide) heq
    cases heq
    rfl
  · next heq =>
    obtain ⟨left, rfl⟩ := exists_of_concat_eq_cons hc (by decide) heq
    cases heq
    rfl
  · next hplus hminus =>
    split
    · exact absurd rfl (hplus _)
    · exact absurd rfl (hminus _)
    · rfl

/-- An exponent is read alike. -/
lemma passes_readExponent (hc : isSpace c = true) (negative : Bool) (digits : Nat) (start : Int) :
    Passes c (readExponent negative digits start) (readExponent negative digits start) := by
  have hsigned : ∀ cs, readExponent negative digits start cs =
      readExponentBehind negative (exponentSign cs).1 digits start (exponentSign cs).2 :=
    fun _ => rfl
  intro cs a rest h
  rw [hsigned] at h ⊢
  rw [exponentSign_concat hc]
  exact passes_readExponentBehind hc _ _ _ _ _ a rest h

/-- A fraction ends alike. -/
lemma passes_endFraction (hc : isSpace c = true) (negative : Bool) (digits : Nat) (exponent : Int) :
    Passes c (endFraction negative digits exponent) (endFraction negative digits exponent) := by
  intro cs a rest h
  unfold endFraction at h
  split at h
  · exact passes_readExponent hc _ _ _ _ a rest h
  · exact passes_readExponent hc _ _ _ _ a rest h
  · next hsmall hlarge =>
    unfold endFraction
    split
    · next heq => exact (concat_ne_cons hc (by decide) hsmall heq).elim
    · next heq => exact (concat_ne_cons hc (by decide) hlarge heq).elim
    · exact passes_readFraction c _ _ _ cs a rest h

/-- The digits behind a point are read alike. -/
lemma passes_readPlaces (hc : isSpace c = true) (negative : Bool) (start : Int)
    (digits places : Nat) :
    Passes c (readPlaces negative start digits places) (readPlaces negative start digits places) := by
  intro cs a rest h
  induction cs generalizing digits places with
  | nil =>
    rw [readPlaces] at h
    rw [List.nil_append, readPlaces, if_neg (by simp [isDigit_of_isSpace hc])]
    split at h
    · cases h
    · next hplaces =>
      rw [if_neg hplaces]
      exact passes_endFraction hc _ _ _ [] a rest h
  | cons d cs ih =>
    rw [readPlaces] at h
    rw [List.cons_append, readPlaces]
    by_cases hdigit : isDigit d = true
    · rw [if_pos hdigit] at h ⊢
      split at h
      · next hlarge =>
        rw [if_pos hlarge, ← List.cons_append, dropWhile_isDigit_concat hc]
        exact passes_endFraction hc _ _ _ _ a rest h
      · next hsmall =>
        rw [if_neg hsmall]
        exact ih _ _ h
    · rw [if_neg hdigit] at h ⊢
      split at h
      · cases h
      · next hplaces =>
        rw [if_neg hplaces]
        exact passes_endFraction hc _ _ _ (d :: cs) a rest h

/-- A whole number takes nothing more. -/
lemma passes_wholeOrFraction (c : Char) (negative : Bool) (digits : Nat) :
    Passes c (wholeOrFraction negative digits) (wholeOrFraction negative digits) := by
  intro cs a rest h
  unfold wholeOrFraction at h ⊢
  split at h
  · next hnegative =>
    rw [if_pos hnegative]
    split at h
    · next hword =>
      cases h
      rw [dif_pos hword]
    · next hword =>
      rw [dif_neg hword]
      exact passes_readFraction c _ _ _ cs a rest h
  · next hnegative =>
    rw [if_neg hnegative]
    split at h
    · next hword =>
      cases h
      rw [dif_pos hword]
    · next hword =>
      rw [dif_neg hword]
      exact passes_readFraction c _ _ _ cs a rest h

/-- What follows the digits of a number is read alike. -/
lemma passes_afterWhole (hc : isSpace c = true) (negative : Bool) (digits : Nat) :
    Passes c (afterWhole negative digits) (afterWhole negative digits) := by
  intro cs a rest h
  unfold afterWhole at h
  split at h
  · exact passes_readPlaces hc _ _ _ _ _ a rest h
  · exact passes_readExponent hc _ _ _ _ a rest h
  · exact passes_readExponent hc _ _ _ _ a rest h
  · next hpoint hsmall hlarge =>
    unfold afterWhole
    split
    · next heq => exact (concat_ne_cons hc (by decide) hpoint heq).elim
    · next heq => exact (concat_ne_cons hc (by decide) hsmall heq).elim
    · next heq => exact (concat_ne_cons hc (by decide) hlarge heq).elim
    · exact passes_wholeOrFraction c _ _ cs a rest h

/-- Digits that no longer fit are read alike. -/
lemma passes_readLongWhole (hc : isSpace c = true) (negative : Bool) (digits dropped : Nat) :
    Passes c (readLongWhole negative digits dropped) (readLongWhole negative digits dropped) := by
  intro cs a rest h
  induction cs generalizing dropped with
  | nil =>
    have hpoint : c ≠ '.' := by
      rintro rfl
      cases hc
    rw [List.nil_append, readLongWhole, if_neg (by simp [isDigit_of_isSpace hc]), if_neg hpoint]
    exact passes_endFraction hc _ _ _ [] a rest h
  | cons d cs ih =>
    rw [readLongWhole] at h
    rw [List.cons_append, readLongWhole]
    by_cases hdigit : isDigit d = true
    · rw [if_pos hdigit] at h ⊢
      exact ih _ h
    rw [if_neg hdigit] at h ⊢
    by_cases hpoint : d = '.'
    · rw [if_pos hpoint] at h ⊢
      exact passes_readPlaces hc _ _ _ _ cs a rest h
    · rw [if_neg hpoint] at h ⊢
      exact passes_endFraction hc _ _ _ (d :: cs) a rest h

/-- The digits of a number are read alike. -/
lemma passes_readWhole (hc : isSpace c = true) (negative : Bool) (digits : Nat) :
    Passes c (readWhole negative digits) (readWhole negative digits) := by
  intro cs a rest h
  induction cs generalizing digits with
  | nil =>
    rw [List.nil_append, readWhole, if_neg (by simp [isDigit_of_isSpace hc])]
    exact passes_afterWhole hc _ _ [] a rest h
  | cons d cs ih =>
    rw [readWhole] at h
    rw [List.cons_append, readWhole]
    by_cases hdigit : isDigit d = true
    · rw [if_pos hdigit] at h ⊢
      split at h
      · next hlarge =>
        rw [if_pos hlarge]
        exact passes_readLongWhole hc _ _ _ (d :: cs) a rest h
      · next hsmall =>
        rw [if_neg hsmall]
        exact ih _ h
    · rw [if_neg hdigit] at h ⊢
      exact passes_afterWhole hc _ _ (d :: cs) a rest h

/-- A number is read alike. -/
lemma passes_readNumber (hc : isSpace c = true) (negative : Bool) :
    Passes c (readNumber negative) (readNumber negative) := by
  intro cs a rest h
  unfold readNumber at h
  split at h
  · cases h
  · -- a zero stands alone, so what matters is whether a digit follows it
    split at h
    · change (if isDigit c = true then _ else afterWhole negative 0 [c]) = _
      rw [if_neg (by simp [isDigit_of_isSpace hc])]
      exact passes_afterWhole hc _ _ [] a rest h
    · next d cs =>
      split at h
      · cases h
      · next hdigit =>
        change (if isDigit d = true then _ else afterWhole negative 0 (d :: cs ++ [c])) = _
        rw [if_neg hdigit]
        exact passes_afterWhole hc _ _ (d :: cs) a rest h
  · next d cs hzero =>
    split at h
    · next hdigit =>
      have hread : readNumber negative (d :: cs ++ [c]) =
          readWhole negative (digitValue d) (cs ++ [c]) := by
        rw [List.cons_append]
        unfold readNumber
        split
        · next heq => cases heq
        · next heq =>
          cases heq
          exact (hzero rfl).elim
        · next heq =>
          cases heq
          exact if_pos hdigit
      rw [hread]
      exact passes_readWhole hc _ _ cs a rest h
    · cases h

end ClaimCheck.Json
