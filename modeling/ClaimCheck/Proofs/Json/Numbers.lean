import Mathlib
import ClaimCheck.Json.Printer
import ClaimCheck.Json.Reader
import ClaimCheck.Proofs.Json.Agreement
import ClaimCheck.Proofs.Text.Decimal

/-!
# Numbers in documents

The readers of numbers take number characters only (`TakesNumber`), and every number is written with
number characters only (`isNumeric_fractionChars`, `isNumeric_signedDecimal`).  Nothing is said of
which fraction is read: one that is written need not come back as itself.

So whatever a reader leaves of a number that was written cannot be taken for a comma or a bracket
behind it (`left_of_append_eq`).

A whole number is read back, with its sign, whatever follows it as long as this does not go on with
the number (`readValue_signedDecimal`).
-/

namespace ClaimCheck.Json

open Text

/-! ## Characters of numbers -/

/-- Whether a character may stand in a number. -/
def isNumeric (c : Char) : Bool :=
  isDigit c || c == '-' || c == '+' || c == '.' || c == 'e' || c == 'E'

/-- A digit may stand in a number. -/
lemma isNumeric_of_isDigit {c : Char} (h : isDigit c = true) : isNumeric c = true := by
  simp [isNumeric, h]

/-- A character of a number is neither space nor a part of a container. -/
lemma of_isNumeric {c : Char} (h : isNumeric c = true) :
    isSpace c = false ∧ c ≠ ',' ∧ c ≠ ']' ∧ c ≠ '\x7d' := by
  refine ⟨?_, ?_, ?_, ?_⟩
  · by_contra hspace
    simp only [isSpace, Bool.not_eq_false, Bool.or_eq_true, beq_iff_eq] at hspace
    rcases hspace with ((rfl | rfl) | rfl) | rfl <;> exact absurd h (by decide)
  all_goals
    rintro rfl
    exact absurd h (by decide)

/-- A text that does not go on with a number. -/
def EndsNumber (cs : List Char) : Prop := ∀ c rest, cs = c :: rest → isNumeric c = false

/-- Number characters before a text that does not go on with a number: what is left after some of
the number characters were taken ends with this text. -/
lemma left_of_append_eq {number taken r rest : List Char} (hrest : EndsNumber rest)
    (htaken : ∀ c ∈ taken, isNumeric c = true) (heq : number ++ rest = taken ++ r) :
    ∃ left, r = left ++ rest ∧ number = taken ++ left := by
  rcases List.append_eq_append_iff.mp heq with ⟨left, htaken', hrest'⟩ | ⟨left, hnumber, hr⟩
  · cases left with
    | nil => exact ⟨[], by simpa using hrest'.symm, by simpa using htaken'.symm⟩
    | cons c left =>
      have hc : isNumeric c = true := htaken c (by rw [htaken']; simp)
      rw [hrest c (left ++ r) hrest'] at hc
      cases hc
  · exact ⟨left, hr, hnumber⟩

/-! ## Reading numbers -/

/-- A number was read, and only number characters were taken for it. -/
def TookNumber (cs : List Char) (u : Value) (r : List Char) : Prop :=
  u.kind = .number ∧ ∃ taken, cs = taken ++ r ∧ ∀ c ∈ taken, isNumeric c = true

/-- A reader that reads a number and takes number characters only. -/
def TakesNumber (reader : Reader Value) : Prop :=
  ∀ cs u r, reader cs = .ok (u, r) → TookNumber cs u r

variable {c : Char} {cs rest r : List Char} {u : Value}

/-- A number was read, and nothing more was taken for it. -/
lemma TookNumber.here (hkind : u.kind = .number) : TookNumber r u r :=
  ⟨hkind, [], rfl, fun _ h => absurd h List.not_mem_nil⟩

/-- One more number character was taken before. -/
lemma TookNumber.cons (hc : isNumeric c = true) (h : TookNumber rest u r) :
    TookNumber (c :: rest) u r := by
  obtain ⟨hkind, taken, rfl, htaken⟩ := h
  refine ⟨hkind, c :: taken, rfl, fun d hd => ?_⟩
  rcases List.mem_cons.mp hd with rfl | hd
  · exact hc
  · exact htaken d hd

/-- Digits were passed before. -/
lemma TookNumber.digits (h : TookNumber (cs.dropWhile isDigit) u r) : TookNumber cs u r := by
  induction cs with
  | nil => exact h
  | cons c rest ih =>
    rw [List.dropWhile_cons] at h
    split at h
    · next hdigit => exact (ih h).cons (isNumeric_of_isDigit hdigit)
    · exact h

/-- A fraction is made of what was taken already. -/
lemma takesNumber_readFraction (negative : Bool) (digits : Nat) (exponent : Int) :
    TakesNumber (readFraction negative digits exponent) := by
  intro cs u r hread
  unfold readFraction at hread
  dsimp only at hread
  split at hread
  · cases hread
    exact .here rfl
  · cases hread

/-- A whole number is made of what was taken already. -/
lemma takesNumber_wholeOrFraction (negative : Bool) (digits : Nat) :
    TakesNumber (wholeOrFraction negative digits) := by
  intro cs u r hread
  unfold wholeOrFraction at hread
  split at hread
  · split at hread
    · cases hread
      exact .here rfl
    · exact takesNumber_readFraction _ _ _ cs u r hread
  · split at hread
    · cases hread
      exact .here rfl
    · exact takesNumber_readFraction _ _ _ cs u r hread

/-- The digits of an exponent. -/
lemma takesNumber_readExponentDigits (negative below : Bool) (digits : Nat) (start : Int)
    (exponent : Nat) : TakesNumber (readExponentDigits negative below digits start exponent) := by
  intro cs
  induction cs generalizing exponent with
  | nil => exact fun u r hread => takesNumber_readFraction _ _ _ [] u r hread
  | cons c rest ih =>
    intro u r hread
    rw [readExponentDigits] at hread
    split at hread
    · next hdigit =>
      refine TookNumber.cons (isNumeric_of_isDigit hdigit) ?_
      split at hread
      · split at hread
        · cases hread
        · cases hread
          exact TookNumber.digits (.here rfl)
      · exact ih _ u r hread
    · exact takesNumber_readFraction _ _ _ _ u r hread

/-- An exponent after its letter. -/
lemma takesNumber_readExponent (negative : Bool) (digits : Nat) (start : Int) :
    TakesNumber (readExponent negative digits start) := by
  intro cs u r hread
  unfold readExponent at hread
  dsimp only at hread
  split at hread
  · cases hread
  · next c rest hsigned =>
    split at hread
    · next hdigit =>
      -- the digits stand behind a sign or at once
      have hrest : TookNumber (c :: rest) u r :=
        (takesNumber_readExponentDigits _ _ _ _ _ _ u r hread).cons (isNumeric_of_isDigit hdigit)
      rw [← hsigned] at hrest
      split at hrest
      · exact hrest.cons (by decide)
      · exact hrest.cons (by decide)
      · exact hrest
    · cases hread

/-- The end of a fraction. -/
lemma takesNumber_endFraction (negative : Bool) (digits : Nat) (exponent : Int) :
    TakesNumber (endFraction negative digits exponent) := by
  intro cs u r hread
  unfold endFraction at hread
  split at hread
  · exact (takesNumber_readExponent _ _ _ _ u r hread).cons (by decide)
  · exact (takesNumber_readExponent _ _ _ _ u r hread).cons (by decide)
  · exact takesNumber_readFraction _ _ _ _ u r hread

/-- The digits after a point. -/
lemma takesNumber_readPlaces (negative : Bool) (start : Int) (digits places : Nat) :
    TakesNumber (readPlaces negative start digits places) := by
  intro cs
  induction cs generalizing digits places with
  | nil =>
    intro u r hread
    rw [readPlaces] at hread
    split at hread
    · cases hread
    · exact takesNumber_readFraction _ _ _ _ u r hread
  | cons c rest ih =>
    intro u r hread
    rw [readPlaces] at hread
    split at hread
    · next hdigit =>
      split at hread
      · exact TookNumber.digits (takesNumber_endFraction _ _ _ _ u r hread)
      · exact (ih _ _ u r hread).cons (isNumeric_of_isDigit hdigit)
    · split at hread
      · cases hread
      · exact takesNumber_endFraction _ _ _ _ u r hread

/-- What follows the digits before a point. -/
lemma takesNumber_afterWhole (negative : Bool) (digits : Nat) :
    TakesNumber (afterWhole negative digits) := by
  intro cs u r hread
  unfold afterWhole at hread
  split at hread
  · exact (takesNumber_readPlaces _ _ _ _ _ u r hread).cons (by decide)
  · exact (takesNumber_readExponent _ _ _ _ u r hread).cons (by decide)
  · exact (takesNumber_readExponent _ _ _ _ u r hread).cons (by decide)
  · exact takesNumber_wholeOrFraction _ _ _ u r hread

/-- The digits of a number that is too long for a word. -/
lemma takesNumber_readLongWhole (negative : Bool) (digits dropped : Nat) :
    TakesNumber (readLongWhole negative digits dropped) := by
  intro cs
  induction cs generalizing dropped with
  | nil => exact fun u r hread => takesNumber_readFraction _ _ _ [] u r hread
  | cons c rest ih =>
    intro u r hread
    rw [readLongWhole] at hread
    split at hread
    · next hdigit => exact (ih _ u r hread).cons (isNumeric_of_isDigit hdigit)
    split at hread
    · next hpoint =>
      subst hpoint
      exact (takesNumber_readPlaces _ _ _ _ _ u r hread).cons (by decide)
    · exact takesNumber_endFraction _ _ _ _ u r hread

/-- The digits before a point. -/
lemma takesNumber_readWhole (negative : Bool) (digits : Nat) :
    TakesNumber (readWhole negative digits) := by
  intro cs
  induction cs generalizing digits with
  | nil => exact fun u r hread => takesNumber_wholeOrFraction _ _ [] u r hread
  | cons c rest ih =>
    intro u r hread
    rw [readWhole] at hread
    split at hread
    · next hdigit =>
      split at hread
      · exact takesNumber_readLongWhole _ _ _ _ u r hread
      · exact (ih _ u r hread).cons (isNumeric_of_isDigit hdigit)
    · exact takesNumber_afterWhole _ _ _ u r hread

/-- A number after its sign. -/
lemma takesNumber_readNumber (negative : Bool) : TakesNumber (readNumber negative) := by
  intro cs u r hread
  unfold readNumber at hread
  split at hread
  · cases hread
  · refine TookNumber.cons (by decide) ?_
    split at hread
    · exact takesNumber_wholeOrFraction _ _ _ u r hread
    · split at hread
      · cases hread
      · exact takesNumber_afterWhole _ _ _ u r hread
  · split at hread
    · next hdigit =>
      exact (takesNumber_readWhole _ _ _ u r hread).cons (isNumeric_of_isDigit hdigit)
    · cases hread

/-! ## Written numbers -/

/-- The digits of a whole number. -/
lemma isNumeric_of_mem_decimal {n : Nat} {c : Char} (hc : c ∈ decimal n) : isNumeric c = true :=
  isNumeric_of_isDigit (isDigit_of_mem_decimal hc)

/-- The digits of a fraction, with a point or an exponent, are there and are number characters. -/
lemma isNumeric_decimalChars (d : DecimalDigits) :
    decimalChars d ≠ [] ∧ ∀ c ∈ decimalChars d, isNumeric c = true := by
  have hdigits : ∀ c ∈ decimal d.digits, isNumeric c = true := fun _ => isNumeric_of_mem_decimal
  have hzeros : ∀ n, ∀ c ∈ List.replicate n '0', isNumeric c = true := by
    intro n c hc
    rw [List.eq_of_mem_replicate hc]
    decide
  have hne : decimal d.digits ≠ [] := Nat.toDigits_ne_nil
  unfold decimalChars
  dsimp only
  split
  · refine ⟨by simp, ?_⟩
    rw [List.forall_mem_append, List.forall_mem_append]
    exact ⟨⟨hdigits, hzeros _⟩, by simp [isNumeric, isDigit]⟩
  split
  · refine ⟨by simp, ?_⟩
    rw [List.forall_mem_append, List.forall_mem_cons]
    exact ⟨fun c hc => hdigits c (List.mem_of_mem_take hc), by decide,
      fun c hc => hdigits c (List.mem_of_mem_drop hc)⟩
  split
  · refine ⟨by simp, ?_⟩
    rw [List.forall_mem_append, List.forall_mem_append]
    exact ⟨⟨by simp [isNumeric, isDigit], hzeros _⟩, hdigits⟩
  · have hexponent : ∀ c ∈ 'e' :: (if pointPosition d - 1 < 0 then '-' else '+') ::
        decimal (pointPosition d - 1).natAbs, isNumeric c = true := by
      rw [List.forall_mem_cons, List.forall_mem_cons]
      refine ⟨by decide, ?_, fun _ => isNumeric_of_mem_decimal⟩
      split <;> decide
    split
    · next hnil => exact absurd hnil hne
    · next digit hone =>
      rw [hone, List.forall_mem_cons] at hdigits
      exact ⟨by simp, List.forall_mem_cons.mpr ⟨hdigits.1, hexponent⟩⟩
    · next digit rest _ hmore =>
      rw [hmore, List.forall_mem_cons] at hdigits
      refine ⟨by simp, ?_⟩
      rw [List.forall_mem_append, List.forall_mem_cons, List.forall_mem_cons]
      exact ⟨⟨hdigits.1, by decide, hdigits.2⟩, hexponent⟩

/-- A fraction is written with number characters. -/
lemma isNumeric_fractionChars (x : Double) :
    fractionChars x ≠ [] ∧ ∀ c ∈ fractionChars x, isNumeric c = true := by
  have hmagnitude : (if x.mantissa = 0 then ['0', '.', '0'] else decimalChars x.shortest) ≠ [] ∧
      ∀ c ∈ if x.mantissa = 0 then ['0', '.', '0'] else decimalChars x.shortest,
        isNumeric c = true := by
    split
    · exact ⟨by simp, by simp [isNumeric, isDigit]⟩
    · exact isNumeric_decimalChars _
  unfold fractionChars
  dsimp only
  split
  · exact ⟨by simp, List.forall_mem_cons.mpr ⟨by decide, hmagnitude.2⟩⟩
  · exact hmagnitude

/-- A whole number is written with number characters. -/
lemma isNumeric_signedDecimal (n : Int) :
    signedDecimal n ≠ [] ∧ ∀ c ∈ signedDecimal n, isNumeric c = true := by
  unfold signedDecimal
  split
  · exact ⟨by simp, List.forall_mem_cons.mpr ⟨by decide, fun _ => isNumeric_of_mem_decimal⟩⟩
  · exact ⟨Nat.toDigits_ne_nil, fun _ => isNumeric_of_mem_decimal⟩

/-! ## Whole numbers -/

section Whole

variable (negative : Bool)

/-- A text that does not go on with a number does not go on with a digit. -/
lemma EndsNumber.not_isDigit (hrest : EndsNumber (c :: rest)) : ¬isDigit c = true := by
  intro hdigit
  have hc := hrest c rest rfl
  rw [isNumeric_of_isDigit hdigit] at hc
  cases hc

/-- A number that is not gone on with ends as a whole number. -/
lemma afterWhole_of_endsNumber (digits : Nat) (hrest : EndsNumber rest) :
    afterWhole negative digits rest = wholeOrFraction negative digits rest := by
  unfold afterWhole
  split
  · next tail => exact absurd (hrest '.' tail rfl) (by decide)
  · next tail => exact absurd (hrest 'e' tail rfl) (by decide)
  · next tail => exact absurd (hrest 'E' tail rfl) (by decide)
  · rfl

/-- Digits are gathered up to the end of a number that a word holds. -/
lemma readWhole_append {digits : List Char} (hdigits : ∀ c ∈ digits, isDigit c = true) {start : Nat}
    (hword : valueOfDigits start digits ≤ maxWord) (hrest : EndsNumber rest) :
    readWhole negative start (digits ++ rest) =
      wholeOrFraction negative (valueOfDigits start digits) rest := by
  induction digits generalizing start with
  | nil =>
    rw [List.nil_append]
    cases rest with
    | nil => rfl
    | cons c rest =>
      rw [readWhole, if_neg hrest.not_isDigit]
      exact afterWhole_of_endsNumber negative start hrest
  | cons c digits ih =>
    obtain ⟨hc, hdigits⟩ := List.forall_mem_cons.mp hdigits
    have hfits : ¬maxWord < start * 10 + digitValue c :=
      Nat.not_lt.mpr (Nat.le_trans (le_valueOfDigits _ digits) hword)
    rw [List.cons_append, readWhole, if_pos hc, if_neg hfits]
    exact ih hdigits hword

/-- The digits of a number that a word holds are read as that number. -/
lemma readNumber_append {n : Nat} (hword : n ≤ maxWord) (hrest : EndsNumber rest) :
    readNumber negative (decimal n ++ rest) = wholeOrFraction negative n rest := by
  rcases decimal_eq_cons n with hzero | ⟨c, digits, hcons, hc⟩
  · have hvalue : n = 0 := by
      rw [← valueOfDigits_decimal n, hzero]
      rfl
    rw [hzero, hvalue, List.singleton_append]
    cases rest with
    | nil => rfl
    | cons c rest =>
      rw [readNumber]
      simp only [if_neg hrest.not_isDigit]
      exact afterWhole_of_endsNumber negative 0 hrest
  · have hdigits : ∀ d ∈ c :: digits, isDigit d = true := fun d hd =>
      isDigit_of_mem_decimal (by rw [hcons]; exact hd)
    obtain ⟨hdigit, hmore⟩ := List.forall_mem_cons.mp hdigits
    have hvalue : valueOfDigits (digitValue c) digits = n := by
      have := valueOfDigits_decimal n
      rwa [hcons, valueOfDigits, List.foldl_cons, Nat.zero_mul, Nat.zero_add] at this
    have hread : readNumber negative (c :: (digits ++ rest)) =
        readWhole negative (digitValue c) (digits ++ rest) := by
      unfold readNumber
      split
      · next h => cases h
      · next h =>
        cases h
        exact absurd rfl hc
      · next h =>
        cases h
        rw [if_pos hdigit]
    rw [hcons, List.cons_append, hread,
      readWhole_append negative hmore (by rw [hvalue]; exact hword) hrest, hvalue]

end Whole

/-- The digits of a word are read as that word. -/
lemma readNumber_decimal (word : UInt64) (hrest : EndsNumber rest) :
    readNumber false (decimal word.toNat ++ rest) = .ok (.whole (.ofWord word), rest) := by
  have hword : word.toNat ≤ maxWord := by
    have := word.toNat_lt
    simp only [maxWord]
    omega
  rw [readNumber_append false hword hrest, wholeOrFraction, if_neg Bool.false_ne_true,
    dif_pos hword]
  rfl

/-- A digit starts a number. -/
lemma readValue_digit {fuel levels : Nat} (hdigit : isDigit c = true) :
    readValue fuel levels (c :: cs) = readNumber false (c :: cs) := by
  have hspace := (of_isNumeric (isNumeric_of_isDigit hdigit)).1
  have hplain : ∀ d, isDigit d = false → c ≠ d := by
    rintro d hd rfl
    rw [hdigit] at hd
    cases hd
  rw [readValue.eq_def]
  simp only [skipSpace, List.dropWhile_cons, hspace, Bool.false_eq_true, if_false]
  rw [if_neg (hplain _ (by decide)), if_neg (hplain _ (by decide)), if_neg (hplain _ (by decide)),
    if_neg (hplain _ (by decide)), if_pos hdigit]

/-- A minus sign starts a number. -/
lemma readValue_minus {fuel levels : Nat} :
    readValue fuel levels ('-' :: cs) = readNumber true cs := by
  rw [readValue.eq_def]
  simp [skipSpace, isSpace]

/-- A whole number is read back, with its sign. -/
lemma readValue_signedDecimal (fuel levels : Nat) (n : Whole) (hrest : EndsNumber rest) :
    readValue fuel levels (signedDecimal n.value ++ rest) = .ok (.whole n, rest) := by
  have hlower := n.lower
  have hupper := n.upper
  have hword : n.value.natAbs ≤ maxWord := by
    simp only [maxWord]
    omega
  unfold signedDecimal
  split
  · next hnegative =>
    have hfits : n.value.natAbs ≠ 0 ∧ n.value.natAbs ≤ 0x8000000000000000 := by omega
    have hvalue : -(n.value.natAbs : Int) = n.value := by omega
    rw [List.cons_append, readValue_minus, readNumber_append true hword hrest, wholeOrFraction,
      if_pos rfl, dif_pos hfits]
    simp only [hvalue]
  · next hpositive =>
    have hvalue : (n.value.natAbs : Int) = n.value := by omega
    obtain ⟨c, digits, hcons⟩ :=
      List.exists_cons_of_ne_nil (l := decimal n.value.natAbs) Nat.toDigits_ne_nil
    have hdigit : isDigit c = true :=
      isDigit_of_mem_decimal (by rw [hcons]; exact List.mem_cons_self)
    have hnumber := readNumber_append false hword hrest
    rw [hcons, List.cons_append] at hnumber ⊢
    rw [readValue_digit hdigit, hnumber, wholeOrFraction, if_neg Bool.false_ne_true, dif_pos hword]
    simp only [hvalue]

end ClaimCheck.Json
