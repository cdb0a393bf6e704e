import Mathlib
import ClaimCheck.Text.Decimal

/-!
# The digits of a number

The digits that are written for a number stand for that number when they are read from the left
(`valueOfDigits_decimal`).  There is at least one, and the first is no zero unless the number is zero
(`decimal_eq_cons`), so the readers that refuse a leading zero take them.
-/

namespace ClaimCheck.Text

/-- Only digits are written for a number. -/
lemma isDigit_of_mem_decimal {n : Nat} {c : Char} (hc : c ∈ decimal n) : isDigit c = true := by
  have hdigit := Nat.isDigit_of_mem_toDigits (by decide) (by decide) hc
  rw [Char.isDigit_iff_toNat] at hdigit
  simp only [isDigit, Bool.and_eq_true, decide_eq_true_eq, Char.le_def, UInt32.le_iff_toNat_le]
  exact hdigit

/-- The digits of a number stand for it. -/
lemma valueOfDigits_decimal (n : Nat) : valueOfDigits 0 (decimal n) = n := by
  have hstep : (fun (n : Nat) (c : Char) => n * 10 + digitValue c) =
      fun n c => 10 * n + (c.toNat - '0'.toNat) := by
    funext n c
    rw [Nat.mul_comm, digitValue]
  rw [valueOfDigits, hstep]
  exact Nat.ofDigitChars_ten_toDigits

/-- Digits that follow make a number no smaller. -/
lemma le_valueOfDigits (start : Nat) (digits : List Char) : start ≤ valueOfDigits start digits := by
  induction digits generalizing start with
  | nil => exact Nat.le_refl start
  | cons c rest ih =>
    have hstart : start ≤ start * 10 + digitValue c := by omega
    exact Nat.le_trans hstart (ih _)

/-- Digits that start with a zero are written for zero alone. -/
lemma decimal_eq_cons (n : Nat) :
    decimal n = ['0'] ∨ ∃ c rest, decimal n = c :: rest ∧ c ≠ '0' := by
  induction n using Nat.strongRecOn with
  | ind n ih =>
    by_cases hn : n < 10
    · have hdigits : decimal n = [n.digitChar] := Nat.toDigits_of_lt_base hn
      by_cases hzero : n = 0
      · left
        rw [hdigits, hzero]
        rfl
      · right
        exact ⟨n.digitChar, [], hdigits, fun h => hzero (Nat.digitChar_eq_zero.mp h)⟩
    · right
      have hdigits : decimal n = decimal (n / 10) ++ [(n % 10).digitChar] :=
        Nat.toDigits_of_base_le (by decide) (by omega)
      rcases ih (n / 10) (by omega) with hzero | ⟨c, rest, hcons, hc⟩
      · -- the digits before the last one stand for a tenth of the number, which is not zero
        have hvalue := valueOfDigits_decimal (n / 10)
        rw [hzero] at hvalue
        have : valueOfDigits 0 ['0'] = 0 := by decide
        omega
      · exact ⟨c, rest ++ [(n % 10).digitChar], by rw [hdigits, hcons, List.cons_append], hc⟩

end ClaimCheck.Text
