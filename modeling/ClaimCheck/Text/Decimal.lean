/-!
# Decimal numbers as text

Whole numbers written and read with the digits `0` to `9`.
-/

namespace ClaimCheck.Text

/-- Whether a character is one of the ten digits. -/
def isDigit (c : Char) : Bool := '0' ≤ c && c ≤ '9'

/-- The value of a digit. -/
def digitValue (c : Char) : Nat := c.toNat - '0'.toNat

/-- A number without leading zeros. -/
def decimal (n : Nat) : List Char := Nat.toDigits 10 n

/-- A number with a sign if it is below zero. -/
def signedDecimal (n : Int) : List Char :=
  if n < 0 then '-' :: decimal n.natAbs else decimal n.natAbs

/-- The number that digits stand for, the digits before them standing for `start`. -/
def valueOfDigits (start : Nat) (digits : List Char) : Nat :=
  digits.foldl (fun n c => n * 10 + digitValue c) start

/-- A number with at least `width` digits, filled up with zeros. -/
def paddedDecimal (width n : Nat) : List Char :=
  let digits := decimal n
  List.replicate (width - digits.length) '0' ++ digits

end ClaimCheck.Text
