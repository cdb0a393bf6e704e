/-!
# Hexadecimal digits

Digits in lower and upper case, and numbers and bytes written with them.
-/

namespace ClaimCheck.Text

/-- The lower-case digit of a number below sixteen. -/
def hexDigit (n : Nat) : Char :=
  if n < 10 then Char.ofNat ('0'.toNat + n) else Char.ofNat ('a'.toNat + (n - 10))

/-- The upper-case digit of a number below sixteen. -/
def upperHexDigit (n : Nat) : Char :=
  if n < 10 then Char.ofNat ('0'.toNat + n) else Char.ofNat ('A'.toNat + (n - 10))

/-- The value of a digit in either case. -/
def hexValue? (c : Char) : Option Nat :=
  if '0' ≤ c ∧ c ≤ '9' then some (c.toNat - '0'.toNat)
  else if 'a' ≤ c ∧ c ≤ 'f' then some (c.toNat - 'a'.toNat + 10)
  else if 'A' ≤ c ∧ c ≤ 'F' then some (c.toNat - 'A'.toNat + 10)
  else none

/-- The last `width` digits of a number. -/
def fixedHex (digit : Nat → Char) : (width : Nat) → Nat → List Char
  | 0, _ => []
  | width + 1, n => fixedHex digit width (n / 16) ++ [digit (n % 16)]

/-- How many hexadecimal digits a number has; zero has one. -/
def hexWidth (n : Nat) : Nat := Nat.log2 n / 4 + 1

/-- A number without leading zeros. -/
def hexNumber (n : Nat) : List Char := fixedHex hexDigit (hexWidth n) n

/-- Two digits a byte. -/
def hexBytes (bytes : List UInt8) : List Char :=
  bytes.flatMap fun b => fixedHex hexDigit 2 b.toNat

/-- The number that digits stand for, if all are digits and there is one. -/
def hexValueOf? (digits : List Char) : Option Nat :=
  if digits.isEmpty then none
  else digits.foldlM (fun n c => (hexValue? c).map (n * 16 + ·)) 0

/-- The bytes that pairs of digits stand for, `before` holding those that were read, the last one
first. -/
def bytesOfHexFrom? (before : List UInt8) : List Char → Option (List UInt8)
  | [] => some before.reverse
  | [_] => none
  | a :: b :: rest =>
    match hexValue? a, hexValue? b with
    | some high, some low => bytesOfHexFrom? (UInt8.ofNat (high * 16 + low) :: before) rest
    | _, _ => none

/-- The bytes that pairs of digits stand for. -/
def bytesOfHex? (digits : List Char) : Option (List UInt8) := bytesOfHexFrom? [] digits

end ClaimCheck.Text
