import ClaimCheck.Text.Hex

/-!
# Random identifiers

Identifiers of 128 bits, all but six of them random, in their written form of 36 characters.
-/

namespace ClaimCheck

open Text

/-- A random identifier, by the bits it was drawn with. -/
structure Uuid where
  bits : BitVec 128
deriving DecidableEq, Repr

namespace Uuid

/-- The bits from a position on, the lowest being at zero. -/
def field (u : Uuid) (position : Nat) : Nat := u.bits.toNat >>> position

/-- The written form: groups of 8, 4, 4, 4 and 12 digits; the first digit of the third group tells the
version and the first of the fourth the variant. -/
def toChars (u : Uuid) : List Char :=
  fixedHex hexDigit 8 (u.field 96) ++ '-' :: fixedHex hexDigit 4 (u.field 80) ++
    '-' :: '4' :: fixedHex hexDigit 3 (u.field 64) ++
    '-' :: hexDigit (8 + u.field 60 % 4) :: fixedHex hexDigit 3 (u.field 48) ++
    '-' :: fixedHex hexDigit 12 (u.field 0)

/-- The written form as text. -/
def text (u : Uuid) : String := String.ofList u.toChars

end Uuid

end ClaimCheck
