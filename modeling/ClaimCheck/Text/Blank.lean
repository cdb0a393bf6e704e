/-!
# Blank characters

The characters that count as white space in any script, and the text that is left when they are
taken off both ends.
-/

namespace ClaimCheck.Text

/-- Whether a character has the white-space property. -/
def isBlank (c : Char) : Bool :=
  (0x09 ≤ c.toNat && c.toNat ≤ 0x0D) || c.toNat == 0x20 || c.toNat == 0x85 || c.toNat == 0xA0 ||
    c.toNat == 0x1680 || (0x2000 ≤ c.toNat && c.toNat ≤ 0x200A) || c.toNat == 0x2028 ||
    c.toNat == 0x2029 || c.toNat == 0x202F || c.toNat == 0x205F || c.toNat == 0x3000

/-- Drops the characters with a property from both ends. -/
def trimBy (drop : Char → Bool) (cs : List Char) : List Char :=
  ((cs.dropWhile drop).reverse.dropWhile drop).reverse

/-- Drops white space from both ends. -/
def trim (cs : List Char) : List Char := trimBy isBlank cs

/-- Whether a text holds nothing but white space. -/
def isAllBlank (s : String) : Bool := s.toList.all isBlank

end ClaimCheck.Text
