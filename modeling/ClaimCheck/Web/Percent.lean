import ClaimCheck.Text.Hex
import ClaimCheck.Text.Utf8

/-!
# Percent-encoded text

A byte may be written as a percent sign and two hexadecimal digits.  Each such triple is decoded
once; a percent sign that starts no triple stands for itself.
-/

namespace ClaimCheck.Web

open Text

/-- The bytes of a character. -/
def charBytes (c : Char) : List UInt8 := String.utf8EncodeChar c

/-- Decodes the bytes of a text, `before` holding those that were decoded, the last one first. -/
def percentBytesFrom (before : List UInt8) : List Char → List UInt8
  | '%' :: a :: b :: rest =>
    match hexValue? a, hexValue? b with
    | some high, some low => percentBytesFrom (UInt8.ofNat (high * 16 + low) :: before) rest
    | _, _ => percentBytesFrom (0x25 :: before) (a :: b :: rest)
  | c :: rest => percentBytesFrom ((charBytes c).reverse ++ before) rest
  | [] => before.reverse

/-- The bytes that a text stands for. -/
def percentBytes (cs : List Char) : List UInt8 := percentBytesFrom [] cs

/-- The text that a text stands for, if its bytes are text. -/
def percentDecode? (cs : List Char) : Option (List Char) :=
  (String.fromUTF8? ⟨(percentBytes cs).toArray⟩).map String.toList

end ClaimCheck.Web
