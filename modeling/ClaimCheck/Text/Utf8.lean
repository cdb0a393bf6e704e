/-!
# Bytes as text

Reading bytes as UTF-8.  A sequence of bytes is text, or it has a first place where it stops being
text: there either some bytes cannot stand, or the bytes end inside a character.
-/

namespace ClaimCheck.Text.Utf8

/-- Equality of bytes, fixed here so that all modules decide it in the same way. -/
instance decidableEqBytes : DecidableEq ByteArray := ByteArray.instDecidableEq

/-- Why bytes are no text; `index` counts the bytes that are. -/
inductive Fault where
  | invalid (length index : Nat)
  | incomplete (index : Nat)
deriving DecidableEq, Repr

/-- The wording of a fault. -/
def Fault.message : Fault → String
  | .invalid length index => s!"invalid utf-8 sequence of {length} bytes from index {index}"
  | .incomplete index => s!"incomplete utf-8 byte sequence from index {index}"

/-- What stands first in a sequence of bytes. -/
inductive Head where
  | scalar (length : Nat)
  | invalid (length : Nat)
  | incomplete
deriving DecidableEq, Repr

/-- Whether a byte goes on with a character. -/
def isContinuation (b : UInt8) : Bool := 0x80 ≤ b && b ≤ 0xBF

/-- The second bytes that may follow a first byte, and the length of the character. -/
def lead (b : UInt8) : Option ((UInt8 × UInt8) × Nat) :=
  if 0xC2 ≤ b && b ≤ 0xDF then some ((0x80, 0xBF), 2)
  else if b == 0xE0 then some ((0xA0, 0xBF), 3)
  else if b == 0xED then some ((0x80, 0x9F), 3)
  else if 0xE1 ≤ b && b ≤ 0xEF then some ((0x80, 0xBF), 3)
  else if b == 0xF0 then some ((0x90, 0xBF), 4)
  else if 0xF1 ≤ b && b ≤ 0xF3 then some ((0x80, 0xBF), 4)
  else if b == 0xF4 then some ((0x80, 0x8F), 4)
  else none

/-- Looks for `missing` more continuation bytes after `seen` bytes of a character. -/
def tail : (missing seen : Nat) → List UInt8 → Head
  | 0, seen, _ => .scalar seen
  | _ + 1, _, [] => .incomplete
  | missing + 1, seen, b :: rest =>
    if isContinuation b then tail missing (seen + 1) rest else .invalid seen

/-- Classifies the start of a non-empty sequence of bytes. -/
def head (b : UInt8) (rest : List UInt8) : Head :=
  if b < 0x80 then .scalar 1
  else
    match lead b with
    | none => .invalid 1
    | some ((low, high), length) =>
      match rest with
      | [] => .incomplete
      | second :: rest =>
        if low ≤ second && second ≤ high then tail (length - 2) 2 rest else .invalid 1

/-- The first fault of the bytes after `index`; `fuel` bounds the number of characters. -/
def faultFrom : (fuel index : Nat) → List UInt8 → Option Fault
  | 0, _, _ => none
  | _, _, [] => none
  | fuel + 1, index, b :: rest =>
    match head b rest with
    | .scalar length => faultFrom fuel (index + length) ((b :: rest).drop length)
    | .invalid length => some (.invalid length index)
    | .incomplete => some (.incomplete index)

/-- The first fault of a sequence of bytes. -/
def fault? (bytes : List UInt8) : Option Fault := faultFrom bytes.length 0 bytes

/-- The text that bytes stand for, or their first fault. -/
def decode (bytes : ByteArray) : Except Fault String :=
  match String.fromUTF8? bytes with
  | some text => .ok text
  | none => .error ((fault? bytes.toList).getD (.incomplete bytes.size))

/-- Reads bytes as text with U+FFFD in the place of each fault; `fuel` bounds the number of
characters. -/
def lossyFrom : (fuel : Nat) → List UInt8 → List Char
  | 0, _ => []
  | _, [] => []
  | fuel + 1, b :: rest =>
    match head b rest with
    | .scalar length =>
      (((String.fromUTF8? ⟨((b :: rest).take length).toArray⟩).map String.toList).getD []) ++
        lossyFrom fuel ((b :: rest).drop length)
    | .invalid length => '\uFFFD' :: lossyFrom fuel ((b :: rest).drop length)
    | .incomplete => ['\uFFFD']

/-- The text of bytes with U+FFFD in the place of each fault. -/
def decodeLossy (bytes : ByteArray) : String :=
  match String.fromUTF8? bytes with
  | some text => text
  | none => String.ofList (lossyFrom bytes.size bytes.toList)

/-- The bytes of a text are read as that text. -/
theorem fromUTF8?_toUTF8 (s : String) : String.fromUTF8? s.toUTF8 = some s := by
  simp [String.fromUTF8?, String.fromUTF8, String.toUTF8, s.isValidUTF8]

/-- What was text is read back. -/
@[simp] theorem decode_toUTF8 (s : String) : decode s.toUTF8 = .ok s := by
  rw [decode, fromUTF8?_toUTF8]

end ClaimCheck.Text.Utf8
