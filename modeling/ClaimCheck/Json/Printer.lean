import ClaimCheck.Decimal.Shortest
import ClaimCheck.Json.Value
import ClaimCheck.Text.Decimal
import ClaimCheck.Text.Hex

/-!
# Writing documents

Two layouts of a document: compact, without any space, and spread over lines with an indent of two
blanks a level.  Members are written in the order in which the value lists them.
-/

namespace ClaimCheck.Json

open Text

/-! ### Strings -/

/-- How a character stands between quotes. -/
def escapedChar (c : Char) : List Char :=
  if c = '"' then ['\\', '"']
  else if c = '\\' then ['\\', '\\']
  else if c.toNat = 0x08 then ['\\', 'b']
  else if c = '\t' then ['\\', 't']
  else if c = '\n' then ['\\', 'n']
  else if c.toNat = 0x0C then ['\\', 'f']
  else if c = '\r' then ['\\', 'r']
  else if c.toNat < 0x20 then ['\\', 'u'] ++ fixedHex hexDigit 4 c.toNat
  else [c]

/-- The characters of a text with escapes. -/
def escaped (s : String) : List Char := s.toList.flatMap escapedChar

/-- A text between quotes. -/
def stringChars (s : String) : List Char := '"' :: escaped s ++ ['"']

/-! ### Numbers -/

/-- The power of ten that a decimal is below, its first digit being the one before it. -/
def pointPosition (d : DecimalDigits) : Int := (decimal d.digits).length + d.exponent

/-- Digits that stand for a number from `0.00001` on and below `10 ^ 16` are written out with a point
between them; all others have the point after the first digit and an exponent with its sign. -/
def decimalChars (d : DecimalDigits) : List Char :=
  let digits := decimal d.digits
  let point := pointPosition d
  if 0 ≤ d.exponent ∧ point ≤ 16 then
    digits ++ List.replicate d.exponent.toNat '0' ++ ['.', '0']
  else if 0 < point ∧ point ≤ 16 then
    digits.take point.toNat ++ '.' :: digits.drop point.toNat
  else if -5 < point ∧ point ≤ 0 then
    ['0', '.'] ++ List.replicate (-point).toNat '0' ++ digits
  else
    let power := point - 1
    let exponent := 'e' :: (if power < 0 then '-' else '+') :: decimal power.natAbs
    match digits with
    | [] => exponent
    | [digit] => digit :: exponent
    | digit :: rest => digit :: '.' :: rest ++ exponent

/-- A binary fraction with the fewest digits that read back. -/
def fractionChars (x : Double) : List Char :=
  let magnitude := if x.mantissa = 0 then ['0', '.', '0'] else decimalChars x.shortest
  if x.isNegative then '-' :: magnitude else magnitude

/-! ### Compact documents -/

/-- The text of a truth value. -/
def boolChars (b : Bool) : List Char := if b then "true".toList else "false".toList

mutual

/-- A document without spaces. -/
def compactChars : Value → List Char
  | .null => "null".toList
  | .bool b => boolChars b
  | .whole n => signedDecimal n.value
  | .fraction x => fractionChars x
  | .string s => stringChars s
  | .array items => '[' :: compactItems items
  | .object members => '\x7b' :: compactMembers members

/-- The items of an array and the bracket after them. -/
def compactItems : List Value → List Char
  | [] => [']']
  | item :: rest => compactChars item ++ compactMoreItems rest

/-- The items after the first one. -/
def compactMoreItems : List Value → List Char
  | [] => [']']
  | item :: rest => ',' :: compactChars item ++ compactMoreItems rest

/-- The members of an object and the brace after them. -/
def compactMembers : List (String × Value) → List Char
  | [] => ['\x7d']
  | (key, value) :: rest => stringChars key ++ ':' :: compactChars value ++ compactMoreMembers rest

/-- The members after the first one. -/
def compactMoreMembers : List (String × Value) → List Char
  | [] => ['\x7d']
  | (key, value) :: rest =>
    ',' :: stringChars key ++ ':' :: compactChars value ++ compactMoreMembers rest

end

/-- A document without spaces, as text. -/
def Value.compact (v : Value) : String := String.ofList (compactChars v)

/-! ### Documents over lines -/

/-- A new line with the indent of a level. -/
def lineChars (level : Nat) : List Char := '\n' :: List.replicate (2 * level) ' '

mutual

/-- A document over lines, its opening bracket on a line of the given level. -/
def prettyChars (level : Nat) : Value → List Char
  | .null => "null".toList
  | .bool b => boolChars b
  | .whole n => signedDecimal n.value
  | .fraction x => fractionChars x
  | .string s => stringChars s
  | .array [] => ['[', ']']
  | .array (item :: rest) =>
    '[' :: lineChars (level + 1) ++ prettyChars (level + 1) item ++ prettyMoreItems level rest
  | .object [] => ['\x7b', '\x7d']
  | .object ((key, value) :: rest) =>
    '\x7b' :: lineChars (level + 1) ++ stringChars key ++ ':' :: ' ' ::
      prettyChars (level + 1) value ++ prettyMoreMembers level rest

/-- The items after the first one and the bracket on a line of its own. -/
def prettyMoreItems (level : Nat) : List Value → List Char
  | [] => lineChars level ++ [']']
  | item :: rest =>
    ',' :: lineChars (level + 1) ++ prettyChars (level + 1) item ++ prettyMoreItems level rest

/-- The members after the first one and the brace on a line of its own. -/
def prettyMoreMembers (level : Nat) : List (String × Value) → List Char
  | [] => lineChars level ++ ['\x7d']
  | (key, value) :: rest =>
    ',' :: lineChars (level + 1) ++ stringChars key ++ ':' :: ' ' ::
      prettyChars (level + 1) value ++ prettyMoreMembers level rest

end

/-- A document over lines, as text. -/
def Value.pretty (v : Value) : String := String.ofList (prettyChars 0 v)

end ClaimCheck.Json
