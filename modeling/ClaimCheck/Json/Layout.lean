import ClaimCheck.Json.Skipper
import ClaimCheck.Time.Reader

/-!
# Contents of fields

The kinds of content that a field of a record holds, how each is written as a document value, and how
it is read from a text.
-/

namespace ClaimCheck.Json

open Text

/-- The kind of content that a field holds. -/
inductive Shape where
  | text
  | optionalText
  | size
  | flag
  | texts
  | any
  | instant
deriving DecidableEq, Repr

/-- The contents of a kind. -/
@[reducible] def Shape.Content : Shape → Type
  | .text => String
  | .optionalText => Option String
  | .size => UInt64
  | .flag => Bool
  | .texts => Keyed String
  | .any => Value
  | .instant => Instant

/-- The document value of a content. -/
def Shape.toValue : (shape : Shape) → shape.Content → Value
  | .text, s => .string s
  | .optionalText, s => .ofText? s
  | .size, n => .whole (.ofWord n)
  | .flag, b => .bool b
  | .texts, map => .object (map.entries.map fun (key, s) => (key, .string s))
  | .any, v => v
  | .instant, t => .string t.render

/-! ### Reading a content -/

/-- The fault of a value that is not of the kind expected.  A value that is only started by its
bracket is refused in front of it, any other after it. -/
def wrongType (expected : String) (cs : List Char) : Fault :=
  let after (result : Except Fault (Found × List Char)) : Fault :=
    match result with
    | .ok (found, rest) => .before (.invalidType found expected) rest
    | .error fault => fault
  let ofNumber : Value → Found
    | .whole n => .whole n
    | .fraction x => .fraction x
    | _ => .null
  match cs with
  | [] => .past .endInValue []
  | c :: rest =>
    if c = 'n' then after ((readWord ['u', 'l', 'l'] rest).map (Found.null, ·))
    else if c = 't' then after ((readWord ['r', 'u', 'e'] rest).map (Found.bool true, ·))
    else if c = 'f' then after ((readWord ['a', 'l', 's', 'e'] rest).map (Found.bool false, ·))
    else if c = '-' then after ((readNumber true rest).map fun (n, rest) => (ofNumber n, rest))
    else if isDigit c then after ((readNumber false cs).map fun (n, rest) => (ofNumber n, rest))
    else if c = '"' then after ((readString rest).map fun (s, rest) => (Found.string s, rest))
    else if c = '[' then .before (.invalidType .sequence expected) cs
    else if c = '\x7b' then .before (.invalidType .map expected) cs
    else .past .expectedValue cs

/-- Reads a string where nothing else may stand. -/
def readText (expected : String) : Reader String := fun cs =>
  match skipSpace cs with
  | '"' :: rest => readString rest
  | rest => .error (wrongType expected rest)

/-- Reads a string or `null`. -/
def readOptionalText : Reader (Option String) := fun cs =>
  match skipSpace cs with
  | 'n' :: rest => (readWord ['u', 'l', 'l'] rest).map (none, ·)
  | rest => (readText "a string" rest).map fun (text, rest) => (some text, rest)

/-- The size that a number is. -/
def sizeOf? : Value → List Char → Except Fault (UInt64 × List Char)
  | .whole n, rest =>
    if n.value < 0 then .error (.before (.invalidValue (.whole n) "usize") rest)
    else .ok (UInt64.ofNat n.value.toNat, rest)
  | .fraction x, rest => .error (.before (.invalidType (.fraction x) "usize") rest)
  | _, rest => .error (.before .expectedValue rest)

/-- Reads a size in bytes. -/
def readSize : Reader UInt64 := fun cs =>
  match skipSpace cs with
  | [] => .error (.past .endInValue [])
  | c :: rest =>
    if c = '-' then
      match readNumber true rest with
      | .ok (n, rest) => sizeOf? n rest
      | .error fault => .error fault
    else if isDigit c then
      match readNumber false (c :: rest) with
      | .ok (n, rest) => sizeOf? n rest
      | .error fault => .error fault
    else .error (wrongType "usize" (c :: rest))

/-- Reads a truth value. -/
def readFlag : Reader Bool := fun cs =>
  match skipSpace cs with
  | 't' :: rest => (readWord ['r', 'u', 'e'] rest).map (true, ·)
  | 'f' :: rest => (readWord ['a', 'l', 's', 'e'] rest).map (false, ·)
  | rest => .error (wrongType "a boolean" rest)

/-- Reads a member of a map of texts; of several members with one key the last counts. -/
def readTextEntry (key : String) (texts : Keyed String) : Reader (Keyed String) := fun cs =>
  match readColon cs with
  | .error fault => .error fault
  | .ok rest => (readText "a string" rest).map fun (text, rest) => (texts.insert key text, rest)

/-- Reads a map of texts. -/
def readTexts (fuel levels : Nat) : Reader (Keyed String) := fun cs =>
  match skipSpace cs with
  | '\x7b' :: rest =>
    if levels = 0 then .error (.past .recursionLimit ('\x7b' :: rest))
    else readMembers readTextEntry fuel true Keyed.empty rest
  | rest => .error (wrongType "a map" rest)

/-- Reads an instant in its written form. -/
def readInstant : Reader Instant := fun cs =>
  match readText "an RFC 3339 formatted date and time string" cs with
  | .error fault => .error fault
  | .ok (text, rest) =>
    match Instant.parse text with
    | .ok t => .ok (t, rest)
    | .error fault => .error (.before (.refused fault.message) rest)

/-- Reads a content of a kind. -/
def Shape.read (fuel levels : Nat) : (shape : Shape) → Reader shape.Content
  | .text => readText "a string"
  | .optionalText => readOptionalText
  | .size => readSize
  | .flag => readFlag
  | .texts => readTexts fuel levels
  | .any => readValue fuel levels
  | .instant => readInstant

/-- The content of a field that an object leaves out. -/
def Shape.absent? : (shape : Shape) → Option shape.Content
  | .optionalText => some none
  | _ => none

end ClaimCheck.Json
