import ClaimCheck.Json.Printer
import ClaimCheck.Text.Quoted

/-!
# Faults of a document

Why a text is no document, or not the document that was expected, and where.  A reader knows how
many bytes it has not read; the place in lines and columns is worked out from that when the fault is
reported.
-/

namespace ClaimCheck.Json

open Text

/-- What stands where something else was expected. -/
inductive Found where
  | null
  | bool (value : Bool)
  | whole (value : Whole)
  | fraction (value : Double)
  | string (text : String)
  | sequence
  | map

/-- How a message names what was found. -/
def Found.describe : Found → String
  | .null => "null"
  | .bool value => "boolean `" ++ String.ofList (boolChars value) ++ "`"
  | .whole n => "integer `" ++ String.ofList (signedDecimal n.value) ++ "`"
  | .fraction x => "floating point `" ++ String.ofList (fractionChars x) ++ "`"
  | .string text => "string " ++ quoted text
  | .sequence => "sequence"
  | .map => "map"

/-- Why a document was refused. -/
inductive Cause where
  | endInList
  | endInObject
  | endInString
  | endInValue
  | expectedColon
  | expectedListCommaOrEnd
  | expectedObjectCommaOrEnd
  | expectedIdentifier
  | expectedValue
  | invalidEscape
  | invalidNumber
  | numberOutOfRange
  | controlCharacter
  | keyNotString
  | loneSurrogate
  | trailingComma
  | trailingCharacters
  | endOfHexEscape
  | recursionLimit
  | invalidType (found : Found) (expected : String)
  | invalidValue (found : Found) (expected : String)
  | invalidLength (length : Nat) (expected : String)
  | missingField (label : String)
  | duplicateField (label : String)
  | refused (reason : String)

/-- The wording of a cause. -/
def Cause.message : Cause → String
  | .endInList => "EOF while parsing a list"
  | .endInObject => "EOF while parsing an object"
  | .endInString => "EOF while parsing a string"
  | .endInValue => "EOF while parsing a value"
  | .expectedColon => "expected `:`"
  | .expectedListCommaOrEnd => "expected `,` or `]`"
  | .expectedObjectCommaOrEnd => "expected `,` or `\x7d`"
  | .expectedIdentifier => "expected ident"
  | .expectedValue => "expected value"
  | .invalidEscape => "invalid escape"
  | .invalidNumber => "invalid number"
  | .numberOutOfRange => "number out of range"
  | .controlCharacter =>
    "control character (\\u0000-\\u001F) found while parsing a string"
  | .keyNotString => "key must be a string"
  | .loneSurrogate => "lone leading surrogate in hex escape"
  | .trailingComma => "trailing comma"
  | .trailingCharacters => "trailing characters"
  | .endOfHexEscape => "unexpected end of hex escape"
  | .recursionLimit => "recursion limit exceeded"
  | .invalidType found expected => "invalid type: " ++ found.describe ++ ", expected " ++ expected
  | .invalidValue found expected => "invalid value: " ++ found.describe ++ ", expected " ++ expected
  | .invalidLength length expected =>
    "invalid length " ++ String.ofList (decimal length) ++ ", expected " ++ expected
  | .missingField label => "missing field `" ++ label ++ "`"
  | .duplicateField label => "duplicate field `" ++ label ++ "`"
  | .refused reason => reason

/-- A cause and the number of bytes from its place to the end of the text. -/
structure Fault where
  cause : Cause
  unread : Nat

/-- The number of bytes of a text. -/
def byteLength (cs : List Char) : Nat := cs.foldl (fun n c => n + c.utf8Size) 0

/-- A fault before the text that is left. -/
def Fault.before (cause : Cause) (rest : List Char) : Fault := ⟨cause, byteLength rest⟩

/-- A fault at the first byte of the text that is left, which counts as read. -/
def Fault.past (cause : Cause) (rest : List Char) : Fault := ⟨cause, byteLength rest - 1⟩

/-- The line and column after so many bytes: lines count from one, columns are bytes since the last
line end. -/
def placeAfter : (bytes line column : Nat) → List Char → Nat × Nat
  | _, line, column, [] => (line, column)
  | bytes, line, column, c :: rest =>
    if bytes < c.utf8Size then (line, column + bytes)
    else if c = '\n' then placeAfter (bytes - c.utf8Size) (line + 1) 0 rest
    else placeAfter (bytes - c.utf8Size) line (column + c.utf8Size) rest

/-- A fault with its place in the text. -/
structure LocatedFault where
  cause : Cause
  line : Nat
  column : Nat

/-- Finds the place of a fault in the text that was read. -/
def Fault.locate (text : List Char) (fault : Fault) : LocatedFault :=
  let (line, column) := placeAfter (byteLength text - fault.unread) 1 0 text
  ⟨fault.cause, line, column⟩

/-- The wording of a fault, with its place. -/
def LocatedFault.message (fault : LocatedFault) : String :=
  fault.cause.message ++ " at line " ++ String.ofList (decimal fault.line) ++ " column " ++
    String.ofList (decimal fault.column)

end ClaimCheck.Json
