import ClaimCheck.Json.Fault

/-!
# Payloads

What is sent before it is text: a document value, or a map whose keys are values themselves.  A key
that is a truth value or a number becomes text; other keys that are no text have no document.
-/

namespace ClaimCheck

open Json

/-- A payload to send. -/
inductive Payload where
  | value (value : Value)
  | map (entries : List (Value × Value))

namespace Payload

/-- The member name that a key becomes. -/
def keyText : Value → Except Cause String
  | .string text => .ok text
  | .bool b => .ok (String.ofList (boolChars b))
  | .whole n => .ok (String.ofList (Text.signedDecimal n.value))
  | .fraction x => .ok (String.ofList (fractionChars x))
  | _ => .error .keyNotString

/-- The document value of a payload; entries keep their order and repeated keys stay. -/
def document : Payload → Except Cause Value
  | value v => .ok v
  | map entries =>
    (entries.mapM fun entry => (keyText entry.1).map fun name => (name, entry.2)).map Value.object

/-- The compact document of a payload. -/
def text (p : Payload) : Except Cause String := p.document.map Value.compact

end Payload

end ClaimCheck
