import ClaimCheck.Json.Reader

/-!
# Deletion events

An event that asks for a deletion names the address to delete in its data.
-/

namespace ClaimCheck.Deletion

open Json

/-- Why a text asks for no deletion. -/
inductive RequestFault where
  | notJson (fault : LocatedFault)
  | missingAddress

/-- The members that lead to the address. -/
def addressPath : List String := ["data", "blob_to_delete"]

/-- The value that members lead to. -/
def valueAt : List String → Value → Option Value
  | [], value => some value
  | label :: labels, value => (value.member? label).bind (valueAt labels)

/-- The address in the value of an event. -/
def addressOf? (event : Value) : Option String := (valueAt addressPath event).bind Value.string?

/-- The address that the text of an event asks to delete. -/
def requestedAddress (text : String) : Except RequestFault String :=
  match Value.parse text with
  | .error fault => .error (.notJson fault)
  | .ok event =>
    match addressOf? event with
    | some url => .ok url
    | none => .error .missingAddress

end ClaimCheck.Deletion
