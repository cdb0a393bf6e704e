import ClaimCheck.Text.Decimal
import ClaimCheck.Text.Quoted

/-!
# Descriptions

Values shown to people who look for a mistake: the name of a record and its fields, of which some may
be held back.
-/

namespace ClaimCheck.Text

/-- The fields of a description, with commas between them. -/
def describedFields : List (String × String) → String
  | [] => ""
  | [(label, value)] => label ++ ": " ++ value
  | (label, value) :: rest => label ++ ": " ++ value ++ ", " ++ describedFields rest

/-- A record with all its fields. -/
def described (name : String) (fields : List (String × String)) : String :=
  name ++ " \x7b " ++ describedFields fields ++ " \x7d"

/-- A record that holds some of its fields back. -/
def describedInPart (name : String) (fields : List (String × String)) : String :=
  name ++ " \x7b " ++ describedFields fields ++ ", .. \x7d"

/-- An optional value, by its description if it is there. -/
def describedOption : Option String → String
  | none => "None"
  | some description => "Some(" ++ description ++ ")"

/-- An optional text. -/
def describedText (text : Option String) : String := describedOption (text.map quoted)

/-- A truth value. -/
def describedFlag (flag : Bool) : String := if flag then "true" else "false"

/-- A count. -/
def describedCount (count : Nat) : String := String.ofList (decimal count)

end ClaimCheck.Text
