import ClaimCheck.Json.Layout

/-!
# Records as documents

A record is written as an object with its fields in a fixed order.  It is read from an object, whose
members may come in any order and among others that are passed over, or from an array that lists the
contents of its fields.
-/

namespace ClaimCheck.Json

/-- A field: its label, the kind of its content and the content that stands in for a missing one. -/
structure Field where
  label : String
  shape : Shape
  fallback : Option shape.Content := none

/-- The name and the fields of a record. -/
structure Layout where
  name : String
  fields : List Field

/-- One content for each field. -/
@[reducible] def Row : List Field → Type
  | [] => Unit
  | field :: fields => field.shape.Content × Row fields

/-- At most one content for each field. -/
@[reducible] def Slots : List Field → Type
  | [] => Unit
  | field :: fields => Option field.shape.Content × Slots fields

/-- The slots of a record of which nothing was read. -/
def Slots.empty : (fields : List Field) → Slots fields
  | [] => ()
  | _ :: fields => (none, Slots.empty fields)

/-! ### Writing -/

/-- The members that a row is written as. -/
def Row.members : (fields : List Field) → Row fields → List (String × Value)
  | [], _ => []
  | field :: fields, (content, row) =>
    (field.label, field.shape.toValue content) :: Row.members fields row

/-! ### Reading from an object -/

/-- The text after the end of a record that was refused: its closing brace is passed if it is what
comes next. -/
def afterObject (cs : List Char) : List Char :=
  match skipSpace cs with
  | '\x7d' :: rest => rest
  | rest => rest

/-- Reads the value of a member into its slot; a member of no field is skipped. -/
def Slots.readMember (fuel levels : Nat) (key : String) :
    (fields : List Field) → Slots fields → Reader (Slots fields)
  | [], slots, cs =>
    match readColon cs with
    | .error fault => .error fault
    | .ok rest => (skipValue fuel rest).map (slots, ·)
  | field :: fields, (slot, slots), cs =>
    if key = field.label then
      if slot.isSome then .error (.before (.duplicateField key) (afterObject cs))
      else
        match readColon cs with
        | .error fault => .error fault
        | .ok rest =>
          (field.shape.read fuel levels rest).map fun (content, rest) =>
            ((some content, slots), rest)
    else (Slots.readMember fuel levels key fields slots cs).map fun (slots, rest) =>
      ((slot, slots), rest)

/-- The row of the slots, missing contents filled in where the field has one for that. -/
def Slots.toRow : (fields : List Field) → Slots fields → Except Cause (Row fields)
  | [], _ => .ok ()
  | field :: fields, (slot, slots) =>
    match slot.or (field.fallback.or field.shape.absent?) with
    | none => .error (.missingField field.label)
    | some content => (Slots.toRow fields slots).map (content, ·)

/-! ### Reading from an array -/

/-- The row that the fallbacks of fields make up, the first field standing at `index`. -/
def Row.ofFallbacks (expected : String) :
    (fields : List Field) → (index : Nat) → Except Cause (Row fields)
  | [], _ => .ok ()
  | field :: fields, index =>
    match field.fallback with
    | none => .error (.invalidLength index expected)
    | some content => (Row.ofFallbacks expected fields (index + 1)).map (content, ·)

/-- Reads the end of an array that has all its items. -/
def readListEnd (cs : List Char) : Except Fault (List Char) :=
  match skipSpace cs with
  | [] => .error (.past .endInList [])
  | ']' :: rest => .ok rest
  | ',' :: rest =>
    match skipSpace rest with
    | ']' :: rest => .error (.past .trailingComma (']' :: rest))
    | rest => .error (.past .trailingCharacters rest)
  | rest => .error (.past .trailingCharacters rest)

/-- Reads the items of an array as the contents of fields, the first field standing at `index`. -/
def Row.readItems (fuel levels : Nat) (expected : String) :
    (fields : List Field) → (index : Nat) → Reader (Row fields)
  | [], _, cs => (readListEnd cs).map ((), ·)
  | field :: fields, index, cs =>
    match nextItem (index == 0) cs with
    | .error fault => .error fault
    | .ok (none, rest) =>
      match Row.ofFallbacks expected (field :: fields) index with
      | .ok row => .ok (row, rest)
      | .error cause => .error (.before cause rest)
    | .ok (some start, _) =>
      match field.shape.read fuel levels start with
      | .error fault => .error fault
      | .ok (content, rest) =>
        (Row.readItems fuel levels expected fields (index + 1) rest).map fun (row, rest) =>
          ((content, row), rest)

/-! ### Records -/

/-- What a message says was expected for a record. -/
def Layout.expected (layout : Layout) : String := "struct " ++ layout.name

/-- What a message says was expected for a record's array of contents. -/
def Layout.expectedItems (layout : Layout) : String :=
  layout.expected ++ " with " ++ String.ofList (Text.decimal layout.fields.length) ++ " elements"

/-- Reads a record. -/
def Layout.read (layout : Layout) (fuel levels : Nat) : Reader (Row layout.fields) := fun cs =>
  match skipSpace cs with
  | '[' :: rest =>
    match levels with
    | 0 => .error (.past .recursionLimit ('[' :: rest))
    | levels + 1 => Row.readItems fuel levels layout.expectedItems layout.fields 0 rest
  | '\x7b' :: rest =>
    match levels with
    | 0 => .error (.past .recursionLimit ('\x7b' :: rest))
    | levels + 1 =>
      match readMembers (fun key => Slots.readMember fuel levels key layout.fields) fuel true
        (Slots.empty layout.fields) rest with
      | .error fault => .error fault
      | .ok (slots, rest) =>
        match Slots.toRow layout.fields slots with
        | .ok row => .ok (row, rest)
        | .error cause => .error (.before cause rest)
  | rest => .error (wrongType layout.expected rest)

/-- A type whose values are written as the rows of a layout. -/
class Record (α : Type) where
  layout : Layout
  toRow : α → Row layout.fields
  ofRow : Row layout.fields → α
  ofRow_toRow (x : α) : ofRow (toRow x) = x

/-- The document value of a record. -/
def Record.toValue [Record α] (x : α) : Value :=
  .object (Row.members (Record.layout α).fields (Record.toRow x))

/-- The compact text of a record. -/
def Record.print [Record α] (x : α) : String := (Record.toValue x).compact

/-- The record that a text writes. -/
def Record.parse (α : Type) [Record α] (text : String) : Except LocatedFault α :=
  (readAll (fun fuel => (Record.layout α).read fuel maxLevels) text).map Record.ofRow

end ClaimCheck.Json
