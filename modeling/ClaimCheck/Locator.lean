import ClaimCheck.Json.Record
import ClaimCheck.Text.Split

/-!
# Locators

A `Locator` names one blob in an account by its container and its name.  Written as a path, the
container stands before the first slash, so a path reads back as the locator it was written from
exactly when the container is not empty and has no slash and the name is not empty.
-/

namespace ClaimCheck

open Text

/-- The place of one blob in an account. -/
@[ext] structure Locator where
  container : String
  name : String
deriving DecidableEq, Repr

namespace Locator

/-- Why a path names no blob. -/
inductive Fault where
  | missingSeparator (path : String)
  | emptyContainer (path : String)
  | emptyName (path : String)
deriving DecidableEq, Repr

/-- The wording of a fault. -/
def Fault.message : Fault → String
  | .missingSeparator path => "claim-check path has no '/' separator: " ++ quoted path
  | .emptyContainer path => "claim-check path has an empty container: " ++ quoted path
  | .emptyName path => "claim-check path has an empty blob name: " ++ quoted path

/-- The path of a locator: the container, a slash and the name. -/
def path (l : Locator) : String := l.container ++ "/" ++ l.name

/-- The locator that a path names. -/
def ofPath (path : String) : Except Fault Locator :=
  match splitFirst? '/' path.toList with
  | none => .error (.missingSeparator path)
  | some ([], _) => .error (.emptyContainer path)
  | some (_, []) => .error (.emptyName path)
  | some (container, name) => .ok ⟨String.ofList container, String.ofList name⟩

instance : Json.Record Locator where
  layout := ⟨"BlobLocator", [{ label := "container", shape := .text }, { label := "name", shape := .text }]⟩
  toRow l := (l.container, l.name, ())
  ofRow row := ⟨row.1, row.2.1⟩
  ofRow_toRow _ := rfl

end Locator

end ClaimCheck
