import ClaimCheck.Text.Split
import ClaimCheck.Text.Utf8

/-!
# Paths

A path leads through directories by the names of their entries.  It starts at the root if it is
absolute and else where one is; the name `.` stays in a directory and `..` goes back up.
-/

namespace ClaimCheck.Disk

open Text

/-- The name of a directory entry. -/
abbrev Name := ByteArray

namespace Name

/-- The name that a text spells. -/
def ofChars (cs : List Char) : Name := (String.ofList cs).toUTF8

/-- The name that stays in a directory. -/
def self : Name := ofChars ['.']

/-- The name that goes back up. -/
def parent : Name := ofChars ['.', '.']

end Name

/-- The number of bytes that a name may have. -/
def longestName : Nat := 255

/-- The number of bytes that a path may have. -/
def longestPath : Nat := 4095

/-- A way through directories. -/
structure Path where
  isAbsolute : Bool := false
  names : List Name
deriving DecidableEq

namespace Path

/-- The pieces of a text that name entries: empty pieces say nothing, and nor does `.` behind others. -/
def namesOf : List (List Char) → List Name
  | [] => []
  | piece :: pieces =>
    let rest := pieces.filter fun p => p ≠ [] ∧ p ≠ ['.']
    (if piece.isEmpty then rest else piece :: rest).map Name.ofChars

/-- The path of a directory that a text spells. -/
def ofText (text : String) : Path :=
  ⟨text.startsWith "/", namesOf (pieces '/' text.toList)⟩

/-- The path that one names further names from. -/
def append (p : Path) (names : List Name) : Path := { p with names := p.names ++ names }

/-- The path that a text spells; a text that ends in a slash or a dot behind one asks for a
directory. -/
def ofFileText (text : String) : Path :=
  let p := ofText text
  match (pieces '/' text.toList).getLast? with
  | some [] | some ['.'] => if p.names.isEmpty || p.names = [Name.self] then p else p.append [Name.self]
  | _ => p

/-- The path of an entry. -/
def child (p : Path) (name : Name) : Path := p.append [name]

/-- The number of bytes that spell a path. -/
def size (p : Path) : Nat :=
  p.names.foldl (fun n name => n + (name.size + 1)) 0 - if p.isAbsolute then 0 else 1

/-- Whether a name of the path holds a zero byte. -/
def hasNul (p : Path) : Bool := p.names.any fun name => name.toList.contains 0

@[simp] theorem append_names (p : Path) (names : List Name) :
    (p.append names).names = p.names ++ names := rfl

@[simp] theorem append_nil (p : Path) : p.append [] = p := by
  simp [append]

@[simp] theorem append_append (p : Path) (a b : List Name) :
    (p.append a).append b = p.append (a ++ b) := by
  simp [append, List.append_assoc]

end Path

end ClaimCheck.Disk
