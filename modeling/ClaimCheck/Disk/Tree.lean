import ClaimCheck.Disk.Path

/-!
# Directory trees

A tree is a file or a directory of named trees.  A location is the list of names that leads to a tree
from the root of another one; unlike a path it has no names with a meaning of their own.
-/

namespace ClaimCheck.Disk

/-- A file that holds an `α`, or a directory of entries. -/
inductive Tree (α : Type) where
  | file (content : α)
  | directory (entries : List (Name × Tree α))

/-- The names that lead to a tree. -/
abbrev Location := List Name

namespace Tree

variable {α : Type}

/-- The entries of a directory. -/
abbrev Entries (α : Type) := List (Name × Tree α)

/-- The directory without entries. -/
def empty : Tree α := directory []

/-- Whether a tree is a directory. -/
def isDirectory : Tree α → Bool
  | file _ => false
  | directory _ => true

/-! ### Looking -/

/-- The entry of a name. -/
def child? (entries : Entries α) (name : Name) : Option (Tree α) :=
  (entries.find? fun entry => entry.1 = name).map Prod.snd

/-- The tree at a location. -/
def get? : Tree α → Location → Option (Tree α)
  | t, [] => some t
  | file _, _ :: _ => none
  | directory entries, name :: rest => (child? entries name).bind (·.get? rest)
termination_by structural _ location => location

/-! ### Changing -/

/-- Changes the entries of the directory at a location. -/
def update (change : Entries α → Entries α) : Location → Tree α → Tree α
  | _, file content => file content
  | [], directory entries => directory (change entries)
  | name :: rest, directory entries =>
    directory (entries.map fun entry =>
      if entry.1 = name then (entry.1, update change rest entry.2) else entry)

/-- Places an entry behind the others, in the place of one with the same name. -/
def place (name : Name) (t : Tree α) (entries : Entries α) : Entries α :=
  (entries.filter fun entry => entry.1 ≠ name) ++ [(name, t)]

/-- Takes the entry of a name away. -/
def drop (name : Name) (entries : Entries α) : Entries α :=
  entries.filter fun entry => entry.1 ≠ name

/-- Places a tree at a location whose parent is a directory. -/
def insert (root : Tree α) (location : Location) (t : Tree α) : Tree α :=
  match location.getLast? with
  | none => t
  | some name => root.update (place name t) location.dropLast

/-- Takes the tree at a location away. -/
def erase (root : Tree α) (location : Location) : Tree α :=
  match location.getLast? with
  | none => root
  | some name => root.update (drop name) location.dropLast

/-! ### All files -/

mutual

/-- The files below a tree, each by the names that lead to it. -/
def files : Tree α → List (Location × α)
  | file content => [([], content)]
  | directory entries => filesOf entries

/-- The files below entries. -/
def filesOf : Entries α → List (Location × α)
  | [] => []
  | (name, t) :: rest => (t.files.map fun (location, a) => (name :: location, a)) ++ filesOf rest

end

mutual

/-- The directories below a tree, each by the names that lead to it. -/
def directories : Tree α → List Location
  | file _ => []
  | directory entries => [] :: directoriesOf entries

/-- The directories below entries. -/
def directoriesOf : Entries α → List Location
  | [] => []
  | (name, t) :: rest => t.directories.map (name :: ·) ++ directoriesOf rest

end

end Tree

end ClaimCheck.Disk
