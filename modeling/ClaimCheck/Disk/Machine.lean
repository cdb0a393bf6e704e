import ClaimCheck.Disk.Request
import ClaimCheck.Disk.Tree

/-!
# A file system

A tree with a place in it where relative paths start.  A path is walked name by name, each but the
last of a directory that is there; what is done at its end depends on what stands there.
-/

namespace ClaimCheck.Disk

/-- A file system without links.  Files stay below `sizeLimit` if there is one.  The directory `here`
is known by its location: where it has been taken away nothing is found from it, although some file
systems still lead from such a directory to the one that it was in. -/
structure Machine where
  tree : Tree ByteArray := .empty
  here : Location := []
  sizeLimit : Option Nat := none

namespace Machine

/-! ### Walking -/

/-- The location that a name leads to from a directory, whether a tree is there or not. -/
def toward (dir : Location) (name : Name) : Except Fault Location :=
  if name = Name.self then .ok dir
  else if name = Name.parent then .ok dir.dropLast
  else if longestName < name.size then .error .nameTooLong
  else .ok (dir ++ [name])

/-- Enters the directory that a name leads to. -/
def enter (m : Machine) (dir : Location) (name : Name) : Except Fault Location := do
  let location ← toward dir name
  match m.tree.get? location with
  | none => throw .notFound
  | some (.file _) => throw .notDirectory
  | some (.directory _) => pure location

/-- The location that names lead to from a directory. -/
def walk (m : Machine) : (dir : Location) → List Name → Except Fault Location
  | dir, [] => .ok dir
  | dir, [name] => toward dir name
  | dir, name :: rest => do m.walk (← m.enter dir name) rest

/-- The location that a path leads to. -/
def locate (m : Machine) (path : Path) : Except Fault Location :=
  if path.hasNul then .error .nulInName
  else if longestPath < path.size then .error .nameTooLong
  else m.walk (if path.isAbsolute then [] else m.here) path.names

/-- The tree that a path leads to. -/
def look (m : Machine) (path : Path) : Except Fault (Location × Tree ByteArray) := do
  let location ← m.locate path
  match m.tree.get? location with
  | none => throw .notFound
  | some t => pure (location, t)

/-! ### Requests -/

/-- Places a tree where nothing is yet. -/
def create (m : Machine) (path : Path) (t : Tree ByteArray) : Except Fault Unit × Machine :=
  match m.locate path with
  | .error fault => (.error fault, m)
  | .ok location =>
    match m.tree.get? location with
    | some _ => (.error .alreadyExists, m)
    | none => (.ok (), { m with tree := m.tree.insert location t })

/-- Takes away the tree that a path leads to, unless something speaks against it. -/
def takeAway (m : Machine) (path : Path) (against : Tree ByteArray → Option Fault) :
    Except Fault Unit × Machine :=
  match m.look path with
  | .error fault => (.error fault, m)
  | .ok (location, t) =>
    match against t with
    | some fault => (.error fault, m)
    | none => (.ok (), { m with tree := m.tree.erase location })

/-- A directory is not removed as a file. -/
def againstRemove : Tree ByteArray → Option Fault
  | .file _ => none
  | .directory _ => some .isDirectory

/-- Only a directory without entries is removed by itself. -/
def againstRemoveDirectory : Tree ByteArray → Option Fault
  | .file _ => some .notDirectory
  | .directory [] => none
  | .directory (_ :: _) => some .directoryNotEmpty

/-- Only a directory is removed with all it holds. -/
def againstRemoveTree : Tree ByteArray → Option Fault
  | .file _ => some .notDirectory
  | .directory _ => none

/-- Writes a file that is there; of data past the limit only the start is kept. -/
def write (m : Machine) (path : Path) (data : ByteArray) : Except Fault Unit × Machine :=
  match m.look path with
  | .error fault => (.error fault, m)
  | .ok (_, .directory _) => (.error .isDirectory, m)
  | .ok (location, .file _) =>
    match m.sizeLimit with
    | none => (.ok (), { m with tree := m.tree.insert location (.file data) })
    | some limit =>
      if data.size ≤ limit then (.ok (), { m with tree := m.tree.insert location (.file data) })
      else
        (.error .fileTooLarge, { m with tree := m.tree.insert location (.file (data.extract 0 limit)) })

/-- The bytes of a file. -/
def read (m : Machine) (path : Path) : Except Fault ByteArray := do
  match ← m.look path with
  | (_, .file data) => pure data
  | (_, .directory _) => throw .isDirectory

/-- Whether something is there; only that nothing is there is no fault. -/
def isThere (m : Machine) (path : Path) : Except Fault Bool :=
  match m.look path with
  | .ok _ => .ok true
  | .error .notFound => .ok false
  | .error fault => .error fault

/-- Whether a directory is there. -/
def isDirectory (m : Machine) (path : Path) : Bool :=
  match m.look path with
  | .ok (_, t) => t.isDirectory
  | .error _ => false

/-- No path that leads somewhere is longer than a path may be. -/
theorem size_le_of_look {m : Machine} {path : Path} {found : Location × Tree ByteArray}
    (h : m.look path = .ok found) : path.size ≤ longestPath := by
  unfold look locate at h
  split at h
  · cases h
  · split at h
    · cases h
    · next hsize => exact Nat.not_lt.mp hsize

/-- The entries of a directory. -/
def readDirectory (m : Machine) (path : Path) : Except Fault (Reading path) :=
  match h : m.look path with
  | .error fault => .error fault
  | .ok (_, .file _) => .error .notDirectory
  | .ok (_, .directory entries) =>
    .ok ⟨entries.map fun entry => (entry.1, entry.2.isDirectory), size_le_of_look h⟩

/-- Answers a request. -/
def answer : (r : Request) → Machine → r.Reply × Machine
  | .makeDirectory path, m => m.create path .empty
  | .createNew path, m => m.create path (.file ByteArray.empty)
  | .write path data, m => m.write path data
  | .read path, m => (m.read path, m)
  | .remove path, m => m.takeAway path againstRemove
  | .removeDirectory path, m => m.takeAway path againstRemoveDirectory
  | .isThere path, m => (m.isThere path, m)
  | .isDirectory path, m => (m.isDirectory path, m)
  | .readDirectory path, m => (m.readDirectory path, m)
  | .removeTree path, m => m.takeAway path againstRemoveTree

/-- Runs a program. -/
def run (m : Machine) (p : Action α) : α × Machine := p.run answer m

end Machine

end ClaimCheck.Disk
