import ClaimCheck.Disk.Fault
import ClaimCheck.Disk.Path
import ClaimCheck.Program

/-!
# What is asked of a file system

The requests that a store on disk makes, each with its reply.  The store is a program over them, so
every path that it touches can be read off a run.
-/

namespace ClaimCheck.Disk

/-- What is read of a directory: the names of its entries in some order, each with whether it is a
directory.  It is reached by a path that is not too long, since no file system takes a longer one. -/
structure Reading (path : Path) where
  entries : List (Name × Bool)
  short : path.size ≤ longestPath

/-- A request to a file system. -/
inductive Request where
  | makeDirectory (path : Path)
  | createNew (path : Path)
  | write (path : Path) (data : ByteArray)
  | read (path : Path)
  | remove (path : Path)
  | removeDirectory (path : Path)
  | isThere (path : Path)
  | isDirectory (path : Path)
  | readDirectory (path : Path)
  | removeTree (path : Path)

/-- The reply to a request. -/
@[reducible] def Request.Reply : Request → Type
  | .makeDirectory _ => Except Fault Unit
  | .createNew _ => Except Fault Unit
  | .write .. => Except Fault Unit
  | .read _ => Except Fault ByteArray
  | .remove _ => Except Fault Unit
  | .removeDirectory _ => Except Fault Unit
  | .isThere _ => Except Fault Bool
  | .isDirectory _ => Bool
  | .readDirectory path => Except Fault (Reading path)
  | .removeTree _ => Except Fault Unit

/-- The path that a request names. -/
def Request.path : Request → Path
  | .makeDirectory path => path
  | .createNew path => path
  | .write path _ => path
  | .read path => path
  | .remove path => path
  | .removeDirectory path => path
  | .isThere path => path
  | .isDirectory path => path
  | .readDirectory path => path
  | .removeTree path => path

/-- A program on a file system. -/
abbrev Action (α : Type) : Type := Program Request Request.Reply α

/-- Asks one request. -/
def Action.perform (r : Request) : Action r.Reply := Program.request r

end ClaimCheck.Disk
