import ClaimCheck.Disk.Listing
import ClaimCheck.Disk.Tree
import ClaimCheck.Store.Call
import ClaimCheck.Text.Utf8

/-!
# Accounts on disk

The store of one account as a directory: a directory for each container, and in it a file for each
blob, with a directory for each part of the blob's name that stands before a slash.  Names that would
lead elsewhere are refused.  The directories of a blob are made with it and go when they are left
empty; the directory of a container stays.
-/

namespace ClaimCheck.Disk

open Store Text

/-- A program on a file system that may end with a fault of the store. -/
abbrev Attempt (α : Type) : Type := ExceptT Store.Fault (Program Request Request.Reply) α

/-- Asks a request that may fail, its fault put into the words of a store. -/
def Attempt.wrapping (words : Fault → Store.Fault) (p : Action (Except Fault α)) : Attempt α :=
  ExceptT.mk ((·.mapError words) <$> p)

/-- A piece of a name that leads to no entry of its own. -/
def isSpecial (cs : List Char) : Bool := cs.isEmpty || cs = ['.'] || cs = ['.', '.']

/-- Whether a text names one entry of a directory. -/
def isEntryName (text : String) : Bool := !isSpecial text.toList && '/' ∉ text.toList

/-! ### Directories -/

/-- Makes a directory and those above it that are missing; the names are in reverse order. -/
def makeUpTo (isAbsolute : Bool) : (reversed : List Name) → Action (Except Fault Unit)
  | [] => pure (.ok ())
  | name :: up => do
    let path : Path := ⟨isAbsolute, (name :: up).reverse⟩
    let orElse (fault : Fault) : Action (Except Fault Unit) := do
      if ← Action.perform (.isDirectory path) then pure (.ok ()) else pure (.error fault)
    match ← Action.perform (.makeDirectory path) with
    | .ok () => pure (.ok ())
    | .error .notFound =>
      match ← makeUpTo isAbsolute up with
      | .error fault => pure (.error fault)
      | .ok () =>
        match ← Action.perform (.makeDirectory path) with
        | .ok () => pure (.ok ())
        | .error fault => orElse fault
    | .error fault => orElse fault

/-- Makes a directory and those above it that are missing. -/
def makeDirectories (path : Path) : Action (Except Fault Unit) :=
  makeUpTo path.isAbsolute path.names.reverse

/-- Removes directories from the innermost on until one is left that is not empty; the names are in
reverse order. -/
def prune (base : Path) : (reversed : List Name) → Action Unit
  | [] => pure ()
  | name :: up => do
    match ← Action.perform (.removeDirectory (base.append (name :: up).reverse)) with
    | .ok () => prune base up
    | .error _ => pure ()

/-! ### Names -/

/-- The name of the blob that is kept at a location of its container. -/
def blobName (location : Location) : String :=
  String.ofList (join '/' (location.map fun name => (Utf8.decodeLossy name).toList))

/-! ### The store -/

/-- The store of one account in a directory. -/
structure Account where
  root : Path
deriving DecidableEq

namespace Account

/-- The directory of a container. -/
def containerPath (a : Account) (container : String) : Except Store.Fault Path :=
  if isEntryName container then .ok (a.root.child container.toUTF8)
  else .error (.invalidName .container container)

/-- The names that lead to a blob in its container, the outermost first. -/
def segments (name : String) : Except Store.Fault (List Name) :=
  let parts := pieces '/' name.toList
  if parts.any isSpecial then .error (.invalidName .blob name) else .ok (parts.map Name.ofChars)

/-- The directory of a container that is there. -/
def presentContainer (a : Account) (container : String) : Attempt Path := do
  let path ← liftM (a.containerPath container)
  if ← Attempt.wrapping .disk (Action.perform (.isThere path)) then pure path
  else throw (.containerNotFound container)

/-- Puts a fault into the words of a store, one of which says that nothing is there. -/
def missingAs (fault : Store.Fault) : Fault → Store.Fault
  | .notFound => fault
  | other => .disk other

/-- Writes a new blob.  A file that cannot be written to its end is removed again. -/
def put (a : Account) (place : Locator) (data : ByteArray) : Attempt Unit := do
  let container ← liftM (a.containerPath place.container)
  let names ← liftM (segments place.name)
  let path := container.append names
  Attempt.wrapping .disk (makeDirectories (container.append names.dropLast))
  Attempt.wrapping (fun fault => if fault = .alreadyExists then .blobExists place else .disk fault)
    (Action.perform (.createNew path))
  Attempt.wrapping .disk do
    match ← Action.perform (.write path data) with
    | .ok () => pure (.ok ())
    | .error fault =>
      discard <| Action.perform (.remove path)
      pure (.error fault)

/-- The bytes of a blob. -/
def get (a : Account) (place : Locator) : Attempt ByteArray := do
  let container ← a.presentContainer place.container
  let names ← liftM (segments place.name)
  Attempt.wrapping (missingAs (.blobNotFound place))
    (Action.perform (.read (container.append names)))

/-- Removes a blob and the directories that it leaves empty. -/
def deleteBlob (a : Account) (place : Locator) : Attempt Unit := do
  let container ← a.presentContainer place.container
  let names ← liftM (segments place.name)
  Attempt.wrapping (missingAs (.blobNotFound place))
    (Action.perform (.remove (container.append names)))
  ExceptT.lift (prune container names.dropLast.reverse)

/-- The names of the blobs of a container. -/
def list (a : Account) (container : String) : Attempt (List String) := do
  let path ← a.presentContainer container
  List.mergeSort <$> Attempt.wrapping .disk (Listing.start path).collect

/-- Removes a container with all it holds. -/
def deleteContainer (a : Account) (container : String) : Attempt Unit := do
  let path ← liftM (a.containerPath container)
  Attempt.wrapping (missingAs (.containerNotFound container))
    (Action.perform (.removeTree path))

/-- Does what a call asks. -/
def perform (a : Account) : (call : Call) → Attempt call.Answer
  | .put place data => a.put place data
  | .get place => a.get place
  | .deleteBlob place => a.deleteBlob place
  | .list container => a.list container
  | .deleteContainer container => a.deleteContainer container

/-- The store of an account below a root, which an expired credential does not open. -/
def connect (root : Path) (endpoint : Endpoint) (credential : Identity.Credential) (now : Instant) :
    Except Store.Fault Account :=
  if credential.isExpiredAt now then .error (.accessDenied .expired endpoint)
  else if isEntryName endpoint.account then .ok ⟨root.child endpoint.account.toUTF8⟩
  else .error (.invalidName .account endpoint.account)

end Account

end ClaimCheck.Disk
