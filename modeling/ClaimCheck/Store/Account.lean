import ClaimCheck.Store.Call

/-!
# Accounts in memory

The store of one account: containers by name, each with blobs by name, and a log of every call that
was made.  A container is made by the first blob put into it and stays when its last blob goes.
-/

namespace ClaimCheck.Store

open Text

/-- The blobs of a container by name. -/
abbrev Blobs := Keyed ByteArray

/-- The store of one account.  While it is unavailable every call is logged and refused. -/
structure Account where
  containers : Keyed Blobs := Keyed.empty
  log : List LogEntry := []
  isUnavailable : Bool := false
deriving DecidableEq

namespace Account

instance : Inhabited Account := ⟨{}⟩

/-! ### Without the log -/

/-- The bytes of a blob, if it is there. -/
def blob? (a : Account) (place : Locator) : Option ByteArray :=
  (a.containers.get? place.container).bind (·.get? place.name)

/-- Whether a container is there. -/
def hasContainer (a : Account) (container : String) : Bool := a.containers.contains container

/-- The names of the blobs of a container, increasing; none if it is not there. -/
def blobNames (a : Account) (container : String) : List String :=
  match a.containers.get? container with
  | some blobs => blobs.keys
  | none => []

/-- Makes a container unless it is there. -/
def createContainer (a : Account) (container : String) : Account :=
  { a with containers := a.containers.insertIfNew container Keyed.empty }

/-- Places a blob, in the place of one that is there. -/
def seed (a : Account) (place : Locator) (data : ByteArray) : Account :=
  let blobs := (a.containers.get? place.container).getD Keyed.empty
  { a with containers := a.containers.insert place.container (blobs.insert place.name data) }

/-! ### Calls -/

/-- Does what a call asks, when the account is available. -/
def perform (a : Account) : (call : Call) → call.Outcome × Account
  | .put place data =>
    let a := a.createContainer place.container
    match a.blob? place with
    | some _ => (.error (.blobExists place), a)
    | none => (.ok (), a.seed place data)
  | .get place =>
    match a.containers.get? place.container with
    | none => (.error (.containerNotFound place.container), a)
    | some blobs =>
      match blobs.get? place.name with
      | none => (.error (.blobNotFound place), a)
      | some data => (.ok data, a)
  | .deleteBlob place =>
    match a.containers.get? place.container with
    | none => (.error (.containerNotFound place.container), a)
    | some blobs =>
      match blobs.get? place.name with
      | none => (.error (.blobNotFound place), a)
      | some _ =>
        (.ok (), { a with containers := a.containers.insert place.container (blobs.erase place.name) })
  | .list container =>
    match a.containers.get? container with
    | none => (.error (.containerNotFound container), a)
    | some blobs => (.ok blobs.keys, a)
  | .deleteContainer container =>
    match a.containers.get? container with
    | none => (.error (.containerNotFound container), a)
    | some _ => (.ok (), { a with containers := a.containers.erase container })

/-- Logs a call. -/
def record (a : Account) (call : Call) : Account := { a with log := a.log ++ [call.entry] }

/-- Answers a call: it is logged, and refused if the account is unavailable. -/
def answer (a : Account) (call : Call) : call.Outcome × Account :=
  let a := a.record call
  if a.isUnavailable then (.error .unavailable, a) else a.perform call

/-- The description of an account. -/
def describe (a : Account) : String :=
  described "InMemoryObjectStore"
    [("container_count", describedCount a.containers.size)]

end Account

end ClaimCheck.Store
