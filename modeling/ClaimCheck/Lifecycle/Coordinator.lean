import ClaimCheck.Codec.Codec
import ClaimCheck.Deletion.Request
import ClaimCheck.Deletion.Target

/-!
# Deletions

A blob is deleted by its address, and its container with it if the container was seen to hold no
other blob before; an address without a blob deletes the container and all it holds.  The listing and
the deletions are separate calls of one session.
-/

namespace ClaimCheck

open Deletion Text

/-- Why nothing, or not everything, is deleted. -/
inductive LifecycleFault where
  | target (fault : Target.Fault)
  | store (fault : Store.Fault)
  | codec (fault : CodecFault)
  | request (fault : RequestFault)

namespace LifecycleFault

/-- The wording of a fault. -/
def message : LifecycleFault → String
  | target fault => "format error: " ++ fault.message
  | store fault => "store error: " ++ fault.message
  | codec fault => "codec error: " ++ fault.message
  | request (.notJson fault) => "invalid deletion event: " ++ fault.message
  | request .missingAddress => "deletion event is missing field `data.blob_to_delete`"

/-- Whether the fault is that the blob or the container was not there. -/
def isNotFound : LifecycleFault → Bool
  | store fault => fault.isNotFound
  | _ => false

end LifecycleFault

/-- What was deleted. -/
inductive DeletionOutcome where
  | container (container : String)
  | blob (place : Locator) (containerDeleted : Bool)
deriving DecidableEq, Repr

/-- Deletes blobs and the containers that they leave empty. -/
structure Coordinator where
  access : Access
deriving DecidableEq, Repr

namespace Coordinator

/-- The coordinator of a configuration. -/
def ofConfig (c : Config) : Coordinator := ⟨Access.ofConfig c⟩

/-- The description of a coordinator. -/
def describe (c : Coordinator) : String :=
  described "LifecycleCoordinator" [("store", c.access.describe)]

/-- Deletes a blob, and its container if the listing taken before held one name. -/
def deleteBlob (place : Locator) (session : Session) : Attempt Store.Fault DeletionOutcome := do
  let names ← session.call (.list place.container)
  session.call (.deleteBlob place)
  if names.length = 1 then
    session.call (.deleteContainer place.container)
    pure (.blob place true)
  else pure (.blob place false)

/-- Deletes what a target names. -/
def deleteTarget (target : Target) (session : Session) : Attempt Store.Fault DeletionOutcome :=
  match target.blob with
  | none => do
    session.call (.deleteContainer target.container)
    pure (.container target.container)
  | some name => deleteBlob ⟨target.container, name⟩ session

/-- Deletes what an address names. -/
def delete (c : Coordinator) (url : String) : Attempt LifecycleFault DeletionOutcome := do
  let target ← Attempt.ofOutcome .target (Target.ofUrl url)
  Attempt.wrapping .store (c.access.within target.endpoint (deleteTarget target))

end Coordinator

/-- Deletes what the events on a channel ask for. -/
structure DeletionTrigger where
  codec : Codec
  coordinator : Coordinator
deriving DecidableEq, Repr

namespace DeletionTrigger

/-- The trigger of a configuration. -/
def ofConfig (c : Config) : DeletionTrigger := ⟨Codec.ofConfig c, Coordinator.ofConfig c⟩

/-- The description of a trigger. -/
def describe (t : DeletionTrigger) : String :=
  described "DeletionTrigger"
    [("codec", t.codec.describe), ("coordinator", t.coordinator.describe)]

/-- Decodes a body, which may be an envelope, and deletes what its event names. -/
def handle (t : DeletionTrigger) (body : String) : Attempt LifecycleFault DeletionOutcome := do
  let text ← Attempt.wrapping .codec (t.codec.decode body)
  let url ← Attempt.ofOutcome .request (requestedAddress text)
  t.coordinator.delete url

end DeletionTrigger

end ClaimCheck
