import ClaimCheck.Disk.Fault
import ClaimCheck.Endpoint
import ClaimCheck.Identity.Ledger
import ClaimCheck.Locator
import ClaimCheck.Text.Utf8

/-!
# Store calls

The five calls that a store of blobs answers, what each answers, and why one is refused.  A blob is
written once; what is not there cannot be read, listed or deleted.
-/

namespace ClaimCheck.Store

open Text

/-! ### Refusals -/

/-- Why a credential opens no store. -/
inductive Denial where
  | expired
  | unknown
deriving DecidableEq, Repr

/-- What a name is given to. -/
inductive Part where
  | account
  | container
  | blob
deriving DecidableEq, Repr

/-- Why a store refuses a call, or is not reached. -/
inductive Fault where
  | blobNotFound (place : Locator)
  | blobExists (place : Locator)
  | containerNotFound (container : String)
  | accessDenied (denial : Denial) (endpoint : Endpoint)
  | unavailable
  | invalidName (part : Part) (name : String)
  | disk (fault : Disk.Fault)
  | identity (fault : Identity.Fault)
deriving DecidableEq, Repr

/-- The word for what is wrong with a credential. -/
def Denial.word : Denial → String
  | .expired => "expired"
  | .unknown => "unknown"

/-- The word for what a name is given to. -/
def Part.word : Part → String
  | .account => "account"
  | .container => "container"
  | .blob => "blob"

namespace Fault

/-- The wording of a refusal. -/
def message : Fault → String
  | blobNotFound place => "blob not found: " ++ place.path
  | blobExists place => "blob already exists: " ++ place.path
  | containerNotFound container => "container not found: " ++ container
  | accessDenied denial endpoint =>
    "access denied: " ++ denial.word ++ " credential for " ++ endpoint.url
  | unavailable => "store unavailable: in-memory store marked unavailable"
  | invalidName part name => "invalid name: " ++ part.word ++ " " ++ quoted name
  | disk fault => "I/O error: " ++ fault.message
  | identity fault => "identity error: " ++ fault.message

/-- Whether a refusal says that a blob or a container is missing. -/
def isNotFound : Fault → Bool
  | blobNotFound _ | containerNotFound _ => true
  | _ => false

end Fault

/-! ### Calls -/

/-- A call to the store of one account. -/
inductive Call where
  | put (place : Locator) (data : ByteArray)
  | get (place : Locator)
  | deleteBlob (place : Locator)
  | list (container : String)
  | deleteContainer (container : String)
deriving DecidableEq

/-- What a call answers when it succeeds: nothing, the bytes of a blob, or names by increasing order. -/
@[reducible] def Call.Answer : Call → Type
  | .put .. => Unit
  | .get _ => ByteArray
  | .deleteBlob _ => Unit
  | .list _ => List String
  | .deleteContainer _ => Unit

/-- What a log keeps of a call: everything but the data. -/
inductive LogEntry where
  | put (place : Locator)
  | get (place : Locator)
  | deleteBlob (place : Locator)
  | list (container : String)
  | deleteContainer (container : String)
deriving DecidableEq, Repr

/-- The log entry of a call. -/
def Call.entry : Call → LogEntry
  | .put place _ => .put place
  | .get place => .get place
  | .deleteBlob place => .deleteBlob place
  | .list container => .list container
  | .deleteContainer container => .deleteContainer container

/-- The outcome of a call. -/
abbrev Call.Outcome (call : Call) : Type := Except Fault call.Answer

end ClaimCheck.Store
