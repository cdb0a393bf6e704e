import ClaimCheck.Endpoint
import ClaimCheck.Web.Address

/-!
# Deletion targets

What a blob address names: `https://<account>.blob.<suffix>/<container>/<blob>`.  The blob may have
slashes of its own; without one the container is meant.
-/

namespace ClaimCheck

open Text Web

/-- A blob of a container in an account, or a whole container. -/
@[ext] structure Target where
  account : String
  suffix : String
  container : String
  blob : Option String
deriving DecidableEq, Repr

namespace Target

/-- Why an address names no target. -/
inductive Reason where
  | notAddress (fault : Address.Fault)
  | notHttps
  | otherPort
  | notEndpoint
  | emptyAccount
  | emptySuffix
  | emptyContainer
  | notText
deriving DecidableEq, Repr

/-- The wording of a reason. -/
def Reason.message : Reason → String
  | .notAddress fault => fault.message
  | .notHttps => "expected an https url"
  | .otherPort => "non-default port"
  | .notEndpoint => "host is not a blob endpoint"
  | .emptyAccount => "empty account name"
  | .emptySuffix => "empty endpoint suffix"
  | .emptyContainer => "empty container name"
  | .notText => "path is not valid UTF-8"

/-- An address that names no target. -/
structure Fault where
  url : String
  reason : Reason
deriving DecidableEq, Repr

/-- The wording of a fault. -/
def Fault.message (fault : Fault) : String :=
  "invalid blob url " ++ quoted fault.url ++ ": " ++ fault.reason.message

/-- The account and the suffix of a host. -/
def splitHost (host : Host) : Except Reason (String × String) :=
  match host with
  | .numeric => .error .notEndpoint
  | .domain name =>
    match splitAt? Endpoint.marker.toList name.toList with
    | none => .error .notEndpoint
    | some ([], _) => .error .emptyAccount
    | some (_, []) => .error .emptySuffix
    | some (account, suffix) => .ok (String.ofList account, String.ofList suffix)

/-- The text of a path segment. -/
def decodeSegment (segment : List Char) : Except Reason (List Char) :=
  match percentDecode? segment with
  | some text => .ok text
  | none => .error .notText

/-- The container and the blob that path segments name. -/
def splitPath (segments : List (List Char)) : Except Reason (String × Option String) := do
  let container ← decodeSegment (segments.headD [])
  if container.isEmpty then throw .emptyContainer
  let blob := join '/' (← (segments.drop 1).mapM decodeSegment)
  pure (String.ofList container, if blob.isEmpty then none else some (String.ofList blob))

/-- The target of an address. -/
def ofAddress : Address → Except Reason Target
  | .other _ => .error .notHttps
  | .web scheme host port segments => do
    if scheme ≠ "https" then throw .notHttps
    if port.isSome then throw .otherPort
    let (account, suffix) ← splitHost host
    let (container, blob) ← splitPath segments
    pure ⟨account, suffix, container, blob⟩

/-- The target of an address as text. -/
def parse (url : String) : Except Reason Target :=
  match Address.parse url with
  | .error fault => .error (.notAddress fault)
  | .ok address => ofAddress address

/-- The target of an address as text, or the fault that names it. -/
def ofUrl (url : String) : Except Fault Target := (parse url).mapError (⟨url, ·⟩)

/-- The account of the target. -/
def endpoint (t : Target) : Endpoint := ⟨t.account, t.suffix⟩

/-- Whether a whole container is meant. -/
def isContainer (t : Target) : Bool := t.blob.isNone

instance : Json.Record Target where
  layout :=
    ⟨"DeletionRequest",
      [{ label := "account", shape := .text }, { label := "suffix", shape := .text },
        { label := "container", shape := .text }, { label := "blob_name", shape := .optionalText }]⟩
  toRow t := (t.account, t.suffix, t.container, t.blob, ())
  ofRow row := ⟨row.1, row.2.1, row.2.2.1, row.2.2.2.1⟩
  ofRow_toRow _ := rfl

end Target

end ClaimCheck
