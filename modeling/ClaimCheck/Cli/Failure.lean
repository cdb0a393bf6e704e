import ClaimCheck.Lifecycle.Coordinator
import ClaimCheck.Channel.Gateway

/-!
# Failures

Why a command fails, as it is told: what failed, and what caused it step by step.
-/

namespace ClaimCheck.Cli

open Text

/-- What failed and what caused it, the nearest cause first. -/
structure Failure where
  message : String
  causes : List String := []
deriving DecidableEq, Repr

namespace Failure

/-- A failure that causes another one. -/
def causing (f : Failure) (message : String) : Failure := ⟨message, f.message :: f.causes⟩

/-! ### Faults as failures -/

/-- The failure of a file system. -/
def ofDisk (fault : Disk.Fault) : Failure := { message := fault.message }

/-- The failure to get a credential. -/
def ofIdentity (fault : Identity.Fault) : Failure := { message := fault.message }

/-- The failure of a configuration. -/
def ofConfig (fault : Config.Fault) : Failure :=
  match fault with
  | .unreadable inner => (ofDisk inner).causing fault.message
  | .notDocument => ⟨fault.message, [Config.notDocumentText]⟩
  | .missing _ | .invalid .. => { message := fault.message }

/-- The failure of a store. -/
def ofStore (fault : Store.Fault) : Failure :=
  match fault with
  | .disk inner => (ofDisk inner).causing fault.message
  | .identity inner => (ofIdentity inner).causing fault.message
  | _ => { message := fault.message }

/-- The failure to encode or decode a body. -/
def ofCodec (fault : CodecFault) : Failure :=
  match fault with
  | .locator inner => ⟨fault.message, [inner.message]⟩
  | .body inner => ⟨fault.message, [inner.message]⟩
  | .config inner => (ofConfig inner).causing fault.message
  | .store inner => (ofStore inner).causing fault.message
  | .serialization cause => ⟨fault.message, [cause.message]⟩
  | .notText _ inner => ⟨fault.message, [inner.message]⟩

/-- The failure to send or receive. -/
def ofChannel (fault : ChannelFault) : Failure :=
  match fault with
  | .transport _ => { message := fault.message }
  | .codec inner => (ofCodec inner).causing fault.message
  | .identity inner => (ofIdentity inner).causing fault.message
  | .config inner => (ofConfig inner).causing fault.message

/-- The failure to delete. -/
def ofLifecycle (fault : LifecycleFault) : Failure :=
  match fault with
  | .target inner => ⟨fault.message, [inner.message]⟩
  | .store inner => (ofStore inner).causing fault.message
  | .codec inner => (ofCodec inner).causing fault.message
  | .request (.notJson inner) => ⟨fault.message, [inner.message]⟩
  | .request .missingAddress => { message := fault.message }

/-! ### The report -/

/-- A cause with its lines set in. -/
def indented (first margin message : String) : String :=
  String.ofList (first.toList ++ message.toList.flatMap fun c =>
    if c = '\n' then '\n' :: margin.toList else [c])

/-- A cause with its number. -/
def numbered (n : Nat) (message : String) : String :=
  let digits := decimal n
  indented (String.ofList (List.replicate (5 - digits.length) ' ' ++ digits ++ [':', ' ']))
    "       " message

/-- The causes of a failure, with numbers if there are several. -/
def reportCauses : List String → String
  | [] => ""
  | [cause] => "\n\nCaused by:\n" ++ indented "    " "    " cause
  | causes => "\n\nCaused by:" ++ String.join (causes.mapIdx fun n cause => "\n" ++ numbered n cause)

/-- What is told of a failure. -/
def report (f : Failure) : String := "Error: " ++ f.message ++ reportCauses f.causes ++ "\n"

end Failure

end ClaimCheck.Cli
