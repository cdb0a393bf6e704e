import ClaimCheck.Channel.Event
import ClaimCheck.Channel.Message
import ClaimCheck.Program
import ClaimCheck.Store.Call
import ClaimCheck.Uuid

/-!
# What a relay asks of its surroundings

Everything that a relay does beyond computing: drawing identifiers, acquiring and releasing
credentials, opening and closing clients of a store, calling them, and handing messages and events to
their transports.  A relay's operations are programs over these requests, so they can be run against
any surroundings and stopped after any step.
-/

namespace ClaimCheck

/-! ### Transports -/

/-- Why a transport does not take a message or an event. -/
inductive TransportFault where
  | unavailable (place : String)
  | expired (place : String)
deriving DecidableEq, Repr

/-- The wording of a fault. -/
def TransportFault.message : TransportFault → String
  | .unavailable place => place ++ ": channel unavailable"
  | .expired place => place ++ ": credential expired"

/-! ### Requests -/

/-- An open client of the store of an account. -/
structure Client where
  account : String
deriving DecidableEq, Repr

/-- A request of a relay. -/
inductive Request where
  | drawId
  | clock
  | acquire (selector : Identity.Selector)
  | release (credential : Identity.Credential)
  | connect (endpoint : Endpoint) (credential : Identity.Credential)
  | disconnect (client : Client)
  | call (client : Client) (call : Store.Call)
  | enqueue (space : String) (credential : Identity.Credential) (destination : String)
      (message : Message)
  | publish (credential : Identity.Credential) (topic : String) (event : Event)

/-- The reply to a request. -/
@[reducible] def Request.Reply : Request → Type
  | .drawId => Uuid
  | .clock => Instant
  | .acquire _ => Except Identity.Fault Identity.Credential
  | .release _ => Unit
  | .connect .. => Except Store.Fault Client
  | .disconnect _ => Unit
  | .call _ c => c.Outcome
  | .enqueue .. => Except TransportFault Unit
  | .publish .. => Except TransportFault Unit

/-- A program of a relay. -/
abbrev Relay (α : Type) : Type := Program Request Request.Reply α

/-- A program of a relay that may end with a fault. -/
abbrev Attempt (ε α : Type) : Type := ExceptT ε (Program Request Request.Reply) α

/-- Asks one request. -/
def Relay.perform (r : Request) : Relay r.Reply := Program.request r

/-- Ends an attempt as an outcome says, its fault put into other terms. -/
def Attempt.ofOutcome (wrap : ε → ε') : Except ε α → Attempt ε' α
  | .ok value => pure value
  | .error fault => throw (wrap fault)

/-- An attempt whose fault is put into other terms. -/
def Attempt.wrapping (wrap : ε → ε') (p : Attempt ε α) : Attempt ε' α := ExceptT.adapt wrap p

end ClaimCheck
