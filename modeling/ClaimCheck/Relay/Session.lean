import ClaimCheck.Relay.Request

/-!
# Store sessions

A session is a client of a store together with the credential that opened it.  Whatever becomes of the
work done in it, the client is closed first and then the credential is released; a credential that
opens no client is released at once.
-/

namespace ClaimCheck

open Identity Text

/-- How stores are reached: the identity that credentials are asked for. -/
structure Access where
  selector : Selector
deriving DecidableEq, Repr

/-- An open client and the credential that opened it. -/
structure Session where
  client : Client
  credential : Credential
deriving DecidableEq, Repr

namespace Access

/-- The access that a configuration gives. -/
def ofConfig (c : Config) : Access := ⟨Selector.ofConfig c⟩

/-- Opens a session on the store of an account. -/
def openSession (access : Access) (endpoint : Endpoint) : Attempt Store.Fault Session :=
  ExceptT.mk do
    match ← Relay.perform (.acquire access.selector) with
    | .error fault => pure (.error (.identity fault))
    | .ok credential =>
      match ← Relay.perform (.connect endpoint credential) with
      | .error fault => do
        Relay.perform (.release credential)
        pure (.error fault)
      | .ok client => pure (.ok ⟨client, credential⟩)

/-- The description of an access. -/
def describe (access : Access) : String :=
  describedInPart "StoreAccess" [("selector", access.selector.describe)]

end Access

namespace Session

/-- Closes a session. -/
def close (s : Session) : Relay Unit := do
  Relay.perform (.disconnect s.client)
  Relay.perform (.release s.credential)

/-- Makes a call in a session. -/
def call (s : Session) (call : Store.Call) : Attempt Store.Fault call.Answer :=
  ExceptT.mk (Relay.perform (.call s.client call))

end Session

/-- Works in a session and closes it. -/
def Access.within (access : Access) (endpoint : Endpoint)
    (work : Session → Attempt Store.Fault α) : Attempt Store.Fault α := do
  let session ← access.openSession endpoint
  let outcome ← ExceptT.lift (work session).run
  ExceptT.lift session.close
  Attempt.ofOutcome id outcome

/-- Acquires a credential, works with it and releases it. -/
def withCredential (selector : Selector) (onFault : Identity.Fault → ε)
    (work : Credential → Relay (Except ε α)) : Attempt ε α :=
  ExceptT.mk do
    match ← Relay.perform (.acquire selector) with
    | .error fault => pure (.error (onFault fault))
    | .ok credential => do
      let outcome ← work credential
      Relay.perform (.release credential)
      pure outcome

end ClaimCheck
