import ClaimCheck.Identity.Credential

/-!
# The credential ledger

An identity backend that keeps account of the credentials it has given out: how many, how many came
back, and which tokens are still out.
-/

namespace ClaimCheck.Identity

open Text

/-- No credential is to be had. -/
structure Fault where
  selector : Selector
deriving DecidableEq, Repr

/-- The wording of a fault. -/
def Fault.message (fault : Fault) : String :=
  "credential unavailable for " ++ fault.selector.name ++ ": provider configured to fail"

/-- The credentials that were given out and those that came back.  Each is good for `lifetime`
seconds; while `failing`, none is given out. -/
structure Ledger where
  lifetime : Int := 300
  failing : Bool := false
  live : List String := []
  acquired : Nat := 0
  released : Nat := 0
deriving DecidableEq, Repr

namespace Ledger

/-- The number of tokens that are out. -/
def outstanding (l : Ledger) : Nat := l.live.length

/-- Whether the token of a credential is out. -/
def isLive (l : Ledger) (c : Credential) : Bool := l.live.contains c.token

/-- Gives out a credential with a fresh token. -/
def acquire (l : Ledger) (selector : Selector) (token : String) (now : Instant) :
    Except Fault Credential × Ledger :=
  if l.failing then (.error ⟨selector⟩, l)
  else
    (.ok ⟨selector, token, now.later l.lifetime⟩,
      { l with
        live := if l.live.contains token then l.live else token :: l.live
        acquired := l.acquired + 1 })

/-- Takes a credential back; one whose token is not out changes nothing. -/
def release (l : Ledger) (c : Credential) : Ledger :=
  if l.isLive c then { l with live := l.live.erase c.token, released := l.released + 1 } else l

/-- The description of a ledger. -/
def describe (l : Ledger) : String :=
  described "StaticCredentialProvider"
    [("acquired", describedCount l.acquired),
      ("released", describedCount l.released)]

end Ledger

end ClaimCheck.Identity
