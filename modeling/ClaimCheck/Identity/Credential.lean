import ClaimCheck.Identity.Selector
import ClaimCheck.Time.Instant

/-!
# Credentials

A credential carries a token for some time.  The token never shows in a description.
-/

namespace ClaimCheck.Identity

open Text

/-- A token for an identity, good until an instant. -/
structure Credential where
  selector : Selector
  token : String
  expiresAt : Instant
deriving DecidableEq, Repr

namespace Credential

/-- A credential has expired from its instant on. -/
def isExpiredAt (c : Credential) (now : Instant) : Bool := now.notBefore c.expiresAt

/-- The description of a credential, without its token. -/
def describe (c : Credential) : String :=
  described "Credential"
    [("selector", c.selector.describe), ("token", quoted "<redacted>"),
      ("expires_at", c.expiresAt.render)]

end Credential

end ClaimCheck.Identity
