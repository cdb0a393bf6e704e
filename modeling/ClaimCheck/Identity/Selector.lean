import ClaimCheck.Config.Basic
import ClaimCheck.Text.Described

/-!
# Selectors

Which identity a credential is asked for: one that is managed, by its client id, or whatever identity
the surroundings give.
-/

namespace ClaimCheck.Identity

open Text

/-- The identity to act as. -/
inductive Selector where
  | managed (client : String)
  | ambient
deriving DecidableEq, Repr

namespace Selector

/-- The identity that a configuration selects. -/
def ofConfig (c : Config) : Selector :=
  match c.identityClient with
  | some client => managed client
  | none => ambient

/-- The name of an identity in messages. -/
def name : Selector → String
  | managed client => "managed-identity:" ++ client
  | ambient => "default"

/-- The description of a selector. -/
def describe : Selector → String
  | managed client => "ManagedIdentity(" ++ quoted client ++ ")"
  | ambient => "Default"

end Selector

end ClaimCheck.Identity
