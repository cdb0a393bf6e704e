import ClaimCheck.Json.Record
import ClaimCheck.Text.Described

/-!
# Account endpoints

Where the blobs of an account are reached: the account and the suffix of its cloud.
-/

namespace ClaimCheck

open Text

/-- A storage account and the endpoint suffix of its cloud. -/
@[ext] structure Endpoint where
  account : String
  suffix : String
deriving DecidableEq, Repr

namespace Endpoint

/-- The part of a host between the account and the suffix. -/
def marker : String := ".blob."

/-- The address of the account. -/
def url (e : Endpoint) : String := "https://" ++ e.account ++ marker ++ e.suffix

/-- The description of an endpoint. -/
def describe (e : Endpoint) : String :=
  described "AccountEndpoint" [("account", quoted e.account), ("suffix", quoted e.suffix)]

instance : Json.Record Endpoint where
  layout :=
    ⟨"AccountEndpoint",
      [{ label := "account", shape := .text }, { label := "suffix", shape := .text }]⟩
  toRow e := (e.account, e.suffix, ())
  ofRow row := ⟨row.1, row.2.1⟩
  ofRow_toRow _ := rfl

end Endpoint

end ClaimCheck
