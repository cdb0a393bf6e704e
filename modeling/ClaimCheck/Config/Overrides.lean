import ClaimCheck.Config.Basic
import ClaimCheck.Text.Decimal
import ClaimCheck.Text.Split

/-!
# Overrides

Variables whose names start with `COURIER_` replace settings, the later ones those before.  The
result has to hold up as a configuration; what stood in between does not.
-/

namespace ClaimCheck.Config

open Text

/-- The start of the names of variables that replace settings. -/
def variableStart : String := "COURIER_"

/-- The name of the variable that replaces a setting, after the common start. -/
def Key.variableName : Key → String
  | .offloadAccount => "OFFLOAD_STORAGE_ACCOUNT_NAME"
  | .thresholdBytes => "OFFLOAD_THRESHOLD_BYTES"
  | .offloadContainer => "OFFLOAD_CONTAINER"
  | .endpointSuffix => "STORAGE_ENDPOINT_SUFFIX"
  | .channelNamespace => "CHANNEL_NAMESPACE"
  | .identityClient => "MANAGED_IDENTITY_CLIENT_ID"

/-- All settings. -/
def Key.all : List Key :=
  [.offloadAccount, .thresholdBytes, .offloadContainer, .endpointSuffix, .channelNamespace,
    .identityClient]

/-- The setting that a variable replaces. -/
def Key.ofVariable? (name : String) : Option Key :=
  Key.all.find? fun key => name = variableStart ++ key.variableName

/-- Reads the digits that go on with a number; the first character that is no digit or makes the
number too large decides the fault. -/
def readSizeFrom : (n : Nat) → List Char → Except NumberFault UInt64
  | n, [] => .ok (UInt64.ofNat n)
  | n, c :: rest =>
    if !isDigit c then .error .invalidDigit
    else if 0x10000000000000000 ≤ n * 10 + digitValue c then .error .tooLarge
    else readSizeFrom (n * 10 + digitValue c) rest

/-- The number of an unsigned 64-bit word that digits write, a plus sign before them or not. -/
def readSize : List Char → Except NumberFault UInt64
  | [] => .error .empty
  | '+' :: c :: rest => readSizeFrom 0 (c :: rest)
  | cs => readSizeFrom 0 cs

/-- Replaces one setting. -/
def replace (c : Config) (key : Key) (value : String) : Except Fault Config :=
  match key with
  | .offloadAccount => .ok { c with offloadAccount := some value }
  | .thresholdBytes =>
    match readSize (trim value.toList) with
    | .ok n => .ok { c with thresholdBytes := n }
    | .error fault => .error (.invalid .thresholdBytes (.notNumber fault))
  | .offloadContainer => .ok { c with offloadContainer := value }
  | .endpointSuffix => .ok { c with endpointSuffix := value }
  | .channelNamespace => .ok { c with channelNamespace := some value }
  | .identityClient => .ok { c with identityClient := some value }

/-- Replaces the setting that a variable names, if it names one. -/
def applyOverride (c : Config) (entry : String × String) : Except Fault Config :=
  match Key.ofVariable? entry.1 with
  | some key => c.replace key entry.2
  | none => .ok c

/-- The configuration with the settings that variables replace. -/
def withOverrides (c : Config) (environment : List (String × String)) : Except Fault Config := do
  (← environment.foldlM applyOverride c).checked

end ClaimCheck.Config
