import ClaimCheck.Disk.Fault
import ClaimCheck.Endpoint
import ClaimCheck.Text.Blank

/-!
# Configuration

The settings of a relay, read once and shared by all its parts: where bodies that are too large for a
channel go and from which size on, the channel's namespace, and the identity to act as.
-/

namespace ClaimCheck

open Text

/-! ### Thresholds -/

/-- When a body is offloaded, and to which container. -/
@[ext] structure Threshold where
  enabled : Bool
  maxInlineBytes : UInt64
  container : String
deriving DecidableEq, Repr

namespace Threshold

/-- A body is offloaded when offloading is enabled and the body is larger than what stays inline. -/
def exceededBy (t : Threshold) (length : Nat) : Bool :=
  t.enabled && t.maxInlineBytes.toNat < length

/-- The description of a threshold. -/
def describe (t : Threshold) : String :=
  described "ThresholdConfig"
    [("offload_enabled", describedFlag t.enabled),
      ("max_inline_bytes", describedCount t.maxInlineBytes.toNat),
      ("container", quoted t.container)]

instance : Json.Record Threshold where
  layout :=
    ⟨"ThresholdConfig",
      [{ label := "offload_enabled", shape := .flag }, { label := "max_inline_bytes", shape := .size },
        { label := "container", shape := .text }]⟩
  toRow t := (t.enabled, t.maxInlineBytes, t.container, ())
  ofRow row := ⟨row.1, row.2.1, row.2.2.1⟩
  ofRow_toRow _ := rfl

end Threshold

/-! ### Settings -/

/-- The names of the settings. -/
inductive Config.Key where
  | offloadAccount
  | thresholdBytes
  | offloadContainer
  | endpointSuffix
  | channelNamespace
  | identityClient
deriving DecidableEq, Repr

/-- The name of a setting in files and messages. -/
def Config.Key.label : Config.Key → String
  | .offloadAccount => "offload_storage_account_name"
  | .thresholdBytes => "offload_threshold_bytes"
  | .offloadContainer => "offload_container"
  | .endpointSuffix => "storage_endpoint_suffix"
  | .channelNamespace => "channel_namespace"
  | .identityClient => "managed_identity_client_id"

/-- The settings of a relay.  Without an account nothing is offloaded, without a namespace nothing
can be sent, and without an identity the ambient one is used. -/
@[ext] structure Config where
  offloadAccount : Option String := none
  thresholdBytes : UInt64 := 200000
  offloadContainer : String := "sb-messages"
  endpointSuffix : String := "core.windows.net"
  channelNamespace : Option String := none
  identityClient : Option String := none
deriving DecidableEq, Repr

namespace Config

/-- Why a number setting is refused. -/
inductive NumberFault where
  | empty
  | invalidDigit
  | tooLarge
deriving DecidableEq, Repr

/-- Why a setting is refused. -/
inductive Reason where
  | empty
  | hasSlash
  | notNumber (fault : NumberFault)
deriving DecidableEq, Repr

/-- Why there is no configuration. -/
inductive Fault where
  | missing (key : Key)
  | invalid (key : Key) (reason : Reason)
  | notDocument
  | unreadable (fault : Disk.Fault)
deriving DecidableEq, Repr

/-- The wording of a refusal. -/
def Reason.message : Reason → String
  | .empty => "must not be empty"
  | .hasSlash => "must not contain '/'"
  | .notNumber .empty => "cannot parse integer from empty string"
  | .notNumber .invalidDigit => "invalid digit found in string"
  | .notNumber .tooLarge => "number too large to fit in target type"

/-- What is said of a text that is no configuration document. -/
def notDocumentText : String := "TOML parse error"

/-- The wording of a fault. -/
def Fault.message : Fault → String
  | .missing key => "missing configuration value: " ++ key.label
  | .invalid key reason =>
    "invalid configuration value for " ++ key.label ++ ": " ++ reason.message
  | .notDocument => "failed to parse configuration: " ++ notDocumentText
  | .unreadable fault => "I/O error reading configuration: " ++ fault.message

instance : Inhabited Config := ⟨{}⟩

/-- Drops an optional text that is blank. -/
def dropBlank (value : Option String) : Option String := value.filter fun text => !isAllBlank text

/-- Takes blank optional settings as left out. -/
def normalized (c : Config) : Config :=
  { c with
    offloadAccount := dropBlank c.offloadAccount
    channelNamespace := dropBlank c.channelNamespace
    identityClient := dropBlank c.identityClient }

/-- Refuses a container that no path can name and an empty suffix. -/
def validated (c : Config) : Except Fault Config :=
  if c.offloadContainer = "" then .error (.invalid .offloadContainer .empty)
  else if '/' ∈ c.offloadContainer.toList then .error (.invalid .offloadContainer .hasSlash)
  else if c.endpointSuffix = "" then .error (.invalid .endpointSuffix .empty)
  else .ok c

/-- The settings as they take effect. -/
def checked (c : Config) : Except Fault Config := c.normalized.validated

/-- When bodies are offloaded. -/
def threshold (c : Config) : Threshold :=
  ⟨c.offloadAccount.isSome, c.thresholdBytes, c.offloadContainer⟩

/-- Where bodies are offloaded to, if an account is set. -/
def offloadEndpoint? (c : Config) : Option Endpoint :=
  c.offloadAccount.map (⟨·, c.endpointSuffix⟩)

/-- A setting, or the fault that it is missing. -/
def required (key : Key) : Option α → Except Fault α
  | some value => .ok value
  | none => .error (.missing key)

/-- Where bodies are offloaded to. -/
def offloadEndpoint (c : Config) : Except Fault Endpoint :=
  required .offloadAccount c.offloadEndpoint?

/-- The channel's namespace. -/
def requiredNamespace (c : Config) : Except Fault String :=
  required .channelNamespace c.channelNamespace

/-- The description of a configuration. -/
def describe (c : Config) : String :=
  described "CourierConfig"
    [(Key.offloadAccount.label, describedText c.offloadAccount),
      (Key.thresholdBytes.label, describedCount c.thresholdBytes.toNat),
      (Key.offloadContainer.label, quoted c.offloadContainer),
      (Key.endpointSuffix.label, quoted c.endpointSuffix),
      (Key.channelNamespace.label, describedText c.channelNamespace),
      (Key.identityClient.label, describedText c.identityClient)]

instance : Json.Record Config where
  layout :=
    ⟨"CourierConfig",
      [{ label := Key.offloadAccount.label, shape := .optionalText, fallback := some none },
        { label := Key.thresholdBytes.label, shape := .size, fallback := some 200000 },
        { label := Key.offloadContainer.label, shape := .text, fallback := some "sb-messages" },
        { label := Key.endpointSuffix.label, shape := .text, fallback := some "core.windows.net" },
        { label := Key.channelNamespace.label, shape := .optionalText, fallback := some none },
        { label := Key.identityClient.label, shape := .optionalText, fallback := some none }]⟩
  toRow c :=
    (c.offloadAccount, c.thresholdBytes, c.offloadContainer, c.endpointSuffix, c.channelNamespace,
      c.identityClient, ())
  ofRow row :=
    ⟨row.1, row.2.1, row.2.2.1, row.2.2.2.1, row.2.2.2.2.1, row.2.2.2.2.2.1⟩
  ofRow_toRow _ := rfl

end Config

end ClaimCheck
