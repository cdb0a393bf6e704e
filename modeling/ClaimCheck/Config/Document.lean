import ClaimCheck.Config.Basic
import ClaimCheck.Toml.Document
import ClaimCheck.Toml.Printer

/-!
# Configuration documents

The settings as a document: every setting is optional and other keys are passed over.  A document
holds whole numbers of signed 64-bit words only, so a larger threshold cannot be written.
-/

namespace ClaimCheck.Config

open Toml

/-! ### Reading -/

/-- The text of a setting, or what stands in for a missing one. -/
def textSetting (items : Items) (key : Key) (fallback : String) : Option String :=
  match items.lookup key.label with
  | none => some fallback
  | some (.value (.text s)) => some s
  | some _ => none

/-- The text of a setting that may be missing. -/
def optionalSetting (items : Items) (key : Key) : Option (Option String) :=
  match items.lookup key.label with
  | none => some none
  | some (.value (.text s)) => some (some s)
  | some _ => none

/-- The number of bytes of a setting, or what stands in for a missing one. -/
def sizeSetting (items : Items) (key : Key) (fallback : UInt64) : Option UInt64 :=
  match items.lookup key.label with
  | none => some fallback
  | some (.value (.integer n)) => if 0 ≤ n then some (UInt64.ofNat n.toNat) else none
  | some _ => none

/-- The settings of a document, as they are written. -/
def ofItems? (items : Items) : Option Config := do
  let defaults : Config := {}
  let offloadAccount ← optionalSetting items .offloadAccount
  let thresholdBytes ← sizeSetting items .thresholdBytes defaults.thresholdBytes
  let offloadContainer ← textSetting items .offloadContainer defaults.offloadContainer
  let endpointSuffix ← textSetting items .endpointSuffix defaults.endpointSuffix
  let channelNamespace ← optionalSetting items .channelNamespace
  let identityClient ← optionalSetting items .identityClient
  pure
    { offloadAccount, thresholdBytes, offloadContainer, endpointSuffix, channelNamespace,
      identityClient }

/-- The configuration that a document writes. -/
def ofDocument (text : String) : Except Fault Config :=
  match (Toml.parse? text).bind ofItems? with
  | none => .error .notDocument
  | some c => c.checked

/-- The configuration that a file holds. -/
def ofFile : Except Disk.Fault ByteArray → Except Fault Config
  | .error fault => .error (.unreadable fault)
  | .ok bytes =>
    match String.fromUTF8? bytes with
    | some text => ofDocument text
    | none => .error (.unreadable .notText)

/-! ### Writing -/

/-- The line of a text setting. -/
def textLine (key : Key) (value : String) : List Char :=
  settingLine key.label (stringChars value.toList)

/-- The line of an optional setting, if it is set. -/
def optionalLine (key : Key) : Option String → List Char
  | some value => textLine key value
  | none => []

/-- The document of a configuration, unless its threshold is too large for one. -/
def document? (c : Config) : Option String :=
  if c.thresholdBytes.toNat < 0x8000000000000000 then
    some <| String.ofList <|
      optionalLine .offloadAccount c.offloadAccount ++
      settingLine Key.thresholdBytes.label (Text.decimal c.thresholdBytes.toNat) ++
      textLine .offloadContainer c.offloadContainer ++
      textLine .endpointSuffix c.endpointSuffix ++
      optionalLine .channelNamespace c.channelNamespace ++
      optionalLine .identityClient c.identityClient
  else none

end ClaimCheck.Config
