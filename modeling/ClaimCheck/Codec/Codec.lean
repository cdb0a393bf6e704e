import ClaimCheck.Codec.Body
import ClaimCheck.Codec.Payload
import ClaimCheck.Relay.Session
import ClaimCheck.Text.Utf8

/-!
# The payload codec

A body that is larger than the threshold is kept in a blob of its own and replaced by an envelope that
names it; a received envelope is replaced by the text of its blob.  Everything else passes unchanged.
-/

namespace ClaimCheck

open Identity Text

/-- Why a body is not encoded or decoded. -/
inductive CodecFault where
  | locator (fault : Locator.Fault)
  | body (fault : ReceivedBody.Fault)
  | config (fault : Config.Fault)
  | store (fault : Store.Fault)
  | serialization (cause : Json.Cause)
  | notText (place : Locator) (fault : Utf8.Fault)

/-- The wording of a fault. -/
def CodecFault.message : CodecFault → String
  | .locator fault => "format error: " ++ fault.message
  | .body fault => "format error: " ++ fault.message
  | .config fault => "configuration error: " ++ fault.message
  | .store fault => "store error: " ++ fault.message
  | .serialization cause => "serialization error: " ++ cause.message
  | .notText place fault =>
    "offloaded body " ++ place.path ++ " is not valid UTF-8: " ++ fault.message

/-- When bodies are offloaded, to which account if there is one, and as whom. -/
structure Codec where
  threshold : Threshold
  endpoint : Option Endpoint
  access : Access
deriving DecidableEq, Repr

namespace Codec

/-- The codec of a configuration. -/
def ofConfig (c : Config) : Codec := ⟨c.threshold, c.offloadEndpoint?, Access.ofConfig c⟩

/-- The description of a codec. -/
def describe (codec : Codec) : String :=
  described "PayloadCodec"
    [("threshold", codec.threshold.describe),
      ("endpoint", describedOption (codec.endpoint.map Endpoint.describe)),
      ("store", codec.access.describe)]

/-- The account that bodies are offloaded to. -/
def requiredEndpoint (codec : Codec) : Attempt CodecFault Endpoint :=
  Attempt.ofOutcome .config (Config.required .offloadAccount codec.endpoint)

/-- A fresh place for an offloaded body. -/
def freshPlace (container : String) (id : Uuid) : Locator :=
  ⟨container, "msg-" ++ id.text ++ ".json"⟩

/-- Keeps a text in a fresh blob. -/
def offload (codec : Codec) (text : String) : Attempt CodecFault Locator := do
  let endpoint ← codec.requiredEndpoint
  let id ← ExceptT.lift (Relay.perform .drawId)
  let place := freshPlace codec.threshold.container id
  Attempt.wrapping .store <| codec.access.within endpoint fun session =>
    session.call (.put place text.toUTF8)
  pure place

/-- Encodes a text: inline, or offloaded if it is larger than the threshold. -/
def encodeText (codec : Codec) (text : String) : Attempt CodecFault EncodedBody :=
  if codec.threshold.exceededBy text.utf8ByteSize then
    EncodedBody.claimCheck <$> codec.offload text
  else pure (.inline text)

/-- Encodes a payload. -/
def encode (codec : Codec) (payload : Payload) : Attempt CodecFault EncodedBody := do
  let text ← Attempt.ofOutcome .serialization payload.text
  codec.encodeText text

/-- A document value, or the envelope that replaces it. -/
def wrapValue (codec : Codec) (value : Json.Value) : Attempt CodecFault Json.Value := do
  match ← codec.encodeText value.compact with
  | .inline _ => pure value
  | .claimCheck place => pure (EncodedBody.envelope place)

/-- The text that a blob holds. -/
def fetch (codec : Codec) (place : Locator) : Attempt CodecFault String := do
  let endpoint ← codec.requiredEndpoint
  let data ← Attempt.wrapping .store <| codec.access.within endpoint fun session =>
    session.call (.get place)
  Attempt.ofOutcome (.notText place) (Utf8.decode data)

/-- Decodes a body that was received: an envelope gives the text of its blob, and any other body is
the text itself. -/
def decode (codec : Codec) (body : String) : Attempt CodecFault String := do
  match ← Attempt.ofOutcome .body (ReceivedBody.ofText body) with
  | .notJson | .otherJson => pure body
  | .claimCheck path =>
    let place ← Attempt.ofOutcome .locator (Locator.ofPath path)
    codec.fetch place

end Codec

end ClaimCheck
