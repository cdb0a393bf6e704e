import ClaimCheck.Codec.Codec

/-!
# Gateways

A channel gateway encodes bodies and sends each message once; what is received is decoded.  An event
gateway does the same for the data of events.  A credential is acquired for each message or event and
released after it.
-/

namespace ClaimCheck

open Identity Text

/-- Why nothing is sent or received. -/
inductive ChannelFault where
  | transport (fault : TransportFault)
  | codec (fault : CodecFault)
  | identity (fault : Identity.Fault)
  | config (fault : Config.Fault)

/-- The wording of a fault. -/
def ChannelFault.message : ChannelFault → String
  | .transport fault => "transport error: " ++ fault.message
  | .codec fault => "codec error: " ++ fault.message
  | .identity fault => "identity error: " ++ fault.message
  | .config fault => "configuration error: " ++ fault.message

/-- What was put on a channel: where to, where the body is kept if it was offloaded, and the number of
bytes of the body that was sent. -/
structure Receipt where
  destination : String
  claimCheck : Option Locator
  bodyLength : Nat
deriving DecidableEq, Repr

/-! ### Messages -/

/-- A gateway to the channel of a namespace. -/
structure ChannelGateway where
  channelNamespace : Option String
  codec : Codec
  selector : Selector
deriving DecidableEq, Repr

namespace ChannelGateway

/-- The gateway of a configuration. -/
def ofConfig (c : Config) : ChannelGateway :=
  ⟨c.channelNamespace, Codec.ofConfig c, Selector.ofConfig c⟩

/-- The description of a channel gateway. -/
def describe (g : ChannelGateway) : String :=
  describedInPart "ChannelGateway"
    [("namespace", describedText g.channelNamespace), ("threshold", g.codec.threshold.describe)]

/-- Sends a message.  Its body is encoded; what is kept beside the body stays. -/
def send (g : ChannelGateway) (message : Message) (destination : String) :
    Attempt ChannelFault Receipt := do
  let space ← Attempt.ofOutcome .config (Config.required .channelNamespace g.channelNamespace)
  let encoded ← Attempt.wrapping .codec (g.codec.encodeText message.body)
  let sent := { message with body := encoded.text }
  withCredential g.selector .identity fun credential =>
    (·.mapError .transport) <$> Relay.perform (.enqueue space credential destination sent)
  pure ⟨destination, encoded.locator?, sent.body.utf8ByteSize⟩

/-- Sends a payload as the body of a message with nothing beside it. -/
def sendPayload (g : ChannelGateway) (payload : Payload) (destination : String) :
    Attempt ChannelFault Receipt := do
  let body ← Attempt.ofOutcome (fun cause => .codec (.serialization cause)) payload.text
  g.send { body } destination

/-- Decodes a body that was received. -/
def receive (g : ChannelGateway) (body : String) : Attempt ChannelFault String :=
  Attempt.wrapping .codec (g.codec.decode body)

/-- Decodes the body of a message that was received. -/
def receiveMessage (g : ChannelGateway) (message : Message) : Attempt ChannelFault String :=
  g.receive message.body

end ChannelGateway

/-! ### Events -/

/-- A gateway to the topics of events. -/
structure EventGateway where
  codec : Codec
  selector : Selector
deriving DecidableEq, Repr

namespace EventGateway

/-- The gateway of a configuration. -/
def ofConfig (c : Config) : EventGateway := ⟨Codec.ofConfig c, Selector.ofConfig c⟩

/-- The description of an event gateway. -/
def describe (g : EventGateway) : String :=
  describedInPart "EventGateway" [("selector", g.selector.describe)]

/-- Publishes an event and gives it as it was published, its data offloaded if they are too large. -/
def publish (g : EventGateway) (event : Event) (topic : String) : Attempt ChannelFault Event := do
  let data ← Attempt.wrapping .codec (g.codec.wrapValue event.data)
  let published := { event with data }
  withCredential g.selector .identity fun credential =>
    (·.mapError .transport) <$> Relay.perform (.publish credential topic published)
  pure published

/-- A new event that happens now. -/
def newEvent (subject kind : String) (data : Json.Value) : Relay Event := do
  let id ← Relay.perform .drawId
  let now ← Relay.perform .clock
  pure (.make id.text subject kind data now)

end EventGateway

end ClaimCheck
