import ClaimCheck.Json.Record

/-!
# Messages

A message on a channel: a body and what the broker keeps beside it.
-/

namespace ClaimCheck

/-- A body with its correlation id, its session id and its application properties. -/
@[ext] structure Message where
  body : String
  correlationId : Option String := none
  sessionId : Option String := none
  properties : Keyed String := Keyed.empty
deriving DecidableEq

namespace Message

/-- The message with another property, or another value of one. -/
def withProperty (m : Message) (key value : String) : Message :=
  { m with properties := m.properties.insert key value }

instance : Json.Record Message where
  layout :=
    ⟨"ChannelMessage",
      [{ label := "body", shape := .text }, { label := "correlation_id", shape := .optionalText },
        { label := "session_id", shape := .optionalText },
        { label := "application_properties", shape := .texts }]⟩
  toRow m := (m.body, m.correlationId, m.sessionId, m.properties, ())
  ofRow row := ⟨row.1, row.2.1, row.2.2.1, row.2.2.2.1⟩
  ofRow_toRow _ := rfl

end Message

end ClaimCheck
