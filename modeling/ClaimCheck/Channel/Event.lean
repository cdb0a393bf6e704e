import ClaimCheck.Json.Record

/-!
# Events

An event of a topic: what happened to which subject and when, with data of any kind.
-/

namespace ClaimCheck

/-- An event of a topic. -/
@[ext] structure Event where
  id : String
  subject : String
  kind : String
  data : Json.Value
  dataVersion : String
  time : Instant

namespace Event

/-- The data version of the events that are made here. -/
def currentVersion : String := "1.0"

/-- An event that happens at an instant. -/
def make (id subject kind : String) (data : Json.Value) (time : Instant) : Event :=
  ⟨id, subject, kind, data, currentVersion, time⟩

instance : Json.Record Event where
  layout :=
    ⟨"EventEnvelope",
      [{ label := "id", shape := .text }, { label := "subject", shape := .text },
        { label := "eventType", shape := .text }, { label := "data", shape := .any },
        { label := "dataVersion", shape := .text }, { label := "eventTime", shape := .instant }]⟩
  toRow e := (e.id, e.subject, e.kind, e.data, e.dataVersion, e.time, ())
  ofRow row :=
    ⟨row.1, row.2.1, row.2.2.1, row.2.2.2.1, row.2.2.2.2.1, row.2.2.2.2.2.1⟩
  ofRow_toRow _ := rfl

end Event

end ClaimCheck
