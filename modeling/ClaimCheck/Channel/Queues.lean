import ClaimCheck.Channel.Message
import ClaimCheck.Text.Described

/-!
# Queues

The messages that wait at each destination of a channel, the oldest first.  A destination stays known
when its last message is taken, until it is drained.
-/

namespace ClaimCheck

open Text

/-- The messages that wait at each destination. -/
structure Queues where
  waiting : Keyed (List Message) := Keyed.empty
deriving DecidableEq

namespace Queues

/-- The messages that wait at a destination. -/
def messages (q : Queues) (destination : String) : List Message :=
  (q.waiting.get? destination).getD []

/-- Lets a message wait behind the others. -/
def push (q : Queues) (destination : String) (message : Message) : Queues :=
  ⟨q.waiting.insert destination (q.messages destination ++ [message])⟩

/-- Takes the oldest message. -/
def pop (q : Queues) (destination : String) : Option Message × Queues :=
  match q.messages destination with
  | [] => (none, q)
  | message :: rest => (some message, ⟨q.waiting.insert destination rest⟩)

/-- Takes all messages. -/
def drain (q : Queues) (destination : String) : List Message × Queues :=
  (q.messages destination, ⟨q.waiting.erase destination⟩)

/-- The number of messages that wait at a destination. -/
def length (q : Queues) (destination : String) : Nat := (q.messages destination).length

/-- Whether no message waits anywhere. -/
def isEmpty (q : Queues) : Bool := q.waiting.values.all List.isEmpty

/-- The description of the queues. -/
def describe (q : Queues) : String :=
  described "InMemoryChannel" [("destinations", describedCount q.waiting.size)]

end Queues

end ClaimCheck
