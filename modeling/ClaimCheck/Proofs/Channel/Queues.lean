import Mathlib
import ClaimCheck.Proofs.World.Happening

/-!
# Messages on their way

A message that was put on a channel waits at its destination until it is taken, alone or with all
others that wait there.  Each of these changes one destination only, and in an orderly way: what is
put comes last and what is taken comes first.

From this follows what a whole history of a channel keeps (`Queues.Accounted`): for every
destination, the messages that were taken and those that wait still are those that waited at the
beginning and those that were put since, in the same order and each as often.
-/

namespace ClaimCheck

section Values

variable {κ β : Type} [DecidableEq κ]

/-- The values that are listed under a key. -/
def valuesAt (key : κ) (entries : List (κ × β)) : List β :=
  (entries.filter fun entry => entry.1 = key).map Prod.snd

/-- The values under a key, part by part. -/
lemma valuesAt_append (key : κ) (entries more : List (κ × β)) :
    valuesAt key (entries ++ more) = valuesAt key entries ++ valuesAt key more := by
  unfold valuesAt
  rw [List.filter_append, List.map_append]

/-- Values that are all listed under one key. -/
lemma valuesAt_map (key other : κ) (values : List β) :
    valuesAt key (values.map (Prod.mk other)) = if key = other then values else [] := by
  unfold valuesAt
  split
  · next h =>
    rw [List.filter_eq_self.mpr (by simp [h]), List.map_map]
    exact List.map_id values
  · next h => rw [List.filter_eq_nil_iff.mpr (by simp [Ne.symm h]), List.map_nil]

end Values

/-! ## Putting and taking -/

/-- Messages of a destination are taken: the oldest one, or all of them. -/
inductive Taking where
  | pop (destination : String)
  | drain (destination : String)

namespace Taking

/-- Where messages are taken. -/
def destination : Taking → String
  | pop destination => destination
  | drain destination => destination

/-- The messages that are taken. -/
def messages (q : Queues) : Taking → List Message
  | pop destination => (q.pop destination).1.toList
  | drain destination => (q.drain destination).1

/-- The change of a world in which messages are taken. -/
def change : Taking → Outside
  | pop destination => .pop destination
  | drain destination => .drain destination

/-- The messages that are taken, each with its destination. -/
def entries (t : Taking) (q : Queues) : List (String × Message) :=
  (t.messages q).map (Prod.mk t.destination)

end Taking

namespace Queues

/-- What waits when other messages wait at one destination. -/
lemma messages_insert (q : Queues) (destination other : String) (messages : List Message) :
    (Queues.mk (q.waiting.insert destination messages)).messages other =
      if other = destination then messages else q.messages other := by
  unfold Queues.messages
  rw [Keyed.get?_insert]
  split <;> rfl

/-- A message that is put waits behind the others. -/
lemma messages_push (q : Queues) (destination other : String) (message : Message) :
    (q.push destination message).messages other =
      if other = destination then q.messages other ++ [message] else q.messages other := by
  unfold push
  rw [messages_insert]
  split
  · next h => rw [h]
  · rfl

/-- What is taken is what waited first, and nothing is taken elsewhere. -/
lemma messages_taking (w : World) (t : Taking) (other : String) :
    valuesAt other (t.entries w.queues) ++ (t.change.apply w).queues.messages other =
      w.queues.messages other := by
  unfold Taking.entries
  cases t with
  | pop destination =>
    change _ ++ (w.queues.pop destination).2.messages other = _
    simp only [Taking.messages, Taking.destination]
    unfold pop
    split
    · rfl
    · next message rest hwaiting =>
      rw [messages_insert, valuesAt_map]
      split
      · next h =>
        rw [h, hwaiting]
        rfl
      · next h => rfl
  | drain destination =>
    change _ ++ (w.queues.drain destination).2.messages other = _
    simp only [Taking.messages, Taking.destination, drain]
    rw [valuesAt_map]
    unfold Queues.messages
    rw [Keyed.get?_erase]
    split
    · next h => rw [h, Option.getD_none, List.append_nil]
    · rfl

/-! ## Histories of a channel -/

/-- For every destination, what was taken and what waits still is what waited at first and what was
put since. -/
def Accounted (first : Queues) (put taken : List (String × Message)) (now : Queues) : Prop :=
  ∀ destination, valuesAt destination taken ++ now.messages destination =
    first.messages destination ++ valuesAt destination put

variable {first now : Queues} {put taken : List (String × Message)}

/-- Nothing was put or taken at first. -/
lemma accounted_start (first : Queues) : Accounted first [] [] first :=
  fun _ => (List.append_nil _).symm

/-- A message is put. -/
lemma Accounted.push (h : Accounted first put taken now) (destination : String)
    (message : Message) :
    Accounted first (put ++ [(destination, message)]) taken (now.push destination message) := by
  intro other
  have hone : valuesAt other [(destination, message)] =
      if other = destination then [message] else [] := valuesAt_map other destination [message]
  rw [messages_push, valuesAt_append, ← List.append_assoc, ← h other, List.append_assoc, hone]
  split
  · rfl
  · rw [List.append_nil]

/-- Messages are taken. -/
lemma Accounted.take {w : World} (h : Accounted first put taken w.queues) (t : Taking) :
    Accounted first put (taken ++ t.entries w.queues) (t.change.apply w).queues := by
  intro other
  rw [valuesAt_append, List.append_assoc, messages_taking]
  exact h other

end Queues

/-! ## Worlds and their channel -/

namespace World

/-- A message is put on the channel, or it is refused and nothing changes. -/
lemma answer_enqueue (w : World) (space : String) (credential : Identity.Credential)
    (destination : String) (message : Message) :
    answer (.enqueue space credential destination message) w =
        (.ok (), { w with queues := w.queues.push destination message }) ∨
      ∃ fault, answer (.enqueue space credential destination message) w = (.error fault, w) := by
  change w.enqueue space credential destination message = _ ∨
    ∃ fault, w.enqueue space credential destination message = _
  unfold enqueue
  dsimp only
  split
  · exact .inr ⟨_, rfl⟩
  · split
    · exact .inr ⟨_, rfl⟩
    · exact .inl rfl

end World

/-- A request that hands no message to the channel. -/
def Request.IsNoEnqueue (r : Request) : Prop :=
  ∀ space credential destination message, r ≠ .enqueue space credential destination message

/-- No other request changes what waits. -/
lemma World.queues_answer (w : World) {r : Request} (hr : r.IsNoEnqueue) :
    (answer r w).2.queues = w.queues := by
  cases r with
  | drawId => rfl
  | clock => rfl
  | acquire selector =>
    change (w.acquire selector).2.queues = _
    unfold acquire
    rcases w.ledger.acquire selector w.tokens.next w.now with ⟨_ | credential, ledger⟩ <;> rfl
  | release credential => rfl
  | connect endpoint credential =>
    change (w.connect endpoint credential).2.queues = _
    unfold connect
    cases w.denial? credential <;> rfl
  | disconnect client => rfl
  | call client call => rfl
  | enqueue space credential destination message => exact absurd rfl (hr _ _ _ _)
  | publish credential topic event =>
    change (w.publish credential topic event).2.queues = _
    unfold publish
    split <;> rfl

/-- A happening that puts no message on the channel and takes none. -/
def Happening.KeepsQueues : Happening → Prop
  | asked request => request.IsNoEnqueue
  | outside (.pop _) => False
  | outside (.drain _) => False
  | _ => True

/-- What waits stays the same. -/
lemma Happening.KeepsQueues.queues_apply {h : Happening} (hkept : h.KeepsQueues) (w : World) :
    (h.apply w).queues = w.queues := by
  cases h with
  | quiet => rfl
  | asked request => exact w.queues_answer hkept
  | outside change =>
    cases change with
    | pop destination => exact hkept.elim
    | drain destination => exact hkept.elim
    | _ => rfl

end ClaimCheck
