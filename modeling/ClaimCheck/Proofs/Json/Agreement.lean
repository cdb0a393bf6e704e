import Mathlib
import ClaimCheck.Json.Value
import ClaimCheck.Keyed

/-!
# Agreement of values

A document that is written and read again need not be the same value: a fraction may come back with
another last digit, and the members of an object come back by increasing key.  `Value.Agrees` says
what is left of the value then: its kind, its text if it is one, and the kind of the value under each
key of an object, where of several members with one key the last one counts.
-/

namespace ClaimCheck.Json

/-! ## Kinds of values -/

/-- What kind of value a value is; each text is a kind of its own. -/
inductive Kind where
  | null
  | bool
  | number
  | text (text : String)
  | array
  | object
deriving DecidableEq

namespace Value

/-- The kind of a value. -/
def kind : Value → Kind
  | null => .null
  | bool _ => .bool
  | whole _ => .number
  | fraction _ => .number
  | string s => .text s
  | array _ => .array
  | object _ => .object

/-- The members of an object; any other value has none. -/
def members : Value → List (String × Value)
  | object members => members
  | _ => []

/-- The kind of the value that is listed first under a key. -/
def firstKind? (members : List (String × Value)) (key : String) : Option Kind :=
  (members.lookup key).map kind

/-- The kind of the value that is listed last under a key. -/
def lastKind? (members : List (String × Value)) (key : String) : Option Kind :=
  firstKind? members.reverse key

/-- A value that was read agrees with the one that was written. -/
structure Agrees (written read : Value) : Prop where
  kind_eq : read.kind = written.kind
  members_eq : ∀ key, firstKind? read.members key = lastKind? written.members key

/-- A value without members agrees with every other one of its kind. -/
lemma Agrees.of_kind {written read : Value} (hkind : read.kind = written.kind)
    (hwritten : written.members = []) (hread : read.members = []) : Agrees written read :=
  ⟨hkind, fun key => by rw [hwritten, hread]; rfl⟩

/-- Of two lists of members, the second is looked at where the first has no such key. -/
lemma firstKind?_append (ms ms' : List (String × Value)) (key : String) :
    firstKind? (ms ++ ms') key = (firstKind? ms key).or (firstKind? ms' key) := by
  unfold firstKind?
  rw [List.lookup_append]
  cases ms.lookup key <;> rfl

/-- The last member with a key is that of the later members if they have one. -/
lemma lastKind?_cons (k : String) (value : Value) (ms : List (String × Value)) (key : String) :
    lastKind? ((k, value) :: ms) key =
      (lastKind? ms key).or (if key = k then some value.kind else none) := by
  unfold lastKind?
  rw [List.reverse_cons, firstKind?_append]
  congr 1
  unfold firstKind?
  by_cases h : key = k
  · rw [if_pos h, h, List.lookup_cons_self]
    rfl
  · rw [if_neg h, List.lookup_cons, beq_false_of_ne h]
    rfl

/-- The member under a key after one was placed. -/
lemma firstKind?_insert (k : String) (value : Value) (ms : List (String × Value)) (key : String) :
    firstKind? (Entries.insert k value ms) key =
      if key = k then some value.kind else firstKind? ms key := by
  have hlookup : ∀ entries : List (String × Value),
      entries.lookup key = Entries.get? key entries := by
    intro entries
    induction entries with
    | nil => rfl
    | cons entry rest ih =>
      obtain ⟨k', v⟩ := entry
      by_cases h : key = k'
      · rw [h, List.lookup_cons_self, Entries.get?, if_pos rfl]
      · rw [List.lookup_cons, beq_false_of_ne h, Entries.get?, if_neg h, ← ih]
  unfold firstKind?
  rw [hlookup, hlookup]
  by_cases h : key = k
  · rw [if_pos h, h, Entries.get?_insert_self]
    rfl
  · rw [if_neg h, Entries.get?_insert_of_ne h]

end Value

end ClaimCheck.Json
