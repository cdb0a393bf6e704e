/-!
# Keyed collections

Finite maps from text to values, kept as a list of entries whose keys strictly increase.  The order
is that of the UTF-8 bytes of the keys, which for text is the order of its characters, so two
collections with the same entries are equal and their keys are listed in one order only.
-/

namespace ClaimCheck

/-! ### Entry lists

The operations on plain lists of entries, which an object of a document shares with `Keyed`. -/

namespace Entries

variable {α : Type}

/-- The value of the first entry with this key. -/
def get? (key : String) : List (String × α) → Option α
  | [] => none
  | (k, v) :: rest => if key = k then some v else get? key rest

/-- Places an entry before the first greater key, in the place of an entry with the same key. -/
def insert (key : String) (value : α) : List (String × α) → List (String × α)
  | [] => [(key, value)]
  | (k, v) :: rest =>
    if key < k then (key, value) :: (k, v) :: rest
    else if key = k then (key, value) :: rest
    else (k, v) :: insert key value rest

/-- Drops the entries with this key. -/
def erase (key : String) (entries : List (String × α)) : List (String × α) :=
  entries.filter fun entry => entry.1 ≠ key

/-- The keys strictly increase. -/
def Sorted (entries : List (String × α)) : Prop :=
  (entries.map Prod.fst).Pairwise (· < ·)

theorem mem_keys_insert {key k : String} {value : α} {entries : List (String × α)} :
    k ∈ (insert key value entries).map Prod.fst ↔ k = key ∨ k ∈ entries.map Prod.fst := by
  induction entries with
  | nil => simp [insert]
  | cons entry rest ih =>
    obtain ⟨k', v⟩ := entry
    simp only [insert]
    split
    · simp
    · split
      · rename_i h
        subst h
        simp
      · simp only [List.map_cons, List.mem_cons, ih]
        grind

theorem sorted_insert {key : String} {value : α} {entries : List (String × α)}
    (h : Sorted entries) : Sorted (insert key value entries) := by
  induction entries with
  | nil => simp [insert, Sorted]
  | cons entry rest ih =>
    obtain ⟨k, v⟩ := entry
    simp only [Sorted, List.map_cons, List.pairwise_cons] at h
    simp only [insert]
    split
    · rename_i hlt
      simp only [Sorted, List.map_cons, List.pairwise_cons, List.mem_cons]
      refine ⟨?_, h⟩
      rintro a (rfl | ha)
      · exact hlt
      · exact String.lt_trans hlt (h.1 a ha)
    · split
      · rename_i heq
        subst heq
        simpa [Sorted, List.pairwise_cons] using h
      · rename_i hlt hne
        simp only [Sorted, List.map_cons, List.pairwise_cons]
        refine ⟨fun a ha => ?_, ih h.2⟩
        rcases mem_keys_insert.1 ha with rfl | ha
        · exact Decidable.byContradiction fun hk =>
            hne (String.le_antisymm (String.not_lt.1 hk) (String.not_lt.1 hlt))
        · exact h.1 a ha

theorem sorted_erase {key : String} {entries : List (String × α)} (h : Sorted entries) :
    Sorted (erase key entries) :=
  List.Pairwise.sublist (List.Sublist.map _ List.filter_sublist) h

@[simp] theorem get?_insert_self (key : String) (value : α) (entries : List (String × α)) :
    get? key (insert key value entries) = some value := by
  induction entries with
  | nil => simp [insert, get?]
  | cons entry rest ih =>
    obtain ⟨k, v⟩ := entry
    simp only [insert]
    split
    · simp [get?]
    · split
      · simp [get?]
      · rename_i hne
        simp [get?, hne, ih]

theorem get?_insert_of_ne {key k : String} (h : k ≠ key) (value : α)
    (entries : List (String × α)) :
    get? k (insert key value entries) = get? k entries := by
  induction entries with
  | nil => simp [insert, get?, h]
  | cons entry rest ih =>
    obtain ⟨k', v⟩ := entry
    simp only [insert]
    split
    · simp [get?, h]
    · split
      · rename_i heq
        subst heq
        simp [get?, h]
      · simp only [get?, ih]

@[simp] theorem get?_erase_self (key : String) (entries : List (String × α)) :
    get? key (erase key entries) = none := by
  induction entries with
  | nil => rfl
  | cons entry rest ih =>
    obtain ⟨k, v⟩ := entry
    by_cases h : k = key
    · simpa [erase, h] using ih
    · have hk : ¬ key = k := fun e => h e.symm
      simpa [erase, h, get?, hk] using ih

theorem get?_erase_of_ne {key k : String} (h : k ≠ key) (entries : List (String × α)) :
    get? k (erase key entries) = get? k entries := by
  induction entries with
  | nil => rfl
  | cons entry rest ih =>
    obtain ⟨k', v⟩ := entry
    by_cases hk : k' = key
    · have hne : ¬ k = k' := fun e => h (e.trans hk)
      simpa [erase, hk, get?, h] using ih
    · by_cases hk' : k = k'
      · subst hk'
        simp [erase, h, get?]
      · simpa [erase, hk, get?, hk'] using ih

end Entries

/-! ### Collections with increasing keys -/

/-- A finite map from text to `α`, its entries listed by increasing key. -/
@[ext] structure Keyed (α : Type) where
  entries : List (String × α)
  sorted : Entries.Sorted entries

namespace Keyed

variable {α : Type}

instance [DecidableEq α] : DecidableEq (Keyed α) := fun a b =>
  decidable_of_iff (a.entries = b.entries) Keyed.ext_iff.symm

/-- The collection without entries. -/
def empty : Keyed α := ⟨[], List.Pairwise.nil⟩

instance : Inhabited (Keyed α) := ⟨empty⟩

/-- The value kept under a key. -/
def get? (c : Keyed α) (key : String) : Option α := Entries.get? key c.entries

/-- Whether a value is kept under the key. -/
def contains (c : Keyed α) (key : String) : Bool := (c.get? key).isSome

/-- Keeps the value under the key, in the place of the value that was there. -/
def insert (c : Keyed α) (key : String) (value : α) : Keyed α :=
  ⟨Entries.insert key value c.entries, Entries.sorted_insert c.sorted⟩

/-- Keeps nothing under the key. -/
def erase (c : Keyed α) (key : String) : Keyed α :=
  ⟨Entries.erase key c.entries, Entries.sorted_erase c.sorted⟩

/-- Keeps the value under the key unless one is kept there already. -/
def insertIfNew (c : Keyed α) (key : String) (value : α) : Keyed α :=
  if c.contains key then c else c.insert key value

/-- The keys, increasing. -/
def keys (c : Keyed α) : List String := c.entries.map Prod.fst

/-- The values, in the order of their keys. -/
def values (c : Keyed α) : List α := c.entries.map Prod.snd

/-- The number of entries. -/
def size (c : Keyed α) : Nat := c.entries.length

/-- The collection of these entries, the last one with a key counting. -/
def ofList (entries : List (String × α)) : Keyed α :=
  entries.foldl (fun c entry => c.insert entry.1 entry.2) empty

@[simp] theorem get?_empty (key : String) : (empty : Keyed α).get? key = none := rfl

@[simp] theorem get?_insert_self (c : Keyed α) (key : String) (value : α) :
    (c.insert key value).get? key = some value :=
  Entries.get?_insert_self key value c.entries

theorem get?_insert_of_ne (c : Keyed α) {key k : String} (h : k ≠ key) (value : α) :
    (c.insert key value).get? k = c.get? k :=
  Entries.get?_insert_of_ne h value c.entries

@[simp] theorem get?_erase_self (c : Keyed α) (key : String) : (c.erase key).get? key = none :=
  Entries.get?_erase_self key c.entries

theorem get?_erase_of_ne (c : Keyed α) {key k : String} (h : k ≠ key) :
    (c.erase key).get? k = c.get? k :=
  Entries.get?_erase_of_ne h c.entries

/-- The keys are listed in increasing order and once each. -/
theorem keys_pairwise (c : Keyed α) : c.keys.Pairwise (· < ·) := c.sorted

end Keyed

end ClaimCheck
