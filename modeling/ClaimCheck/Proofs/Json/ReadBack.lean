import Mathlib
import ClaimCheck.Proofs.Json.Contents

/-!
# Documents without fractions

A value without fractions that is not nested too deep is read back from its compact text, however
large it is (`Value.parse_compact`).  Texts and whole numbers come back as they were written, and so
do the items of an array; an object comes back with its members by increasing key, and of several
members with one key the last one counts (`Value.ordered`).

The induction is over what makes such a value (`Value.IsWhole`), with the text behind the value and
the bound on the loops kept general (`Value.IsWhole.readValue`).  Each loop of the reader needs one
turn more than the container has parts, and a container has fewer parts than characters.
-/

namespace ClaimCheck.Json

open Text

/-! ## Values -/

/-- A value without fractions in which arrays and objects are nested at most so many levels. -/
inductive Value.IsWhole : (levels : Nat) → Value → Prop
  | null {levels : Nat} : IsWhole levels .null
  | bool {levels : Nat} (b : Bool) : IsWhole levels (.bool b)
  | whole {levels : Nat} (n : Whole) : IsWhole levels (.whole n)
  | string {levels : Nat} (s : String) : IsWhole levels (.string s)
  | array {levels : Nat} {items : List Value} (hitems : ∀ item ∈ items, IsWhole levels item) :
    IsWhole (levels + 1) (.array items)
  | object {levels : Nat} {members : List (String × Value)}
    (hmembers : ∀ entry ∈ members, IsWhole levels entry.2) : IsWhole (levels + 1) (.object members)

mutual

/-- A value as it is read back: the members of each object by increasing key, of several with one key
the last one. -/
def Value.ordered : Value → Value
  | .array items => .array (orderedItems items)
  | .object members => .object (orderedAmong [] members)
  | v => v

/-- The items of an array as they are read back. -/
def orderedItems : List Value → List Value
  | [] => []
  | item :: rest => item.ordered :: orderedItems rest

/-- The members of an object as they are read back, one after another, among those before. -/
def orderedAmong (before : List (String × Value)) : List (String × Value) → List (String × Value)
  | [] => before
  | (key, value) :: rest => orderedAmong (Entries.insert key value.ordered before) rest

end

/-! ## Containers -/

section Containers

variable {fuel levels : Nat}

/-- The items of an array are fewer than the characters that they are written with, and so are the
characters of each item. -/
lemma length_compactMoreItems (items : List Value) :
    items.length < (compactMoreItems items).length ∧
      ∀ item ∈ items, (compactChars item).length ≤ (compactMoreItems items).length := by
  induction items with
  | nil => exact ⟨by decide, fun item h => absurd h List.not_mem_nil⟩
  | cons item items ih =>
    rw [compactMoreItems]
    simp only [List.length_cons, List.length_append, List.forall_mem_cons]
    refine ⟨by omega, by omega, fun other hother => ?_⟩
    have := ih.2 other hother
    omega

/-- The same of the items after an opening bracket. -/
lemma length_compactItems (items : List Value) :
    items.length < (compactItems items).length ∧
      ∀ item ∈ items, (compactChars item).length ≤ (compactItems items).length := by
  cases items with
  | nil => exact ⟨by decide, fun item h => absurd h List.not_mem_nil⟩
  | cons item items =>
    obtain ⟨hlength, hitems⟩ := length_compactMoreItems items
    obtain ⟨c, cs, hc, -⟩ := exists_compactChars_cons item
    rw [compactItems, hc]
    simp only [List.length_cons, List.length_append, List.forall_mem_cons]
    refine ⟨by omega, ?_, fun other hother => ?_⟩
    · rw [hc, List.length_cons]
      omega
    · have := hitems other hother
      omega

/-- A value is read back whatever follows it that does not go on with a number. -/
def ReadsBack (fuel levels : Nat) (v : Value) : Prop :=
  ∀ rest, EndsNumber rest → readValue fuel levels (compactChars v ++ rest) = .ok (v.ordered, rest)

/-- The items after the first one are read up to the end of the array. -/
lemma readItems_compactMoreItems {items : List Value}
    (hitems : ∀ item ∈ items, ReadsBack fuel levels item) {n : Nat} (hn : items.length < n)
    {before : List Value} (hbefore : before.isEmpty = false) (rest : List Char) :
    readItems (readValue fuel levels) n before (compactMoreItems items ++ rest) =
      .ok (before.reverse ++ orderedItems items, rest) := by
  induction items generalizing n before with
  | nil =>
    cases n with
    | zero => cases hn
    | succ n => rw [readItems, hbefore, nextItem_compactMoreItems_nil, orderedItems, List.append_nil]
  | cons item items ih =>
    obtain ⟨hitem, hmore⟩ := List.forall_mem_cons.mp hitems
    cases n with
    | zero => cases hn
    | succ n =>
      rw [readItems, hbefore, nextItem_compactMoreItems_cons]
      dsimp only
      rw [hitem _ (endsNumber_compactMoreItems items rest)]
      dsimp only
      rw [ih hmore (Nat.lt_of_succ_lt_succ hn) rfl, orderedItems, List.reverse_cons,
        List.append_assoc, List.singleton_append]

/-- The items of an array are read up to its end. -/
lemma readItems_compactItems {items : List Value}
    (hitems : ∀ item ∈ items, ReadsBack fuel levels item) {n : Nat} (hn : items.length < n)
    (rest : List Char) :
    readItems (readValue fuel levels) n [] (compactItems items ++ rest) =
      .ok (orderedItems items, rest) := by
  cases n with
  | zero => cases hn
  | succ n =>
    cases items with
    | nil => rw [readItems, List.isEmpty_nil, nextItem_compactItems_nil, orderedItems, List.reverse_nil]
    | cons item items =>
      obtain ⟨hitem, hmore⟩ := List.forall_mem_cons.mp hitems
      rw [readItems, List.isEmpty_nil, nextItem_compactItems_cons]
      dsimp only
      rw [hitem _ (endsNumber_compactMoreItems items rest)]
      dsimp only
      rw [readItems_compactMoreItems hmore (Nat.lt_of_succ_lt_succ hn) rfl, orderedItems]
      rfl

/-- The members of an object are placed one after another as they are read. -/
lemma absorbs_readEntry {members : List (String × Value)}
    (hmembers : ∀ entry ∈ members, ReadsBack fuel levels entry.2) (before : List (String × Value)) :
    Absorbs (readEntry (readValue fuel levels)) members before (orderedAmong before members) := by
  induction members generalizing before with
  | nil =>
    rw [orderedAmong]
    exact .nil before
  | cons entry members ih =>
    obtain ⟨key, value⟩ := entry
    obtain ⟨hvalue, hmore⟩ := List.forall_mem_cons.mp hmembers
    rw [orderedAmong]
    refine .cons (fun rest hrest => ?_) (ih hmore (Entries.insert key value.ordered before))
    rw [readEntry, readColon_cons]
    dsimp only
    rw [hvalue rest hrest]

end Containers

/-! ## Whole documents -/

/-- A value without fractions is read back, if it may be nested as deep as it is and the loops of the
reader may go on for as long as its text. -/
lemma Value.IsWhole.readsBack {levels fuel : Nat} {v : Value} (h : v.IsWhole levels)
    (hfuel : (compactChars v).length ≤ fuel) : ReadsBack fuel levels v := by
  induction h with
  | null =>
    intro rest _
    simp only [readValue_null, ordered]
  | bool b =>
    intro rest _
    simp only [readValue_bool, ordered]
  | whole n =>
    intro rest hrest
    simp only [compactChars, readValue_signedDecimal _ _ n hrest, ordered]
  | string s =>
    intro rest _
    simp only [compactChars, readValue_stringChars, ordered]
  | @array levels items hitems ih =>
    intro rest _
    rw [compactChars, List.length_cons] at hfuel
    obtain ⟨hlength, hparts⟩ := length_compactItems items
    have hback : ∀ item ∈ items, ReadsBack fuel levels item := by
      intro item hitem
      have := hparts item hitem
      exact ih item hitem (by omega)
    rw [compactChars, List.cons_append, readValue_bracket, ordered]
    dsimp only
    rw [readItems_compactItems hback (by omega)]
    rfl
  | @object levels members hmembers ih =>
    intro rest _
    rw [compactChars, List.length_cons] at hfuel
    obtain ⟨hlength, hparts⟩ := length_compactMembers members
    have hback : ∀ entry ∈ members, ReadsBack fuel levels entry.2 := by
      intro entry hentry
      have := hparts entry hentry
      exact ih entry hentry (by omega)
    rw [compactChars, List.cons_append, readValue_brace, ordered]
    dsimp only
    rw [(absorbs_readEntry hback []).readMembers (by omega)]
    rfl

/-- The compact text of a value without fractions is a document of this value, its members ordered,
as long as the value is nested no deeper than documents may be. -/
theorem Value.parse_compact {v : Value} (h : v.IsWhole maxLevels) :
    Value.parse v.compact = .ok v.ordered := by
  have hends : EndsNumber [] := fun c rest h => by cases h
  have hread := h.readsBack (Nat.le_succ (compactChars v).length) [] hends
  rw [List.append_nil] at hread
  unfold Value.parse readAll
  dsimp only
  rw [Value.compact, String.toList_ofList, hread]
  rfl

end ClaimCheck.Json
