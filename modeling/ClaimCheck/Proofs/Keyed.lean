import Mathlib
import ClaimCheck.Keyed

/-!
# Keyed collections by their values

What a keyed collection holds is known from `Keyed.get?` alone: two collections that give the same
value under every key are equal (`Keyed.ext_get?`), and `get?` of each operation is given in one
equation.  Later files reason about collections through these equations and never through their
lists of entries.
-/

namespace ClaimCheck

variable {α : Type}

/-! ## Entry lists -/

namespace Entries

/-- Nothing is found under a key exactly when the key is not listed. -/
lemma get?_eq_none {key : String} {entries : List (String × α)} :
    get? key entries = none ↔ key ∉ entries.map Prod.fst := by
  induction entries with
  | nil => simp [get?]
  | cons entry rest ih =>
    obtain ⟨k, v⟩ := entry
    by_cases h : key = k
    · simp [get?, h]
    · simp [get?, h, ih]

/-- The key of the first entry is below every other key. -/
lemma lt_of_sorted_cons {key k : String} {value : α} {rest : List (String × α)}
    (h : Sorted ((key, value) :: rest)) (hk : k ∈ rest.map Prod.fst) : key < k := by
  simp only [Sorted, List.map_cons, List.pairwise_cons] at h
  exact h.1 k hk

/-- Entry lists with increasing keys are equal when the same is found in both under every key. -/
lemma eq_of_get?_eq {entries others : List (String × α)} (h : Sorted entries) (h' : Sorted others)
    (heq : ∀ key, get? key entries = get? key others) : entries = others := by
  induction entries generalizing others with
  | nil =>
    cases others with
    | nil => rfl
    | cons other rest => simpa [get?] using heq other.1
  | cons entry rest ih =>
    obtain ⟨k, v⟩ := entry
    cases others with
    | nil => simpa [get?] using heq k
    | cons other rest' =>
      obtain ⟨k', v'⟩ := other
      have hfirst : k = k' := by
        by_contra hne
        have hk : k ∈ rest'.map Prod.fst := by
          by_contra hk
          have := heq k
          rw [get?, if_pos rfl, get?, if_neg hne, get?_eq_none.mpr hk] at this
          exact Option.some_ne_none _ this
        have hk' : k' ∈ rest.map Prod.fst := by
          by_contra hk'
          have := heq k'
          rw [get?, if_neg (Ne.symm hne), get?, if_pos rfl, get?_eq_none.mpr hk'] at this
          exact Option.some_ne_none _ this.symm
        exact String.lt_irrefl k
          (String.lt_trans (lt_of_sorted_cons h hk') (lt_of_sorted_cons h' hk))
      subst hfirst
      have hvalue : v = v' := by simpa [get?] using heq k
      have hrest : rest = rest' := by
        refine ih (List.Pairwise.of_cons h) (List.Pairwise.of_cons h') fun key => ?_
        by_cases hkey : key = k
        · subst hkey
          rw [get?_eq_none.mpr fun hk => String.lt_irrefl _ (lt_of_sorted_cons h hk),
            get?_eq_none.mpr fun hk => String.lt_irrefl _ (lt_of_sorted_cons h' hk)]
        · simpa [get?, hkey] using heq key
      rw [hvalue, hrest]

end Entries

/-! ## Collections -/

namespace Keyed

/-- Collections that hold the same value under every key are equal. -/
lemma ext_get? {c d : Keyed α} (h : ∀ key, c.get? key = d.get? key) : c = d :=
  Keyed.ext (Entries.eq_of_get?_eq c.sorted d.sorted h)

/-- A key is listed exactly when a value is kept under it. -/
lemma mem_keys {c : Keyed α} {key : String} : key ∈ c.keys ↔ ∃ value, c.get? key = some value := by
  rw [← Option.ne_none_iff_exists', ne_eq, get?, Entries.get?_eq_none, not_not]
  rfl

/-- The value under a key after another one was kept. -/
lemma get?_insert (c : Keyed α) (key k : String) (value : α) :
    (c.insert key value).get? k = if k = key then some value else c.get? k := by
  split
  · next h => rw [h, get?_insert_self]
  · next h => exact get?_insert_of_ne c h value

/-- The value under a key after one was dropped. -/
lemma get?_erase (c : Keyed α) (key k : String) :
    (c.erase key).get? k = if k = key then none else c.get? k := by
  split
  · next h => rw [h, get?_erase_self]
  · next h => exact get?_erase_of_ne c h

/-- A value that is kept only if there was none before. -/
lemma get?_insertIfNew (c : Keyed α) (key k : String) (value : α) :
    (c.insertIfNew key value).get? k =
      if k = key then some ((c.get? key).getD value) else c.get? k := by
  unfold insertIfNew contains
  cases hkey : c.get? key with
  | none => simp [get?_insert]
  | some old =>
    by_cases h : k = key
    · simp [h, hkey]
    · simp [h]

/-- Dropping a key under which nothing is kept changes nothing. -/
lemma erase_eq_self {c : Keyed α} {key : String} (h : c.get? key = none) : c.erase key = c := by
  refine ext_get? fun k => ?_
  rw [get?_erase]
  split
  · next hk => rw [hk, h]
  · rfl

/-- A collection that keeps nothing is empty. -/
lemma eq_empty {c : Keyed α} (h : ∀ key, c.get? key = none) : c = empty :=
  ext_get? fun key => by rw [h key, get?_empty]

end Keyed

end ClaimCheck
