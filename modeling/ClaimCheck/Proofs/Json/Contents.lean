import Mathlib
import ClaimCheck.Json.Layout
import ClaimCheck.Proofs.Keyed
import ClaimCheck.Proofs.Json.Compact

/-!
# Contents of fields and back

A text, an optional text, a size, a truth value and a map of texts read back as what was written for
them, whatever follows (`Shape.read_toValue`).  Documents and instants are left out
(`Shape.isExact`): a document may hold a fraction, of which nothing is said.

Members are read one after another into a state.  `Absorbs` follows a state over a list of members
that were written, and gives what `readMembers` makes of their text (`Absorbs.readMembers`), for maps
here and for records later.
-/

namespace ClaimCheck

/-! ## Increasing keys -/

namespace Entries

variable {α : Type}

/-- An entry whose key is above all others is placed at the end. -/
lemma insert_of_forall_lt {key : String} {value : α} {entries : List (String × α)}
    (h : ∀ k ∈ entries.map Prod.fst, k < key) :
    insert key value entries = entries ++ [(key, value)] := by
  induction entries with
  | nil => rfl
  | cons entry rest ih =>
    obtain ⟨k, v⟩ := entry
    rw [List.map_cons, List.forall_mem_cons] at h
    have hlt : ¬key < k := fun hkey => String.lt_irrefl k (String.lt_trans h.1 hkey)
    have hne : key ≠ k := fun heq => String.lt_irrefl k (heq ▸ h.1)
    rw [insert, if_neg hlt, if_neg hne, ih h.2, List.cons_append]

end Entries

namespace Json

open Text

/-! ## Members -/

/-- Reading members that were written takes one state to another, whatever stands behind them. -/
inductive Absorbs {σ : Type} (member : (key : String) → σ → Reader σ) :
    List (String × Value) → σ → σ → Prop
  | nil (s : σ) : Absorbs member [] s s
  | cons {key : String} {value : Value} {members : List (String × Value)} {s t u : σ}
      (hread : ∀ rest, EndsNumber rest →
        member key s (':' :: (compactChars value ++ rest)) = .ok (t, rest))
      (hmore : Absorbs member members t u) : Absorbs member ((key, value) :: members) s u

section Absorbs

variable {σ : Type} {member : (key : String) → σ → Reader σ} {members : List (String × Value)}
  {s t : σ} {fuel : Nat}

/-- The members after the first one are read up to the end of the object. -/
lemma Absorbs.readMembers_more (h : Absorbs member members s t) (hfuel : members.length < fuel)
    (rest : List Char) :
    readMembers member fuel false s (compactMoreMembers members ++ rest) = .ok (t, rest) := by
  induction h generalizing fuel with
  | nil s =>
    cases fuel with
    | zero => cases hfuel
    | succ fuel => rw [readMembers, nextKey_compactMoreMembers_nil]
  | @cons key value members s t u hread hmore ih =>
    cases fuel with
    | zero => cases hfuel
    | succ fuel =>
      rw [readMembers, nextKey_compactMoreMembers_cons]
      dsimp only
      rw [hread _ (endsNumber_compactMoreMembers members rest)]
      exact ih (Nat.lt_of_succ_lt_succ hfuel)

/-- The members of an object are read up to its end. -/
lemma Absorbs.readMembers (h : Absorbs member members s t) (hfuel : members.length < fuel)
    (rest : List Char) :
    readMembers member fuel true s (compactMembers members ++ rest) = .ok (t, rest) := by
  cases fuel with
  | zero => cases hfuel
  | succ fuel =>
    cases h with
    | nil => rw [Json.readMembers, nextKey_compactMembers_nil]
    | @cons key value members _ t _ hread hmore =>
      rw [Json.readMembers, nextKey_compactMembers_cons]
      dsimp only
      rw [hread _ (endsNumber_compactMoreMembers members rest)]
      exact hmore.readMembers_more (Nat.lt_of_succ_lt_succ hfuel) rest

end Absorbs

/-- The members of an object are fewer than the characters that they are written with, and so are the
characters of each value. -/
lemma length_compactMoreMembers (members : List (String × Value)) :
    members.length < (compactMoreMembers members).length ∧
      ∀ entry ∈ members, (compactChars entry.2).length ≤ (compactMoreMembers members).length := by
  induction members with
  | nil => exact ⟨by decide, fun entry h => absurd h List.not_mem_nil⟩
  | cons entry members ih =>
    obtain ⟨key, value⟩ := entry
    rw [compactMoreMembers]
    simp only [List.length_cons, List.length_append, List.forall_mem_cons]
    refine ⟨by omega, by omega, fun other hother => ?_⟩
    have := ih.2 other hother
    omega

/-- The same of the members after an opening brace. -/
lemma length_compactMembers (members : List (String × Value)) :
    members.length < (compactMembers members).length ∧
      ∀ entry ∈ members, (compactChars entry.2).length ≤ (compactMembers members).length := by
  cases members with
  | nil => exact ⟨by decide, fun entry h => absurd h List.not_mem_nil⟩
  | cons entry members =>
    obtain ⟨key, value⟩ := entry
    obtain ⟨hlength, hvalues⟩ := length_compactMoreMembers members
    rw [compactMembers]
    simp only [List.length_cons, List.length_append, List.forall_mem_cons]
    refine ⟨by omega, by omega, fun other hother => ?_⟩
    have := hvalues other hother
    omega

/-! ## Contents -/

/-- Whether a kind of content is one of those that read back as they were written. -/
def Shape.isExact : Shape → Bool
  | .any => false
  | .instant => false
  | _ => true

/-- A text reads back. -/
lemma readText_stringChars (expected s : String) (rest : List Char) :
    readText expected (stringChars s ++ rest) = .ok (s, rest) := by
  obtain ⟨hchars, hread⟩ := readString_key s rest
  rw [hchars, readText, skipSpace_cons (by decide)]
  exact hread

/-- An optional text reads back. -/
lemma readOptionalText_ofText? (s : Option String) (rest : List Char) :
    readOptionalText (compactChars (.ofText? s) ++ rest) = .ok (s, rest) := by
  cases s with
  | none =>
    rw [Value.ofText?, compactChars]
    change readOptionalText ('n' :: (['u', 'l', 'l'] ++ rest)) = _
    rw [readOptionalText, skipSpace_cons (by decide)]
    rfl
  | some s =>
    obtain ⟨hchars, -⟩ := readString_key s rest
    have htext := readText_stringChars "a string" s rest
    rw [hchars] at htext
    rw [Value.ofText?, compactChars, hchars, readOptionalText, skipSpace_cons (by decide)]
    change (readText "a string" _).map _ = _
    rw [htext]
    rfl

/-- A size reads back. -/
lemma readSize_ofWord (n : UInt64) {rest : List Char} (hrest : EndsNumber rest) :
    readSize (compactChars (.whole (.ofWord n)) ++ rest) = .ok (n, rest) := by
  have hchars : compactChars (.whole (.ofWord n)) = decimal n.toNat := by
    rw [compactChars, signedDecimal, if_neg (by simp [Whole.ofWord])]
    rfl
  have hnumber := readNumber_decimal n hrest
  have hsize : sizeOf? (.whole (.ofWord n)) rest = .ok (n, rest) := by
    rw [sizeOf?, if_neg (by simp [Whole.ofWord])]
    simp [Whole.ofWord]
  obtain ⟨c, digits, hcons⟩ := List.exists_cons_of_ne_nil (l := decimal n.toNat) Nat.toDigits_ne_nil
  have hdigit : isDigit c = true := isDigit_of_mem_decimal (by rw [hcons]; exact List.mem_cons_self)
  have hspace : isSpace c = false := (of_isNumeric (isNumeric_of_isDigit hdigit)).1
  have hminus : c ≠ '-' := by
    rintro rfl
    exact absurd hdigit (by decide)
  rw [hchars]
  rw [hcons, List.cons_append] at hnumber ⊢
  rw [readSize, skipSpace_cons hspace]
  simp only [if_neg hminus, if_pos hdigit, hnumber, hsize]

/-- A truth value reads back. -/
lemma readFlag_boolChars (b : Bool) (rest : List Char) :
    readFlag (boolChars b ++ rest) = .ok (b, rest) := by
  cases b with
  | true =>
    change readFlag ('t' :: (['r', 'u', 'e'] ++ rest)) = _
    rw [readFlag, skipSpace_cons (by decide)]
    rfl
  | false =>
    change readFlag ('f' :: (['a', 'l', 's', 'e'] ++ rest)) = _
    rw [readFlag, skipSpace_cons (by decide)]
    rfl

/-- The members of a map, written by increasing key, are read one behind the other. -/
lemma absorbs_entries (entries before : List (String × String))
    (hsorted : Entries.Sorted (before ++ entries)) (c : Keyed String) (hc : c.entries = before) :
    Absorbs readTextEntry (entries.map fun (key, s) => (key, .string s)) c
      ⟨before ++ entries, hsorted⟩ := by
  induction entries generalizing before c with
  | nil =>
    have hend : c = ⟨before ++ [], hsorted⟩ := Keyed.ext (hc.trans (List.append_nil before).symm)
    rw [← hend]
    exact .nil c
  | cons entry entries ih =>
    obtain ⟨key, s⟩ := entry
    have hlt : ∀ k ∈ c.entries.map Prod.fst, k < key := by
      intro k hk
      rw [hc] at hk
      rw [Entries.Sorted, List.map_append, List.map_cons] at hsorted
      exact (List.pairwise_append.mp hsorted).2.2 k hk key List.mem_cons_self
    have hinsert : (c.insert key s).entries = before ++ [(key, s)] := by
      change Entries.insert key s c.entries = _
      rw [Entries.insert_of_forall_lt hlt, hc]
    have hassoc : before ++ (key, s) :: entries = (before ++ [(key, s)]) ++ entries := by
      rw [List.append_assoc, List.singleton_append]
    have hmore := ih (before ++ [(key, s)]) (by rwa [← hassoc]) (c.insert key s) hinsert
    simp only [← hassoc] at hmore
    refine .cons (fun rest _ => ?_) hmore
    rw [readTextEntry, readColon_cons]
    dsimp only
    rw [compactChars, readText_stringChars]
    rfl

/-- A map of texts reads back. -/
lemma readTexts_toValue (map : Keyed String) {fuel levels : Nat} (hlevels : 0 < levels)
    (hfuel : (compactChars (Shape.toValue .texts map)).length ≤ fuel) (rest : List Char) :
    readTexts fuel levels (compactChars (Shape.toValue .texts map) ++ rest) = .ok (map, rest) := by
  have hbrace : ∀ cs, readTexts fuel levels ('\x7b' :: cs) =
      readMembers readTextEntry fuel true Keyed.empty cs := by
    intro cs
    rw [readTexts, skipSpace_cons (by decide)]
    exact if_neg (Nat.ne_of_gt hlevels)
  rw [Shape.toValue, compactChars, List.length_cons] at hfuel
  rw [Shape.toValue, compactChars, List.cons_append, hbrace]
  have hlength := (length_compactMembers (map.entries.map fun (key, s) => (key, .string s))).1
  exact (absorbs_entries map.entries [] map.sorted Keyed.empty rfl).readMembers
    (Nat.lt_of_lt_of_le hlength (Nat.le_of_succ_le hfuel)) rest

/-- What was written for a content reads back as that content. -/
theorem Shape.read_toValue {shape : Shape} (hexact : shape.isExact = true) (content : shape.Content)
    {fuel levels : Nat} (hlevels : 0 < levels)
    (hfuel : (compactChars (shape.toValue content)).length ≤ fuel) {rest : List Char}
    (hrest : EndsNumber rest) :
    shape.read fuel levels (compactChars (shape.toValue content) ++ rest) = .ok (content, rest) := by
  cases shape with
  | text =>
    rw [Shape.toValue, compactChars]
    exact readText_stringChars "a string" content rest
  | optionalText => exact readOptionalText_ofText? content rest
  | size => exact readSize_ofWord content hrest
  | flag =>
    rw [Shape.toValue, compactChars]
    exact readFlag_boolChars content rest
  | texts => exact readTexts_toValue content hlevels hfuel rest
  | any => cases hexact
  | instant => cases hexact

end Json

end ClaimCheck
