import Mathlib
import ClaimCheck.Proofs.Json.Numbers
import ClaimCheck.Proofs.Json.Strings

/-!
# What is read from a compact document

Whatever value was written, the reader either refuses the compact text, since it is nested too deep
or a fraction is out of range, or reads a value that agrees with the one written
(`Value.agrees_of_parse_compact`).

The induction is over the written value, with the text behind it kept general
(`ReadsAgreeing`).  Of a number some characters may be left unread; the container around it is
refused then, since only a comma or its end can follow (`left_eq_nil_of_readItems`,
`left_eq_nil_of_readMembers`).
-/

namespace ClaimCheck.Json

open Text

variable {c : Char} {cs r : List Char} {u : Value}

/-! ## Reading what was written -/

/-- The compact text of a value, whatever follows it that does not go on with a number: what is read
from it agrees with the value, and nothing but number characters of it is left. -/
def ReadsAgreeing (written : Value) : Prop :=
  ∀ (fuel levels : Nat) (rest : List Char) (u : Value) (r : List Char), EndsNumber rest →
    readValue fuel levels (compactChars written ++ rest) = .ok (u, r) →
      written.Agrees u ∧ ∃ left, r = left ++ rest ∧ ∀ c ∈ left, isNumeric c = true

/-- A character that starts a number is read as one, if it is read at all. -/
lemma tookNumber_of_readValue {fuel levels : Nat} (hc : isNumeric c = true)
    (hread : readValue fuel levels (c :: cs) = .ok (u, r)) : TookNumber (c :: cs) u r := by
  have hspace := (of_isNumeric hc).1
  have hplain : ∀ d, isNumeric d = false → c ≠ d := by
    rintro d hd rfl
    rw [hc] at hd
    cases hd
  rw [readValue.eq_def] at hread
  simp only [skipSpace, List.dropWhile_cons, hspace, Bool.false_eq_true, if_false] at hread
  rw [if_neg (hplain _ (by decide)), if_neg (hplain _ (by decide)), if_neg (hplain _ (by decide))]
    at hread
  split at hread
  · exact (takesNumber_readNumber _ _ u r hread).cons hc
  split at hread
  · exact takesNumber_readNumber _ _ u r hread
  rw [if_neg (hplain _ (by decide)), if_neg (hplain _ (by decide)), if_neg (hplain _ (by decide))]
    at hread
  cases hread

/-- A number that was written is read as a number. -/
lemma readsAgreeing_of_isNumeric {written : Value} (hkind : written.kind = .number)
    (hmembers : written.members = [])
    (hchars : compactChars written ≠ [] ∧ ∀ c ∈ compactChars written, isNumeric c = true) :
    ReadsAgreeing written := by
  intro fuel levels rest u r hrest hread
  obtain ⟨hne, hall⟩ := hchars
  obtain ⟨c, cs, hcs⟩ := List.exists_cons_of_ne_nil hne
  have hc : isNumeric c = true := hall c (by rw [hcs]; exact List.mem_cons_self)
  have htook : TookNumber (compactChars written ++ rest) u r := by
    rw [hcs, List.cons_append] at hread ⊢
    exact tookNumber_of_readValue hc hread
  obtain ⟨hu, taken, heq, htaken⟩ := htook
  have hnone : u.members = [] := by
    cases u with
    | object members => cases hu
    | _ => rfl
  obtain ⟨left, hr, hsplit⟩ := left_of_append_eq hrest htaken heq
  refine ⟨.of_kind (hu.trans hkind.symm) hmembers hnone, left, hr, fun d hd => hall d ?_⟩
  rw [hsplit]
  exact List.mem_append_right _ hd

/-- A value that is read back as it was written. -/
lemma readsAgreeing_of_eq {written : Value} (hmembers : written.members = [])
    (hread : ∀ fuel levels rest,
      readValue fuel levels (compactChars written ++ rest) = .ok (written, rest)) :
    ReadsAgreeing written := by
  intro fuel levels rest u r _ hsome
  rw [hread] at hsome
  cases hsome
  exact ⟨.of_kind rfl hmembers hmembers, [], rfl, fun _ h => absurd h List.not_mem_nil⟩

/-- The null value is read back. -/
lemma readValue_null (fuel levels : Nat) (rest : List Char) :
    readValue fuel levels (compactChars .null ++ rest) = .ok (.null, rest) := by
  have hchars : compactChars .null ++ rest = 'n' :: (['u', 'l', 'l'] ++ rest) := rfl
  rw [hchars, readValue.eq_def]
  simp [skipSpace, isSpace, readWord, Except.map]

/-- A truth value is read back. -/
lemma readValue_bool (fuel levels : Nat) (b : Bool) (rest : List Char) :
    readValue fuel levels (compactChars (.bool b) ++ rest) = .ok (.bool b, rest) := by
  cases b with
  | true =>
    have hchars : compactChars (.bool true) ++ rest = 't' :: (['r', 'u', 'e'] ++ rest) := rfl
    rw [hchars, readValue.eq_def]
    simp [skipSpace, isSpace, readWord, Except.map]
  | false =>
    have hchars : compactChars (.bool false) ++ rest = 'f' :: (['a', 'l', 's', 'e'] ++ rest) := rfl
    rw [hchars, readValue.eq_def]
    simp [skipSpace, isSpace, readWord, Except.map]

/-! ### Containers -/

/-- Whether a character may start the text of a value. -/
def StartsValue (c : Char) : Prop := isSpace c = false ∧ c ≠ ']'

/-- The text of every value starts with a character that no container takes for its own. -/
lemma exists_compactChars_cons (v : Value) :
    ∃ c cs, compactChars v = c :: cs ∧ StartsValue c := by
  have hnumeric : ∀ {cs : List Char}, cs ≠ [] ∧ (∀ c ∈ cs, isNumeric c = true) →
      ∃ c cs', cs = c :: cs' ∧ StartsValue c := by
    rintro cs ⟨hne, hall⟩
    obtain ⟨c, cs', rfl⟩ := List.exists_cons_of_ne_nil hne
    have hc := of_isNumeric (hall c List.mem_cons_self)
    exact ⟨c, cs', rfl, hc.1, hc.2.2.1⟩
  cases v with
  | null => exact ⟨'n', ['u', 'l', 'l'], rfl, by decide, by decide⟩
  | bool b =>
    cases b with
    | true => exact ⟨'t', ['r', 'u', 'e'], rfl, by decide, by decide⟩
    | false => exact ⟨'f', ['a', 'l', 's', 'e'], rfl, by decide, by decide⟩
  | whole n => exact hnumeric (isNumeric_signedDecimal n.value)
  | fraction x => exact hnumeric (isNumeric_fractionChars x)
  | string s => exact ⟨'"', escaped s ++ ['"'], rfl, by decide, by decide⟩
  | array items => exact ⟨'[', compactItems items, by rw [compactChars], by decide, by decide⟩
  | object members =>
    exact ⟨'\x7b', compactMembers members, by rw [compactChars], by decide, by decide⟩

/-- A character that starts a value is where the next part starts. -/
lemma skipSpace_cons {c : Char} (hc : isSpace c = false) (rest : List Char) :
    skipSpace (c :: rest) = c :: rest := by
  rw [skipSpace, List.dropWhile_cons, hc]
  rfl

/-- The items after the first one do not go on with a number. -/
lemma endsNumber_compactMoreItems (items : List Value) (rest : List Char) :
    EndsNumber (compactMoreItems items ++ rest) := by
  intro c cs hcs
  cases items with
  | nil =>
    rw [compactMoreItems, List.singleton_append, List.cons.injEq] at hcs
    rw [← hcs.1]
    decide
  | cons item items =>
    rw [compactMoreItems, List.cons_append, List.cons_append, List.cons.injEq] at hcs
    rw [← hcs.1]
    decide

/-- The members after the first one do not go on with a number. -/
lemma endsNumber_compactMoreMembers (members : List (String × Value)) (rest : List Char) :
    EndsNumber (compactMoreMembers members ++ rest) := by
  intro c cs hcs
  cases members with
  | nil =>
    rw [compactMoreMembers, List.singleton_append, List.cons.injEq] at hcs
    rw [← hcs.1]
    decide
  | cons entry members =>
    obtain ⟨key, value⟩ := entry
    rw [compactMoreMembers] at hcs
    simp only [List.cons_append, List.cons.injEq] at hcs
    rw [← hcs.1]
    decide

section Items

variable {fuel levels : Nat}

/-- After an item only a comma or the end of the array can stand, so no number character is left of
the item. -/
lemma left_eq_nil_of_readItems {item : Reader Value} {n : Nat} {before out : List Value}
    {left rest r : List Char} (hbefore : before ≠ []) (hleft : ∀ c ∈ left, isNumeric c = true)
    (hread : readItems item n before (left ++ rest) = .ok (out, r)) : left = [] := by
  cases left with
  | nil => rfl
  | cons c left =>
    obtain ⟨hspace, hcomma, hend, -⟩ := of_isNumeric (hleft c List.mem_cons_self)
    have hempty : before.isEmpty = false := by simpa using hbefore
    have hnext : nextItem before.isEmpty (c :: (left ++ rest)) =
        .error (.past .expectedListCommaOrEnd (c :: (left ++ rest))) := by
      unfold nextItem
      rw [skipSpace_cons hspace, hempty]
      split
      · next h => cases h
      · next h =>
        cases h
        exact absurd rfl hend
      · next h =>
        cases h
        rw [if_neg Bool.false_ne_true, if_neg hcomma]
    cases n with
    | zero => cases hread
    | succ n =>
      rw [List.cons_append, readItems, hnext] at hread
      cases hread

/-- An item of an array and the items after it are read up to the end of the array. -/
lemma rest_of_readItems_step {item : Value} {items : List Value} {n : Nat} {before out : List Value}
    {start rest r : List Char} (hitem : ReadsAgreeing item)
    (hmore : ∀ n before out r, before ≠ [] →
      readItems (readValue fuel levels) n before (compactMoreItems items ++ rest) = .ok (out, r) →
        r = rest)
    (hnext : nextItem before.isEmpty start =
      .ok (some (compactChars item ++ (compactMoreItems items ++ rest)), []))
    (hread : readItems (readValue fuel levels) n before start = .ok (out, r)) : r = rest := by
  cases n with
  | zero => cases hread
  | succ n =>
    rw [readItems, hnext] at hread
    dsimp only at hread
    split at hread
    · cases hread
    · next value r' hvalue =>
      obtain ⟨-, left, rfl, hleft⟩ :=
        hitem _ _ _ _ _ (endsNumber_compactMoreItems items rest) hvalue
      have hnil := left_eq_nil_of_readItems (List.cons_ne_nil _ _) hleft hread
      subst hnil
      exact hmore _ _ _ _ (List.cons_ne_nil _ _) hread

/-- Behind an item of an array its end is found. -/
lemma nextItem_compactMoreItems_nil (rest : List Char) :
    nextItem false (compactMoreItems [] ++ rest) = .ok (none, rest) := by
  rw [compactMoreItems, List.singleton_append]
  unfold nextItem
  rw [skipSpace_cons (by decide)]
  rfl

/-- Behind an item of an array the start of the next one is found. -/
lemma nextItem_compactMoreItems_cons (item : Value) (items : List Value) (rest : List Char) :
    nextItem false (compactMoreItems (item :: items) ++ rest) =
      .ok (some (compactChars item ++ (compactMoreItems items ++ rest)), []) := by
  obtain ⟨c, cs, hc, hspace, hend⟩ := exists_compactChars_cons item
  rw [compactMoreItems, List.cons_append, List.cons_append, List.append_assoc, hc]
  simp [nextItem, skipSpace_cons (c := ',') (by decide), skipSpace_cons hspace, hend]

/-- The end of an array without items is found. -/
lemma nextItem_compactItems_nil (rest : List Char) :
    nextItem true (compactItems [] ++ rest) = .ok (none, rest) := by
  rw [compactItems, List.singleton_append]
  unfold nextItem
  rw [skipSpace_cons (by decide)]
  rfl

/-- The start of the first item of an array is found. -/
lemma nextItem_compactItems_cons (item : Value) (items : List Value) (rest : List Char) :
    nextItem true (compactItems (item :: items) ++ rest) =
      .ok (some (compactChars item ++ (compactMoreItems items ++ rest)), []) := by
  obtain ⟨c, cs, hc, hspace, hend⟩ := exists_compactChars_cons item
  rw [compactItems, List.append_assoc, hc]
  simp [nextItem, skipSpace_cons hspace]

/-- The items after the first one are read up to the end of the array. -/
lemma rest_of_readItems_more {items : List Value} (hitems : ∀ item ∈ items, ReadsAgreeing item)
    {n : Nat} {before out : List Value} {rest r : List Char} (hbefore : before ≠ [])
    (hread : readItems (readValue fuel levels) n before (compactMoreItems items ++ rest) =
      .ok (out, r)) : r = rest := by
  have hfirst : before.isEmpty = false := by simpa using hbefore
  induction items generalizing n before out r with
  | nil =>
    cases n with
    | zero => cases hread
    | succ n =>
      rw [readItems, hfirst, nextItem_compactMoreItems_nil] at hread
      cases hread
      rfl
  | cons item items ih =>
    have hnext := nextItem_compactMoreItems_cons item items rest
    rw [← hfirst] at hnext
    refine rest_of_readItems_step (hitems item List.mem_cons_self) ?_ hnext hread
    intro n before out r hbefore hread
    exact ih (fun other hother => hitems other (List.mem_cons_of_mem _ hother)) hbefore hread
      (by simpa using hbefore)

/-- The items of an array are read up to its end. -/
lemma rest_of_readItems {items : List Value} (hitems : ∀ item ∈ items, ReadsAgreeing item)
    {n : Nat} {out : List Value} {rest r : List Char}
    (hread : readItems (readValue fuel levels) n [] (compactItems items ++ rest) = .ok (out, r)) :
    r = rest := by
  cases items with
  | nil =>
    cases n with
    | zero => cases hread
    | succ n =>
      rw [readItems, List.isEmpty_nil, nextItem_compactItems_nil] at hread
      cases hread
      rfl
  | cons item items =>
    have hnext : nextItem ([] : List Value).isEmpty (compactItems (item :: items) ++ rest) = _ :=
      nextItem_compactItems_cons item items rest
    refine rest_of_readItems_step (hitems item List.mem_cons_self) ?_ hnext hread
    intro n before out r hbefore hread
    exact rest_of_readItems_more (fun other hother => hitems other (List.mem_cons_of_mem _ hother))
      hbefore hread

/-- After its bracket an array is read item by item, if it is not nested too deep. -/
lemma readValue_bracket (rest : List Char) :
    readValue fuel levels ('[' :: rest) =
      match levels with
      | 0 => .error (.past .recursionLimit ('[' :: rest))
      | levels + 1 => (readItems (readValue fuel levels) fuel [] rest).map
          fun (items, rest) => (Value.array items, rest) := by
  rw [readValue.eq_def]
  cases levels <;> simp [skipSpace, isSpace, isDigit]

/-- An array is read as an array. -/
lemma readsAgreeing_array {items : List Value} (hitems : ∀ item ∈ items, ReadsAgreeing item) :
    ReadsAgreeing (.array items) := by
  intro fuel levels rest u r _ hread
  rw [compactChars, List.cons_append, readValue_bracket] at hread
  cases levels with
  | zero => cases hread
  | succ levels =>
    dsimp only at hread
    cases hitemsRead : readItems (readValue fuel levels) fuel [] (compactItems items ++ rest) with
    | error fault =>
      rw [hitemsRead] at hread
      cases hread
    | ok result =>
      obtain ⟨out, left⟩ := result
      rw [hitemsRead] at hread
      cases hread
      refine ⟨.of_kind rfl rfl rfl, [], ?_, fun _ h => absurd h List.not_mem_nil⟩
      exact rest_of_readItems hitems hitemsRead

end Items

section Members

variable {fuel levels : Nat}

/-- The key of a member is read back. -/
lemma readString_key (key : String) (rest : List Char) :
    stringChars key ++ rest = '"' :: (escaped key ++ '"' :: rest) ∧
      readString (escaped key ++ '"' :: rest) = .ok (key, rest) := by
  refine ⟨?_, readString_escaped key rest⟩
  rw [stringChars, List.append_assoc, List.cons_append, List.singleton_append]

/-- Behind a member of an object its end is found. -/
lemma nextKey_compactMoreMembers_nil (rest : List Char) :
    nextKey false (compactMoreMembers [] ++ rest) = .ok (none, rest) := by
  rw [compactMoreMembers, List.singleton_append]
  unfold nextKey
  rw [skipSpace_cons (by decide)]
  rfl

/-- Behind a member of an object the key of the next one is found. -/
lemma nextKey_compactMoreMembers_cons (key : String) (value : Value)
    (members : List (String × Value)) (rest : List Char) :
    nextKey false (compactMoreMembers ((key, value) :: members) ++ rest) =
      .ok (some key, ':' :: (compactChars value ++ (compactMoreMembers members ++ rest))) := by
  obtain ⟨hchars, hkey⟩ := readString_key key
    (':' :: (compactChars value ++ (compactMoreMembers members ++ rest)))
  have hstart : compactMoreMembers ((key, value) :: members) ++ rest = ',' :: (stringChars key ++
      ':' :: (compactChars value ++ (compactMoreMembers members ++ rest))) := by
    rw [compactMoreMembers]
    simp only [List.cons_append, List.append_assoc]
  rw [hstart, hchars]
  simp [nextKey, skipSpace_cons, isSpace, hkey, Except.map]

/-- The end of an object without members is found. -/
lemma nextKey_compactMembers_nil (rest : List Char) :
    nextKey true (compactMembers [] ++ rest) = .ok (none, rest) := by
  rw [compactMembers, List.singleton_append]
  unfold nextKey
  rw [skipSpace_cons (by decide)]
  rfl

/-- The key of the first member of an object is found. -/
lemma nextKey_compactMembers_cons (key : String) (value : Value)
    (members : List (String × Value)) (rest : List Char) :
    nextKey true (compactMembers ((key, value) :: members) ++ rest) =
      .ok (some key, ':' :: (compactChars value ++ (compactMoreMembers members ++ rest))) := by
  obtain ⟨hchars, hkey⟩ := readString_key key
    (':' :: (compactChars value ++ (compactMoreMembers members ++ rest)))
  have hstart : compactMembers ((key, value) :: members) ++ rest = stringChars key ++
      ':' :: (compactChars value ++ (compactMoreMembers members ++ rest)) := by
    rw [compactMembers]
    simp only [List.cons_append, List.append_assoc]
  rw [hstart, hchars]
  simp [nextKey, skipSpace_cons, isSpace, hkey, Except.map]

/-- The colon behind a key is passed. -/
lemma readColon_cons (rest : List Char) : readColon (':' :: rest) = .ok rest := by
  unfold readColon
  rw [skipSpace_cons (by decide)]
  rfl

/-- After a member only a comma or the end of the object can stand, so no number character is left of
the value. -/
lemma left_eq_nil_of_readMembers {σ : Type} {member : (key : String) → σ → Reader σ} {n : Nat}
    {state out : σ} {left rest r : List Char} (hleft : ∀ c ∈ left, isNumeric c = true)
    (hread : readMembers member n false state (left ++ rest) = .ok (out, r)) : left = [] := by
  cases left with
  | nil => rfl
  | cons c left =>
    obtain ⟨hspace, hcomma, -, hend⟩ := of_isNumeric (hleft c List.mem_cons_self)
    have hnext : nextKey false (c :: (left ++ rest)) =
        .error (.past .expectedObjectCommaOrEnd (c :: (left ++ rest))) := by
      unfold nextKey
      rw [skipSpace_cons hspace]
      split
      · next h => cases h
      · next h =>
        cases h
        exact absurd rfl hend
      · next h =>
        cases h
        rw [if_neg Bool.false_ne_true, if_neg hcomma]
    cases n with
    | zero => cases hread
    | succ n =>
      rw [List.cons_append, readMembers, hnext] at hread
      cases hread

/-- What an object holds after the rest of its members were read. -/
def HoldsAfter (members state out : List (String × Value)) : Prop :=
  ∀ key, Value.firstKind? out key = (Value.lastKind? members key).or (Value.firstKind? state key)

/-- One more member was read before the others. -/
lemma HoldsAfter.cons {key : String} {written read : Value}
    {members state out : List (String × Value)} (hkind : read.kind = written.kind)
    (h : HoldsAfter members (Entries.insert key read state) out) :
    HoldsAfter ((key, written) :: members) state out := by
  intro k
  rw [h k, Value.firstKind?_insert, Value.lastKind?_cons, hkind, Option.or_assoc]
  congr 1
  split <;> rfl

/-- A member of an object and the members after it are read up to the end of the object. -/
lemma of_readMembers_step {key : String} {value : Value} {members : List (String × Value)} {n : Nat}
    {first : Bool} {state out : List (String × Value)} {start rest r : List Char}
    (hvalue : ReadsAgreeing value)
    (hmore : ∀ n state out r,
      readMembers (readEntry (readValue fuel levels)) n false state
        (compactMoreMembers members ++ rest) = .ok (out, r) →
        r = rest ∧ HoldsAfter members state out)
    (hnext : nextKey first start =
      .ok (some key, ':' :: (compactChars value ++ (compactMoreMembers members ++ rest))))
    (hread : readMembers (readEntry (readValue fuel levels)) n first state start = .ok (out, r)) :
    r = rest ∧ HoldsAfter ((key, value) :: members) state out := by
  cases n with
  | zero => cases hread
  | succ n =>
    rw [readMembers, hnext] at hread
    dsimp only at hread
    rw [readEntry, readColon_cons] at hread
    dsimp only at hread
    cases hread' : readValue fuel levels
        (compactChars value ++ (compactMoreMembers members ++ rest)) with
    | error fault =>
      rw [hread'] at hread
      cases hread
    | ok result =>
      obtain ⟨u, r'⟩ := result
      rw [hread'] at hread
      dsimp only at hread
      obtain ⟨hagrees, left, rfl, hleft⟩ :=
        hvalue _ _ _ _ _ (endsNumber_compactMoreMembers members rest) hread'
      have hnil := left_eq_nil_of_readMembers hleft hread
      subst hnil
      obtain ⟨hr, hholds⟩ := hmore _ _ _ _ hread
      exact ⟨hr, hholds.cons hagrees.kind_eq⟩

/-- The members after the first one are read up to the end of the object. -/
lemma of_readMembers_more {members : List (String × Value)}
    (hmembers : ∀ entry ∈ members, ReadsAgreeing entry.2) {n : Nat}
    {state out : List (String × Value)} {rest r : List Char}
    (hread : readMembers (readEntry (readValue fuel levels)) n false state
      (compactMoreMembers members ++ rest) = .ok (out, r)) :
    r = rest ∧ HoldsAfter members state out := by
  induction members generalizing n state out r with
  | nil =>
    cases n with
    | zero => cases hread
    | succ n =>
      rw [readMembers, nextKey_compactMoreMembers_nil] at hread
      cases hread
      exact ⟨rfl, fun _ => rfl⟩
  | cons entry members ih =>
    obtain ⟨key, value⟩ := entry
    refine of_readMembers_step (hmembers _ List.mem_cons_self) ?_
      (nextKey_compactMoreMembers_cons key value members rest) hread
    intro n state out r hread
    exact ih (fun other hother => hmembers other (List.mem_cons_of_mem _ hother)) hread

/-- The members of an object are read up to its end. -/
lemma of_readMembers {members : List (String × Value)}
    (hmembers : ∀ entry ∈ members, ReadsAgreeing entry.2) {n : Nat} {out : List (String × Value)}
    {rest r : List Char}
    (hread : readMembers (readEntry (readValue fuel levels)) n true []
      (compactMembers members ++ rest) = .ok (out, r)) :
    r = rest ∧ HoldsAfter members [] out := by
  cases members with
  | nil =>
    cases n with
    | zero => cases hread
    | succ n =>
      rw [readMembers, nextKey_compactMembers_nil] at hread
      cases hread
      exact ⟨rfl, fun _ => rfl⟩
  | cons entry members =>
    obtain ⟨key, value⟩ := entry
    refine of_readMembers_step (hmembers _ List.mem_cons_self) ?_
      (nextKey_compactMembers_cons key value members rest) hread
    intro n state out r hread
    exact of_readMembers_more (fun other hother => hmembers other (List.mem_cons_of_mem _ hother))
      hread

/-- After its brace an object is read member by member, if it is not nested too deep. -/
lemma readValue_brace (rest : List Char) :
    readValue fuel levels ('\x7b' :: rest) =
      match levels with
      | 0 => .error (.past .recursionLimit ('\x7b' :: rest))
      | levels + 1 => (readMembers (readEntry (readValue fuel levels)) fuel true [] rest).map
          fun (members, rest) => (Value.object members, rest) := by
  rw [readValue.eq_def]
  cases levels <;> simp [skipSpace, isSpace, isDigit]

/-- An object is read as an object with the same keys. -/
lemma readsAgreeing_object {members : List (String × Value)}
    (hmembers : ∀ entry ∈ members, ReadsAgreeing entry.2) : ReadsAgreeing (.object members) := by
  intro fuel levels rest u r _ hread
  rw [compactChars, List.cons_append, readValue_brace] at hread
  cases levels with
  | zero => cases hread
  | succ levels =>
    dsimp only at hread
    cases hmembersRead : readMembers (readEntry (readValue fuel levels)) fuel true []
        (compactMembers members ++ rest) with
    | error fault =>
      rw [hmembersRead] at hread
      cases hread
    | ok result =>
      obtain ⟨out, left⟩ := result
      rw [hmembersRead] at hread
      cases hread
      obtain ⟨hr, hholds⟩ := of_readMembers hmembers hmembersRead
      refine ⟨⟨rfl, fun key => ?_⟩, [], hr, fun _ h => absurd h List.not_mem_nil⟩
      exact (hholds key).trans (Option.or_none ..)

end Members

/-- Every value is read in agreement with what was written. -/
theorem readsAgreeing : ∀ written : Value, ReadsAgreeing written
  | .null => readsAgreeing_of_eq rfl readValue_null
  | .bool b => readsAgreeing_of_eq rfl fun fuel levels => readValue_bool fuel levels b
  | .whole n =>
    readsAgreeing_of_isNumeric rfl rfl (by rw [compactChars]; exact isNumeric_signedDecimal n.value)
  | .fraction x =>
    readsAgreeing_of_isNumeric rfl rfl (by rw [compactChars]; exact isNumeric_fractionChars x)
  | .string s => readsAgreeing_of_eq rfl fun fuel levels rest => by
    rw [compactChars, readValue_stringChars]
  | .array items => readsAgreeing_array fun item _ => readsAgreeing item
  | .object members => readsAgreeing_object fun entry _ => readsAgreeing entry.2
termination_by written => sizeOf written
decreasing_by
  · have hitem := List.sizeOf_lt_of_mem ‹item ∈ items›
    rw [Value.array.sizeOf_spec]
    omega
  · have hentry := List.sizeOf_lt_of_mem ‹entry ∈ members›
    have hvalue : sizeOf entry.2 < sizeOf entry := by
      rw [Prod.mk.sizeOf_spec]
      omega
    rw [Value.object.sizeOf_spec]
    omega

/-- What a compact text is read as agrees with the value that it was written from. -/
theorem Value.agrees_of_parse_compact {written read : Value}
    (hread : Value.parse written.compact = .ok read) : written.Agrees read := by
  have hends : EndsNumber [] := fun c rest h => by cases h
  unfold Value.parse readAll at hread
  dsimp only at hread
  rw [Value.compact, String.toList_ofList] at hread
  split at hread
  · cases hread
  · next value rest hvalue =>
    rw [← List.append_nil (compactChars written)] at hvalue
    have hagrees := (readsAgreeing written _ _ _ _ _ hends hvalue).1
    split at hread
    · cases hread
      exact hagrees
    · cases hread

end ClaimCheck.Json
