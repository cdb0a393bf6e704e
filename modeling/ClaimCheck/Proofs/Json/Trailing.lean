import Mathlib
import ClaimCheck.Proofs.Json.Passing

/-!
# Space behind a document

Strings, arrays and objects with space behind them are read as they are without it, like numbers
(`passes_readNumber`).  Readers with a bound on their parts need one that is larger by one, as the text
is.  By induction on the levels it is so of values (`passes_readValue`), and a document with space
added at its end is read as that document (`Value.parse_concat_space`).
-/

namespace ClaimCheck.Json

open Text

variable {α σ : Type} {c : Char}

/-! ## Words and strings -/

/-- A word is read alike, whatever follows it. -/
lemma readWord_concat {word cs rest : List Char} (h : readWord word cs = .ok rest) (c : Char) :
    readWord word (cs ++ [c]) = .ok (rest ++ [c]) := by
  induction word generalizing cs with
  | nil =>
    cases h
    rfl
  | cons w word ih =>
    cases cs with
    | nil => cases h
    | cons d cs =>
      rw [readWord] at h
      rw [List.cons_append, readWord]
      split at h
      · next heq =>
        rw [if_pos heq]
        exact ih h
      · cases h

/-- Characters of one byte each are as many as their bytes. -/
lemma byteLength_eq_length {cs : List Char} (h : ∀ d ∈ cs, d.utf8Size = 1) :
    byteLength cs = cs.length := by
  have hfold : ∀ n, cs.foldl (fun n d => n + d.utf8Size) n = n + cs.length := by
    induction cs with
    | nil => exact fun n => rfl
    | cons d cs ih =>
      intro n
      rw [List.foldl_cons, ih fun e he => h e (List.mem_cons_of_mem d he), h d List.mem_cons_self,
        List.length_cons]
      omega
  exact (hfold 0).trans (Nat.zero_add _)

/-- Four digits that are read are there. -/
lemma length_of_readHexEscape {cs : List Char} {n : Nat} (h : readHexEscape cs = .ok n) :
    4 ≤ cs.length := by
  unfold readHexEscape at h
  dsimp only at h
  split at h
  · cases h
  · next hbytes =>
    split at h
    · next hvalue =>
      split at hvalue
      · next hall =>
        have hlength : byteLength (cs.take 4) = (cs.take 4).length :=
          byteLength_eq_length fun d hd => of_decide_eq_true (List.all_eq_true.mp hall d hd)
        rw [List.length_take] at hlength
        omega
      · cases hvalue
    · cases h

/-- Four digits are read alike, whatever follows them. -/
lemma readHexEscape_concat {cs : List Char} {n : Nat} (h : readHexEscape cs = .ok n) (c : Char) :
    readHexEscape (cs ++ [c]) = .ok n := by
  have htake : (cs ++ [c]).take 4 = cs.take 4 :=
    List.take_append_of_le_length (length_of_readHexEscape h)
  unfold readHexEscape at h ⊢
  dsimp only at h ⊢
  rw [htake]
  split at h
  · cases h
  · next hbytes =>
    rw [if_neg hbytes]
    split at h
    · exact h
    · cases h

/-- The second half of a pair is read alike, whatever follows it. -/
lemma readTrailing_concat {high : Nat} {cs : List Char} {result : Char × Nat}
    (h : readTrailing high cs = .ok result) (c : Char) :
    readTrailing high (cs ++ [c]) = .ok result := by
  unfold readTrailing at h
  split at h
  · cases h
  · cases h
  · next cs =>
    cases hlow : readHexEscape cs with
    | error fault =>
      rw [hlow] at h
      cases h
    | ok low =>
      rw [hlow] at h
      change (readHexEscape (cs ++ [c])).bind _ = _
      rw [readHexEscape_concat hlow]
      change (if isTrailing low = true then _ else _) = _ at h ⊢
      split at h
      · next htrailing =>
        rw [if_pos htrailing]
        exact h
      · cases h
  · cases h
  · cases h

/-- An escape is read alike, whatever follows it. -/
lemma readEscape_concat {cs : List Char} {result : Char × Nat} (h : readEscape cs = .ok result)
    (c : Char) : readEscape (cs ++ [c]) = .ok result := by
  cases cs with
  | nil => cases h
  | cons d cs =>
    rw [readEscape] at h
    rw [List.cons_append, readEscape]
    by_cases hunicode : d = 'u'
    · rw [if_pos hunicode] at h ⊢
      cases hhex : readHexEscape cs with
      | error fault =>
        rw [hhex] at h
        cases h
      | ok n =>
        have hlength := length_of_readHexEscape hhex
        rw [hhex] at h
        rw [readHexEscape_concat hhex]
        change (if isTrailing n = true then _ else if isLeading n = true then _ else _) = _ at h ⊢
        rw [List.drop_append_of_le_length hlength]
        split at h
        · cases h
        · next htrailing =>
          rw [if_neg htrailing]
          split at h
          · next hleading =>
            rw [if_pos hleading]
            exact readTrailing_concat h c
          · next hleading =>
            rw [if_neg hleading]
            exact h
    · rw [if_neg hunicode] at h ⊢
      cases hsimple : simpleEscape? d with
      | none =>
        rw [hsimple] at h
        cases h
      | some e =>
        rw [hsimple] at h
        exact h

/-- A string is read alike, whatever follows it. -/
lemma passes_readStringFrom (c : Char) (skip : Nat) (before : List Char) :
    Passes c (readStringFrom skip before) (readStringFrom skip before) := by
  intro cs a rest h
  induction cs generalizing skip before with
  | nil =>
    rw [readStringFrom] at h
    cases h
  | cons d cs ih =>
    cases skip with
    | succ skip =>
      rw [readStringFrom] at h
      rw [List.cons_append, readStringFrom]
      exact ih _ _ h
    | zero =>
      rw [readStringFrom] at h
      rw [List.cons_append, readStringFrom]
      by_cases hquote : d = '"'
      · rw [if_pos hquote] at h ⊢
        cases h
        rfl
      rw [if_neg hquote] at h ⊢
      by_cases hescape : d = '\\'
      · rw [if_pos hescape] at h ⊢
        cases hread : readEscape cs with
        | error fault =>
          rw [hread] at h
          cases h
        | ok result =>
          rw [hread] at h
          rw [readEscape_concat hread]
          exact ih _ _ h
      rw [if_neg hescape] at h ⊢
      split at h
      · cases h
      · next hcontrol =>
        rw [if_neg hcontrol]
        exact ih _ _ h

/-! ## Containers -/

/-- Space at the end is skipped with the space before it, and else it is left. -/
lemma skipSpace_concat (hc : isSpace c = true) (cs : List Char) :
    skipSpace (cs ++ [c]) = if skipSpace cs = [] then [] else skipSpace cs ++ [c] := by
  have hlast : [c].dropWhile isSpace = [] := by
    rw [List.dropWhile_cons_of_pos hc, List.dropWhile_nil]
  unfold skipSpace
  rw [List.dropWhile_append, hlast]
  simp [List.isEmpty_iff]

/-- The end of an array is found alike. -/
lemma nextItem_end (hc : isSpace c = true) {first : Bool} {cs rest : List Char}
    (h : nextItem first cs = .ok (none, rest)) :
    nextItem first (cs ++ [c]) = .ok (none, rest ++ [c]) := by
  unfold nextItem at h ⊢
  rw [skipSpace_concat hc]
  split at h
  · cases h
  · next heq =>
    cases h
    rw [heq, if_neg (List.cons_ne_nil _ _)]
    rfl
  · split at h
    · cases h
    split at h
    · split at h <;> cases h
    · cases h

/-- The next item of an array starts alike. -/
lemma nextItem_start (hc : isSpace c = true) {first : Bool} {cs begun rest : List Char}
    (h : nextItem first cs = .ok (some begun, rest)) :
    nextItem first (cs ++ [c]) = .ok (some (begun ++ [c]), rest) := by
  unfold nextItem at h ⊢
  rw [skipSpace_concat hc]
  split at h
  · cases h
  · cases h
  · next d cs' hend heq =>
    rw [heq, if_neg (List.cons_ne_nil _ _), List.cons_append]
    split
    · next heq' => cases heq'
    · next heq' =>
      cases heq'
      exact (hend rfl).elim
    · next heq' =>
      cases heq'
      by_cases hfirst : first = true
      · rw [if_pos hfirst] at h ⊢
        cases h
        rfl
      rw [if_neg hfirst] at h ⊢
      by_cases hcomma : d = ','
      · rw [if_pos hcomma] at h ⊢
        rw [skipSpace_concat hc]
        split at h
        · cases h
        · cases h
        · next hnil hbracket =>
          cases h
          rw [if_neg hnil]
          split
          · next heq' => exact absurd heq' (by simp)
          · next heq' => exact (concat_ne_cons hc (by decide) hbracket heq').elim
          · rfl
      · rw [if_neg hcomma] at h
        cases h

/-- The items of an array are read alike with a larger bound. -/
lemma passes_readItems (hc : isSpace c = true) {item next : Reader α} (hitem : Passes c item next)
    (fuel : Nat) (before : List α) :
    Passes c (readItems item fuel before) (readItems next (fuel + 1) before) := by
  -- each item takes one off the bound, on both sides alike
  induction fuel generalizing before with
  | zero =>
    intro cs a rest h
    cases h
  | succ fuel ih =>
    intro cs a rest h
    rw [readItems] at h ⊢
    cases hnext : nextItem before.isEmpty cs with
    | error fault =>
      rw [hnext] at h
      cases h
    | ok found =>
      rw [hnext] at h
      rcases found with ⟨begun | begun, left⟩
      · rw [nextItem_end hc hnext]
        cases h
        rfl
      · rw [nextItem_start hc hnext]
        exact hitem.andThen (fun value => ih (value :: before)) begun a rest h

/-- The key of a member, or the end of the object, is found alike. -/
lemma passes_nextKey (hc : isSpace c = true) (first : Bool) :
    Passes c (nextKey first) (nextKey first) := by
  have hkey := (passes_readStringFrom c 0 []).map some
  intro cs a rest h
  unfold nextKey at h ⊢
  rw [skipSpace_concat hc]
  split at h
  · cases h
  · next heq =>
    cases h
    rw [heq, if_neg (List.cons_ne_nil _ _)]
    rfl
  · next d cs' hend heq =>
    rw [heq, if_neg (List.cons_ne_nil _ _), List.cons_append]
    split
    · next heq' => cases heq'
    · next heq' =>
      cases heq'
      exact (hend rfl).elim
    · next heq' =>
      cases heq'
      by_cases hfirst : first = true
      · rw [if_pos hfirst] at h ⊢
        split at h
        · next hquote =>
          rw [if_pos hquote]
          exact hkey cs' a rest h
        · cases h
      rw [if_neg hfirst] at h ⊢
      by_cases hcomma : d = ','
      · rw [if_pos hcomma] at h ⊢
        rw [skipSpace_concat hc]
        split at h
        · cases h
        · next heq' =>
          rw [heq', if_neg (List.cons_ne_nil _ _)]
          exact hkey _ a rest h
        · cases h
        · cases h
      · rw [if_neg hcomma] at h
        cases h

/-- A colon is read alike. -/
lemma readColon_concat (hc : isSpace c = true) {cs rest : List Char}
    (h : readColon cs = .ok rest) : readColon (cs ++ [c]) = .ok (rest ++ [c]) := by
  unfold readColon at h ⊢
  rw [skipSpace_concat hc]
  split at h
  · cases h
  · next heq =>
    cases h
    rw [heq, if_neg (List.cons_ne_nil _ _)]
    rfl
  · cases h

/-- A member of an object value is read alike. -/
lemma passes_readEntry (hc : isSpace c = true) {value next : Reader Value}
    (hvalue : Passes c value next) (key : String) (members : List (String × Value)) :
    Passes c (readEntry value key members) (readEntry next key members) := by
  intro cs a rest h
  unfold readEntry at h ⊢
  cases hcolon : readColon cs with
  | error fault =>
    rw [hcolon] at h
    cases h
  | ok left =>
    rw [hcolon] at h
    rw [readColon_concat hc hcolon]
    dsimp only at h ⊢
    cases hread : value left with
    | error fault =>
      rw [hread] at h
      cases h
    | ok result =>
      rw [hread] at h
      rw [hvalue left result.1 result.2 hread]
      cases h
      rfl

/-- The members of an object are read alike with a larger bound. -/
lemma passes_readMembers (hc : isSpace c = true) {member next : String → σ → Reader σ}
    (hmember : ∀ key state, Passes c (member key state) (next key state)) (fuel : Nat)
    (first : Bool) (state : σ) :
    Passes c (readMembers member fuel first state) (readMembers next (fuel + 1) first state) := by
  induction fuel generalizing first state with
  | zero =>
    intro cs a rest h
    cases h
  | succ fuel ih =>
    intro cs a rest h
    rw [readMembers] at h ⊢
    cases hkey : nextKey first cs with
    | error fault =>
      rw [hkey] at h
      cases h
    | ok found =>
      obtain ⟨key, left⟩ := found
      rw [hkey] at h
      rw [passes_nextKey hc first cs key left hkey]
      cases key with
      | none =>
        cases h
        rfl
      | some key => exact (hmember key state).andThen (fun state' => ih false state') left a rest h

/-! ## Values -/

/-- A word with its value is read alike. -/
lemma passes_word (word : List Char) (value : Value) (c : Char) :
    Passes c (fun cs => (readWord word cs).map (value, ·))
      (fun cs => (readWord word cs).map (value, ·)) := by
  intro cs a rest h
  dsimp only at h ⊢
  cases hread : readWord word cs with
  | error fault =>
    rw [hread] at h
    cases h
  | ok left =>
    rw [hread] at h
    cases h
    rw [readWord_concat hread]
    rfl

/-- A value is read alike with a larger bound when values one level below are. -/
lemma passes_readValue_of_below (hc : isSpace c = true) {fuel levels : Nat}
    (hbelow : ∀ level, levels = level + 1 →
      Passes c (readValue fuel level) (readValue (fuel + 1) level)) :
    Passes c (readValue fuel levels) (readValue (fuel + 1) levels) := by
  intro cs a rest h
  rw [readValue.eq_def] at h ⊢
  dsimp only at h ⊢
  rw [skipSpace_concat hc]
  cases hskip : skipSpace cs with
  | nil =>
    rw [hskip] at h
    cases h
  | cons d left =>
    rw [hskip] at h
    rw [if_neg (List.cons_ne_nil _ _), List.cons_append]
    dsimp only at h ⊢
    -- the first character tells what kind of value it is, as it does for the reader
    by_cases hnull : d = 'n'
    · rw [if_pos hnull] at h ⊢
      exact passes_word _ _ c left a rest h
    rw [if_neg hnull] at h ⊢
    by_cases htrue : d = 't'
    · rw [if_pos htrue] at h ⊢
      exact passes_word _ _ c left a rest h
    rw [if_neg htrue] at h ⊢
    by_cases hfalse : d = 'f'
    · rw [if_pos hfalse] at h ⊢
      exact passes_word _ _ c left a rest h
    rw [if_neg hfalse] at h ⊢
    by_cases hminus : d = '-'
    · rw [if_pos hminus] at h ⊢
      exact passes_readNumber hc true left a rest h
    rw [if_neg hminus] at h ⊢
    by_cases hdigit : isDigit d = true
    · rw [if_pos hdigit] at h ⊢
      exact passes_readNumber hc false (d :: left) a rest h
    rw [if_neg hdigit] at h ⊢
    by_cases hquote : d = '"'
    · rw [if_pos hquote] at h ⊢
      exact (passes_readStringFrom c 0 []).map .string left a rest h
    rw [if_neg hquote] at h ⊢
    by_cases hbracket : d = '['
    · rw [if_pos hbracket] at h ⊢
      cases levels with
      | zero => cases h
      | succ level =>
        exact (passes_readItems hc (hbelow level rfl) fuel []).map .array left a rest h
    rw [if_neg hbracket] at h ⊢
    by_cases hbrace : d = '\x7b'
    · rw [if_pos hbrace] at h ⊢
      cases levels with
      | zero => cases h
      | succ level =>
        have hmember := passes_readEntry hc (hbelow level rfl)
        exact (passes_readMembers hc hmember fuel true []).map .object left a rest h
    rw [if_neg hbrace] at h
    cases h

/-- A value is read alike with a larger bound. -/
lemma passes_readValue (hc : isSpace c = true) (fuel levels : Nat) :
    Passes c (readValue fuel levels) (readValue (fuel + 1) levels) := by
  induction levels with
  | zero => exact passes_readValue_of_below hc fun level h => by cases h
  | succ level ih =>
    refine passes_readValue_of_below hc fun other h => ?_
    cases h
    exact ih

/-- A document is read alike when space is added at its end. -/
theorem Value.parse_concat_space {text : String} {value : Value} (hc : isSpace c = true)
    (h : Value.parse text = .ok value) :
    Value.parse (text ++ String.singleton c) = .ok value := by
  unfold Value.parse readAll at h ⊢
  dsimp only at h ⊢
  rw [String.toList_append, String.toList_singleton, List.length_append, List.length_singleton]
  cases hread : readValue (text.toList.length + 1) maxLevels text.toList with
  | error fault =>
    rw [hread] at h
    cases h
  | ok result =>
    obtain ⟨read, rest⟩ := result
    rw [hread] at h
    rw [passes_readValue hc _ _ _ _ _ hread]
    dsimp only at h ⊢
    rw [skipSpace_concat hc]
    split at h
    · next hend =>
      cases h
      rw [if_pos hend]
    · cases h

end ClaimCheck.Json
