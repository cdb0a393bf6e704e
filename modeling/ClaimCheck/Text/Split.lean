/-!
# Splitting text

Cutting a text at the first place where a separator stands, or at every place.
-/

namespace ClaimCheck.Text

/-! ### The first separator -/

/-- The text before the first `separator` and the text after it. -/
def splitFirst? (separator : Char) (cs : List Char) : Option (List Char × List Char) :=
  match cs.dropWhile (· ≠ separator) with
  | [] => none
  | _ :: after => some (cs.takeWhile (· ≠ separator), after)

/-- What is left of a text after `start`, if it starts with it. -/
def dropPrefix? : (start : List Char) → List Char → Option (List Char)
  | [], rest => some rest
  | _ :: _, [] => none
  | a :: start, c :: rest => if a = c then dropPrefix? start rest else none

/-- The text before the first `marker` and the text after it, `before` holding the characters that
were passed, the last one first. -/
def splitAtFrom? (marker before : List Char) : List Char → Option (List Char × List Char)
  | [] => (dropPrefix? marker []).map (before.reverse, ·)
  | c :: rest =>
    match dropPrefix? marker (c :: rest) with
    | some after => some (before.reverse, after)
    | none => splitAtFrom? marker (c :: before) rest

/-- The text before the first `marker` and the text after it. -/
def splitAt? (marker cs : List Char) : Option (List Char × List Char) :=
  splitAtFrom? marker [] cs

/-! ### All separators -/

/-- Puts a character before the first of some pieces. -/
def consFirst (c : Char) : List (List Char) → List (List Char)
  | [] => [[c]]
  | piece :: pieces => (c :: piece) :: pieces

/-- The pieces between the characters at which `cut` holds; there is always one. -/
def piecesBy (cut : Char → Bool) (cs : List Char) : List (List Char) :=
  cs.foldr (fun c pieces => if cut c then [] :: pieces else consFirst c pieces) [[]]

/-- The pieces between the separators; there is always one. -/
def pieces (separator : Char) (cs : List Char) : List (List Char) :=
  piecesBy (· == separator) cs

/-- Joins pieces with a separator between them. -/
def join (separator : Char) : List (List Char) → List Char
  | [] => []
  | piece :: rest => piece ++ rest.flatMap (separator :: ·)

/-! ### Laws -/

theorem splitFirst?_nil (separator : Char) : splitFirst? separator [] = none := rfl

theorem splitFirst?_cons (separator c : Char) (rest : List Char) :
    splitFirst? separator (c :: rest) =
      if c = separator then some ([], rest)
      else (splitFirst? separator rest).map fun (before, after) => (c :: before, after) := by
  by_cases h : c = separator
  · simp [splitFirst?, h]
  · simp only [splitFirst?, h, ne_eq, not_false_eq_true, decide_true, List.dropWhile_cons_of_pos,
      List.takeWhile_cons_of_pos, if_false]
    cases rest.dropWhile (fun x => decide (x ≠ separator)) <;> simp

/-- The two parts and the separator make up the text, and the first part has no separator. -/
theorem append_of_splitFirst? {separator : Char} {cs before after : List Char}
    (h : splitFirst? separator cs = some (before, after)) :
    cs = before ++ separator :: after ∧ separator ∉ before := by
  induction cs generalizing before with
  | nil => simp [splitFirst?] at h
  | cons c rest ih =>
    rw [splitFirst?_cons] at h
    split at h
    · simp_all
    · rename_i hc
      obtain ⟨⟨b, a⟩, hb, heq⟩ := Option.map_eq_some_iff.1 h
      cases heq
      obtain ⟨rfl, hmem⟩ := ih hb
      exact ⟨rfl, by simp [hmem, Ne.symm hc]⟩

theorem splitFirst?_append {separator : Char} {before : List Char} (h : separator ∉ before)
    (after : List Char) :
    splitFirst? separator (before ++ separator :: after) = some (before, after) := by
  induction before with
  | nil => simp [splitFirst?_cons]
  | cons c rest ih =>
    simp only [List.mem_cons, not_or] at h
    simp [splitFirst?_cons, Ne.symm h.1, ih h.2]

theorem splitFirst?_eq_none {separator : Char} {cs : List Char} :
    splitFirst? separator cs = none ↔ separator ∉ cs := by
  induction cs with
  | nil => simp [splitFirst?]
  | cons c rest ih =>
    by_cases h : c = separator
    · simp [splitFirst?_cons, h]
    · simp [splitFirst?_cons, h, ih, Ne.symm h]

end ClaimCheck.Text
