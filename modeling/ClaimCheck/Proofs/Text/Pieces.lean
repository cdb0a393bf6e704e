import Mathlib
import ClaimCheck.Text.Blank
import ClaimCheck.Text.Split

/-!
# Pieces of text

A text that is cut at every separator is the join of its pieces, and pieces without a separator are
cut again where they were joined (`join_pieces`, `pieces_join`).  A text that is cut at the first
marker gives back what was put on both sides of it, as long as the character that opens the marker
does not stand before it (`splitAt?_append`).

Trimming leaves a text up to a character that is not trimmed as it would be without what follows
(`trimBy_append`).
-/

namespace ClaimCheck.Text

variable {cs : List Char}

/-! ## Kinds of characters -/

/-- A character of a kind is no character that is not of it. -/
lemma ne_of_holds {p : Char → Bool} {c mark : Char} (hc : p c = true) (hmark : p mark = false) :
    c ≠ mark := by
  rintro rfl
  rw [hc] at hmark
  cases hmark

/-- A character that is not of a kind does not stand in a text of that kind. -/
lemma notMem_of_holds {p : Char → Bool} {mark : Char} (h : ∀ c ∈ cs, p c = true)
    (hmark : p mark = false) : mark ∉ cs :=
  fun hmem => ne_of_holds (h mark hmem) hmark rfl

/-! ## All separators -/

/-- There is always a piece. -/
lemma pieces_ne_nil (separator : Char) (cs : List Char) : pieces separator cs ≠ [] := by
  unfold pieces piecesBy
  cases cs with
  | nil => simp
  | cons c cs =>
    rw [List.foldr_cons]
    split
    · simp
    · generalize cs.foldr _ _ = others
      cases others <;> simp [consFirst]

/-- The first character is a separator or belongs to the first piece. -/
lemma pieces_cons (separator c : Char) (cs : List Char) : pieces separator (c :: cs) =
    if c == separator then [] :: pieces separator cs else consFirst c (pieces separator cs) := rfl

/-- Joining the pieces gives the text. -/
lemma join_pieces (separator : Char) (cs : List Char) : join separator (pieces separator cs) = cs := by
  induction cs with
  | nil => rfl
  | cons c cs ih =>
    rw [pieces_cons]
    cases hpieces : pieces separator cs with
    | nil => exact absurd hpieces (pieces_ne_nil separator cs)
    | cons piece rest =>
      rw [hpieces] at ih
      split
      · next hc =>
        rw [← ih, beq_iff_eq.mp hc]
        rfl
      · rw [← ih]
        rfl

/-- The pieces between separators have none. -/
lemma not_mem_of_mem_pieces {separator : Char} {piece : List Char}
    (h : piece ∈ pieces separator cs) : separator ∉ piece := by
  induction cs generalizing piece with
  | nil =>
    rw [List.mem_singleton.mp h]
    exact List.not_mem_nil
  | cons c cs ih =>
    rw [pieces_cons] at h
    split at h
    · rcases List.mem_cons.mp h with rfl | h
      · exact List.not_mem_nil
      · exact ih h
    · next hc =>
      have hne : separator ≠ c := fun heq => hc (beq_iff_eq.mpr heq.symm)
      cases hpieces : pieces separator cs with
      | nil => exact absurd hpieces (pieces_ne_nil separator cs)
      | cons first others =>
        rw [hpieces, consFirst] at h
        rw [hpieces] at ih
        rcases List.mem_cons.mp h with rfl | h
        · exact fun hmem => (List.mem_cons.mp hmem).elim hne (ih List.mem_cons_self)
        · exact ih (List.mem_cons_of_mem _ h)

/-- The first piece ends at the first separator. -/
lemma pieces_append {separator : Char} {piece : List Char} (h : separator ∉ piece)
    (rest : List Char) :
    pieces separator (piece ++ separator :: rest) = piece :: pieces separator rest := by
  induction piece with
  | nil => rw [List.nil_append, pieces_cons, if_pos (beq_self_eq_true separator)]
  | cons c piece ih =>
    rw [List.mem_cons, not_or] at h
    obtain ⟨hc, hpiece⟩ := h
    rw [List.cons_append, pieces_cons, if_neg (by simpa using Ne.symm hc), ih hpiece]
    rfl

/-- A text without a separator is one piece. -/
lemma pieces_of_not_mem {separator : Char} {piece : List Char} (h : separator ∉ piece) :
    pieces separator piece = [piece] := by
  induction piece with
  | nil => rfl
  | cons c piece ih =>
    rw [List.mem_cons, not_or] at h
    obtain ⟨hc, hpiece⟩ := h
    rw [pieces_cons, if_neg (by simpa using Ne.symm hc), ih hpiece]
    rfl

/-- Pieces that were joined are cut again where they were joined. -/
lemma pieces_join {separator : Char} {parts : List (List Char)} (hne : parts ≠ [])
    (h : ∀ piece ∈ parts, separator ∉ piece) : pieces separator (join separator parts) = parts := by
  induction parts with
  | nil => exact absurd rfl hne
  | cons piece rest ih =>
    obtain ⟨hpiece, hrest⟩ := List.forall_mem_cons.mp h
    cases rest with
    | nil =>
      rw [join, List.flatMap_nil, List.append_nil]
      exact pieces_of_not_mem hpiece
    | cons next rest =>
      have hjoin : join separator (piece :: next :: rest) =
          piece ++ separator :: join separator (next :: rest) := by simp [join]
      rw [hjoin, pieces_append hpiece, ih (List.cons_ne_nil _ _) hrest]

/-- A separator in front of joined pieces stands in front of each of them. -/
lemma cons_join {separator : Char} {parts : List (List Char)} (hne : parts ≠ []) :
    separator :: join separator parts = parts.flatMap (separator :: ·) := by
  obtain ⟨piece, rest, rfl⟩ := List.exists_cons_of_ne_nil hne
  rw [join, List.flatMap_cons, List.cons_append]

/-- What stands in a piece stands in the text. -/
lemma mem_of_mem_pieces {separator c : Char} {piece : List Char}
    (hpiece : piece ∈ pieces separator cs) (hc : c ∈ piece) : c ∈ cs := by
  have hjoined : ∀ parts : List (List Char), piece ∈ parts → c ∈ join separator parts := by
    intro parts hparts
    cases parts with
    | nil => exact absurd hparts List.not_mem_nil
    | cons first rest =>
      rw [join, List.mem_append]
      rcases List.mem_cons.mp hparts with rfl | hrest
      · exact .inl hc
      · exact .inr (List.mem_flatMap.mpr ⟨piece, hrest, List.mem_cons_of_mem _ hc⟩)
  rw [← join_pieces separator cs]
  exact hjoined _ hpiece

/-- What stands in joined pieces stands in a piece or is the separator. -/
lemma mem_join {separator c : Char} {parts : List (List Char)} (h : c ∈ join separator parts) :
    c = separator ∨ ∃ part ∈ parts, c ∈ part := by
  cases parts with
  | nil => exact absurd h List.not_mem_nil
  | cons first rest =>
    rw [join, List.mem_append, List.mem_flatMap] at h
    rcases h with hfirst | ⟨part, hpart, hc⟩
    · exact .inr ⟨first, List.mem_cons_self, hfirst⟩
    · rcases List.mem_cons.mp hc with heq | hc
      · exact .inl heq
      · exact .inr ⟨part, List.mem_cons_of_mem _ hpart, hc⟩

/-- Cutting at more characters makes no difference to a text that has none of the others. -/
lemma piecesBy_congr {cut cut' : Char → Bool} (h : ∀ c ∈ cs, cut c = cut' c) :
    piecesBy cut cs = piecesBy cut' cs := by
  induction cs with
  | nil => rfl
  | cons c cs ih =>
    obtain ⟨hc, hcs⟩ := List.forall_mem_cons.mp h
    have hrest : piecesBy cut cs = piecesBy cut' cs := ih hcs
    unfold piecesBy at hrest ⊢
    rw [List.foldr_cons, List.foldr_cons, hc, hrest]

/-! ## The first marker -/

/-- A text starts with what can be dropped from it. -/
lemma dropPrefix?_eq_some_iff {start rest : List Char} :
    dropPrefix? start cs = some rest ↔ cs = start ++ rest := by
  induction start generalizing cs with
  | nil => rw [dropPrefix?, Option.some_inj, List.nil_append]
  | cons a start ih =>
    cases cs with
    | nil => exact iff_of_false (fun h => by cases h) (List.cons_ne_nil _ _).symm
    | cons c cs =>
      rw [dropPrefix?, List.cons_append, List.cons_eq_cons]
      split
      · next hac => rw [ih, and_iff_right hac.symm]
      · next hac => exact iff_of_false (fun h => by cases h) fun h => hac h.1.symm

/-- Nothing is dropped from a text without a character of the start. -/
lemma dropPrefix?_eq_none {start : List Char} {a : Char} (ha : a ∈ start) (hcs : a ∉ cs) :
    dropPrefix? start cs = none := by
  rw [Option.eq_none_iff_forall_ne_some]
  intro rest hrest
  rw [dropPrefix?_eq_some_iff] at hrest
  exact hcs (hrest ▸ List.mem_append_left rest ha)

/-- A text is cut at the first marker if the character that opens it does not stand before. -/
lemma splitAt?_append {a : Char} {marker before : List Char} (h : a ∉ before) (after : List Char) :
    splitAt? (a :: marker) (before ++ a :: marker ++ after) = some (before, after) := by
  have hpassed : ∀ passed, splitAtFrom? (a :: marker) passed (before ++ (a :: marker ++ after)) =
      some (passed.reverse ++ before, after) := by
    induction before with
    | nil =>
      intro passed
      have hdrop : dropPrefix? (a :: marker) (a :: marker ++ after) = some after :=
        dropPrefix?_eq_some_iff.mpr rfl
      rw [List.nil_append, List.cons_append, splitAtFrom?, ← List.cons_append, hdrop,
        List.append_nil]
    | cons c before ih =>
      intro passed
      rw [List.mem_cons, not_or] at h
      have hdrop : dropPrefix? (a :: marker) (c :: (before ++ (a :: marker ++ after))) = none := by
        rw [dropPrefix?, if_neg h.1]
      rw [List.cons_append, splitAtFrom?, hdrop]
      dsimp only
      rw [ih h.2, List.reverse_cons, List.append_assoc, List.singleton_append]
  rw [splitAt?, List.append_assoc, hpassed, List.reverse_nil, List.nil_append]

/-! ## Taking and dropping up to a stop -/

/-- What a taking stops at is not taken, and nor is what follows. -/
lemma takeWhile_append_of_stop {p : Char → Bool} {mark : Char} (hstop : p mark = false)
    (rest : List Char) :
    (cs ++ mark :: rest).takeWhile p = cs.takeWhile p := by
  induction cs with
  | nil =>
    rw [List.nil_append, List.takeWhile_cons_of_neg (Bool.eq_false_iff.mp hstop),
      List.takeWhile_nil]
  | cons c cs ih =>
    rw [List.cons_append, List.takeWhile_cons, List.takeWhile_cons, ih]

/-- What a dropping stops at stays, and so does what follows. -/
lemma dropWhile_append_of_stop {p : Char → Bool} {mark : Char} (hstop : p mark = false)
    (rest : List Char) :
    (cs ++ mark :: rest).dropWhile p = cs.dropWhile p ++ mark :: rest := by
  induction cs with
  | nil =>
    rw [List.nil_append, List.dropWhile_cons_of_neg (Bool.eq_false_iff.mp hstop)]
    rfl
  | cons c cs ih =>
    rw [List.cons_append, List.dropWhile_cons, List.dropWhile_cons]
    split
    · exact ih
    · rfl

/-- Trimming leaves a text as it is in which there is nothing to trim. -/
lemma trimBy_of_forall_not {drop : Char → Bool} (h : ∀ c ∈ cs, drop c = false) :
    trimBy drop cs = cs := by
  have hself : ∀ l : List Char, (∀ c ∈ l, drop c = false) → l.dropWhile drop = l := by
    intro l hl
    refine List.dropWhile_eq_self_iff.mpr fun hlength => ?_
    rw [hl _ (List.getElem_mem hlength)]
    exact Bool.false_ne_true
  rw [trimBy, hself cs h, hself cs.reverse fun c hc => h c (List.mem_reverse.mp hc),
    List.reverse_reverse]

/-- Trimming leaves what stands before a character that is not trimmed, if it does not end in one
that is. -/
lemma trimBy_append {drop : Char → Bool} {mark : Char} (hmark : drop mark = false)
    (hend : ∀ c, cs.getLast? = some c → drop c = false) (rest : List Char) :
    ∃ left, trimBy drop (cs ++ mark :: rest) = trimBy drop cs ++ mark :: left := by
  have hfront : (cs ++ mark :: rest).dropWhile drop = cs.dropWhile drop ++ mark :: rest :=
    dropWhile_append_of_stop hmark rest
  have hsplit : cs.takeWhile drop ++ cs.dropWhile drop = cs := List.takeWhile_append_dropWhile
  unfold trimBy
  rw [hfront]
  generalize cs.dropWhile drop = kept at hsplit ⊢
  have hback : (kept ++ mark :: rest).reverse.dropWhile drop =
      rest.reverse.dropWhile drop ++ mark :: kept.reverse := by
    rw [List.reverse_append, List.reverse_cons, List.append_assoc, List.singleton_append,
      dropWhile_append_of_stop hmark]
  have hkept : kept.reverse.dropWhile drop = kept.reverse := by
    rcases List.eq_nil_or_concat kept with rfl | ⟨before, last, rfl⟩
    · rfl
    · have hlast : cs.getLast? = some last := by
        rw [← hsplit, List.concat_eq_append, ← List.append_assoc, List.getLast?_concat]
      rw [List.concat_eq_append, List.reverse_concat,
        List.dropWhile_cons_of_neg (Bool.eq_false_iff.mp (hend last hlast))]
  refine ⟨(rest.reverse.dropWhile drop).reverse, ?_⟩
  rw [hback, hkept, List.reverse_append, List.reverse_cons, List.reverse_reverse, List.append_assoc,
    List.singleton_append]

end ClaimCheck.Text
