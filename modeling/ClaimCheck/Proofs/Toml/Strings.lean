import Mathlib
import ClaimCheck.Toml.Printer
import ClaimCheck.Toml.Text

/-!
# Strings of settings

A text is written in one of four forms of string, and each form reads back as the text
(`readString_stringChars`), whatever characters it has: between apostrophes everything stands as it
is (`readLiteralFrom_append`, `readLiteralLinesFrom_append`), and between quotation marks each
character is written so that the reader takes it as that character (`readBasicFrom_quotedChar`,
`readLinesFrom_quotedChar`).

Over lines, up to two marks in a row stand for themselves.  A reader that comes upon a mark counts the
ones that follow, and takes three or more for the end.  So what has to be known at each mark is that
the text goes on after at most two, or ends there (`countMarks_quoted`, `countMarks_literal`).
-/

namespace ClaimCheck.Toml

open ClaimCheck.Text

/-! ## Characters -/

/-- A character that needs no escape and is no line end may stand by itself. -/
lemma isPlain_of_not_needsEscape {c : Char} (hescape : needsEscape c = false) (hline : c ≠ '\n') :
    isPlain c = true := by
  unfold needsEscape at hescape
  unfold isPlain
  simp only [Bool.or_eq_false_iff, Bool.and_eq_false_iff, decide_eq_false_iff_not, bne_eq_false_iff_eq,
    beq_eq_false_iff_ne] at hescape
  obtain ⟨hlow, hdelete⟩ := hescape
  rcases hlow with (hlow | htab) | hnewline
  · simp [hdelete]; omega
  · simp [htab]
  · exact absurd hnewline hline

/-- The marks that a text starts with when there is no other in front. -/
lemma countMarks_cons_of_ne {mark c : Char} (h : c ≠ mark) (cs : List Char) :
    countMarks mark (c :: cs) = 0 := by
  unfold countMarks
  rw [List.takeWhile_cons_of_neg (by simpa using h)]
  rfl

/-- One more mark in front. -/
lemma countMarks_cons_self (mark : Char) (cs : List Char) :
    countMarks mark (mark :: cs) = countMarks mark cs + 1 := by
  unfold countMarks
  rw [List.takeWhile_cons_of_pos (by simp)]
  rfl

/-! ## How characters are shown -/

/-- How a character stands between quotation marks, so many of them being before it: as an escape that
stands for it, as itself, or, over lines, as a line end or as a mark after at most one other. -/
inductive IsShown (overLines : Bool) (marks : Nat) (c : Char) : List Char → Prop
  | escape {first : Char} {more : List Char}
    (hread : ∀ rest, readEscape (first :: (more ++ rest)) = some (c, more.length + 1))
    (hfirst : isBlank first = false ∧ first ≠ '\n' ∧ first ≠ '\r') :
    IsShown overLines marks c ('\\' :: first :: more)
  | plain (hplain : isPlain c = true) (hmark : c ≠ '"') (hslash : c ≠ '\\') :
    IsShown overLines marks c [c]
  | line (hover : overLines = true) (hc : c = '\n') : IsShown overLines marks c ['\n']
  | mark (hover : overLines = true) (hmarks : marks < 2) (hc : c = '"') :
    IsShown overLines marks c ['"']

/-- A letter after a backslash. -/
lemma isShown_simple {overLines : Bool} {marks : Nat} {letter c : Char}
    (hletter : letter ≠ 'u' ∧ letter ≠ 'U') (h : simpleEscape? letter = some c)
    (hfirst : isBlank letter = false ∧ letter ≠ '\n' ∧ letter ≠ '\r') :
    IsShown overLines marks c ['\\', letter] := by
  refine .escape (fun rest => ?_) hfirst
  rw [List.nil_append, readEscape, h]
  · rfl
  · exact fun heq => hletter.1 heq
  · exact fun heq => hletter.2 heq

/-- The four digits that are written for a character of the first half of a byte. -/
lemma fixedHex_upper {n : Nat} (h : n < 0x80) :
    (fixedHex upperHexDigit 4 n).length = 4 ∧
      hexValueOf? (fixedHex upperHexDigit 4 n) = some n := by
  have hall : ∀ n < 0x80, (fixedHex upperHexDigit 4 n).length = 4 ∧
      hexValueOf? (fixedHex upperHexDigit 4 n) = some n := by decide +kernel
  exact hall n h

/-- Four digits after a backslash and a letter. -/
lemma isShown_numbered {overLines : Bool} {marks : Nat} {c : Char} (h : c.toNat < 0x80) :
    IsShown overLines marks c ('\\' :: 'u' :: fixedHex upperHexDigit 4 c.toNat) := by
  obtain ⟨hlength, hvalue⟩ := fixedHex_upper h
  refine .escape (fun rest => ?_) (by decide)
  have htake : (fixedHex upperHexDigit 4 c.toNat ++ rest).take 4 =
      fixedHex upperHexDigit 4 c.toNat := by
    rw [List.take_append_of_le_length (by rw [hlength]), List.take_of_length_le (by rw [hlength])]
  have hnumber : readNumbered 4 (fixedHex upperHexDigit 4 c.toNat ++ rest) = some c := by
    unfold readNumbered
    have hvalid : c.toNat.isValidChar := c.valid
    simp only [htake, hlength, hvalue]
    rw [if_neg (by decide), if_pos hvalid, Char.ofNat_toNat]
  rw [readEscape, hnumber, hlength]
  rfl

/-- Every character is shown in one of these ways. -/
lemma isShown_quotedChar (overLines : Bool) (marks : Nat) (c : Char) :
    IsShown overLines marks c (quotedChar overLines marks c) := by
  unfold quotedChar
  split
  · next h =>
    obtain rfl : c = '\x08' := Char.toNat_inj.mp h
    exact isShown_simple (by decide) (by decide) (by decide)
  split
  · next h =>
    subst h
    exact isShown_simple (by decide) (by decide) (by decide)
  split
  · next h =>
    subst h
    cases overLines with
    | true => exact .line rfl rfl
    | false => exact isShown_simple (by decide) (by decide) (by decide)
  split
  · next h =>
    obtain rfl : c = '\x0c' := Char.toNat_inj.mp h
    exact isShown_simple (by decide) (by decide) (by decide)
  split
  · next h =>
    subst h
    exact isShown_simple (by decide) (by decide) (by decide)
  split
  · next h =>
    subst h
    split
    · next hmarks =>
      simp only [Bool.and_eq_true, decide_eq_true_eq] at hmarks
      exact .mark hmarks.1 hmarks.2 rfl
    · exact isShown_simple (by decide) (by decide) (by decide)
  split
  · next h =>
    subst h
    exact isShown_simple (by decide) (by decide) (by decide)
  split
  · next h => exact isShown_numbered (by omega)
  · next hmark hslash hcontrol =>
    refine .plain ?_ hmark hslash
    unfold isPlain
    simp
    omega

/-- The characters that were written before stand in front. -/
lemma quotedFrom_eq_append (overLines : Bool) (marks : Nat) (written cs : List Char) :
    quotedFrom overLines marks written cs = written.reverse ++ quotedFrom overLines marks [] cs := by
  induction cs generalizing marks written with
  | nil => exact (List.append_nil _).symm
  | cons c cs ih =>
    rw [quotedFrom, ih, quotedFrom, ih _ ((quotedChar overLines marks c).reverse ++ [])]
    simp

/-- A text is shown character by character. -/
lemma quotedFrom_cons (overLines : Bool) (marks : Nat) (c : Char) (cs : List Char) :
    quotedFrom overLines marks [] (c :: cs) = quotedChar overLines marks c ++
      quotedFrom overLines (if quotedChar overLines marks c = ['"'] then marks + 1 else 0) [] cs := by
  rw [quotedFrom, quotedFrom_eq_append]
  simp

/-! ## On one line -/

/-- The characters of an escape that was read already are passed. -/
lemma readBasicFrom_append (passed before rest : List Char) :
    readBasicFrom passed.length before (passed ++ rest) = readBasicFrom 0 before rest := by
  induction passed with
  | nil => rfl
  | cons c passed ih => rw [List.length_cons, List.cons_append, readBasicFrom, ih]

/-- A character reads back from the way it is shown on one line. -/
lemma readBasicFrom_shown {marks : Nat} {c : Char} {shown : List Char}
    (h : IsShown false marks c shown) (before rest : List Char) :
    readBasicFrom 0 before (shown ++ rest) = readBasicFrom 0 (c :: before) rest := by
  cases h with
  | @escape first more hread _ =>
    rw [List.cons_append, readBasicFrom, if_neg (by decide), if_pos rfl, List.cons_append, hread]
    exact readBasicFrom_append (first :: more) (c :: before) rest
  | plain hplain hmark hslash =>
    rw [List.singleton_append, readBasicFrom, if_neg hmark, if_neg hslash, if_pos hplain]
  | line hover => cases hover
  | mark hover => cases hover

/-- A text reads back from its characters between quotation marks. -/
lemma readBasicFrom_quoted (marks : Nat) (before cs rest : List Char) :
    readBasicFrom 0 before (quotedFrom false marks [] cs ++ '"' :: rest) =
      some (before.reverse ++ cs, rest) := by
  induction cs generalizing marks before with
  | nil =>
    change readBasicFrom 0 before ('"' :: rest) = _
    rw [readBasicFrom, if_pos rfl, List.append_nil]
  | cons c cs ih =>
    rw [quotedFrom_cons, List.append_assoc, readBasicFrom_shown (isShown_quotedChar false marks c), ih,
      List.reverse_cons, List.append_assoc, List.singleton_append]

/-- A text without apostrophes and line ends reads back from its characters between apostrophes. -/
lemma readLiteralFrom_append {cs : List Char} (hplain : ∀ c ∈ cs, isPlain c = true ∧ c ≠ '\'')
    (before rest : List Char) :
    readLiteralFrom before (cs ++ '\'' :: rest) = some (before.reverse ++ cs, rest) := by
  induction cs generalizing before with
  | nil => rw [List.nil_append, readLiteralFrom, if_pos rfl, List.append_nil]
  | cons c cs ih =>
    obtain ⟨hc, hmark⟩ := hplain c List.mem_cons_self
    rw [List.cons_append, readLiteralFrom, if_neg hmark, if_pos hc,
      ih fun d hd => hplain d (List.mem_cons_of_mem _ hd), List.reverse_cons, List.append_assoc,
      List.singleton_append]

/-! ## Over lines -/

/-- A string over lines ends at three marks, and up to two before these belong to it. -/
lemma endOfLines_replicate {mark : Char} {marks : Nat} (h : marks ≤ 2) (before rest : List Char) :
    endOfLines mark (marks + 3) before (List.replicate (marks + 2) mark ++ rest) =
      some (before.reverse ++ List.replicate marks mark, rest) := by
  unfold endOfLines
  rw [if_pos (by omega), Nat.add_sub_cancel, List.reverse_append, List.reverse_replicate]
  have hlength : (List.replicate (marks + 2) mark).length = marks + 3 - 1 := by simp
  rw [List.drop_append_of_le_length (by omega), List.drop_of_length_le (by omega), List.nil_append]

/-- Marks and the three that close a string are counted together. -/
lemma countMarks_replicate {mark : Char} {rest : List Char} (hrest : rest.head? ≠ some mark)
    (marks : Nat) : countMarks mark (List.replicate marks mark ++ rest) = marks := by
  induction marks with
  | zero =>
    cases rest with
    | nil => rfl
    | cons c rest => exact countMarks_cons_of_ne (fun h => hrest (congrArg some h)) rest
  | succ marks ih => rw [List.replicate_succ, List.cons_append, countMarks_cons_self, ih]

/-- After at most two marks a text that is shown goes on with marks until there are two, and it ends
there or something else follows. -/
lemma countMarks_quoted {marks : Nat} (h : marks ≤ 2) (cs : List Char) :
    (∃ more, more + marks ≤ 2 ∧ cs = List.replicate more '"' ∧
      quotedFrom true marks [] cs = List.replicate more '"') ∨
    ∀ tail, countMarks '"' (quotedFrom true marks [] cs ++ tail) + marks ≤ 2 := by
  induction cs generalizing marks with
  | nil => exact .inl ⟨0, by omega, rfl, rfl⟩
  | cons c cs ih =>
    rw [quotedFrom_cons]
    have hshown := isShown_quotedChar true marks c
    generalize quotedChar true marks c = shown at hshown
    cases hshown with
    | escape =>
      refine .inr fun tail => ?_
      rw [List.append_assoc, List.cons_append, countMarks_cons_of_ne (by decide)]
      omega
    | plain _ hmark _ =>
      refine .inr fun tail => ?_
      rw [List.append_assoc, List.cons_append, countMarks_cons_of_ne hmark]
      omega
    | line =>
      refine .inr fun tail => ?_
      rw [List.append_assoc, List.cons_append, countMarks_cons_of_ne (by decide)]
      omega
    | mark _ hmarks hc =>
      subst hc
      rw [if_pos rfl]
      have hnext : marks + 1 ≤ 2 := hmarks
      rcases ih hnext with ⟨more, hmore, hcs, hquoted⟩ | hcount
      · refine .inl ⟨more + 1, by omega, ?_, ?_⟩
        · rw [List.replicate_succ, hcs]
        · rw [List.replicate_succ, hquoted, List.singleton_append]
      · refine .inr fun tail => ?_
        have := hcount tail
        rw [List.append_assoc, List.singleton_append, countMarks_cons_self]
        omega

/-- The characters of an escape that was read already are passed. -/
lemma readLinesFrom_append (passed before rest : List Char) :
    readLinesFrom passed.length before (passed ++ rest) = readLinesFrom 0 before rest := by
  induction passed with
  | nil => rfl
  | cons c passed ih => rw [List.length_cons, List.cons_append, readLinesFrom, ih]

/-- A backslash before anything but the end of its line takes nothing away. -/
lemma foldedLength?_eq_none {first : Char}
    (hfirst : isBlank first = false ∧ first ≠ '\n' ∧ first ≠ '\r') (rest : List Char) :
    foldedLength? (first :: rest) = none := by
  obtain ⟨hblank, hline, hreturn⟩ := hfirst
  unfold foldedLength?
  rw [List.takeWhile_cons_of_neg (by simp [hblank])]
  change Option.map _ (dropNewline? (first :: rest)) = none
  unfold dropNewline?
  split
  · next heq =>
    cases heq
    exact absurd rfl hline
  · next heq =>
    cases heq
    exact absurd rfl hreturn
  · rfl

/-- A character that is no mark reads back from the way it is shown over lines. -/
lemma readLinesFrom_shown {marks : Nat} {c : Char} {shown : List Char}
    (h : IsShown true marks c shown) (hshown : shown ≠ ['"']) (before rest : List Char) :
    readLinesFrom 0 before (shown ++ rest) = readLinesFrom 0 (c :: before) rest := by
  cases h with
  | @escape first more hread hfirst =>
    rw [List.cons_append, readLinesFrom, if_neg (by decide), if_pos rfl, List.cons_append,
      foldedLength?_eq_none hfirst, hread]
    exact readLinesFrom_append (first :: more) (c :: before) rest
  | plain hplain hmark hslash =>
    rw [List.singleton_append, readLinesFrom, if_neg hmark, if_neg hslash, if_pos (.inr hplain)]
  | line _ hc =>
    subst hc
    rw [List.singleton_append, readLinesFrom, if_neg (by decide), if_neg (by decide),
      if_pos (.inl rfl)]
  | mark => exact absurd rfl hshown

/-- Marks at the end of a string over lines. -/
lemma readLinesFrom_replicate {rest : List Char} (hrest : rest.head? ≠ some '"') {marks : Nat}
    (h : marks ≤ 2) (before : List Char) :
    readLinesFrom 0 before (List.replicate (marks + 3) '"' ++ rest) =
      some (before.reverse ++ List.replicate marks '"', rest) := by
  have hcount := countMarks_replicate hrest (marks + 3)
  rw [List.replicate_succ, List.cons_append] at hcount ⊢
  rw [readLinesFrom, if_pos rfl]
  simp only [hcount]
  rw [if_pos (by omega)]
  exact endOfLines_replicate h before rest

/-- A text reads back from its characters between three quotation marks on either side. -/
lemma readLinesFrom_quoted {rest : List Char} (hrest : rest.head? ≠ some '"') {marks : Nat}
    (h : marks ≤ 2) (before cs : List Char) :
    readLinesFrom 0 before (quotedFrom true marks [] cs ++ (List.replicate 3 '"' ++ rest)) =
      some (before.reverse ++ cs, rest) := by
  induction cs generalizing marks before with
  | nil => exact readLinesFrom_replicate hrest (by decide) before
  | cons c cs ih =>
    by_cases hmark : quotedChar true marks c = ['"']
    · rcases countMarks_quoted h (c :: cs) with ⟨more, hmore, hcs, hquoted⟩ | hcount
      · rw [hquoted, hcs, ← List.append_assoc, ← List.replicate_add]
        exact readLinesFrom_replicate hrest (by omega) before
      · have hshown := isShown_quotedChar true marks c
        rw [quotedFrom_cons, hmark, if_pos rfl] at hcount ⊢
        rw [hmark] at hshown
        have hfew := hcount (List.replicate 3 '"' ++ rest)
        obtain ⟨hmarks, rfl⟩ : marks < 2 ∧ c = '"' := by
          cases hshown with
          | plain _ hne _ => exact absurd rfl hne
          | mark _ hmarks hc => exact ⟨hmarks, hc⟩
        rw [List.append_assoc, List.singleton_append] at hfew ⊢
        rw [readLinesFrom, if_pos rfl]
        simp only
        rw [if_neg (by omega), ih (by omega), List.reverse_cons, List.append_assoc,
          List.singleton_append]
    · rw [quotedFrom_cons, if_neg hmark, List.append_assoc,
        readLinesFrom_shown (isShown_quotedChar true marks c) hmark, ih (by omega), List.reverse_cons,
        List.append_assoc, List.singleton_append]

/-- Apostrophes at the end of a string over lines. -/
lemma readLiteralLinesFrom_replicate {rest : List Char} (hrest : rest.head? ≠ some '\'') {marks : Nat}
    (h : marks ≤ 2) (before : List Char) :
    readLiteralLinesFrom before (List.replicate (marks + 3) '\'' ++ rest) =
      some (before.reverse ++ List.replicate marks '\'', rest) := by
  have hcount := countMarks_replicate hrest (marks + 3)
  rw [List.replicate_succ, List.cons_append] at hcount ⊢
  rw [readLiteralLinesFrom, hcount, if_pos ⟨rfl, by omega⟩]
  exact endOfLines_replicate h before rest

/-- A text whose runs of a mark are short, some marks before it counted, ends after the first marks, or
something else follows them. -/
lemma countMarks_literal {mark : Char} {marks : Nat} {cs : List Char}
    (h : longestRun mark marks cs ≤ 2) :
    (∃ more, more + marks ≤ 2 ∧ cs = List.replicate more mark) ∨
      ∀ tail, countMarks mark (cs ++ tail) + marks ≤ 2 := by
  induction cs generalizing marks with
  | nil =>
    rw [longestRun] at h
    exact .inl ⟨0, by omega, rfl⟩
  | cons c cs ih =>
    rw [longestRun] at h
    split at h
    · next hc =>
      subst hc
      rcases ih h with ⟨more, hmore, hcs⟩ | hcount
      · exact .inl ⟨more + 1, by omega, by rw [List.replicate_succ, hcs]⟩
      · refine .inr fun tail => ?_
        have := hcount tail
        rw [List.cons_append, countMarks_cons_self]
        omega
    · next hc =>
      refine .inr fun tail => ?_
      rw [List.cons_append, countMarks_cons_of_ne hc]
      omega

/-- A text with short runs of apostrophes reads back from its characters between three apostrophes on
either side. -/
lemma readLiteralLinesFrom_append {rest : List Char} (hrest : rest.head? ≠ some '\'') {marks : Nat}
    {cs : List Char} (hplain : ∀ c ∈ cs, c = '\n' ∨ isPlain c = true)
    (hruns : longestRun '\'' marks cs ≤ 2) (before : List Char) :
    readLiteralLinesFrom before (cs ++ (List.replicate 3 '\'' ++ rest)) =
      some (before.reverse ++ cs, rest) := by
  induction cs generalizing marks before with
  | nil => exact readLiteralLinesFrom_replicate hrest (by decide) before
  | cons c cs ih =>
    have hrest' := fun d hd => hplain d (List.mem_cons_of_mem c hd)
    have hc := hplain c List.mem_cons_self
    rcases countMarks_literal hruns with ⟨more, hmore, hcs⟩ | hcount
    · rw [hcs, ← List.append_assoc, ← List.replicate_add]
      exact readLiteralLinesFrom_replicate hrest (by omega) before
    · have hfew := hcount (List.replicate 3 '\'' ++ rest)
      have hgoesOn : ¬ (c = '\'' ∧ 3 ≤ countMarks '\''
          (c :: (cs ++ (List.replicate 3 '\'' ++ rest)))) := by
        rintro ⟨-, hmany⟩
        rw [List.cons_append] at hfew
        omega
      rw [longestRun] at hruns
      rw [List.cons_append, readLiteralLinesFrom, if_neg hgoesOn, if_pos hc]
      split at hruns
      · rw [ih hrest' hruns, List.reverse_cons, List.append_assoc, List.singleton_append]
      · rw [ih hrest' (Nat.le_trans (Nat.le_max_right ..) hruns), List.reverse_cons,
          List.append_assoc, List.singleton_append]

/-! ## Strings of any form -/

/-- A character that may stand by itself begins no line end. -/
lemma ne_of_isPlain {c : Char} (h : isPlain c = true) : c ≠ '\n' ∧ c ≠ '\r' := by
  constructor
  · rintro rfl
    exact absurd h (by decide)
  · rintro rfl
    exact absurd h (by decide)

/-- Nothing is dropped from a text that begins with no line end. -/
lemma dropNewline_cons {c : Char} (hc : c ≠ '\n' ∧ c ≠ '\r') (cs : List Char) :
    dropNewline (c :: cs) = c :: cs := by
  have hnone : dropNewline? (c :: cs) = none := by
    unfold dropNewline?
    split
    · next heq =>
      cases heq
      exact absurd rfl hc.1
    · next heq =>
      cases heq
      exact absurd rfl hc.2
    · rfl
  unfold dropNewline
  rw [hnone]
  rfl

/-- The line end after the first marks is dropped, and without one nothing is. -/
lemma dropNewline_opening {cs body : List Char}
    (hbody : '\n' ∉ cs → dropNewline body = body) :
    dropNewline ((if cs.contains '\n' then ['\n'] else []) ++ body) = body := by
  split
  · rfl
  · next h => exact hbody (by simpa using h)

variable {cs rest : List Char}

/-- A quoted string on one line is read as such. -/
lemma readString_basic (hrest : rest.head? ≠ some '"') :
    readString ('"' :: (quotedFrom false 0 [] cs ++ '"' :: rest)) = some (cs, rest) := by
  have hbody : ∀ more, quotedFrom false 0 [] cs ++ '"' :: rest ≠ '"' :: '"' :: more := by
    intro more heq
    cases cs with
    | nil =>
      obtain rfl := (List.cons.inj heq).2
      exact hrest rfl
    | cons c cs =>
      rw [quotedFrom_cons, List.append_assoc] at heq
      have hshown := isShown_quotedChar false 0 c
      generalize quotedChar false 0 c = shown at hshown heq
      cases hshown with
      | escape => exact absurd (List.cons.inj heq).1 (by decide)
      | plain _ hmark _ => exact hmark (List.cons.inj heq).1
      | line hover => cases hover
      | mark hover => cases hover
  rw [readString, readBasicFrom_quoted]
  · rfl
  · exact hbody

/-- A string between apostrophes on one line is read as such. -/
lemma readString_literal (hrest : rest.head? ≠ some '\'')
    (hplain : ∀ c ∈ cs, isPlain c = true ∧ c ≠ '\'') :
    readString ('\'' :: (cs ++ '\'' :: rest)) = some (cs, rest) := by
  have hbody : ∀ more, cs ++ '\'' :: rest ≠ '\'' :: '\'' :: more := by
    intro more heq
    cases cs with
    | nil =>
      obtain rfl := (List.cons.inj heq).2
      exact hrest rfl
    | cons c cs => exact (hplain c List.mem_cons_self).2 (List.cons.inj heq).1
  rw [readString, readLiteralFrom_append hplain]
  · rfl
  · exact hbody

/-- A quoted string over lines is read as such. -/
lemma readString_lines (hrest : rest.head? ≠ some '"') :
    readString ('"' :: '"' :: '"' :: ((if cs.contains '\n' then ['\n'] else []) ++
      (quotedFrom true 0 [] cs ++ (List.replicate 3 '"' ++ rest)))) = some (cs, rest) := by
  rw [readString, dropNewline_opening fun hline => ?_, readLinesFrom_quoted hrest (by decide)]
  · rfl
  · cases cs with
    | nil => exact dropNewline_cons (by decide) _
    | cons c cs =>
      rw [quotedFrom_cons, List.append_assoc]
      have hshown := isShown_quotedChar true 0 c
      generalize quotedChar true 0 c = shown at hshown
      cases hshown with
      | escape => exact dropNewline_cons (by decide) _
      | plain hplain _ _ => exact dropNewline_cons (ne_of_isPlain hplain) _
      | line _ hc => exact absurd (hc ▸ List.mem_cons_self) hline
      | mark => exact dropNewline_cons (by decide) _

/-- A string between apostrophes over lines is read as such. -/
lemma readString_literalLines (hrest : rest.head? ≠ some '\'')
    (hplain : ∀ c ∈ cs, c = '\n' ∨ isPlain c = true) (hruns : longestRun '\'' 0 cs ≤ 2) :
    readString ('\'' :: '\'' :: '\'' :: ((if cs.contains '\n' then ['\n'] else []) ++
      (cs ++ (List.replicate 3 '\'' ++ rest)))) = some (cs, rest) := by
  rw [readString, dropNewline_opening fun hline => ?_,
    readLiteralLinesFrom_append hrest hplain hruns]
  · rfl
  · cases cs with
    | nil => exact dropNewline_cons (by decide) _
    | cons c cs =>
      rcases hplain c List.mem_cons_self with hc | hc
      · exact absurd (hc ▸ List.mem_cons_self) hline
      · exact dropNewline_cons (ne_of_isPlain hc) _

/-- A text between apostrophes on one line needs no escape and has neither apostrophes nor line
ends. -/
lemma of_styleOf_literal (h : styleOf cs = .literal) :
    cs.any needsEscape = false ∧ '\'' ∉ cs ∧ '\n' ∉ cs := by
  unfold styleOf at h
  simp only at h
  split at h
  · cases h
  split at h
  · next hliteral => simpa [and_assoc] using hliteral
  · split at h
    · cases h
    split at h
    · cases h
    split at h <;> cases h

/-- A text between apostrophes over lines needs no escape and has short runs of apostrophes only. -/
lemma of_styleOf_literalLines (h : styleOf cs = .literalLines) :
    cs.any needsEscape = false ∧ longestRun '\'' 0 cs ≤ 2 := by
  unfold styleOf at h
  simp only at h
  split at h
  · cases h
  split at h
  · cases h
  split at h
  · cases h
  split at h
  · next hliteral => simpa using hliteral
  · split at h <;> cases h

/-- A text reads back from its string, whatever form is chosen for it. -/
theorem readString_stringChars (hquote : rest.head? ≠ some '"') (hmark : rest.head? ≠ some '\'')
    (cs : List Char) : readString (stringChars cs ++ rest) = some (cs, rest) := by
  have hplain : cs.any needsEscape = false → ∀ c ∈ cs, c = '\n' ∨ isPlain c = true := by
    intro hescapes c hc
    have hescape : needsEscape c = false := by simpa using List.any_eq_false.mp hescapes c hc
    by_cases hline : c = '\n'
    · exact .inl hline
    · exact .inr (isPlain_of_not_needsEscape hescape hline)
  unfold stringChars
  cases hstyle : styleOf cs with
  | basic => simpa using readString_basic hquote
  | literal =>
    obtain ⟨hescapes, hmarks, hlines⟩ := of_styleOf_literal hstyle
    have hliteral : ∀ c ∈ cs, isPlain c = true ∧ c ≠ '\'' := by
      refine fun c hc => ⟨?_, fun heq => hmarks (heq ▸ hc)⟩
      exact (hplain hescapes c hc).resolve_left fun heq => hlines (heq ▸ hc)
    simpa using readString_literal hmark hliteral
  | lines => simpa using readString_lines hquote
  | literalLines =>
    obtain ⟨hescapes, hruns⟩ := of_styleOf_literalLines hstyle
    simpa using readString_literalLines hmark (hplain hescapes) hruns

end ClaimCheck.Toml
