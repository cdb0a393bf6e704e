import ClaimCheck.Unicode.Composition

/-!
# Canonical composition

A text is brought into its composed form in three steps: every character is replaced by its
canonical decomposition, marks that follow one character are put in the order of their combining
classes, and characters are composed again with the marks that can reach them.
-/

namespace ClaimCheck.Unicode

/-! ### Syllables

Hangul syllables are composed by arithmetic from a leading consonant, a vowel and an optional
trailing consonant. -/

/-- The first syllable. -/
def firstSyllable : Nat := 0xAC00

/-- The decomposition of a syllable. -/
def syllableParts? (code : Nat) : Option (List Nat) :=
  if firstSyllable ≤ code ∧ code < firstSyllable + 11172 then
    let index := code - firstSyllable
    let trailing := index % 28
    let parts := [0x1100 + index / 588, 0x1161 + index % 588 / 28]
    some (if trailing = 0 then parts else parts ++ [0x11A7 + trailing])
  else none

/-- The syllable of a leading consonant and a vowel, or of a syllable and a trailing consonant. -/
def syllable? (a b : Nat) : Option Nat :=
  if 0x1100 ≤ a ∧ a < 0x1113 ∧ 0x1161 ≤ b ∧ b < 0x1176 then
    some (firstSyllable + ((a - 0x1100) * 21 + (b - 0x1161)) * 28)
  else if firstSyllable ≤ a ∧ a < firstSyllable + 11172 ∧ (a - firstSyllable) % 28 = 0 ∧
      0x11A7 < b ∧ b < 0x11C3 then
    some (a + (b - 0x11A7))
  else none

/-! ### Decomposition -/

/-- What a code point stands for in one step. -/
def decompositionStep? (code : Nat) : Option (List Nat) :=
  if code < 0xC0 then none
  else
    match syllableParts? code with
    | some parts => some parts
    | none => (composites.image? code).or (decomposedOnly.image? code)

/-- The full decomposition of a code point; no character takes more than `steps` steps. -/
def decompose : (steps : Nat) → Nat → List Nat
  | 0, code => [code]
  | steps + 1, code =>
    match decompositionStep? code with
    | none => [code]
    | some parts => parts.flatMap (decompose steps)

/-! ### Order of marks -/

/-- The combining class of a code point. -/
def combiningClass (code : Nat) : Nat :=
  if code < 0x300 then 0
  else
    match combiningClasses.image? code with
    | some [k] => k
    | _ => 0

/-- Puts a mark behind the ones of a lower or the same class; the last one comes first. -/
def insertMark (mark : Nat × Nat) : List (Nat × Nat) → List (Nat × Nat)
  | [] => [mark]
  | last :: rest =>
    if mark.1 ≠ 0 ∧ mark.1 < last.1 then last :: insertMark mark rest else mark :: last :: rest

/-- Code points with their classes, marks in order. -/
def orderMarks (codes : List Nat) : List (Nat × Nat) :=
  (codes.foldl (fun done code => insertMark (combiningClass code, code) done) []).reverse

/-! ### Composition -/

/-- The character that two compose to. -/
def composePair? (a b : Nat) : Option Nat :=
  match syllable? a b with
  | some code => some code
  | none =>
    if b < 0x300 then none
    else (composites.entries.find? fun entry => entry.2 == .constant [a, b]).map (·.1.first)

/-- The state of composition: what is done, the character that marks may reach and the marks that
were passed, each with the last one first. -/
structure Composing where
  finished : List Nat
  starter : Option Nat
  passed : List (Nat × Nat)

namespace Composing

/-- What is done when the marks that were passed stay as they are. -/
def flush (s : Composing) : List Nat := s.passed.map Prod.snd ++ s.starter.toList ++ s.finished

/-- Takes one more code point of a class.  It reaches the character unless a mark of its class or a
higher one was passed. -/
def step (s : Composing) (next : Nat × Nat) : Composing :=
  let reaches :=
    match s.passed with
    | [] => true
    | last :: _ => last.1 < next.1
  match if reaches then s.starter.bind (composePair? · next.2) else none with
  | some code => { s with starter := some code }
  | none =>
    if next.1 = 0 then ⟨s.flush, some next.2, []⟩ else { s with passed := next :: s.passed }

end Composing

/-- The composed form of code points. -/
def composedCodes (codes : List Nat) : List Nat :=
  ((orderMarks (codes.flatMap (decompose 8))).foldl Composing.step ⟨[], none, []⟩).flush.reverse

/-- The composed form of a text.  Text in ASCII is composed already. -/
def composed (cs : List Char) : List Char :=
  if cs.all fun c => c.toNat < 0x80 then cs
  else (composedCodes (cs.map Char.toNat)).map Char.ofNat

end ClaimCheck.Unicode
