import ClaimCheck.Text.Hex
import ClaimCheck.Text.Split

/-!
# Sets of code points and maps on them

Character properties are listed as runs of code points in increasing order.  A table is written in
lines of words with a blank between them; each word holds the gap from the end of the run before and, after a
point, by how much the run is longer than one.
-/

namespace ClaimCheck.Unicode

open Text

/-- A run of code points, both ends included. -/
structure Run where
  first : Nat
  last : Nat
deriving DecidableEq, Repr

/-- Whether a code point lies in the run. -/
def Run.contains (run : Run) (code : Nat) : Bool := run.first ≤ code && code ≤ run.last

/-- The run that the gap and length of a word describe, after the code points below `next`. -/
def Run.ofWord (next : Nat) (word : List Char) : Run :=
  match splitFirst? '.' word with
  | some (gap, length) =>
    let first := next + (hexValueOf? gap).getD 0
    ⟨first, first + (hexValueOf? length).getD 0⟩
  | none =>
    let first := next + (hexValueOf? word).getD 0
    ⟨first, first⟩

/-- A set of code points as a list of runs. -/
structure CodeSet where
  runs : List Run

/-- The runs of a table's words. -/
def CodeSet.runsOf : (next : Nat) → List (List Char) → List Run
  | _, [] => []
  | next, word :: words =>
    let run := Run.ofWord next word
    run :: runsOf (run.last + 1) words

/-- The words of a table. -/
def tableWords (lines : List String) : List (List Char) :=
  lines.flatMap fun line => pieces ' ' line.toList

/-- The set that a table describes. -/
def CodeSet.ofLines (lines : List String) : CodeSet := ⟨runsOf 0 (tableWords lines)⟩

/-- Whether the set holds a character. -/
def CodeSet.contains (set : CodeSet) (c : Char) : Bool :=
  set.runs.any (·.contains c.toNat)

/-- How a run of code points is mapped: all to one sequence, each by the same distance, or every
second one by the same distance. -/
inductive Rule where
  | constant (targets : List Nat)
  | shifted (target : Nat)
  | alternating (target : Nat)
deriving DecidableEq, Repr

/-- The image of the code point at a distance from the start of its run. -/
def Rule.image (distance : Nat) : Rule → Option (List Nat)
  | .constant targets => some targets
  | .shifted target => some [target + distance]
  | .alternating target => if distance % 2 = 0 then some [target + distance] else none

/-- A map from code points to sequences of them. -/
structure CodeMap where
  entries : List (Run × Rule)

/-- Cuts a word at its sign and reads what stands after it. -/
def Rule.ofWord? (word : List Char) : Option (List Char × Rule) :=
  let targets (cs : List Char) := (pieces '+' cs).map fun t => (hexValueOf? t).getD 0
  let sign := word.find? fun c => c == '=' || c == '+' || c == '*'
  match sign with
  | some c =>
    (splitFirst? c word).map fun (run, image) =>
      (run,
        if c == '=' then .constant (targets image)
        else if c == '+' then .shifted ((hexValueOf? image).getD 0)
        else .alternating ((hexValueOf? image).getD 0))
  | none => none

/-- The entries of a table's words. -/
def CodeMap.entriesOf : (next : Nat) → List (List Char) → List (Run × Rule)
  | _, [] => []
  | next, word :: words =>
    match Rule.ofWord? word with
    | some (run, rule) =>
      let run := Run.ofWord next run
      (run, rule) :: entriesOf (run.last + 1) words
    | none => entriesOf next words

/-- The map that a table describes. -/
def CodeMap.ofLines (lines : List String) : CodeMap := ⟨entriesOf 0 (tableWords lines)⟩

/-- The image of a code point, if the table names it. -/
def CodeMap.image? (map : CodeMap) (code : Nat) : Option (List Nat) :=
  match map.entries.find? (·.1.contains code) with
  | some (run, rule) => rule.image (code - run.first)
  | none => none

end ClaimCheck.Unicode
