import ClaimCheck.Unicode.LabelClasses
import ClaimCheck.Unicode.Normalization

/-!
# Labels of domain names

Which sequences of characters may stand between the dots of a domain name: rules on the first
character, on characters that only join others, and on the order of scripts of both directions.
-/

namespace ClaimCheck.Web

open Unicode

/-! ### Joining characters -/

/-- A character that keeps its neighbours apart. -/
def isNonJoiner (c : Char) : Bool := c.toNat == 0x200C

/-- A character that joins its neighbours. -/
def isJoiner (c : Char) : Bool := c.toNat == 0x200D

/-- The combining class of the signs that silence a vowel. -/
def viramaClass : Nat := 9

/-- Whether the first letter beside a place joins towards it; marks between are looked through. -/
def joinsAcross (sideClass : CodeSet) (cs : List Char) : Bool :=
  match cs.dropWhile transparentJoining.contains with
  | [] => false
  | c :: _ => sideClass.contains c || dualJoining.contains c

/-- Whether every joining character stands where it has a meaning: after a silenced consonant, or,
for the one that keeps apart, between letters that would join.  `before` holds what was passed, the
last one first. -/
def joinersFit : (before : List Char) → List Char → Bool
  | _, [] => true
  | before, c :: rest =>
    let afterVirama :=
      match before with
      | [] => false
      | last :: _ => combiningClass last.toNat == viramaClass
    let fits :=
      if isNonJoiner c then
        afterVirama || (joinsAcross leftJoining before && joinsAcross rightJoining rest)
      else if isJoiner c then afterVirama
      else true
    fits && joinersFit (c :: before) rest

/-! ### Direction -/

/-- How a character takes part in the order of a line. -/
inductive Direction where
  | leftToRight
  | rightToLeft
  | arabicLetter
  | arabicNumber
  | europeanNumber
  | europeanSeparator
  | commonSeparator
  | europeanTerminator
  | otherNeutral
  | boundaryNeutral
  | mark
deriving DecidableEq, Repr

/-- The direction of a character. -/
def direction (c : Char) : Direction :=
  if Unicode.rightToLeft.contains c then .rightToLeft
  else if Unicode.arabicLetter.contains c then .arabicLetter
  else if Unicode.arabicNumber.contains c then .arabicNumber
  else if Unicode.europeanNumber.contains c then .europeanNumber
  else if Unicode.europeanSeparator.contains c then .europeanSeparator
  else if Unicode.commonSeparator.contains c then .commonSeparator
  else if Unicode.europeanTerminator.contains c then .europeanTerminator
  else if Unicode.otherNeutral.contains c then .otherNeutral
  else if Unicode.boundaryNeutral.contains c then .boundaryNeutral
  else if Unicode.nonspacingMark.contains c then .mark
  else .leftToRight

/-- Whether a direction belongs to a script written from the right. -/
def Direction.isFromRight : Direction → Bool
  | .rightToLeft | .arabicLetter | .arabicNumber => true
  | _ => false

/-- Whether a direction may stand in a label of either kind. -/
def Direction.isNeutral : Direction → Bool
  | .europeanNumber | .europeanSeparator | .commonSeparator | .europeanTerminator
  | .otherNeutral | .boundaryNeutral | .mark => true
  | _ => false

/-- The last direction before the marks that end a label. -/
def lastDirection? (ds : List Direction) : Option Direction :=
  (ds.reverse.dropWhile (· == .mark)).head?

/-- Whether the directions of a label keep to one order. -/
def directionsFit (ds : List Direction) : Bool :=
  match ds with
  | [] => true
  | .rightToLeft :: _ | .arabicLetter :: _ =>
    ds.all (fun d => d.isFromRight || d.isNeutral) &&
      (match lastDirection? ds with
        | some .rightToLeft | some .arabicLetter | some .arabicNumber | some .europeanNumber => true
        | _ => false) &&
      !(ds.contains .europeanNumber && ds.contains .arabicNumber)
  | .leftToRight :: _ =>
    ds.all (fun d => d == .leftToRight || d.isNeutral) &&
      (match lastDirection? ds with
        | some .leftToRight | some .europeanNumber => true
        | _ => false)
  | _ => false

/-! ### Labels -/

/-- Whether a label may stand in a domain name, the order of directions apart. -/
def labelFits (label : List Char) : Bool :=
  match label with
  | [] => true
  | c :: _ => !combiningMarks.contains c && joinersFit [] label

/-- Whether the labels of a domain name keep to one order each.  Only a name that has a character
from the right is restricted. -/
def labelsKeepOrder (labels : List (List Char)) : Bool :=
  let directions := labels.map (·.map direction)
  !directions.any (·.any Direction.isFromRight) || directions.all directionsFit

end ClaimCheck.Web
