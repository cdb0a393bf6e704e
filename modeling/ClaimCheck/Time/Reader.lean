import ClaimCheck.Text.Blank
import ClaimCheck.Time.Instant

/-!
# Reading instants

A date, a time of day and the distance from universal time.  Blanks may stand before every number
and sign; months to seconds have one or two digits, and a year without a sign has at most four.
-/

namespace ClaimCheck.Instant

open Text

/-- Why a text is no instant. -/
inductive Fault where
  | tooShort
  | tooLong
  | invalid
  | outOfRange
  | impossible
deriving DecidableEq, Repr

/-- The wording of a fault. -/
def Fault.message : Fault → String
  | .tooShort => "premature end of input"
  | .tooLong => "trailing input"
  | .invalid => "input contains invalid characters"
  | .outOfRange => "input is out of range"
  | .impossible => "no possible date and time matching input"

/-- Drops the blanks before the next part. -/
def skipBlank (cs : List Char) : List Char := cs.dropWhile isBlank

/-- The largest number that the reader counts to. -/
def maxNumber : Nat := 0x7FFFFFFFFFFFFFFF

/-- Reads up to `width` digits, at least one. -/
def readNumber (width : Nat) (cs : List Char) : Except Fault (Nat × List Char) :=
  match cs with
  | [] => .error .tooShort
  | c :: _ =>
    if isDigit c then
      let digits := (cs.take width).takeWhile isDigit
      let n := valueOfDigits 0 digits
      if maxNumber < n then .error .outOfRange else .ok (n, cs.drop digits.length)
    else .error .invalid

/-- Reads a number between two bounds, after blanks. -/
def readBetween (low high : Nat) (cs : List Char) : Except Fault (Nat × List Char) := do
  let (n, rest) ← readNumber 2 (skipBlank cs)
  if low ≤ n ∧ n ≤ high then .ok (n, rest) else .error .outOfRange

/-- Reads a year, with a sign if it has more than four digits. -/
def readYear (cs : List Char) : Except Fault (Int × List Char) := do
  let (year, rest) ← match skipBlank cs with
    | '-' :: rest => (readNumber rest.length rest).map fun (n, rest) => (-(n : Int), rest)
    | '+' :: rest => (readNumber rest.length rest).map fun (n, rest) => ((n : Int), rest)
    | rest => (readNumber 4 rest).map fun (n, rest) => ((n : Int), rest)
  if -0x80000000 ≤ year ∧ year < 0x80000000 then .ok (year, rest) else .error .outOfRange

/-- Reads a mark between two numbers, after blanks. -/
def readMark (mark : Char) (cs : List Char) : Except Fault (List Char) :=
  match skipBlank cs with
  | [] => .error .tooShort
  | c :: rest => if c = mark then .ok rest else .error .invalid

/-- Reads the part of a second: of any number of digits the first nine count. -/
def readSecondPart : List Char → Except Fault (Nat × List Char)
  | '.' :: rest => do
    let (n, after) ← readNumber 9 rest
    let used := rest.length - after.length
    .ok (n * Nat.pow 10 (9 - used), after.dropWhile isDigit)
  | rest => .ok (0, rest)

/-- The sign of an offset: a plus, a hyphen or a minus. -/
def offsetSign? (c : Char) : Option Int :=
  if c = '+' then some 1
  else if c = '-' ∨ c.toNat = 0x2212 then some (-1)
  else none

/-- Reads two digits of an offset, the first of which is at most `top`. -/
def readPair (top : Nat) (cs : List Char) : Except Fault (Nat × List Char) :=
  match cs with
  | a :: b :: rest =>
    if isDigit a ∧ isDigit b then
      if digitValue a ≤ top then .ok (digitValue a * 10 + digitValue b, rest)
      else .error .outOfRange
    else .error .invalid
  | [c] => if c.utf8Size < 2 then .error .tooShort else .error .invalid
  | [] => .error .tooShort

/-- Reads the distance from universal time in seconds. -/
def readOffset (cs : List Char) : Except Fault (Int × List Char) :=
  match cs with
  | [] => .error .tooShort
  | c :: rest =>
    if (cs.take 3).map Char.toUpper = ['U', 'T', 'C'] then .ok (0, cs.drop 3)
    else if c = 'Z' ∨ c = 'z' then .ok (0, rest)
    else
      match offsetSign? c with
      | none => .error .invalid
      | some sign => do
        let (hours, rest) ← readPair 9 rest
        let (minutes, rest) ← readPair 5 (rest.dropWhile fun c => c == ':' || isBlank c)
        .ok (sign * (hours * 3600 + minutes * 60), rest)

/-- The years that have instants. -/
def yearInRange (year : Int) : Bool := -262143 ≤ year && year ≤ 262142

/-- The seconds of the instants that there are. -/
def secondsInRange (seconds : Int) : Bool :=
  (CivilDate.toDays ⟨-262143, 1, 1⟩) * 86400 ≤ seconds &&
    seconds < (CivilDate.toDays ⟨262143, 1, 1⟩) * 86400

/-- The instant of a date, a time of day and an offset. -/
def ofParts (date : CivilDate) (hour minute second nanos : Nat) (offset : Int) :
    Except Fault Instant :=
  if ¬ (yearInRange date.year ∧ date.isValid) then .error .outOfRange
  else if ¬ (-86400 < offset ∧ offset < 86400) then .error .outOfRange
  else
    let inserted := second / 60
    let seconds := date.toDays * 86400 + (hour * 3600 + minute * 60 + (second - inserted) : Nat) - offset
    if secondsInRange seconds then .ok ⟨seconds, inserted * 1000000000 + nanos⟩
    else .error .impossible

/-- The instant that a text writes. -/
def parse (text : String) : Except Fault Instant := do
  let (year, rest) ← readYear text.toList
  let rest ← readMark '-' rest
  let (month, rest) ← readBetween 1 12 rest
  let rest ← readMark '-' rest
  let (day, rest) ← readBetween 1 31 rest
  let rest ← match rest with
    | [] => .error .tooShort
    | c :: rest => if c = 'T' ∨ c = 't' ∨ c = ' ' then .ok rest else .error .invalid
  let (hour, rest) ← readBetween 0 23 rest
  let rest ← readMark ':' rest
  let (minute, rest) ← readBetween 0 59 rest
  let rest ← readMark ':' rest
  let (second, rest) ← readBetween 0 60 rest
  let (nanos, rest) ← readSecondPart rest
  let (offset, rest) ← readOffset (skipBlank rest)
  if skipBlank rest ≠ [] then .error .tooLong
  else ofParts ⟨year, month, day⟩ hour minute second nanos offset

end ClaimCheck.Instant
