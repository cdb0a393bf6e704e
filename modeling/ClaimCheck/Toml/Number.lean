import ClaimCheck.Text.Decimal
import ClaimCheck.Time.Instant
import ClaimCheck.Toml.Text

/-!
# Numbers, dates and times of configuration documents

Whole numbers are signed 64-bit words.  Fractions, dates and times have no use in a configuration and
are only checked.
-/

namespace ClaimCheck.Toml

open ClaimCheck.Text

/-! ### Runs of digits -/

/-- Reads the digits that go on with a run; one underscore may stand between two of them. -/
def readRunFrom (isDigit : Char → Bool) : (before : List Char) → Reader (List Char)
  | before, '_' :: c :: rest => if isDigit c then readRunFrom isDigit (c :: before) rest else none
  | _, ['_'] => none
  | before, c :: rest =>
    if isDigit c then readRunFrom isDigit (c :: before) rest else some (before.reverse, c :: rest)
  | before, [] => some (before.reverse, [])

/-- Reads a run of digits. -/
def readRun (isDigit : Char → Bool) : Reader (List Char)
  | [] => none
  | c :: rest => if isDigit c then readRunFrom isDigit [c] rest else none

/-- Reads a sign, if there is one; true for a minus. -/
def readSign : List Char → Bool × List Char
  | '+' :: rest => (false, rest)
  | '-' :: rest => (true, rest)
  | rest => (false, rest)

/-- Reads digits that do not start with a zero, or a zero alone. -/
def readWhole : Reader (List Char)
  | '0' :: rest => some (['0'], rest)
  | rest => readRun isDigit rest

/-! ### Whole numbers -/

/-- The value of digits in a base. -/
def valueInBase (base : Nat) (digits : List Char) : Nat :=
  digits.foldl (fun n c => n * base + (hexValue? c).getD 0) 0

/-- Whether a number is one of a signed 64-bit word. -/
def isWord (n : Int) : Bool := -0x8000000000000000 ≤ n && n < 0x8000000000000000

/-- The digits of a base. -/
def isDigitOf (base : Nat) (c : Char) : Bool := (hexValue? c).any (· < base)

/-- Reads the digits of a number in a base. -/
def readInBase (base : Nat) (cs : List Char) : Option (Int × List Char) :=
  match readRun (isDigitOf base) cs with
  | none => none
  | some (digits, rest) =>
    let n : Int := valueInBase base digits
    if isWord n then some (n, rest) else none

/-- Reads a whole number, in another base after `0x`, `0o` or `0b`. -/
def readInteger : Reader Int
  | '0' :: 'x' :: rest => readInBase 16 rest
  | '0' :: 'o' :: rest => readInBase 8 rest
  | '0' :: 'b' :: rest => readInBase 2 rest
  | cs =>
    let (negative, rest) := readSign cs
    match readWhole rest with
    | none => none
    | some (digits, rest) =>
      let n : Int := valueInBase 10 digits
      let n := if negative then -n else n
      if isWord n then some (n, rest) else none

/-! ### Fractions -/

/-- Whether the decimal with these digits, of which so many are before the point, rounds to a finite
binary fraction. -/
def isFinite (digits : List Char) (whole : Nat) (exponent : Int) : Bool :=
  let significant := digits.dropWhile (· == '0')
  let point : Int := whole - (digits.length - significant.length) + exponent
  significant.isEmpty || point < 309 ||
    (point = 309 &&
      !(valueOfDigits 0 significant * Nat.pow 10 309 ≥
        (Nat.pow 2 1024 - Nat.pow 2 970) * Nat.pow 10 significant.length))

/-- Reads an exponent after its letter. -/
def readExponent (cs : List Char) : Option (Int × List Char) :=
  let (negative, rest) := readSign cs
  (readRun isDigit rest).map fun (digits, rest) =>
    let n : Int := valueOfDigits 0 digits
    (if negative then -n else n, rest)

/-- Reads an exponent, if there is one. -/
def readScale : Reader (Option Int)
  | 'e' :: rest => (readExponent rest).map fun (n, rest) => (some n, rest)
  | 'E' :: rest => (readExponent rest).map fun (n, rest) => (some n, rest)
  | rest => some (none, rest)

/-- Reads the digits after a point, if there is one. -/
def readPlaces : Reader (Option (List Char))
  | '.' :: rest => (readRun isDigit rest).map fun (digits, rest) => (some digits, rest)
  | rest => some (none, rest)

/-- Drops a fraction: digits with a point, an exponent or both, or the word for infinity or for no
number.  A number above all finite ones is refused, one below is not. -/
def dropFraction? (cs : List Char) : Option (List Char) :=
  let (negative, rest) := readSign cs
  match rest with
  | 'i' :: 'n' :: 'f' :: rest => some rest
  | 'n' :: 'a' :: 'n' :: rest => some rest
  | rest => do
    let (whole, rest) ← readWhole rest
    let (places, rest) ← readPlaces rest
    let (exponent, rest) ← readScale rest
    if places.isNone ∧ exponent.isNone then none
    else if negative || isFinite (whole ++ places.getD []) whole.length (exponent.getD 0) then
      some rest
    else none

/-! ### Dates and times -/

/-- Reads a number with exactly so many digits. -/
def readFixed (width : Nat) (cs : List Char) : Option (Nat × List Char) :=
  let digits := cs.take width
  if digits.length = width ∧ digits.all isDigit then some (valueOfDigits 0 digits, cs.drop width)
  else none

/-- Reads two digits that are a number between two bounds. -/
def readPair (low high : Nat) (cs : List Char) : Option (Nat × List Char) :=
  match readFixed 2 cs with
  | some (n, rest) => if low ≤ n ∧ n ≤ high then some (n, rest) else none
  | none => none

/-- Drops a mark. -/
def dropMark? (mark : Char) : List Char → Option (List Char)
  | c :: rest => if c = mark then some rest else none
  | [] => none

/-- Drops a date. -/
def dropDate? (cs : List Char) : Option (List Char) := do
  let (year, rest) ← readFixed 4 cs
  let rest ← dropMark? '-' rest
  let (month, rest) ← readPair 1 12 rest
  let rest ← dropMark? '-' rest
  let (day, rest) ← readPair 1 31 rest
  if day ≤ daysInMonth year month then some rest else none

/-- Drops a time of day. -/
def dropTime? (cs : List Char) : Option (List Char) := do
  let (_, rest) ← readPair 0 23 cs
  let rest ← dropMark? ':' rest
  let (_, rest) ← readPair 0 59 rest
  let rest ← dropMark? ':' rest
  let (_, rest) ← readPair 0 60 rest
  match rest with
  | '.' :: c :: rest => if isDigit c then some (rest.dropWhile isDigit) else some ('.' :: c :: rest)
  | rest => some rest

/-- Drops the distance from universal time, if it is given. -/
def dropOffset? : List Char → Option (List Char)
  | [] => some []
  | c :: rest =>
    if c = 'Z' ∨ c = 'z' then some rest
    else if c = '+' ∨ c = '-' then do
      let (_, rest) ← readPair 0 23 rest
      let rest ← dropMark? ':' rest
      let (_, rest) ← readPair 0 59 rest
      some rest
    else some (c :: rest)

/-- Drops a date, a time, or both. -/
def dropDateTime? (cs : List Char) : Option (List Char) :=
  match dropDate? cs with
  | none => dropTime? cs
  | some rest =>
    match rest with
    | c :: time =>
      if c = 'T' ∨ c = 't' ∨ c = ' ' then
        match dropTime? time with
        | some rest => dropOffset? rest
        | none => some (c :: time)
      else some (c :: time)
    | [] => some []

end ClaimCheck.Toml
