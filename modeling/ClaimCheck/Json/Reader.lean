import ClaimCheck.Json.Fault
import ClaimCheck.Keyed

/-!
# Reading documents

A reader takes a text and gives what it read and the text that is left, or the first fault.  Objects
and arrays may be nested 127 levels deep.  The members of an object come out by increasing key, and
of several members with one key the last counts.
-/

namespace ClaimCheck.Json

open Text

/-- Reads the start of a text. -/
abbrev Reader (α : Type) := List Char → Except Fault (α × List Char)

/-- Whether a character may stand between the parts of a document. -/
def isSpace (c : Char) : Bool := c == ' ' || c == '\n' || c == '\t' || c == '\r'

/-- Drops the space before the next part. -/
def skipSpace (cs : List Char) : List Char := cs.dropWhile isSpace

/-! ### Words -/

/-- Reads the characters of a word, the first of which was read before. -/
def readWord : (word : List Char) → List Char → Except Fault (List Char)
  | [], rest => .ok rest
  | _ :: _, [] => .error (.before .endInValue [])
  | w :: word, c :: rest =>
    if w = c then readWord word rest else .error (.past .expectedIdentifier (c :: rest))

/-! ### Strings -/

/-- The character that a backslash and a letter stand for. -/
def simpleEscape? (c : Char) : Option Char :=
  if c = '"' ∨ c = '\\' ∨ c = '/' then some c
  else if c = 'b' then some '\x08'
  else if c = 'f' then some '\x0c'
  else if c = 'n' then some '\n'
  else if c = 'r' then some '\r'
  else if c = 't' then some '\t'
  else none

/-- The number that the next four bytes write as hexadecimal digits. -/
def readHexEscape (cs : List Char) : Except Fault Nat :=
  let four := cs.take 4
  if byteLength four < 4 then .error (.before .endInString [])
  else
    match if four.all fun c => c.utf8Size = 1 then hexValueOf? four else none with
    | some n => .ok n
    | none => .error ⟨.invalidEscape, byteLength cs - 4⟩

/-- Whether a number is the second half of a pair of surrogates. -/
def isTrailing (n : Nat) : Bool := 0xDC00 ≤ n && n ≤ 0xDFFF

/-- Whether a number is the first half of a pair of surrogates. -/
def isLeading (n : Nat) : Bool := 0xD800 ≤ n && n ≤ 0xDBFF

/-- Reads the second half of a pair of surrogates, which takes an escape of its own. -/
def readTrailing (high : Nat) : List Char → Except Fault (Char × Nat)
  | [] => .error (.before .endInString [])
  | '\\' :: [] => .error (.before .endInString [])
  | '\\' :: 'u' :: rest => do
    let low ← readHexEscape rest
    if isTrailing low then
      .ok (Char.ofNat ((high - 0xD800) * 0x400 + (low - 0xDC00) + 0x10000), 11)
    else .error (.before .loneSurrogate (rest.drop 4))
  | '\\' :: rest => .error (.past .endOfHexEscape rest)
  | rest => .error (.past .endOfHexEscape rest)

/-- The character of an escape and the number of characters it takes after the backslash. -/
def readEscape : List Char → Except Fault (Char × Nat)
  | [] => .error (.before .endInString [])
  | c :: rest =>
    if c = 'u' then do
      let n ← readHexEscape rest
      if isTrailing n then .error (.before .loneSurrogate (rest.drop 4))
      else if isLeading n then readTrailing n (rest.drop 4)
      else .ok (Char.ofNat n, 5)
    else
      match simpleEscape? c with
      | some e => .ok (e, 1)
      | none => .error (.past .invalidEscape (c :: rest))

/-- Reads a string up to its closing quote.  The first `skip` characters belong to an escape that was
read already, and `before` holds the characters of the string so far, the last one first. -/
def readStringFrom : (skip : Nat) → (before : List Char) → Reader String
  | _, _, [] => .error (.before .endInString [])
  | skip + 1, before, _ :: rest => readStringFrom skip before rest
  | 0, before, c :: rest =>
    if c = '"' then .ok (String.ofList before.reverse, rest)
    else if c = '\\' then
      match readEscape rest with
      | .ok (e, skip) => readStringFrom skip (e :: before) rest
      | .error fault => .error fault
    else if c.toNat < 0x20 then .error (.before .controlCharacter rest)
    else readStringFrom 0 (c :: before) rest

/-- Reads a string after its opening quote. -/
def readString : Reader String := readStringFrom 0 []

/-! ### Numbers

Digits are gathered into a whole number as long as it fits into 64 bits.  A number with a point, an
exponent or more digits than that is a fraction: the whole number, rounded to a binary fraction, times
or divided by a power of ten. -/

/-- The largest number of an unsigned 64-bit word. -/
def maxWord : Nat := 0xFFFFFFFFFFFFFFFF

/-- The largest exponent that is taken as it is written. -/
def maxExponent : Nat := 0x7FFFFFFF

/-- A power of ten as a binary fraction. -/
def powerOfTen (n : Nat) : Float := Float.ofScientific 1 false n

/-- Multiplies by a power of ten, dividing step by step where the power is below those that a binary
fraction holds; four steps bring every number down to zero. -/
def scaleByTen : (steps : Nat) → Float → (exponent : Int) → Option Float
  | 0, x, _ => some x
  | steps + 1, x, exponent =>
    if exponent.natAbs ≤ 308 then
      if 0 ≤ exponent then some (x * powerOfTen exponent.natAbs)
      else some (x / powerOfTen exponent.natAbs)
    else if x == 0 then some x
    else if 0 ≤ exponent then none
    else scaleByTen steps (x / powerOfTen 308) (exponent + 308)

/-- The fraction of a sign, digits and an exponent. -/
def readFraction (negative : Bool) (digits : Nat) (exponent : Int) : Reader Value := fun rest =>
  let scaled := scaleByTen 4 (UInt64.ofNat digits).toFloat exponent
  match (scaled.map fun x => if negative then -x else x).bind Double.ofFloat? with
  | some x => .ok (.fraction x, rest)
  | none => .error (.before .numberOutOfRange rest)

/-- Reads the digits of an exponent after its first one. -/
def readExponentDigits (negative below : Bool) (digits : Nat) (start : Int) :
    (exponent : Nat) → Reader Value
  | exponent, [] => readFraction negative digits (if below then start - exponent else start + exponent) []
  | exponent, c :: rest =>
    if isDigit c then
      if maxExponent < exponent * 10 + digitValue c then
        if digits ≠ 0 ∧ ¬ below then .error (.before .numberOutOfRange rest)
        else
          .ok (.fraction (if negative then Double.negativeZero else Double.zero),
            rest.dropWhile isDigit)
      else readExponentDigits negative below digits start (exponent * 10 + digitValue c) rest
    else
      readFraction negative digits (if below then start - exponent else start + exponent)
        (c :: rest)

/-- Reads an exponent after its letter. -/
def readExponent (negative : Bool) (digits : Nat) (start : Int) : Reader Value := fun rest =>
  let (below, rest) :=
    match rest with
    | '+' :: rest => (false, rest)
    | '-' :: rest => (true, rest)
    | rest => (false, rest)
  match rest with
  | [] => .error (.before .endInValue [])
  | c :: rest =>
    if isDigit c then readExponentDigits negative below digits start (digitValue c) rest
    else .error (.past .invalidNumber (c :: rest))

/-- Ends a fraction, with an exponent if a letter for one follows. -/
def endFraction (negative : Bool) (digits : Nat) (exponent : Int) : Reader Value
  | 'e' :: rest => readExponent negative digits exponent rest
  | 'E' :: rest => readExponent negative digits exponent rest
  | rest => readFraction negative digits exponent rest

/-- Reads the digits after a point, `places` of which were read. -/
def readPlaces (negative : Bool) (start : Int) : (digits places : Nat) → Reader Value
  | digits, places, [] =>
    if places = 0 then .error (.before .endInValue [])
    else readFraction negative digits (start - places) []
  | digits, places, c :: rest =>
    if isDigit c then
      if maxWord < digits * 10 + digitValue c then
        endFraction negative digits (start - places) ((c :: rest).dropWhile isDigit)
      else readPlaces negative start (digits * 10 + digitValue c) (places + 1) rest
    else if places = 0 then .error (.past .invalidNumber (c :: rest))
    else endFraction negative digits (start - places) (c :: rest)

/-- The value of a whole number with a sign; what no word holds is a fraction, as is `-0`. -/
def wholeOrFraction (negative : Bool) (digits : Nat) : Reader Value := fun rest =>
  if negative then
    if h : digits ≠ 0 ∧ digits ≤ 0x8000000000000000 then
      .ok (.whole ⟨-digits, by omega, by omega⟩, rest)
    else readFraction true digits 0 rest
  else
    if h : digits ≤ maxWord then
      .ok (.whole ⟨digits, by omega, by simp only [maxWord] at h; omega⟩, rest)
    else readFraction false digits 0 rest

/-- Goes on after the digits before a point. -/
def afterWhole (negative : Bool) (digits : Nat) : Reader Value
  | '.' :: rest => readPlaces negative 0 digits 0 rest
  | 'e' :: rest => readExponent negative digits 0 rest
  | 'E' :: rest => readExponent negative digits 0 rest
  | rest => wholeOrFraction negative digits rest

/-- Goes on with digits that no longer fit, counting them. -/
def readLongWhole (negative : Bool) (digits : Nat) : (dropped : Nat) → Reader Value
  | dropped, [] => readFraction negative digits dropped []
  | dropped, c :: rest =>
    if isDigit c then readLongWhole negative digits (dropped + 1) rest
    else if c = '.' then readPlaces negative dropped digits 0 rest
    else endFraction negative digits dropped (c :: rest)

/-- Reads the digits before a point. -/
def readWhole (negative : Bool) : (digits : Nat) → Reader Value
  | digits, [] => wholeOrFraction negative digits []
  | digits, c :: rest =>
    if isDigit c then
      if maxWord < digits * 10 + digitValue c then readLongWhole negative digits 0 (c :: rest)
      else readWhole negative (digits * 10 + digitValue c) rest
    else afterWhole negative digits (c :: rest)

/-- Reads a number after its sign. -/
def readNumber (negative : Bool) : Reader Value
  | [] => .error (.before .endInValue [])
  | '0' :: rest =>
    match rest with
    | [] => wholeOrFraction negative 0 []
    | c :: rest =>
      if isDigit c then .error (.past .invalidNumber (c :: rest))
      else afterWhole negative 0 (c :: rest)
  | c :: rest =>
    if isDigit c then readWhole negative (digitValue c) rest
    else .error (.past .invalidNumber (c :: rest))

/-! ### Arrays and objects -/

/-- Finds the start of the next item of an array, or the end of the array. -/
def nextItem (first : Bool) (cs : List Char) : Except Fault (Option (List Char) × List Char) :=
  match skipSpace cs with
  | [] => .error (.past .endInList [])
  | ']' :: rest => .ok (none, rest)
  | c :: rest =>
    if first then .ok (some (c :: rest), [])
    else if c = ',' then
      match skipSpace rest with
      | [] => .error (.past .endInValue [])
      | ']' :: rest => .error (.past .trailingComma (']' :: rest))
      | rest => .ok (some rest, [])
    else .error (.past .expectedListCommaOrEnd (c :: rest))

/-- Reads the items of an array after its bracket; `fuel` bounds their number, and `before` holds
those that were read, the last one first. -/
def readItems (item : Reader α) : (fuel : Nat) → (before : List α) → Reader (List α)
  | 0, _, rest => .error (.before .endInList rest)
  | fuel + 1, before, cs =>
    match nextItem before.isEmpty cs with
    | .error fault => .error fault
    | .ok (none, rest) => .ok (before.reverse, rest)
    | .ok (some start, _) =>
      match item start with
      | .error fault => .error fault
      | .ok (value, rest) => readItems item fuel (value :: before) rest

/-- Finds the key of the next member of an object, or the end of the object. -/
def nextKey (first : Bool) (cs : List Char) : Except Fault (Option String × List Char) :=
  match skipSpace cs with
  | [] => .error (.past .endInObject [])
  | '\x7d' :: rest => .ok (none, rest)
  | c :: rest =>
    if first then
      if c = '"' then (readString rest).map fun (key, rest) => (some key, rest)
      else .error (.past .keyNotString (c :: rest))
    else if c = ',' then
      match skipSpace rest with
      | [] => .error (.past .endInValue [])
      | '"' :: rest => (readString rest).map fun (key, rest) => (some key, rest)
      | '\x7d' :: rest => .error (.past .trailingComma ('\x7d' :: rest))
      | rest => .error (.past .keyNotString rest)
    else .error (.past .expectedObjectCommaOrEnd (c :: rest))

/-- Reads the colon between a key and its value. -/
def readColon (cs : List Char) : Except Fault (List Char) :=
  match skipSpace cs with
  | [] => .error (.past .endInObject [])
  | ':' :: rest => .ok rest
  | rest => .error (.past .expectedColon rest)

/-- Reads the members of an object after its brace into a state; `fuel` bounds their number. -/
def readMembers (member : (key : String) → σ → Reader σ) :
    (fuel : Nat) → (first : Bool) → σ → Reader σ
  | 0, _, _, rest => .error (.before .endInObject rest)
  | fuel + 1, first, state, cs =>
    match nextKey first cs with
    | .error fault => .error fault
    | .ok (none, rest) => .ok (state, rest)
    | .ok (some key, rest) =>
      match member key state rest with
      | .error fault => .error fault
      | .ok (state, rest) => readMembers member fuel false state rest

/-! ### Values -/

/-- Reads a member of an object value, which keeps its members by increasing key. -/
def readEntry (value : Reader Value) (key : String) (members : List (String × Value)) :
    Reader (List (String × Value)) := fun cs =>
  match readColon cs with
  | .error fault => .error fault
  | .ok rest =>
    match value rest with
    | .error fault => .error fault
    | .ok (value, rest) => .ok (Entries.insert key value members, rest)

/-- Reads a value in which arrays and objects are nested at most `levels` deep and hold fewer than
`fuel` items each. -/
def readValue (fuel : Nat) : (levels : Nat) → Reader Value
  | levels, cs =>
    match skipSpace cs with
    | [] => .error (.past .endInValue [])
    | c :: rest =>
      if c = 'n' then (readWord ['u', 'l', 'l'] rest).map (Value.null, ·)
      else if c = 't' then (readWord ['r', 'u', 'e'] rest).map (Value.bool true, ·)
      else if c = 'f' then (readWord ['a', 'l', 's', 'e'] rest).map (Value.bool false, ·)
      else if c = '-' then readNumber true rest
      else if isDigit c then readNumber false (c :: rest)
      else if c = '"' then (readString rest).map fun (text, rest) => (Value.string text, rest)
      else if c = '[' then
        match levels with
        | 0 => .error (.past .recursionLimit (c :: rest))
        | levels + 1 =>
          (readItems (readValue fuel levels) fuel [] rest).map fun (items, rest) =>
            (Value.array items, rest)
      else if c = '\x7b' then
        match levels with
        | 0 => .error (.past .recursionLimit (c :: rest))
        | levels + 1 =>
          (readMembers (readEntry (readValue fuel levels)) fuel true [] rest).map
            fun (members, rest) => (Value.object members, rest)
      else .error (.past .expectedValue (c :: rest))

/-- How deep arrays and objects may be nested. -/
def maxLevels : Nat := 127

/-- Reads a whole text, after which only space may follow.  A text has no more parts than
characters, so their number bounds every loop. -/
def readAll (reader : (fuel : Nat) → Reader α) (text : String) : Except LocatedFault α :=
  let cs := text.toList
  match reader (cs.length + 1) cs with
  | .error fault => .error (fault.locate cs)
  | .ok (value, rest) =>
    match skipSpace rest with
    | [] => .ok value
    | rest => .error ((Fault.past .trailingCharacters rest).locate cs)

/-- The value that a text writes. -/
def Value.parse (text : String) : Except LocatedFault Value :=
  readAll (fun fuel => readValue fuel maxLevels) text

end ClaimCheck.Json
