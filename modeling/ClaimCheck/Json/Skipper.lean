import ClaimCheck.Json.Reader

/-!
# Skipping values

A record passes over the members that it does not know.  Such a value is checked but not built: it
may be nested to any depth, its numbers may be out of range, and its strings may write halves of
surrogate pairs.
-/

namespace ClaimCheck.Json

open Text

/-- The number of characters of an escape after the backslash. -/
def skipEscape : List Char → Except Fault Nat
  | [] => .error (.before .endInString [])
  | c :: rest =>
    if c = 'u' then (readHexEscape rest).map fun _ => 5
    else
      match simpleEscape? c with
      | some _ => .ok 1
      | none => .error (.past .invalidEscape (c :: rest))

/-- Skips a string up to its closing quote, the first `skip` characters belonging to an escape. -/
def skipStringFrom : (skip : Nat) → List Char → Except Fault (List Char)
  | _, [] => .error (.before .endInString [])
  | skip + 1, _ :: rest => skipStringFrom skip rest
  | 0, c :: rest =>
    if c = '"' then .ok rest
    else if c = '\\' then
      match skipEscape rest with
      | .ok skip => skipStringFrom skip rest
      | .error fault => .error fault
    else if c.toNat < 0x20 then .error (.before .controlCharacter (c :: rest))
    else skipStringFrom 0 rest

/-- Skips a string after its opening quote. -/
def skipString : List Char → Except Fault (List Char) := skipStringFrom 0

/-- Skips an exponent after its letter. -/
def skipExponent (cs : List Char) : Except Fault (List Char) :=
  let rest :=
    match cs with
    | '+' :: rest => rest
    | '-' :: rest => rest
    | rest => rest
  match rest with
  | [] => .error (.before .invalidNumber [])
  | c :: rest =>
    if isDigit c then .ok (rest.dropWhile isDigit) else .error (.past .invalidNumber (c :: rest))

/-- Skips an exponent if a letter for one follows. -/
def skipScale : List Char → Except Fault (List Char)
  | 'e' :: rest => skipExponent rest
  | 'E' :: rest => skipExponent rest
  | rest => .ok rest

/-- Skips what follows the digits before a point. -/
def skipFraction : List Char → Except Fault (List Char)
  | '.' :: c :: rest =>
    if isDigit c then skipScale (rest.dropWhile isDigit)
    else .error (.past .invalidNumber (c :: rest))
  | ['.'] => .error (.past .invalidNumber [])
  | rest => skipScale rest

/-- Skips a number after its sign. -/
def skipNumber : List Char → Except Fault (List Char)
  | [] => .error (.before .invalidNumber [])
  | '0' :: c :: rest =>
    if isDigit c then .error (.past .invalidNumber (c :: rest)) else skipFraction (c :: rest)
  | c :: rest =>
    if isDigit c then skipFraction (rest.dropWhile isDigit)
    else .error (.past .invalidNumber (c :: rest))

/-- An array or an object that is not yet closed. -/
inductive Frame where
  | list
  | object
deriving DecidableEq

/-- The bracket or brace that closes a frame. -/
def Frame.closing : Frame → Char
  | .list => ']'
  | .object => '\x7d'

/-- The cause when the text ends in a frame. -/
def Frame.endCause : Frame → Cause
  | .list => .endInList
  | .object => .endInObject

/-- The cause when a value in a frame is followed by something else than a comma or the end. -/
def Frame.commaCause : Frame → Cause
  | .list => .expectedListCommaOrEnd
  | .object => .expectedObjectCommaOrEnd

/-- Skips the key of a member and its colon. -/
def skipKey (cs : List Char) : Except Fault (List Char) :=
  match skipSpace cs with
  | [] => .error (.past .endInObject [])
  | c :: rest =>
    if c = '"' then
      match skipString rest with
      | .error fault => .error fault
      | .ok rest => readColon rest
    else .error (.past .keyNotString (c :: rest))

/-- Skips the start of a value: all of it, or the opening of a frame. -/
def skipStart (cs : List Char) : Except Fault (Option Frame × List Char) :=
  match skipSpace cs with
  | [] => .error (.past .endInValue [])
  | c :: rest =>
    if c = 'n' then (readWord ['u', 'l', 'l'] rest).map (none, ·)
    else if c = 't' then (readWord ['r', 'u', 'e'] rest).map (none, ·)
    else if c = 'f' then (readWord ['a', 'l', 's', 'e'] rest).map (none, ·)
    else if c = '-' then (skipNumber rest).map (none, ·)
    else if isDigit c then (skipNumber (c :: rest)).map (none, ·)
    else if c = '"' then (skipString rest).map (none, ·)
    else if c = '[' then .ok (some .list, rest)
    else if c = '\x7b' then .ok (some .object, rest)
    else .error (.past .expectedValue (c :: rest))

/-- Closes the frames that end here, the innermost first.  The result is the text that is left with
the frames that stay open, in the innermost of which a further value starts.  In a frame that was
just opened (`fresh`) a value may start without a comma. -/
def closeFrames : (fresh : Bool) → List Frame → List Char → Except Fault (List Frame × List Char)
  | _, [], cs => .ok ([], cs)
  | fresh, frame :: frames, cs =>
    match skipSpace cs with
    | [] => .error (.past frame.endCause [])
    | c :: rest =>
      if c = frame.closing then closeFrames false frames rest
      else if fresh then .ok (frame :: frames, c :: rest)
      else if c = ',' then .ok (frame :: frames, rest)
      else .error (.past frame.commaCause (c :: rest))

/-- Skips values until all frames are closed; `fuel` bounds the number of values. -/
def skipFrames : (fuel : Nat) → List Frame → List Char → Except Fault (List Char)
  | 0, _, cs => .error (.before .endInValue cs)
  | fuel + 1, frames, cs =>
    match skipStart cs with
    | .error fault => .error fault
    | .ok (opened, rest) =>
      match closeFrames opened.isSome (opened.toList ++ frames) rest with
      | .error fault => .error fault
      | .ok ([], rest) => .ok rest
      | .ok (frame :: frames, rest) =>
        match if frame = .object then skipKey rest else .ok rest with
        | .error fault => .error fault
        | .ok rest => skipFrames fuel (frame :: frames) rest

/-- Skips a value. -/
def skipValue (fuel : Nat) (cs : List Char) : Except Fault (List Char) := skipFrames fuel [] cs

end ClaimCheck.Json
