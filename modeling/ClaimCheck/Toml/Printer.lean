import ClaimCheck.Text.Decimal
import ClaimCheck.Text.Hex

/-!
# Writing settings

A setting is a line with a key, an equals sign and a value.  A text is written in the plainest form
of string that shows it: between quotation marks if it needs no escape, else between apostrophes,
else over lines, and with escapes where nothing else will do.
-/

namespace ClaimCheck.Toml

open ClaimCheck.Text

/-- The forms of a string. -/
inductive Style where
  | basic
  | literal
  | lines
  | literalLines
deriving DecidableEq, Repr

/-- Whether a character can only be written as an escape. -/
def needsEscape (c : Char) : Bool :=
  (c.toNat < 0x20 && c != '\t' && c != '\n') || c.toNat == 0x7F

/-- The length of the longest run of a character, `current` being the run before the text. -/
def longestRun (mark : Char) : (current : Nat) → List Char → Nat
  | current, [] => current
  | current, c :: rest =>
    if c = mark then longestRun mark (current + 1) rest else max current (longestRun mark 0 rest)

/-- The form in which a text is written. -/
def styleOf (cs : List Char) : Style :=
  let escapes := cs.any needsEscape
  let hasLines := cs.contains '\n'
  if !escapes && !cs.contains '\\' && !cs.contains '"' && !hasLines then .basic
  else if !escapes && !cs.contains '\'' && !hasLines then .literal
  else if !escapes && !cs.contains '\\' && longestRun '"' 0 cs ≤ 2 then .lines
  else if !escapes && longestRun '\'' 0 cs ≤ 2 then .literalLines
  else if hasLines then .lines
  else .basic

/-- How a character stands between quotation marks, `marks` of them being before it; over lines only
the third mark in a row is escaped. -/
def quotedChar (overLines : Bool) (marks : Nat) (c : Char) : List Char :=
  if c.toNat = 0x08 then ['\\', 'b']
  else if c = '\t' then ['\\', 't']
  else if c = '\n' then (if overLines then ['\n'] else ['\\', 'n'])
  else if c.toNat = 0x0C then ['\\', 'f']
  else if c = '\r' then ['\\', 'r']
  else if c = '"' then (if overLines && marks < 2 then ['"'] else ['\\', '"'])
  else if c = '\\' then ['\\', '\\']
  else if c.toNat < 0x20 ∨ c.toNat = 0x7F then ['\\', 'u'] ++ fixedHex upperHexDigit 4 c.toNat
  else [c]

/-- The characters of a text between quotation marks, `written` holding those so far, the last one
first. -/
def quotedFrom (overLines : Bool) : (marks : Nat) → (written : List Char) → List Char → List Char
  | _, written, [] => written.reverse
  | marks, written, c :: rest =>
    let shown := quotedChar overLines marks c
    quotedFrom overLines (if shown = ['"'] then marks + 1 else 0) (shown.reverse ++ written) rest

/-- A text as a string. -/
def stringChars (cs : List Char) : List Char :=
  let opening := if cs.contains '\n' then ['\n'] else []
  match styleOf cs with
  | .basic => '"' :: quotedFrom false 0 [] cs ++ ['"']
  | .literal => '\'' :: cs ++ ['\'']
  | .lines => ['"', '"', '"'] ++ opening ++ quotedFrom true 0 [] cs ++ ['"', '"', '"']
  | .literalLines => ['\'', '\'', '\''] ++ opening ++ cs ++ ['\'', '\'', '\'']

/-- The line of a setting. -/
def settingLine (key : String) (value : List Char) : List Char :=
  key.toList ++ [' ', '=', ' '] ++ value ++ ['\n']

end ClaimCheck.Toml
