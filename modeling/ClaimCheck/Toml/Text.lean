import ClaimCheck.Text.Hex

/-!
# Strings of configuration documents

A string stands between quotation marks, with escapes, or between apostrophes, as it is; three marks
in a row on either side let it run over lines.
-/

namespace ClaimCheck.Toml

open ClaimCheck.Text

/-- Reads the start of a text; none if the text does not start that way. -/
abbrev Reader (α : Type) := List Char → Option (α × List Char)

/-- A blank inside a line. -/
def isBlank (c : Char) : Bool := c == ' ' || c == '\t'

/-- Drops blanks. -/
def skipBlank (cs : List Char) : List Char := cs.dropWhile isBlank

/-- Whether a character may stand in a string by itself, apart from the marks that end it. -/
def isPlain (c : Char) : Bool := c == '\t' || (0x20 ≤ c.toNat && c.toNat ≠ 0x7F)

/-- Drops the line end that a text starts with. -/
def dropNewline? : List Char → Option (List Char)
  | '\n' :: rest => some rest
  | '\r' :: '\n' :: rest => some rest
  | _ => none

/-- Drops a line end if the text starts with one. -/
def dropNewline (cs : List Char) : List Char := (dropNewline? cs).getD cs

/-! ### Escapes -/

/-- The character of a letter after a backslash. -/
def simpleEscape? (c : Char) : Option Char :=
  if c = '"' ∨ c = '\\' then some c
  else if c = 'b' then some '\x08'
  else if c = 't' then some '\t'
  else if c = 'n' then some '\n'
  else if c = 'f' then some '\x0c'
  else if c = 'r' then some '\r'
  else none

/-- The character with the number that so many hexadecimal digits write. -/
def readNumbered (width : Nat) (cs : List Char) : Option Char :=
  let digits := cs.take width
  if digits.length < width then none
  else
    match hexValueOf? digits with
    | none => none
    | some n => if n.isValidChar then some (Char.ofNat n) else none

/-- The character of an escape and the number of characters it takes after the backslash. -/
def readEscape : List Char → Option (Char × Nat)
  | [] => none
  | 'u' :: rest => (readNumbered 4 rest).map (·, 5)
  | 'U' :: rest => (readNumbered 8 rest).map (·, 9)
  | c :: _ => (simpleEscape? c).map (·, 1)

/-- The number of characters that a backslash at a line end takes away: the rest of the line, if it is
blank, and all blanks and line ends up to the next character. -/
def foldedLength? (cs : List Char) : Option Nat :=
  let blank := cs.takeWhile isBlank
  (dropNewline? (cs.drop blank.length)).map fun rest =>
    let after := dropFolded rest
    cs.length - after.length
where
  /-- Drops blanks and line ends. -/
  dropFolded : List Char → List Char
    | [] => []
    | '\r' :: '\n' :: rest => dropFolded rest
    | c :: rest => if isBlank c ∨ c = '\n' then dropFolded rest else c :: rest

/-! ### One line -/

/-- Reads a quoted string after its mark.  The first `skip` characters belong to an escape that was
read, and `before` holds the characters so far, the last one first. -/
def readBasicFrom : (skip : Nat) → (before : List Char) → Reader (List Char)
  | _, _, [] => none
  | skip + 1, before, _ :: rest => readBasicFrom skip before rest
  | 0, before, c :: rest =>
    if c = '"' then some (before.reverse, rest)
    else if c = '\\' then
      match readEscape rest with
      | some (e, skip) => readBasicFrom skip (e :: before) rest
      | none => none
    else if isPlain c then readBasicFrom 0 (c :: before) rest
    else none

/-- Reads a string between apostrophes after its mark. -/
def readLiteralFrom : (before : List Char) → Reader (List Char)
  | _, [] => none
  | before, c :: rest =>
    if c = '\'' then some (before.reverse, rest)
    else if isPlain c then readLiteralFrom (c :: before) rest
    else none

/-! ### Several lines -/

/-- The number of marks at the start of a text. -/
def countMarks (mark : Char) (cs : List Char) : Nat := (cs.takeWhile (· == mark)).length

/-- Ends a string over lines at a run of marks: three of them end it, and up to two before them belong
to it. -/
def endOfLines (mark : Char) (count : Nat) (before rest : List Char) :
    Option (List Char × List Char) :=
  if count ≤ 5 then
    some ((List.replicate (count - 3) mark ++ before).reverse, rest.drop (count - 1))
  else none

/-- Reads a quoted string over lines after its marks. -/
def readLinesFrom : (skip : Nat) → (before : List Char) → Reader (List Char)
  | _, _, [] => none
  | skip + 1, before, _ :: rest => readLinesFrom skip before rest
  | 0, before, c :: rest =>
    if c = '"' then
      let count := countMarks '"' (c :: rest)
      if 3 ≤ count then endOfLines '"' count before rest else readLinesFrom 0 (c :: before) rest
    else if c = '\\' then
      match foldedLength? rest with
      | some skip => readLinesFrom skip before rest
      | none =>
        match readEscape rest with
        | some (e, skip) => readLinesFrom skip (e :: before) rest
        | none => none
    else if c = '\n' ∨ isPlain c then readLinesFrom 0 (c :: before) rest
    else if c = '\r' ∧ rest.head? = some '\n' then readLinesFrom 0 before rest
    else none

/-- Reads a string between apostrophes over lines after its marks. -/
def readLiteralLinesFrom : (before : List Char) → Reader (List Char)
  | _, [] => none
  | before, c :: rest =>
    if c = '\'' ∧ 3 ≤ countMarks '\'' (c :: rest) then
      endOfLines '\'' (countMarks '\'' (c :: rest)) before rest
    else if c = '\n' ∨ isPlain c then readLiteralLinesFrom (c :: before) rest
    else if c = '\r' ∧ rest.head? = some '\n' then readLiteralLinesFrom before rest
    else none

/-- Reads a string of any form. -/
def readString : Reader (List Char)
  | '"' :: '"' :: '"' :: rest => readLinesFrom 0 [] (dropNewline rest)
  | '"' :: rest => readBasicFrom 0 [] rest
  | '\'' :: '\'' :: '\'' :: rest => readLiteralLinesFrom [] (dropNewline rest)
  | '\'' :: rest => readLiteralFrom [] rest
  | _ => none

end ClaimCheck.Toml
