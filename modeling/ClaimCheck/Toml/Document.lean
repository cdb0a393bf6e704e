import ClaimCheck.Text.Split
import ClaimCheck.Toml.Number

/-!
# Configuration documents

A document is a sequence of settings and of headers that name the table for the settings after them.
Each key is set once and each table is opened once; a dotted key opens tables of its own.  Of values
only texts and whole numbers are kept.
-/

namespace ClaimCheck.Toml

open ClaimCheck.Text

/-- The value of a setting: a text, a whole number, or something else. -/
inductive Value where
  | text (value : String)
  | integer (value : Int)
  | other
deriving DecidableEq, Repr

/-- What a key stands for.  A table is implicit if only longer keys or headers have named it, and
dotted if those were keys; a list of tables is kept with the last one first. -/
inductive Item where
  | value (value : Value)
  | table (implicit dotted : Bool) (items : List (String × Item))
  | tables (tables : List (List (String × Item)))

/-- The items of a table. -/
abbrev Items := List (String × Item)

/-- Longer keys and values nested deeper than this are refused. -/
def maxDepth : Nat := 79

/-! ### Tables -/

namespace Items

/-- Puts an item in the place of the one with its key. -/
def replace (key : String) (item : Item) (items : Items) : Items :=
  items.map fun entry => if entry.1 = key then (key, item) else entry

/-- Changes the table at the end of a path.  Tables that are missing are made.  A path of a dotted key
does not enter tables that a header has opened.  The change is told whether its table is dotted. -/
def change (dotted : Bool) (f : Bool → Items → Option Items) :
    (path : List String) → (inDotted : Bool) → Items → Option Items
  | [], inDotted, items => f inDotted items
  | key :: path, _, items =>
    match items.lookup key with
    | none =>
      (change dotted f path dotted []).map fun inner =>
        items ++ [(key, .table true dotted inner)]
    | some (.value _) => none
    | some (.table implicit isDotted inner) =>
      if dotted && !implicit then none
      else
        (change dotted f path isDotted inner).map fun inner =>
          items.replace key (.table implicit isDotted inner)
    | some (.tables []) => none
    | some (.tables (last :: before)) =>
      (change dotted f path false last).map fun last => items.replace key (.tables (last :: before))

/-- Sets a key of a table that has none so far. -/
def set (key : String) (item : Item) (items : Items) : Option Items :=
  if (items.lookup key).isSome then none else some (items ++ [(key, item)])

/-- Sets a value at a dotted key; its last table must not be one that only headers have named. -/
def setAt (path : List String) (key : String) (value : Value) (items : Items) : Option Items :=
  change true
    (fun inDotted items =>
      if inDotted == path.isEmpty then none else set key (.value value) items)
    path false items

/-- Opens a table. -/
def openTable (path : List String) (key : String) (items : Items) : Option Items :=
  change false
    (fun _ items =>
      match items.lookup key with
      | none => some (items ++ [(key, .table false false [])])
      | some (.table true false inner) => some (items.replace key (.table false false inner))
      | some _ => none)
    path false items

/-- Opens one more table of a list. -/
def openListed (path : List String) (key : String) (items : Items) : Option Items :=
  change false
    (fun _ items =>
      match items.lookup key with
      | none => some (items ++ [(key, .tables [[]])])
      | some (.tables all) => some (items.replace key (.tables ([] :: all)))
      | some _ => none)
    path false items

end Items

/-! ### Lines -/

/-- Drops a comment, if there is one. -/
def skipComment : List Char → List Char
  | '#' :: rest => rest.dropWhile fun c => c == '\t' || 0x20 ≤ c.toNat
  | rest => rest

/-- Drops what may follow on a line, and the line end. -/
def dropLineEnd? (cs : List Char) : Option (List Char) :=
  match skipComment (skipBlank cs) with
  | [] => some []
  | rest => dropNewline? rest

/-- Drops blanks, line ends and comments. -/
def skipLines : (fuel : Nat) → List Char → List Char
  | 0, cs => cs
  | fuel + 1, cs =>
    match skipBlank cs with
    | '\n' :: rest => skipLines fuel rest
    | '\r' :: '\n' :: rest => skipLines fuel rest
    | '#' :: rest => skipLines fuel (skipComment ('#' :: rest))
    | rest => rest

/-! ### Keys -/

/-- Whether a character may stand in a key without quotes. -/
def isKeyChar (c : Char) : Bool := c.isAlphanum || c == '-' || c == '_'

/-- Reads one part of a key. -/
def readKeyPart : Reader String
  | '"' :: rest => (readBasicFrom 0 [] rest).map fun (key, rest) => (String.ofList key, rest)
  | '\'' :: rest => (readLiteralFrom [] rest).map fun (key, rest) => (String.ofList key, rest)
  | cs =>
    match cs.takeWhile isKeyChar with
    | [] => none
    | key => some (String.ofList key, cs.dropWhile isKeyChar)

/-- Reads the parts of a key, blanks around each; `fuel` bounds their number, and `before` holds those
that were read, the last one first. -/
def readKeyFrom : (fuel : Nat) → (before : List String) → Reader (List String × String)
  | 0, _, _ => none
  | fuel + 1, before, cs =>
    match readKeyPart (skipBlank cs) with
    | none => none
    | some (part, rest) =>
      match skipBlank rest with
      | '.' :: rest => readKeyFrom fuel (part :: before) rest
      | rest => some ((before.reverse, part), rest)

/-- Reads a key: the parts that lead to its table, and the last one. -/
def readKey : Reader (List String × String) := readKeyFrom maxDepth []

/-! ### Values -/

/-- Reads the values of an array after its bracket; a comma may follow the last. -/
def dropArray? (value : Reader Value) : (fuel : Nat) → List Char → Option (List Char)
  | 0, _ => none
  | fuel + 1, cs =>
    match skipLines fuel cs with
    | ']' :: rest => some rest
    | start =>
      match value start with
      | none => none
      | some (_, rest) =>
        match skipLines fuel rest with
        | ',' :: rest => dropArray? value fuel rest
        | ']' :: rest => some rest
        | _ => none

/-- Reads the settings of a table in braces, the first of which starts here. -/
def dropSettings? (value : Reader Value) : (fuel : Nat) → Items → List Char → Option (List Char)
  | 0, _, _ => none
  | fuel + 1, items, cs => do
    let ((path, key), rest) ← readKey cs
    let rest ← dropMark? '=' rest
    let (v, rest) ← value (skipBlank rest)
    let items ← items.setAt path key v
    match skipBlank rest with
    | ',' :: rest => dropSettings? value fuel items rest
    | '\x7d' :: rest => some rest
    | _ => none

/-- Reads a value in which arrays and tables are nested at most `levels` deep. -/
def readValue (fuel : Nat) : (levels : Nat) → Reader Value
  | levels, cs =>
    match cs with
    | [] => none
    | c :: rest =>
      if c = '"' ∨ c = '\'' then
        (readString cs).map fun (text, rest) => (.text (String.ofList text), rest)
      else if c = '[' then
        match levels with
        | 0 => none
        | levels + 1 => (dropArray? (readValue fuel levels) fuel rest).map (.other, ·)
      else if c = '\x7b' then
        match levels with
        | 0 => none
        | levels + 1 =>
          match skipBlank rest with
          | '\x7d' :: rest => some (.other, rest)
          | rest => (dropSettings? (readValue fuel levels) fuel [] rest).map (.other, ·)
      else if c = 't' then (dropPrefix? ['r', 'u', 'e'] rest).map (.other, ·)
      else if c = 'f' then (dropPrefix? ['a', 'l', 's', 'e'] rest).map (.other, ·)
      else
        match dropDateTime? cs with
        | some rest => some (.other, rest)
        | none =>
          match dropFraction? cs with
          | some rest => some (.other, rest)
          | none => (readInteger cs).map fun (n, rest) => (.integer n, rest)

/-! ### Documents -/

/-- The tables so far and the path of the one that settings go to. -/
structure Building where
  items : Items
  current : List String

namespace Building

/-- Takes a setting. -/
def set (b : Building) (path : List String) (key : String) (value : Value) : Option Building :=
  (Items.change false (fun _ items => items.setAt path key value) b.current false b.items).map
    fun items => { b with items }

end Building

/-- Reads a header after its first bracket. -/
def readHeader (b : Building) : List Char → Option (Building × List Char)
  | '[' :: rest => do
    let ((path, key), rest) ← readKey rest
    let rest ← dropPrefix? [']', ']'] rest
    let items ← b.items.openListed path key
    pure (⟨items, path ++ [key]⟩, rest)
  | rest => do
    let ((path, key), rest) ← readKey rest
    let rest ← dropMark? ']' rest
    let items ← b.items.openTable path key
    pure (⟨items, path ++ [key]⟩, rest)

/-- Reads a setting. -/
def readSetting (fuel : Nat) (b : Building) (cs : List Char) : Option (Building × List Char) := do
  let ((path, key), rest) ← readKey cs
  let rest ← dropMark? '=' rest
  let (value, rest) ← readValue fuel maxDepth (skipBlank rest)
  let b ← b.set path key value
  pure (b, rest)

/-- Reads the lines of a document; `fuel` bounds their number. -/
def readLines (size : Nat) : (fuel : Nat) → Building → List Char → Option Items
  | 0, _, _ => none
  | fuel + 1, b, cs =>
    match skipBlank cs with
    | [] => some b.items
    | '[' :: rest =>
      match readHeader b rest with
      | none => none
      | some (b, rest) => (dropLineEnd? rest).bind (readLines size fuel b)
    | c :: rest =>
      if c = '#' ∨ c = '\n' ∨ c = '\r' then (dropLineEnd? (c :: rest)).bind (readLines size fuel b)
      else
        match readSetting size b (c :: rest) with
        | none => none
        | some (b, rest) => (dropLineEnd? rest).bind (readLines size fuel b)

/-- The items of the document that a text writes; a byte-order mark in front does not count. -/
def parse? (text : String) : Option Items :=
  let cs := text.toList
  let cs := if cs.head? = some '\uFEFF' then cs.drop 1 else cs
  readLines (cs.length + 1) (cs.length + 1) ⟨[], []⟩ cs

end ClaimCheck.Toml
