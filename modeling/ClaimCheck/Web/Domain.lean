import ClaimCheck.Text.Split
import ClaimCheck.Unicode.DomainMapping
import ClaimCheck.Web.Label
import ClaimCheck.Web.Punycode

/-!
# Domain names

The ASCII form of a domain name.  Characters are brought to one spelling, labels that hold other
characters than ASCII are written in Punycode, and labels that are already written so have to be
what that would give.
-/

namespace ClaimCheck.Web.Domain

open Text Unicode

/-- Whether a character is one of ASCII. -/
def isAscii (c : Char) : Bool := c.toNat < 0x80

/-- ASCII characters that no domain name holds. -/
def isForbidden (c : Char) : Bool :=
  c.toNat ≤ 0x20 || c.toNat == 0x7F || ['%', '#', '/', ':', '<', '>', '?', '@', '[', '\\', ']', '^',
    '|'].contains c

/-- The start of a label in Punycode. -/
def punycodeMark : List Char := ['x', 'n', '-', '-']

/-- Labels with more code points than this are not encoded. -/
def maxUnicodeLabel : Nat := 1000

/-- Labels with more Punycode digits than this are not decoded. -/
def maxPunycodeLabel : Nat := 2000

/-- The spelling of a character; none if no domain name holds it. -/
def spelling? (c : Char) : Option (List Char) :=
  if isAscii c then some [c.toLower]
  else if refusedInDomain.contains c then none
  else if droppedInDomain.contains c then some []
  else
    match replacedInDomain.image? c.toNat with
    | some codes => some (codes.map Char.ofNat)
    | none => some [c]

/-- Joins the spellings of characters, if all have one. -/
def spellAll? (cs : List Char) : Option (List Char) :=
  (cs.mapM spelling?).map List.flatten

/-- The characters that a label in Punycode stands for.  They have to be in the spelling and the
composed form that any other label is brought to, and not all of ASCII. -/
def decodeLabel? (digits : List Char) : Option (List Char) :=
  if maxPunycodeLabel < digits.length then none
  else
    match Punycode.decode? digits with
    | none => none
    | some codes =>
      let label := codes.map Char.ofNat
      if label.all isAscii ∨ spellAll? label ≠ some label ∨ composed label ≠ label then none
      else some label

/-- The characters of a label and its ASCII form. -/
def readLabel? (label : List Char) : Option (List Char × List Char) :=
  match dropPrefix? punycodeMark label with
  | some digits =>
    if label.all isAscii then (decodeLabel? digits).map (·, label) else none
  | none =>
    if label.all isAscii then some (label, label)
    else if maxUnicodeLabel < label.length then none
    else some (label, punycodeMark ++ Punycode.encode (label.map Char.toNat))

/-- The ASCII form of a name in ASCII without labels in Punycode. -/
def plainForm? (name : List Char) : Option (List Char) :=
  let lower := name.map Char.toLower
  if lower.any isForbidden then none else some lower

/-- The ASCII form of any other name. -/
def mappedForm? (name : List Char) : Option (List Char) :=
  match spellAll? name with
  | none => none
  | some spelled =>
    let text := composed spelled
    if text.any isForbidden then none
    else
      match (pieces '.' text).mapM readLabel? with
      | none => none
      | some labels =>
        let shown := labels.map Prod.fst
        if shown.all labelFits && labelsKeepOrder shown then
          some (join '.' (labels.map Prod.snd))
        else none

/-- Whether a name is in ASCII and has no label in Punycode. -/
def isPlain (name : List Char) : Bool :=
  name.all isAscii &&
    (pieces '.' (name.map Char.toLower)).all fun label => (dropPrefix? punycodeMark label).isNone

/-- The ASCII form of a domain name. -/
def asciiForm? (name : List Char) : Option (List Char) :=
  if isPlain name then plainForm? name else mappedForm? name

end ClaimCheck.Web.Domain
