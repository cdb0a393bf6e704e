import ClaimCheck.Text.Hex
import ClaimCheck.Unicode.Printing

/-!
# Quoted text

Text between double quotes for messages to people: what has no visible form of its own is written
as an escape, so that any text can be told from any other.
-/

namespace ClaimCheck.Text

/-- Whether a quoted text shows a character by its number. -/
def isHidden (c : Char) : Bool :=
  if c.toNat < 0x80 then c.toNat < 0x20 || c.toNat == 0x7F
  else Unicode.graphemeExtending.contains c || Unicode.invisible.contains c

/-- How a character stands in a quoted text. -/
def quotedChar (c : Char) : List Char :=
  if c = '"' then ['\\', '"']
  else if c = '\\' then ['\\', '\\']
  else if c = '\n' then ['\\', 'n']
  else if c = '\r' then ['\\', 'r']
  else if c = '\t' then ['\\', 't']
  else if c = '\x00' then ['\\', '0']
  else if isHidden c then ['\\', 'u', '\x7b'] ++ hexNumber c.toNat ++ ['\x7d']
  else [c]

/-- A text between quotes. -/
def quoted (s : String) : String :=
  String.ofList ('"' :: s.toList.flatMap quotedChar ++ ['"'])

end ClaimCheck.Text
