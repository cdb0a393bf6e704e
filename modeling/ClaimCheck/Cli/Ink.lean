/-!
# Coloured text

Text for a terminal in a colour of its own.  An end of colour inside the text is followed by a new
start, so the colour goes on to the end of the text.
-/

namespace ClaimCheck.Cli

/-- The colours of marks and names. -/
inductive Ink where
  | boldGreen
  | green
  | yellow
  | cyan
deriving DecidableEq, Repr

namespace Ink

/-- The start of a colour. -/
def start : Ink → String
  | boldGreen => "\x1b[1;32m"
  | green => "\x1b[32m"
  | yellow => "\x1b[33m"
  | cyan => "\x1b[36m"

/-- The end of any colour. -/
def stop : String := "\x1b[0m"

/-- A text in a colour, if there are colours. -/
def paint (ink : Ink) (isColored : Bool) (text : String) : String :=
  if isColored then ink.start ++ text.replace stop (stop ++ ink.start) ++ stop else text

/-- Whether variables ask for colours. -/
def isAskedBy (environment : List (String × String)) : Bool :=
  (environment.lookup "CLICOLOR_FORCE").any (· ≠ "0")

end Ink

end ClaimCheck.Cli
