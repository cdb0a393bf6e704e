import ClaimCheck.Locator

/-!
# Bodies

What is put on a channel: the text itself, or an envelope that names the blob which holds the text.
An envelope is an object with the member `claim_check`, whose value is the blob's path.
-/

namespace ClaimCheck

open Json

/-- The member of an envelope that holds the path. -/
def claimCheckLabel : String := "claim_check"

/-- A body to send: the text itself, or the place where it is kept. -/
inductive EncodedBody where
  | inline (text : String)
  | claimCheck (locator : Locator)
deriving DecidableEq, Repr

namespace EncodedBody

/-- The envelope that names a blob. -/
def envelope (l : Locator) : Value := .object [(claimCheckLabel, .string l.path)]

/-- The place of the text, if it is kept elsewhere. -/
def locator? : EncodedBody → Option Locator
  | inline _ => none
  | claimCheck l => some l

/-- The text that goes on the channel. -/
def text : EncodedBody → String
  | inline text => text
  | claimCheck l => (envelope l).compact

end EncodedBody

/-- What a body that was received turns out to be. -/
inductive ReceivedBody where
  | notJson
  | otherJson
  | claimCheck (path : String)
deriving DecidableEq, Repr

/-- A claim check whose value is no string. -/
inductive ReceivedBody.Fault where
  | claimCheckNotText
deriving DecidableEq, Repr

/-- The wording of a fault. -/
def ReceivedBody.Fault.message : ReceivedBody.Fault → String
  | .claimCheckNotText => "claim-check field is not a string"

/-- What a document value is as a body. -/
def ReceivedBody.ofValue (value : Value) : Except Fault ReceivedBody :=
  match value.member? claimCheckLabel with
  | none => .ok .otherJson
  | some (.string path) => .ok (.claimCheck path)
  | some _ => .error .claimCheckNotText

/-- What a text is as a body. -/
def ReceivedBody.ofText (text : String) : Except Fault ReceivedBody :=
  match Value.parse text with
  | .error _ => .ok .notJson
  | .ok value => ofValue value

end ClaimCheck
