import ClaimCheck.Decimal.Double

/-!
# Document values

The values of a JSON document.  Whole numbers are those of signed and unsigned 64-bit words; every
other number is a 64-bit binary fraction.  An object keeps its members as they are listed: a value
that was read lists them by increasing key.
-/

namespace ClaimCheck.Json

/-- A whole number that a signed or an unsigned 64-bit word holds. -/
@[ext] structure Whole where
  value : Int
  lower : -0x8000000000000000 ≤ value
  upper : value < 0x10000000000000000
deriving DecidableEq

/-- The whole number that a word holds. -/
def Whole.ofWord (word : UInt64) : Whole where
  value := word.toNat
  lower := by omega
  upper := by
    have := word.toNat_lt
    omega

/-- A document value. -/
inductive Value where
  | null
  | bool (value : Bool)
  | whole (value : Whole)
  | fraction (value : Double)
  | string (value : String)
  | array (items : List Value)
  | object (members : List (String × Value))

namespace Value

/-- The text of a string value. -/
def string? : Value → Option String
  | string text => some text
  | _ => none

/-- The first member of an object with this key. -/
def member? (key : String) : Value → Option Value
  | object members => members.lookup key
  | _ => none

/-- The document value of an optional text. -/
def ofText? : Option String → Value
  | some text => string text
  | none => null

end Value

end ClaimCheck.Json
