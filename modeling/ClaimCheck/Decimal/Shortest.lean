import ClaimCheck.Decimal.Double

/-!
# The fewest digits that read back

A `Double` stands for every real number that rounds to it.  `Double.shortest` finds the decimal with
the fewest digits among those numbers, and the nearest to the value of those with as few.
-/

namespace ClaimCheck

/-- A positive decimal fraction: `digits * 10 ^ exponent`. -/
structure DecimalDigits where
  digits : Nat
  exponent : Int
deriving DecidableEq, Repr

namespace Double

/-! ### Scaling

The value and the ends of the interval that rounds to it are whole multiples of a quarter of the last
binary place: `4 * mantissa` and its neighbours two (or one) above and below. -/

/-- The factor that turns a multiple of `2 ^ binary` into one of `10 ^ decimal`, as a fraction. -/
def scale (binary decimal : Int) : Nat × Nat :=
  (Nat.pow 2 binary.toNat * Nat.pow 10 (-decimal).toNat,
    Nat.pow 2 (-binary).toNat * Nat.pow 10 decimal.toNat)

/-- The lower end of the interval, in quarters of the last binary place. -/
def lowerQuarter (x : Double) : Nat := 4 * x.mantissa - (if x.hasNearLower then 1 else 2)

/-- The upper end of the interval, in quarters of the last binary place. -/
def upperQuarter (x : Double) : Nat := 4 * x.mantissa + 2

/-- The power of ten next above the value: it is below `10 ^ magnitude`, and not below a tenth of it
except by the rounding of the estimate, which the search allows for. -/
def magnitude (x : Double) : Int :=
  let (num, den) := scale (x.exponent) 0
  let value := x.mantissa * num
  -- `guess` is at most one above the true magnitude and never below it
  let guess : Int := ((Nat.log2 x.mantissa : Int) + x.exponent + 1) * 30103 / 100000 + 1
  let holds (k : Int) : Bool := value * Nat.pow 10 (-k).toNat < den * Nat.pow 10 k.toNat
  if holds (guess - 2) then guess - 2
  else if holds (guess - 1) then guess - 1
  else if holds guess then guess
  else guess + 1

/-- The multiple of `10 ^ place` in the interval that is nearest to the value, an even one of two as
near. -/
def nearestAt (x : Double) (place : Int) : Option DecimalDigits :=
  let (num, den) := scale (x.exponent - 2) place
  let value := 4 * x.mantissa * num
  let below := value / den
  let above := below + 1
  let closed := x.mantissa % 2 == 0
  let lowest := x.lowerQuarter * num
  let highest := x.upperQuarter * num
  let belowIn := below ≠ 0 && (lowest < below * den || (closed && lowest == below * den))
  let aboveIn := above * den < highest || (closed && highest == above * den)
  let toBelow := value - below * den
  let toAbove := above * den - value
  if belowIn && aboveIn then
    if toBelow < toAbove || (toBelow == toAbove && below % 2 == 0) then some ⟨below, place⟩
    else some ⟨above, place⟩
  else if belowIn then some ⟨below, place⟩
  else if aboveIn then some ⟨above, place⟩
  else none

/-- Tries places from the highest downwards. -/
def firstPlace (x : Double) (top : Int) : (tries : Nat) → (used : Nat) → Option DecimalDigits
  | 0, _ => none
  | tries + 1, used =>
    match x.nearestAt (top - used) with
    | some found => some found
    | none => firstPlace x top tries (used + 1)

/-- Takes zeros off the end of the digits. -/
def trimZeros : (fuel : Nat) → DecimalDigits → DecimalDigits
  | 0, d => d
  | fuel + 1, d =>
    if d.digits ≠ 0 ∧ d.digits % 10 = 0 then trimZeros fuel ⟨d.digits / 10, d.exponent + 1⟩ else d

/-- The fewest digits that read back as the absolute value of a number other than zero. -/
def shortest (x : Double) : DecimalDigits :=
  trimZeros 20 ((x.firstPlace x.magnitude 20 1).getD ⟨4 * x.mantissa, 0⟩)

end Double

end ClaimCheck
