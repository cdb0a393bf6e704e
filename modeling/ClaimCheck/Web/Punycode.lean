/-!
# Punycode

Labels of domain names that hold other characters than ASCII are written with ASCII letters and
digits: first the characters that are ASCII, then, for each other code point in increasing order, how
many places have to be passed before it is put in.  The distances are numbers of base 36 with digits
of variable weight, which adapt to the distances seen so far.
-/

namespace ClaimCheck.Web.Punycode

/-- The digit of a value below 36. -/
def digit (n : Nat) : Char :=
  if n < 26 then Char.ofNat ('a'.toNat + n) else Char.ofNat ('0'.toNat + (n - 26))

/-- The value of a digit. -/
def digitValue? (c : Char) : Option Nat :=
  if 'a' ≤ c ∧ c ≤ 'z' then some (c.toNat - 'a'.toNat)
  else if 'A' ≤ c ∧ c ≤ 'Z' then some (c.toNat - 'A'.toNat)
  else if '0' ≤ c ∧ c ≤ '9' then some (c.toNat - '0'.toNat + 26)
  else none

/-- The digits below this value end a number, at a place and with a bias. -/
def threshold (place bias : Nat) : Nat :=
  if place ≤ bias then 1 else if bias + 26 ≤ place then 26 else place - bias

/-- Divides by 35 until at most 455 is left, counting the steps by 36. -/
def shrink (delta count : Nat) : Nat × Nat :=
  if 455 < delta then shrink (delta / 35) (count + 36) else (delta, count)
termination_by delta
decreasing_by exact Nat.div_lt_self (by omega) (by omega)

/-- The bias after a distance, when so many code points are in place. -/
def adapt (delta points : Nat) (isFirst : Bool) : Nat :=
  let damped := if isFirst then delta / 700 else delta / 2
  let (rest, count) := shrink (damped + damped / points) 0
  count + 36 * rest / (rest + 38)

/-! ### Decoding -/

/-- The state of decoding: the code points so far, the last code point put in, where, the bias, and
of the distance that is being read the value, the weight of its next digit and its place. -/
structure Decoding where
  codes : List Nat
  code : Nat := 128
  index : Nat := 0
  bias : Nat := 72
  distance : Nat := 0
  weight : Nat := 1
  place : Nat := 36

namespace Decoding

/-- Puts in a code point after a distance was read. -/
def put (s : Decoding) (distance : Nat) : Option Decoding :=
  let count := s.codes.length + 1
  let total := s.index + distance
  let code := s.code + total / count
  let index := total % count
  if 0x10FFFF < code ∨ (0xD800 ≤ code ∧ code ≤ 0xDFFF) then none
  else
    some
      { codes := s.codes.take index ++ code :: s.codes.drop index
        code := code
        index := index + 1
        bias := adapt distance count (s.codes.all (· < 128)) }

/-- Reads one digit. -/
def step (s : Decoding) (c : Char) : Option Decoding := do
  let value ← digitValue? c
  let distance := s.distance + value * s.weight
  let limit := threshold s.place s.bias
  if value < limit then s.put distance
  else
    some { s with distance, weight := s.weight * (36 - limit), place := s.place + 36 }

end Decoding

/-- The code points that a label stands for.  A hyphen that ends the part in ASCII is no digit. -/
def decode? (label : List Char) : Option (List Nat) :=
  let digits := (label.reverse.takeWhile (· ≠ '-')).reverse
  let front := label.take (label.length - digits.length)
  let (basic, digits) :=
    match front with
    | [] => ([], digits)
    | [_] => ([], label)
    | front => (front.dropLast, digits)
  match digits.foldlM Decoding.step { codes := basic.map Char.toNat } with
  | some s => if s.weight = 1 then some s.codes else none
  | none => none

/-! ### Encoding -/

/-- The digits of a distance from a place on; `fuel` bounds their number. -/
def distanceDigits (bias : Nat) : (fuel place distance : Nat) → List Char
  | 0, _, _ => []
  | fuel + 1, place, distance =>
    let limit := threshold place bias
    if distance < limit then [digit distance]
    else
      digit (limit + (distance - limit) % (36 - limit)) ::
        distanceDigits bias fuel (place + 36) ((distance - limit) / (36 - limit))

/-- The state of encoding: what is written, the code point that is being placed, the distance since
the last one, the number of code points placed and the bias. -/
structure Encoding where
  written : List Char
  code : Nat := 128
  distance : Nat := 0
  placed : Nat
  bias : Nat := 72
  isFirst : Bool := true

namespace Encoding

/-- Passes one code point of the label. -/
def pass (s : Encoding) (code : Nat) : Encoding :=
  if code < s.code then { s with distance := s.distance + 1 }
  else if code = s.code then
    { s with
      written := s.written ++ distanceDigits s.bias (Nat.log2 s.distance + 2) 36 s.distance
      distance := 0
      placed := s.placed + 1
      bias := adapt s.distance (s.placed + 1) s.isFirst
      isFirst := false }
  else s

/-- Places all occurrences of a code point. -/
def round (label : List Nat) (s : Encoding) (code : Nat) : Encoding :=
  let s := { s with distance := s.distance + (code - s.code) * (s.placed + 1), code }
  let s := label.foldl pass s
  { s with distance := s.distance + 1, code := code + 1 }

end Encoding

/-- The label that stands for code points. -/
def encode (label : List Nat) : List Char :=
  let basic := label.filter (· < 128)
  let others := ((label.filter (128 ≤ ·)).mergeSort (· ≤ ·)).eraseDups
  let front := basic.map Char.ofNat ++ (if basic.isEmpty then [] else ['-'])
  (others.foldl (Encoding.round label) { written := front, placed := basic.length }).written

end ClaimCheck.Web.Punycode
