import ClaimCheck.Text.Decimal
import ClaimCheck.Text.Hex
import ClaimCheck.Text.Split

/-!
# Numeric addresses

Which hosts are addresses of version 4 or 6 of the internet protocol.  Only whether they are is of
interest here: a blob endpoint has a name.
-/

namespace ClaimCheck.Web

open Text

/-! ### Version 4 -/

/-- A part of a version 4 address: a number of 32 bits, or one that is too large. -/
inductive Part where
  | fits (value : Nat)
  | tooLarge
deriving DecidableEq

/-- The value that digits of a base stand for. -/
def valueInBase (base : Nat) (digits : List Char) : Nat :=
  digits.foldl (fun n c => n * base + (hexValue? c).getD 0) 0

/-- The number that the digits of a base stand for, if all are such digits. -/
def partOfDigits? (base : Nat) (digits : List Char) : Option Part :=
  if digits.all fun c => (hexValue? c).any (· < base) then
    let n := valueInBase base digits
    some (if n < 0x100000000 then .fits n else .tooLarge)
  else none

/-- The number that a part stands for: hexadecimal after `0x`, octal after another zero. -/
def part? : List Char → Option Part
  | [] => none
  | ['0'] => some (.fits 0)
  | '0' :: 'x' :: digits => partOfDigits? 16 digits
  | '0' :: 'X' :: digits => partOfDigits? 16 digits
  | '0' :: digits => partOfDigits? 8 digits
  | digits => partOfDigits? 10 digits

/-- The parts of a host; an empty one at the end does not count. -/
def addressParts (host : List Char) : List (List Char) :=
  let parts := pieces '.' host
  if parts.getLast? = some [] then parts.dropLast else parts

/-- Whether the last part of a host is a number, so that the host must be a version 4 address. -/
def endsInNumber (host : List Char) : Bool :=
  match (addressParts host).getLast? with
  | none => false
  | some last => (!last.isEmpty && last.all isDigit) || (part? last).isSome

/-- Whether a host is a version 4 address: up to four numbers, the last of which fills the places
that are left. -/
def isVersion4 (host : List Char) : Bool :=
  let parts := addressParts host
  match parts.mapM part? with
  | none => false
  | some numbers =>
    parts.length ≤ 4 &&
      (match numbers.getLast? with
        | some (.fits last) => last < Nat.pow 2 (32 - 8 * (numbers.length - 1))
        | _ => false) &&
      numbers.dropLast.all fun
        | .fits n => n ≤ 255
        | .tooLarge => false

/-! ### Version 6 -/

/-- Whether a text is a number of at most 255 without a leading zero. -/
def isOctet (digits : List Char) : Bool :=
  !digits.isEmpty && digits.all isDigit && (digits == ['0'] || digits.head? != some '0') &&
    valueOfDigits 0 digits ≤ 255

/-- Whether a text is a version 4 address as it may end one of version 6. -/
def isDottedQuad (cs : List Char) : Bool :=
  let parts := pieces '.' cs
  parts.length == 4 && parts.all isOctet

/-- Whether a text goes on with the pieces of a version 6 address, for as many as there is room; two
colons in a row stand for any number of zeros, once. -/
def isVersion6From : (room : Nat) → (shortened : Bool) → List Char → Bool
  | room, shortened, [] => shortened || room == 0
  | 0, _, _ :: _ => false
  | room + 1, shortened, ':' :: rest => !shortened && isVersion6From room true rest
  | room + 1, shortened, c :: rest =>
    let digits := ((c :: rest).take 4).takeWhile fun c => (hexValue? c).isSome
    match (c :: rest).drop digits.length with
    | [] => isVersion6From room shortened []
    | '.' :: _ =>
      !digits.isEmpty && 1 ≤ room && isDottedQuad (c :: rest) && (shortened || room == 1)
    | [':'] => false
    | ':' :: rest => isVersion6From room shortened rest
    | _ => false

/-- Whether a text is a version 6 address. -/
def isVersion6 : List Char → Bool
  | ':' :: ':' :: rest => isVersion6From 7 true rest
  | ':' :: _ => false
  | [_] => false
  | cs => isVersion6From 8 false cs

end ClaimCheck.Web
