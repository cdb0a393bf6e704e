import ClaimCheck.Text.Decimal

/-!
# Instants

A point in time as seconds and nanoseconds of universal time, the calendar date it falls on, and its
written form.  A second that was put in has the seconds of the one before it and at least as many
nanoseconds as a second has.
-/

namespace ClaimCheck

open Text

/-- A point in time: seconds since the start of 1970 and nanoseconds after them. -/
@[ext] structure Instant where
  seconds : Int
  nanos : Nat
deriving DecidableEq, Repr

namespace Instant

/-- Whether one instant is not before another. -/
def notBefore (a b : Instant) : Bool :=
  b.seconds < a.seconds || (a.seconds == b.seconds && b.nanos ≤ a.nanos)

/-- The instant so many seconds later. -/
def later (a : Instant) (seconds : Int) : Instant := ⟨a.seconds + seconds, a.nanos⟩

end Instant

/-! ### The calendar -/

/-- A day of the Gregorian calendar, also before its introduction. -/
structure CivilDate where
  year : Int
  month : Nat
  day : Nat
deriving DecidableEq, Repr

/-- Whether February has a day more. -/
def isLeapYear (year : Int) : Bool :=
  year % 4 == 0 && (year % 100 != 0 || year % 400 == 0)

/-- The number of days of a month. -/
def daysInMonth (year : Int) (month : Nat) : Nat :=
  if month = 2 then (if isLeapYear year then 29 else 28)
  else if month = 4 ∨ month = 6 ∨ month = 9 ∨ month = 11 then 30
  else 31

/-- Whether there is such a day. -/
def CivilDate.isValid (d : CivilDate) : Bool :=
  1 ≤ d.month && d.month ≤ 12 && 1 ≤ d.day && d.day ≤ daysInMonth d.year d.month

/-- The days since the start of 1970.  Years are counted from March here, so that a leap day ends
its year. -/
def CivilDate.toDays (d : CivilDate) : Int :=
  let year : Int := if d.month ≤ 2 then d.year - 1 else d.year
  let era := year.fdiv 400
  let yearOfEra := year - era * 400
  let monthFromMarch : Int := (d.month + 9) % 12
  let dayOfYear := (153 * monthFromMarch + 2) / 5 + d.day - 1
  let dayOfEra := yearOfEra * 365 + yearOfEra / 4 - yearOfEra / 100 + dayOfYear
  era * 146097 + dayOfEra - 719468

/-- The day that is so many days after the start of 1970. -/
def CivilDate.ofDays (days : Int) : CivilDate :=
  let shifted := days + 719468
  let era := shifted.fdiv 146097
  let dayOfEra := shifted - era * 146097
  let yearOfEra := (dayOfEra - dayOfEra / 1460 + dayOfEra / 36524 - dayOfEra / 146096) / 365
  let dayOfYear := dayOfEra - (365 * yearOfEra + yearOfEra / 4 - yearOfEra / 100)
  let monthFromMarch := (5 * dayOfYear + 2) / 153
  let day := dayOfYear - (153 * monthFromMarch + 2) / 5 + 1
  let month := if monthFromMarch < 10 then monthFromMarch + 3 else monthFromMarch - 9
  let year := yearOfEra + era * 400 + (if month ≤ 2 then 1 else 0)
  ⟨year, month.toNat, day.toNat⟩

/-! ### Written instants -/

/-- A year with four digits, or with a sign where that is not enough. -/
def yearChars (year : Int) : List Char :=
  if 0 ≤ year ∧ year ≤ 9999 then paddedDecimal 4 year.natAbs
  else (if year < 0 then '-' else '+') :: paddedDecimal 4 year.natAbs

/-- The part of a second: none, or three, six or nine digits, whichever is enough. -/
def secondPartChars (nanos : Nat) : List Char :=
  if nanos = 0 then []
  else if nanos % 1000000 = 0 then '.' :: paddedDecimal 3 (nanos / 1000000)
  else if nanos % 1000 = 0 then '.' :: paddedDecimal 6 (nanos / 1000)
  else '.' :: paddedDecimal 9 nanos

namespace Instant

/-- The written form, in universal time. -/
def toChars (t : Instant) : List Char :=
  let days := t.seconds.fdiv 86400
  let secondOfDay := (t.seconds - days * 86400).toNat
  let date := CivilDate.ofDays days
  let inserted := t.nanos / 1000000000
  yearChars date.year ++ '-' :: paddedDecimal 2 date.month ++ '-' :: paddedDecimal 2 date.day ++
    'T' :: paddedDecimal 2 (secondOfDay / 3600) ++
    ':' :: paddedDecimal 2 (secondOfDay / 60 % 60) ++
    ':' :: paddedDecimal 2 (secondOfDay % 60 + inserted) ++
    secondPartChars (t.nanos - inserted * 1000000000) ++ ['Z']

/-- The written form as text. -/
def render (t : Instant) : String := String.ofList t.toChars

end Instant

end ClaimCheck
