/-!
# Instants

An instant is a day of the civil calendar, counted from 1970-01-01, the second of that day, and the
nanoseconds after it.  A leap second is the last second of a minute with a thousand million
nanoseconds more.
-/

namespace ProvisionGate

/-- A date of the civil calendar, which goes on unchanged before its introduction. -/
structure CivilDate where
  year : Int
  month : Nat
  day : Nat
  deriving DecidableEq

namespace CivilDate

/-- Years divisible by four are leap years, whole centuries only every fourth. -/
def isLeapYear (year : Int) : Bool :=
  year % 4 == 0 && (year % 100 != 0 || year % 400 == 0)

/-- The number of days of a month. -/
def daysInMonth (year : Int) (month : Nat) : Nat :=
  if month = 2 then if isLeapYear year then 29 else 28
  else if month = 4 ∨ month = 6 ∨ month = 9 ∨ month = 11 then 30
  else 31

/-- The date exists. -/
def IsValid (date : CivilDate) : Prop :=
  1 ≤ date.month ∧ date.month ≤ 12 ∧ 1 ≤ date.day ∧
    date.day ≤ daysInMonth date.year date.month

instance (date : CivilDate) : Decidable date.IsValid :=
  inferInstanceAs (Decidable (_ ∧ _ ∧ _ ∧ _))

/-- The days from 1970-01-01 to a date.  Years are counted from March on, in cycles of four
hundred years. -/
def toDays (date : CivilDate) : Int :=
  let year := if date.month ≤ 2 then date.year - 1 else date.year
  let cycle := year.fdiv 400
  let yearOfCycle := year - cycle * 400
  let dayOfYear : Int := (153 * ((date.month + 9) % 12) + 2) / 5 + date.day - 1
  let dayOfCycle := yearOfCycle * 365 + yearOfCycle / 4 - yearOfCycle / 100 + dayOfYear
  cycle * 146097 + dayOfCycle - 719468

/-- The date that lies a number of days after 1970-01-01. -/
def ofDays (days : Int) : CivilDate :=
  let shifted := days + 719468
  let cycle := shifted.fdiv 146097
  let dayOfCycle := (shifted - cycle * 146097).toNat
  let yearOfCycle :=
    (dayOfCycle - dayOfCycle / 1460 + dayOfCycle / 36524 - dayOfCycle / 146096) / 365
  let dayOfYear := dayOfCycle - (365 * yearOfCycle + yearOfCycle / 4 - yearOfCycle / 100)
  let monthFromMarch := (5 * dayOfYear + 2) / 153
  let month := if monthFromMarch < 10 then monthFromMarch + 3 else monthFromMarch - 9
  { year := cycle * 400 + yearOfCycle + if month ≤ 2 then 1 else 0
    month
    day := dayOfYear - (153 * monthFromMarch + 2) / 5 + 1 }

end CivilDate

/-- A point in time. -/
structure Instant where
  day : Int
  second : Nat
  nanos : Nat
  deriving DecidableEq

namespace Instant

/-- The years whose days are dates. -/
def IsYear (year : Int) : Prop :=
  -262143 ≤ year ∧ year ≤ 262142

instance (year : Int) : Decidable (IsYear year) :=
  inferInstanceAs (Decidable (_ ∧ _))

/-- The instant at which a clock that is `offset` seconds ahead shows a date and a time, if its
own date exists and lies in the years that are dates. -/
def ofLocal? (date : CivilDate) (second nanos : Nat) (offset : Int) : Option Instant :=
  let shifted := (second : Int) - offset
  let day := date.toDays + shifted.fdiv 86400
  if date.IsValid ∧ IsYear date.year ∧ IsYear (CivilDate.ofDays day).year then
    some ⟨day, (shifted.fmod 86400).toNat, nanos⟩
  else none

end Instant

end ProvisionGate
