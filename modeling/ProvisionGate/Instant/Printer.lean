import ProvisionGate.Instant

/-!
# Instants as text

An instant is written in the time of the zero meridian.  The year has four digits, or a sign and at
least four digits if it needs more; the fraction has as many groups of three digits as it needs.
-/

namespace ProvisionGate.Instant

/-- A number with zeros before it up to a width. -/
def padded (width n : Nat) : List Char :=
  let digits := Nat.toDigits 10 n
  List.replicate (width - digits.length) '0' ++ digits

/-- A year. -/
def yearText (year : Int) : List Char :=
  if 0 ≤ year ∧ year ≤ 9999 then padded 4 year.toNat
  else (if year < 0 then '-' else '+') :: padded 4 year.natAbs

/-- The fraction of a second. -/
def fractionText (nanos : Nat) : List Char :=
  if nanos = 0 then []
  else if nanos % 1000000 = 0 then '.' :: padded 3 (nanos / 1000000)
  else if nanos % 1000 = 0 then '.' :: padded 6 (nanos / 1000)
  else '.' :: padded 9 nanos

/-- The text of an instant. -/
def toText (t : Instant) : List Char :=
  let date := CivilDate.ofDays t.day
  let second := t.second % 60 + t.nanos / 1_000_000_000
  yearText date.year ++ '-' :: padded 2 date.month ++ '-' :: padded 2 date.day ++
    'T' :: padded 2 (t.second / 3600) ++ ':' :: padded 2 (t.second / 60 % 60) ++
    ':' :: padded 2 second ++ fractionText (t.nanos % 1_000_000_000) ++ ['Z']

/-- The text of an instant as a string. -/
def text (t : Instant) : String :=
  String.ofList t.toText

end ProvisionGate.Instant
