import ProvisionGate.Binary64

/-!
# The fewest decimal digits that read back

Of the decimals that round to a given number, those with the fewest digits are looked at, and of
these the one nearest to the number is taken.  It is found on the grids of one, two, and up to
seventeen digits: on each grid only the two neighbours of the number can be the nearest.
-/

namespace ProvisionGate

/-- A positive decimal `digits * 10 ^ power`. -/
structure Decimal where
  digits : Nat
  power : Int
  deriving DecidableEq

namespace Decimal

/-- The number of decimal digits of a natural number; zero has none. -/
def digitCount (n : Nat) : Nat :=
  if n = 0 then 0 else (Nat.toDigits 10 n).length

/-- The least `p` with `num / den < 10 ^ p`. -/
def leadingPower (num den : Nat) : Int :=
  if den ≤ num then digitCount (num / den)
  else 1 - digitCount ((den + num - 1) / num - 1)

/-- The decimal without trailing zeros, dropping at most `bound` of them. -/
def stripZeros : Nat → Decimal → Decimal
  | 0, d => d
  | bound + 1, d =>
    if d.digits ≠ 0 ∧ d.digits % 10 = 0 then stripZeros bound ⟨d.digits / 10, d.power + 1⟩ else d

end Decimal

namespace Binary64

/-- A number without its sign and the decimals that round to it, as numerators over one common
denominator. -/
structure RoundingInterval where
  low : Nat
  value : Nat
  high : Nat
  den : Nat
  closed : Bool

/-- The decimals that round to a number: up to half way to its neighbours, the ends included when
the mantissa is even. -/
def roundingInterval (x : Binary64) : RoundingInterval :=
  let (scale, den) := shiftRatio 1 1 (x.exponent - 2)
  let below := if x.mantissa = 1 <<< 52 ∧ x.exponent ≠ -1074 then 1 else 2
  { low := (4 * x.mantissa - below) * scale
    value := 4 * x.mantissa * scale
    high := (4 * x.mantissa + 2) * scale
    den
    closed := x.mantissa % 2 = 0 }

namespace RoundingInterval

/-- The decimal rounds to the number. -/
def contains (interval : RoundingInterval) (d : Decimal) : Bool :=
  let num := d.digits * Nat.pow 10 d.power.toNat * interval.den
  let unit := Nat.pow 10 (-d.power).toNat
  if interval.closed then interval.low * unit ≤ num && num ≤ interval.high * unit
  else interval.low * unit < num && num < interval.high * unit

/-- The neighbour of the number on the grid of a power of ten that rounds to it and is nearest. -/
def nearest? (interval : RoundingInterval) (power : Int) : Option Decimal :=
  let num := interval.value * Nat.pow 10 (-power).toNat
  let unit := interval.den * Nat.pow 10 power.toNat
  let low : Decimal := ⟨num / unit, power⟩
  let high : Decimal := ⟨num / unit + 1, power⟩
  let rest := num % unit
  let lowFirst := 2 * rest < unit || (2 * rest == unit && low.digits % 2 == 0)
  let (first, second) := if lowFirst then (low, high) else (high, low)
  if interval.contains first then some first
  else if interval.contains second then some second
  else none

/-- Tries grids of ever more digits, starting at a power of ten. -/
def search (interval : RoundingInterval) : Nat → Int → Option Decimal
  | 0, _ => none
  | count + 1, power =>
    match interval.nearest? power with
    | some d => some d
    | none => search interval count (power - 1)

end RoundingInterval

/-- The shortest decimal that rounds to a number that is not zero, its sign left aside. -/
def shortest (x : Binary64) : Decimal :=
  let interval := x.roundingInterval
  let power := Decimal.leadingPower interval.value interval.den
  match interval.search 17 (power - 1) with
  | some d => d.stripZeros 17
  | none => ⟨0, 0⟩

end Binary64

end ProvisionGate
