/-!
# Finite binary numbers of sixty-four bits

A number is a sign, a mantissa below `2 ^ 53` and a power of two, in the one form that is normal or
has the least exponent.  Every operation computes its exact rational result and rounds it once, to
the nearest number, a tie to the even mantissa; a result beyond the largest number is none.
-/

namespace ProvisionGate

/-- The mantissa and exponent of a finite number: normal, or with the least exponent. -/
def CanonicalParts (mantissa : Nat) (exponent : Int) : Prop :=
  mantissa < 1 <<< 53 ∧ -1074 ≤ exponent ∧ exponent ≤ 971 ∧
    (mantissa < 1 <<< 52 → exponent = -1074)

instance (mantissa : Nat) (exponent : Int) : Decidable (CanonicalParts mantissa exponent) :=
  inferInstanceAs (Decidable (_ ∧ _ ∧ _ ∧ _))

/-- The number `mantissa * 2 ^ exponent`, with a sign that zero has as well. -/
structure Binary64 where
  negative : Bool
  mantissa : Nat
  exponent : Int
  canonical : CanonicalParts mantissa exponent
  deriving DecidableEq

namespace Binary64

/-- The number with the given parts, if they are those of a finite number. -/
def ofParts? (negative : Bool) (mantissa : Nat) (exponent : Int) : Option Binary64 :=
  if canonical : CanonicalParts mantissa exponent then
    some ⟨negative, mantissa, exponent, canonical⟩
  else none

/-- Zero. -/
def zero : Binary64 := ⟨false, 0, -1074, by decide⟩

/-- The number is zero, of either sign. -/
def isZero (x : Binary64) : Bool :=
  x.mantissa == 0

/-- The number with the other sign. -/
def neg (x : Binary64) : Binary64 :=
  { x with negative := !x.negative }

/-- The integer nearest to `num / den`, a tie to the even one. -/
def roundRatio (num den : Nat) : Nat :=
  let quotient := num / den
  let twice := 2 * (num % den)
  if twice < den then quotient
  else if den < twice then quotient + 1
  else quotient + quotient % 2

/-- The ratio `num / den * 2 ^ power` as a numerator and a denominator. -/
def shiftRatio (num den : Nat) (power : Int) : Nat × Nat :=
  (num <<< power.toNat, den <<< (-power).toNat)

/-- The exponent of the number nearest to `num / den`, before rounding. -/
def exponentFor (num den : Nat) : Int :=
  let guess : Int := (Nat.log2 num : Int) - Nat.log2 den - 52
  let (shifted, unit) := shiftRatio num den (-guess)
  let exponent := if shifted < unit <<< 52 then guess - 1 else guess
  max exponent (-1074)

/-- The number nearest to `num / den * 2 ^ power`, if it is finite. -/
def ofRatio? (negative : Bool) (num den : Nat) (power : Int) : Option Binary64 :=
  if num = 0 then some { zero with negative }
  else
    let (num, den) := shiftRatio num den power
    let exponent := exponentFor num den
    let (shifted, unit) := shiftRatio num den (-exponent)
    let mantissa := roundRatio shifted unit
    if mantissa = 1 <<< 53 then ofParts? negative (1 <<< 52) (exponent + 1)
    else ofParts? negative mantissa exponent

/-- The number nearest to a natural number, if it is finite. -/
def ofNat? (n : Nat) : Option Binary64 :=
  ofRatio? false n 1 0

/-- The product, rounded once. -/
def mul? (x y : Binary64) : Option Binary64 :=
  ofRatio? (x.negative != y.negative) (x.mantissa * y.mantissa) 1 (x.exponent + y.exponent)

/-- The quotient by a number that is not zero, rounded once. -/
def div? (x y : Binary64) : Option Binary64 :=
  if y.isZero then none
  else ofRatio? (x.negative != y.negative) x.mantissa y.mantissa (x.exponent - y.exponent)

end Binary64

end ProvisionGate
