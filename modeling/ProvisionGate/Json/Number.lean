import ProvisionGate.Json.Basic
import ProvisionGate.Binary64.Shortest
import ProvisionGate.Text.Integer

/-!
# JSON numbers as text

A literal without fraction and exponent that fits in sixty-four bits is an integer; minus zero is
not one.  Every other literal is a binary number.  Its digits are taken as one integer of
sixty-four bits, digits that no longer fit are dropped, and that integer is scaled by one power of
ten.
-/

namespace ProvisionGate.Number

/-- Takes digits onto a significand as long as it fits in sixty-four bits. -/
def takeDigits (significand : Nat) : List Nat → Nat × List Nat
  | [] => (significand, [])
  | d :: rest =>
    if significand * 10 + d < UInt64.size then takeDigits (significand * 10 + d) rest
    else (significand, d :: rest)

/-- Divides by `10 ^ 308` until the power that is left is at least `-308`; three divisions make
any significand zero. -/
def scaleDown : Nat → Binary64 → Int → Option (Binary64 × Int)
  | 0, x, power => some (x, power)
  | bound + 1, x, power =>
    if -308 ≤ power ∨ x.isZero then some (x, power)
    else do
      let unit ← Binary64.ofNat? (Nat.pow 10 308)
      scaleDown bound (← x.div? unit) (power + 308)

/-- The binary number `significand * 10 ^ power`, rounded at every step. -/
def scale? (significand : Nat) (power : Int) : Option Binary64 := do
  let (x, power) ← scaleDown 3 (← Binary64.ofNat? significand) power
  if x.isZero then some x
  else if 308 < power then none
  else
    let unit ← Binary64.ofNat? (Nat.pow 10 power.natAbs)
    if 0 ≤ power then x.mul? unit else x.div? unit

/-- The number that a literal writes: its sign, its digits before and after the point, and its
exponent.  None if it is beyond the largest number. -/
def ofLiteral? (negative : Bool) (whole fraction : List Nat) (exponent : Option Int) :
    Option Number :=
  let (significand, dropped) := takeDigits 0 whole
  let integral := dropped.isEmpty && fraction.isEmpty && exponent.isNone
  if integral && !negative then some (int significand)
  else if integral && 0 < significand && significand ≤ 1 <<< 63 then some (int (-significand))
  else
    let (significand, unread) := takeDigits significand fraction
    let power := (dropped.length : Int) - (fraction.length - unread.length) + exponent.getD 0
    (scale? significand power).map fun x => float (if negative then x.neg else x)

/-- The digits of a natural number. -/
def digits (n : Nat) : List Char :=
  Nat.toDigits 10 n

/-- An integer in decimal digits. -/
def intText : Int → List Char
  | .ofNat n => digits n
  | .negSucc n => '-' :: digits (n + 1)

/-- A positive decimal with its point between its digits, or with zeros put up to the point. -/
def plainText (d : Decimal) : List Char :=
  let shown := digits d.digits
  let before := (shown.length : Int) + d.power
  if 0 ≤ d.power then shown ++ List.replicate d.power.toNat '0' ++ ['.', '0']
  else if 0 < before then shown.take before.toNat ++ '.' :: shown.drop before.toNat
  else ['0', '.'] ++ List.replicate (-before).toNat '0' ++ shown

/-- A positive decimal with its point after the first digit, and its exponent with a sign. -/
def scientificText (d : Decimal) : List Char :=
  let shown := digits d.digits
  let exponent := (shown.length : Int) + d.power - 1
  let sign := if exponent < 0 then '-' else '+'
  let fraction := if shown.length ≤ 1 then [] else '.' :: shown.drop 1
  shown.take 1 ++ fraction ++ 'e' :: sign :: digits exponent.natAbs

/-- Binary numbers have the fewest digits that read back, and stand in plain notation from
`10 ^ -5` up to below `10 ^ 16`. -/
def floatText (x : Binary64) : List Char :=
  let sign := if x.negative then ['-'] else []
  if x.isZero then sign ++ ['0', '.', '0']
  else
    let d := x.shortest
    let exponent := ((digits d.digits).length : Int) + d.power - 1
    sign ++ if -5 ≤ exponent ∧ exponent < 16 then plainText d else scientificText d

/-- The text of a number. -/
def toText : Number → List Char
  | int value => intText value
  | float value => floatText value

end ProvisionGate.Number
