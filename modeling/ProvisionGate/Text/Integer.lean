/-!
# Signed integers as text

An integer is written as one optional sign and one or more ASCII digits.  Leading zeros are
allowed, and the value has to fit in sixty-four bits.
-/

namespace ProvisionGate.Text

/-- The value of an ASCII digit. -/
def digitValue? (c : Char) : Option Nat :=
  if c.isDigit then some (c.toNat - '0'.toNat) else none

/-- Reads decimal digits onto the number `value` read so far. -/
def digitsOnto (value : Nat) : List Char → Option Nat
  | [] => some value
  | c :: rest => (digitValue? c).bind fun d => digitsOnto (value * 10 + d) rest

/-- The number written by one or more decimal digits. -/
def natural? : List Char → Option Nat
  | [] => none
  | digits => digitsOnto 0 digits

/-- The integer written by an optional sign and one or more decimal digits. -/
def integer? : List Char → Option Int
  | '+' :: digits => (natural? digits).map Int.ofNat
  | '-' :: digits => (natural? digits).map fun n => -Int.ofNat n
  | digits => (natural? digits).map Int.ofNat

/-- The integers of sixty-four bits with a sign. -/
def FitsInt64 (v : Int) : Prop :=
  Int64.minValue.toInt ≤ v ∧ v ≤ Int64.maxValue.toInt

instance (v : Int) : Decidable (FitsInt64 v) :=
  inferInstanceAs (Decidable (_ ∧ _))

/-- The integer of sixty-four bits that a text writes, if it writes one. -/
def int64? (s : List Char) : Option Int64 :=
  (integer? s).bind fun v => if FitsInt64 v then some (Int64.ofInt v) else none

end ProvisionGate.Text
