import ProvisionGate.Text.Integer

/-!
# Texts that write integers

What the readers of numbers accept is told without them: one or more digits, with or without a
sign, and the value that the digits have by their places.
-/

namespace ProvisionGate.Text

/-- Decimal digits write a number. -/
structure Numeral (digits : List Char) (n : Nat) : Prop where
  full : digits ≠ []
  digit : ∀ c ∈ digits, c.isDigit = true
  value : Nat.ofDigitChars 10 digits 0 = n

/-- A text writes an integer. -/
inductive Writes : List Char → Int → Prop
  | unsigned {digits : List Char} {n : Nat} (numeral : Numeral digits n) : Writes digits n
  | plus {digits : List Char} {n : Nat} (numeral : Numeral digits n) : Writes ('+' :: digits) n
  | minus {digits : List Char} {n : Nat} (numeral : Numeral digits n) : Writes ('-' :: digits) (-n)

variable {s digits : List Char}

theorem digitsOnto_eq_some_iff {start n : Nat} :
    digitsOnto start digits = some n ↔
      (∀ c ∈ digits, c.isDigit = true) ∧ Nat.ofDigitChars 10 digits start = n := by
  induction digits generalizing start with
  | nil => simp [digitsOnto]
  | cons c rest ih =>
    rw [digitsOnto, digitValue?, Nat.ofDigitChars_cons]
    by_cases digit : c.isDigit = true
    · rw [if_pos digit, Option.bind_some, ih, Nat.mul_comm start 10]
      simp [digit]
    · rw [if_neg digit]
      simp [digit]

theorem natural?_eq_some_iff {n : Nat} : natural? digits = some n ↔ Numeral digits n := by
  constructor
  · intro read
    cases digits with
    | nil => cases read
    | cons c rest =>
      obtain ⟨digit, value⟩ := digitsOnto_eq_some_iff.1 read
      exact ⟨List.cons_ne_nil c rest, digit, value⟩
  · rintro ⟨full, digit, value⟩
    cases digits with
    | nil => exact absurd rfl full
    | cons c rest => exact digitsOnto_eq_some_iff.2 ⟨digit, value⟩

/-- A sign is no digit. -/
theorem not_numeral_of_sign {c : Char} (sign : c.isDigit = false) (n : Nat) :
    ¬ Numeral (c :: digits) n := by
  intro numeral
  have digit := numeral.digit c List.mem_cons_self
  rw [sign] at digit
  cases digit

theorem integer?_eq_some_iff {v : Int} : integer? s = some v ↔ Writes s v := by
  constructor
  · intro read
    unfold integer? at read
    split at read
    · obtain ⟨n, number, rfl⟩ := Option.map_eq_some_iff.1 read
      exact .plus (natural?_eq_some_iff.1 number)
    · obtain ⟨n, number, rfl⟩ := Option.map_eq_some_iff.1 read
      exact .minus (natural?_eq_some_iff.1 number)
    · obtain ⟨n, number, rfl⟩ := Option.map_eq_some_iff.1 read
      exact .unsigned (natural?_eq_some_iff.1 number)
  · intro writes
    cases writes with
    | @unsigned _ n numeral =>
      unfold integer?
      split
      · exact absurd numeral (not_numeral_of_sign rfl n)
      · exact absurd numeral (not_numeral_of_sign rfl n)
      · exact Option.map_eq_some_iff.2 ⟨n, natural?_eq_some_iff.2 numeral, rfl⟩
    | @plus _ n numeral =>
      exact Option.map_eq_some_iff.2 ⟨n, natural?_eq_some_iff.2 numeral, rfl⟩
    | @minus _ n numeral =>
      exact Option.map_eq_some_iff.2 ⟨n, natural?_eq_some_iff.2 numeral, rfl⟩

/-- A text writes one integer only. -/
theorem Writes.unique {v w : Int} (first : Writes s v) (second : Writes s w) : v = w := by
  rw [← integer?_eq_some_iff] at first second
  exact Option.some.inj (first.symm.trans second)

theorem fitsInt64_toInt (number : Int64) : FitsInt64 number.toInt :=
  ⟨Int64.minValue_le_toInt number, Int64.toInt_le number⟩

theorem toInt_ofInt_of_fits {v : Int} (fits : FitsInt64 v) : (Int64.ofInt v).toInt = v := by
  have low : -2 ^ 63 ≤ v := fits.1
  have high : v < 2 ^ 63 := Int.lt_add_one_of_le fits.2
  exact Int64.toInt_ofInt_of_le low high

/-- A text is read to the integer of sixty-four bits that it writes. -/
theorem int64?_eq_some_iff {number : Int64} :
    int64? s = some number ↔ Writes s number.toInt := by
  unfold int64?
  rw [Option.bind_eq_some_iff]
  constructor
  · rintro ⟨v, read, taken⟩
    by_cases fits : FitsInt64 v
    · rw [if_pos fits] at taken
      obtain rfl := Option.some.inj taken
      rw [toInt_ofInt_of_fits fits]
      exact integer?_eq_some_iff.1 read
    · rw [if_neg fits] at taken
      cases taken
  · intro writes
    refine ⟨number.toInt, integer?_eq_some_iff.2 writes, ?_⟩
    rw [if_pos (fitsInt64_toInt number), Int64.ofInt_toInt]

theorem int64?_isSome_iff : (int64? s).isSome = true ↔ ∃ v, Writes s v ∧ FitsInt64 v := by
  rw [Option.isSome_iff_exists]
  constructor
  · rintro ⟨number, read⟩
    exact ⟨number.toInt, int64?_eq_some_iff.1 read, fitsInt64_toInt number⟩
  · rintro ⟨v, writes, fits⟩
    refine ⟨Int64.ofInt v, int64?_eq_some_iff.2 ?_⟩
    rwa [toInt_ofInt_of_fits fits]

end ProvisionGate.Text
