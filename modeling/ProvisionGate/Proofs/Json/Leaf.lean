import Mathlib.Algebra.Group.Int.Defs
import Mathlib.Algebra.Group.Nat.Defs
import Mathlib.Data.Option.Basic
import ProvisionGate.Json.Printer
import ProvisionGate.Json.Reader

/-!
# Texts and integers are read again

A text between quotes is read back whatever it holds.  An integer is read back if it fits in
sixty-four bits and nothing follows that would go on with its literal.
-/

namespace ProvisionGate.Json

/-! ## Texts -/

/-- The piece that a character between quotes is read as: a unit if it is written in digits. -/
def pieceOf (c : Char) : Piece :=
  if (escapedChar c).length = 6 then .unit c.toNat else .char c

theorem hexValue?_hexDigit : ∀ n < 16, hexValue? (hexDigit n) = some n := by
  decide

theorem unit?_control {n : Nat} (control : n < 0x20) :
    unit? '0' '0' (hexDigit (n / 16)) (hexDigit (n % 16)) = some n := by
  have high := hexValue?_hexDigit (n / 16) (by omega)
  have low := hexValue?_hexDigit (n % 16) (by omega)
  have zero : hexValue? '0' = some 0 := rfl
  have whole : n / 16 * 16 + n % 16 = n := by omega
  simp [unit?, zero, high, low, whole]

theorem pieces_shown {c : Char} (quote : c ≠ '"') (backslash : c ≠ '\\') (shown : 0x20 ≤ c.toNat)
    (rest : List Char) :
    pieces (c :: rest) = (pieces rest).bind fun found => some (.char c :: found.1, found.2) := by
  have passes : (guard (0x20 ≤ c.toNat ∧ c ≠ '\\') : Option Unit) = some () :=
    if_pos ⟨shown, backslash⟩
  rw [pieces, passes]
  · rfl
  · exact quote
  · intro _ _ _ _ _ same _
    exact backslash same
  · intro _ _ same _
    exact backslash same

/-- Reading goes on after the piece of a character. -/
theorem pieces_escapedChar (c : Char) (rest : List Char) :
    pieces (escapedChar c ++ rest) =
      (pieces rest).map fun found => (pieceOf c :: found.1, found.2) := by
  have goesOn (piece : Piece) :
      ((pieces rest).bind fun found => some (piece :: found.1, found.2)) =
        (pieces rest).map fun found => (piece :: found.1, found.2) := by
    cases pieces rest <;> rfl
  unfold pieceOf
  fun_cases escapedChar c with
  | case8 _ _ _ _ _ _ _ control =>
    rw [← goesOn]
    simp [pieces, unit?_control control]
  | case9 quote backslash _ _ _ _ _ printed =>
    rw [← goesOn]
    exact pieces_shown quote backslash (Nat.le_of_not_lt printed) rest
  | _ =>
    subst_vars
    rw [← goesOn]
    simp [pieces, shortEscape?]

theorem pieces_escaped (s rest : List Char) :
    pieces (s.flatMap escapedChar ++ '"' :: rest) = some (s.map pieceOf, rest) := by
  induction s with
  | nil => simp [pieces]
  | cons c s ih =>
    rw [List.flatMap_cons, List.append_assoc, pieces_escapedChar, ih]
    rfl

theorem pieceOf_cases (c : Char) :
    pieceOf c = .char c ∨ pieceOf c = .unit c.toNat ∧ c.toNat < 0x20 := by
  unfold pieceOf
  fun_cases escapedChar c with
  | case8 _ _ _ _ _ _ _ control => exact .inr ⟨rfl, control⟩
  | _ => exact .inl rfl

/-- A control character is no half of a pair, so its unit stands for itself. -/
theorem joinPieces_control {n : Nat} (control : n < 0x20) (rest : List Piece) :
    joinPieces (.unit n :: rest) = (joinPieces rest).map (Char.ofNat n :: ·) := by
  have notHigh : isHighUnit n = false := by simp [isHighUnit]; omega
  have notLow : isLowUnit n = false := by simp [isLowUnit]; omega
  cases rest with
  | nil => simp [joinPieces, notHigh, notLow]
  | cons piece rest =>
    cases piece with
    | char c => simp [joinPieces, notHigh, notLow]
    | unit m => simp [joinPieces, notHigh, notLow]

theorem joinPieces_map_pieceOf (s : List Char) : joinPieces (s.map pieceOf) = some s := by
  induction s with
  | nil => simp [joinPieces]
  | cons c s ih =>
    rw [List.map_cons]
    rcases pieceOf_cases c with plain | ⟨unit, control⟩
    · rw [plain]
      simp [joinPieces, ih]
    · rw [unit, joinPieces_control control, ih, Char.ofNat_toNat]
      rfl

/-- A text between quotes is read back, whatever follows it. -/
theorem stringBody?_escaped (text : String) (rest : List Char) :
    stringBody? (text.toList.flatMap escapedChar ++ '"' :: rest) = some (text, rest) := by
  simp [stringBody?, pieces_escaped, joinPieces_map_pieceOf]

/-! ## Integers -/

/-- What follows does not go on with a number. -/
def EndsNumber (s : List Char) : Prop :=
  ∀ c ∈ s.head?, c.isDigit = false ∧ c ≠ '.' ∧ c ≠ 'e' ∧ c ≠ 'E'

/-- The integers that are read as such: those of sixty-four bits, with a sign or without. -/
def FitsWord (v : Int) : Prop :=
  -(2 ^ 63) ≤ v ∧ v < 2 ^ 64

/-- The value of a decimal digit. -/
def digitValue (c : Char) : Nat :=
  c.toNat - '0'.toNat

variable {rest : List Char}

theorem leadingDigits_append {s : List Char} (all : ∀ c ∈ s, c.isDigit = true)
    (ends : EndsNumber rest) : leadingDigits (s ++ rest) = (s.map digitValue, rest) := by
  induction s with
  | nil =>
    cases rest with
    | nil => rfl
    | cons c rest =>
      have other := (ends c rfl).1
      simp [leadingDigits, Text.digitValue?, other]
  | cons c s ih =>
    obtain ⟨digit, others⟩ := List.forall_mem_cons.1 all
    simp [leadingDigits, Text.digitValue?, digit, ih others, digitValue]

/-- Digits are taken as long as the number they write fits. -/
theorem takeDigits_map {s : List Char} {n : Nat} (fits : Nat.ofDigitChars 10 s n < UInt64.size) :
    Number.takeDigits n (s.map digitValue) = (Nat.ofDigitChars 10 s n, []) := by
  induction s generalizing n with
  | nil => rfl
  | cons c s ih =>
    rw [Nat.ofDigitChars_cons] at fits ⊢
    have grows : n * 10 + digitValue c ≤ Nat.ofDigitChars 10 s (10 * n + digitValue c) := by
      rw [Nat.ofDigitChars_eq_ofDigitChars_zero, Nat.mul_comm n 10]
      exact Nat.le_add_right_of_le (Nat.le_mul_of_pos_left _ (Nat.pow_pos (by decide)))
    rw [List.map_cons, Number.takeDigits, if_pos (Nat.lt_of_le_of_lt grows fits),
      Nat.mul_comm n 10]
    exact ih fits

theorem takeDigits_digits {n : Nat} (fits : n < UInt64.size) :
    Number.takeDigits 0 ((Number.digits n).map digitValue) = (n, []) := by
  have written : Nat.ofDigitChars 10 (Number.digits n) 0 = n := Nat.ofDigitChars_ten_toDigits
  rw [takeDigits_map (written.symm ▸ fits), written]

theorem isDigit_of_mem_digits {n : Nat} : ∀ c ∈ Number.digits n, c.isDigit = true :=
  fun _ member => Nat.isDigit_of_mem_toDigits (by decide) (by decide) member

theorem exists_digits (n : Nat) : ∃ c more, Number.digits n = c :: more :=
  List.exists_cons_of_ne_nil Nat.toDigits_ne_nil

/-- No number but zero is written with a zero in front. -/
theorem head_digits {n : Nat} (positive : 0 < n) : (Number.digits n).head? ≠ some '0' := by
  have units : ∀ n < 10, 0 < n → n.digitChar ≠ '0' := by decide
  induction n using Nat.strongRecOn with
  | ind n ih =>
    by_cases small : n < 10
    · have one : Number.digits n = [n.digitChar] := Nat.toDigits_of_lt_base small
      rw [one]
      simpa using units n small positive
    · have split : Number.digits n = Number.digits (n / 10) ++ [(n % 10).digitChar] :=
        Nat.toDigits_of_base_le (by decide) (Nat.le_of_not_lt small)
      have first := ih (n / 10) (by omega) (by omega)
      obtain ⟨c, more, written⟩ := exists_digits (n / 10)
      rw [written] at first
      rw [split, written]
      exact first

theorem digitValue_eq_zero {c : Char} (digit : c.isDigit = true) (zero : digitValue c = 0) :
    c = '0' := by
  simp only [Char.isDigit, Bool.and_eq_true, decide_eq_true_eq] at digit
  apply Char.toNat_inj.1
  have least : '0'.toNat ≤ c.toNat := digit.1
  exact Nat.le_antisymm (Nat.sub_eq_zero_iff_le.1 zero) least

/-- A zero is the only number whose digits begin with one. -/
theorem eq_nil_of_digits {n : Nat} {c : Char} {more : List Char}
    (written : Number.digits n = c :: more) (zero : digitValue c = 0) : more = [] := by
  have digit := isDigit_of_mem_digits c (written ▸ List.mem_cons_self)
  obtain rfl := digitValue_eq_zero digit zero
  cases Nat.eq_zero_or_pos n with
  | inl none =>
    subst none
    exact (List.cons.inj written).2.symm
  | inr positive =>
    have first := head_digits positive
    rw [written] at first
    exact absurd rfl first

theorem wholeDigits?_digits (n : Nat) (ends : EndsNumber rest) :
    wholeDigits? (Number.digits n ++ rest) = some ((Number.digits n).map digitValue, rest) := by
  unfold wholeDigits?
  rw [leadingDigits_append isDigit_of_mem_digits ends]
  obtain ⟨c, more, written⟩ := exists_digits n
  rw [written]
  cases zero : digitValue c with
  | zero =>
    obtain rfl := eq_nil_of_digits written zero
    simp [zero]
  | succ d => simp [zero]

theorem unsignedLiteral?_digits (negative : Bool) (n : Nat) (ends : EndsNumber rest) :
    unsignedLiteral? negative (Number.digits n ++ rest) =
      some (⟨negative, (Number.digits n).map digitValue, [], none⟩, rest) := by
  have fraction : fractionDigits? rest = some ([], rest) := by
    cases rest with
    | nil => rfl
    | cons c rest =>
      have point := (ends c rfl).2.1
      unfold fractionDigits?
      split
      · rename_i same
        exact absurd (List.cons.inj same).1 point
      · rfl
  have exponent : exponent? rest = some (none, rest) := by
    cases rest with
    | nil => rfl
    | cons c rest =>
      obtain ⟨-, -, small, large⟩ := ends c rfl
      unfold exponent?
      split <;> simp_all
  unfold unsignedLiteral?
  rw [wholeDigits?_digits n ends, Option.bind_eq_bind, Option.bind_some]
  simp only [fraction, exponent, Option.bind_eq_bind, Option.bind_some]
  rfl

/-- An integer without a sign is read as a literal. -/
theorem literal?_digits (n : Nat) (ends : EndsNumber rest) :
    literal? (Number.digits n ++ rest) =
      some (⟨false, (Number.digits n).map digitValue, [], none⟩, rest) := by
  rw [← unsignedLiteral?_digits false n ends]
  unfold literal?
  split
  · rename_i more same
    -- A minus would be the first of the digits.
    have minus : '-' ∈ Number.digits n := by
      obtain ⟨c, others, written⟩ := exists_digits n
      rw [written] at same ⊢
      obtain ⟨rfl, -⟩ := List.cons.inj same
      exact List.mem_cons_self
    exact absurd (isDigit_of_mem_digits _ minus) (by decide)
  · rfl

theorem ofLiteral?_plain {n : Nat} (fits : n < UInt64.size) :
    Number.ofLiteral? false ((Number.digits n).map digitValue) [] none = some (.int n) := by
  unfold Number.ofLiteral?
  rw [takeDigits_digits fits]
  rfl

theorem ofLiteral?_minus {n : Nat} (positive : 0 < n) (fits : n ≤ 2 ^ 63) :
    Number.ofLiteral? true ((Number.digits n).map digitValue) [] none = some (.int (-n)) := by
  have size : n < UInt64.size := Nat.lt_of_le_of_lt fits (by decide)
  have small : n ≤ 9223372036854775808 := fits
  unfold Number.ofLiteral?
  rw [takeDigits_digits size]
  simp [positive, small]

/-- What an integer begins with, and nothing else does. -/
def StartsNumber (c : Char) : Prop :=
  c = '-' ∨ c.isDigit = true

instance (c : Char) : Decidable (StartsNumber c) :=
  inferInstanceAs (Decidable (_ ∨ _))

theorem StartsNumber.ne {c d : Char} (starts : StartsNumber c) (other : ¬ StartsNumber d) :
    c ≠ d := by
  rintro rfl
  exact other starts

theorem StartsNumber.shown {c : Char} (starts : StartsNumber c) : isSpace c = false := by
  have space := starts.ne (d := ' ') (by decide)
  have tab := starts.ne (d := '\t') (by decide)
  have feed := starts.ne (d := '\n') (by decide)
  have back := starts.ne (d := '\r') (by decide)
  simp [isSpace, space, tab, feed, back]

theorem intText_starts (v : Int) : ∃ c s, Number.intText v = c :: s ∧ StartsNumber c := by
  cases v with
  | ofNat n =>
    obtain ⟨c, s, written⟩ := exists_digits n
    have digit := isDigit_of_mem_digits c (written ▸ List.mem_cons_self)
    exact ⟨c, s, written, .inr digit⟩
  | negSucc n => exact ⟨'-', _, rfl, .inl rfl⟩

theorem readScalar_literal {s : List Char} {found : Literal} {value : Number}
    (starts : ∀ c ∈ s.head?, StartsNumber c) (read : literal? s = some (found, rest))
    (means : Number.ofLiteral? found.negative found.whole found.fraction found.exponent =
      some value) : readScalar s = some (.number value, rest) := by
  unfold readScalar
  split
  · exact absurd (starts _ rfl) (by decide)
  · exact absurd (starts _ rfl) (by decide)
  · exact absurd (starts _ rfl) (by decide)
  · exact absurd (starts _ rfl) (by decide)
  · rw [read]
    simp [means]

/-- An integer that fits is read back. -/
theorem readScalar_intText {v : Int} (fits : FitsWord v) (ends : EndsNumber rest) :
    readScalar (Number.intText v ++ rest) = some (ofInt v, rest) := by
  have starts : ∀ c ∈ (Number.intText v ++ rest).head?, StartsNumber c := by
    obtain ⟨first, s, written, starts⟩ := intText_starts v
    rw [written]
    rintro c ⟨⟩
    exact starts
  obtain ⟨least, most⟩ := fits
  cases v with
  | ofNat n =>
    have fits : n < UInt64.size := Int.ofNat_lt.1 most
    exact readScalar_literal starts (literal?_digits n ends) (ofLiteral?_plain fits)
  | negSucc n =>
    have fits : n + 1 ≤ 2 ^ 63 := by omega
    exact readScalar_literal starts (unsignedLiteral?_digits true (n + 1) ends)
      (ofLiteral?_minus (Nat.succ_pos n) fits)

end ProvisionGate.Json
