import ProvisionGate.Proofs.Numeral
import ProvisionGate.Proofs.Request.Fields

/-!
# Which integers a field is read to

An entry spells an integer, or it spells none: how it does so is told without the readers, and in
whole numbers of any size.  The two readers of integers differ in their range alone.  Each takes
what is spelled if it lies in the range, and has nothing but a malformed entry otherwise, so a
number is never taken for another one.
-/

namespace ProvisionGate

open Entry

namespace Entry

/-- An entry spells an integer: as a number in integer form, or as a text that writes the integer
with or without blanks around it. -/
inductive Spells : Option Json → Int → Prop
  | number (v : Int) : Spells (some (.number (.int v))) v
  | text {content : String} {v : Int} (writes : Text.Writes (Text.trim content.toList) v) :
      Spells (some (.text content)) v

/-- There is nothing to be read at an entry. -/
def IsAbsent (entry : Option Json) : Prop :=
  entry = none ∨ entry = some .null

variable {entry : Option Json} {v w : Int}

/-- An entry spells one integer only. -/
theorem Spells.unique (spells : Spells entry v) (again : Spells entry w) : v = w := by
  cases spells with
  | number => cases again; rfl
  | text writes =>
    cases again with
    | text other => exact writes.unique other

theorem Spells.not_isAbsent (spells : Spells entry v) : ¬ IsAbsent entry := by
  rintro (rfl | rfl) <;> cases spells

theorem integerOf_eq_some_iff {number : Int64} :
    integerOf entry = some number ↔ Spells entry number.toInt := by
  constructor
  · intro read
    unfold integerOf at read
    split at read
    · rename_i value
      by_cases fits : Text.FitsInt64 value
      · rw [if_pos fits] at read
        obtain rfl := Option.some.inj read
        rw [Text.toInt_ofInt_of_fits fits]
        exact .number value
      · rw [if_neg fits] at read
        cases read
    · exact .text (Text.int64?_eq_some_iff.1 read)
    · cases read
  · intro spells
    generalize spelled : number.toInt = value at spells
    cases spells with
    | number =>
      subst spelled
      rw [integerOf, if_pos (Text.fitsInt64_toInt number), Int64.ofInt_toInt]
    | text writes =>
      subst spelled
      exact Text.int64?_eq_some_iff.2 writes

theorem isInteger_iff : IsInteger entry ↔ IsAbsent entry ∨ (integerOf entry).isSome = true := by
  unfold IsAbsent
  cases entry with
  | none => simp [IsInteger]
  | some value =>
    cases value with
    | number value =>
      cases value with
      | int value => by_cases fits : Text.FitsInt64 value <;> simp [IsInteger, integerOf, fits]
      | float value => simp [IsInteger, integerOf]
    | _ => simp [IsInteger, integerOf]

theorem IsAbsent.integerOf_eq (absent : IsAbsent entry) : integerOf entry = none := by
  rcases absent with rfl | rfl <;> rfl

/-- The sixty-four bits hold the integers from -2^63 up to 2^63 - 1, each once. -/
theorem exists_integerOf_iff :
    (∃ number, integerOf entry = some number ∧ number.toInt = v) ↔
      Spells entry v ∧ -9223372036854775808 ≤ v ∧ v ≤ 9223372036854775807 := by
  constructor
  · rintro ⟨number, read, rfl⟩
    exact ⟨integerOf_eq_some_iff.1 read, Text.fitsInt64_toInt number⟩
  · rintro ⟨spells, fits⟩
    have same := Text.toInt_ofInt_of_fits fits
    exact ⟨Int64.ofInt v, integerOf_eq_some_iff.2 (by rwa [same]), same⟩

theorem isPort_iff : IsPort entry ↔ IsAbsent entry ∨ (portOf entry).isSome = true := by
  unfold IsPort portOf
  rw [isInteger_iff]
  cases read : integerOf entry with
  | none => simp
  | some number =>
    have spells := integerOf_eq_some_iff.1 read
    have present := spells.not_isAbsent
    by_cases real : IsPortNumber number <;> simp [present, real]

theorem IsAbsent.portOf_eq (absent : IsAbsent entry) : portOf entry = none := by
  rw [portOf, absent.integerOf_eq]
  rfl

theorem exists_portOf_iff :
    (∃ port, portOf entry = some port ∧ (port.toNat : Int) = v) ↔
      Spells entry v ∧ 1 ≤ v ∧ v ≤ 65535 := by
  constructor
  · rintro ⟨port, read, rfl⟩
    obtain ⟨number, integer, same, full⟩ := portOf_eq_some_iff.1 read
    have spells := integerOf_eq_some_iff.1 integer
    rw [same] at spells
    have different : port.toNat ≠ 0 := fun zero => full (UInt16.toNat_inj.1 zero)
    have bound := port.toNat_lt
    exact ⟨spells, by omega, by omega⟩
  · rintro ⟨spells, positive, bound⟩
    obtain ⟨number, integer, rfl⟩ := exists_integerOf_iff.2 ⟨spells, by omega, by omega⟩
    have real : IsPortNumber number := ⟨positive, bound⟩
    have read : portOf entry = some (UInt16.ofNat number.toInt.toNat) := by
      rw [portOf, integer, Option.bind_some, if_pos real]
    refine ⟨_, read, ?_⟩
    rw [UInt16.toNat_ofNat_of_lt' (show _ < 65536 by omega)]
    omega

end Entry

/-- A reader of integers is exact at an entry: it takes the integer that is spelled there if it lies
between two bounds, and nothing else. -/
structure ReadsIntegers {α : Type} (read : Strictness → Except RequestFault (Option α))
    (value : α → Int) (least greatest : Int) (key : String) (entry : Option Json) : Prop where
  taken : ∀ strictness v, (∃ a, read strictness = .ok (some a) ∧ value a = v) ↔
    Spells entry v ∧ least ≤ v ∧ v ≤ greatest
  absent : IsAbsent entry → ∀ strictness, read strictness = .ok none
  malformed : ¬ IsAbsent entry → (∀ v, Spells entry v → ¬ (least ≤ v ∧ v ≤ greatest)) →
    read .permissive = .ok none ∧ ∃ problem, read .strict = .error (.field key problem) ∧
      (RequestFault.field key problem).kind = .malformedPayload

section

variable {α : Type} {read again : Strictness → Except RequestFault (Option α)} {value : α → Int}
  {least greatest : Int} {key otherKey : String} {entry other : Option Json}

/-- A reader that finds nothing at a malformed entry takes what it finds and no more. -/
theorem FieldRead.eq_ok_some_iff {strictness : Strictness} {fits : Prop} {found : Option α}
    {result : Except RequestFault (Option α)}
    (reads : FieldRead strictness key fits found result) (nothing : ¬ fits → found = none) {a : α} :
    result = .ok (some a) ↔ found = some a := by
  cases reads with
  | taken fits => exact ⟨Except.ok.inj, congrArg Except.ok⟩
  | passedOver malformed lenient => exact ⟨Except.ok.inj, congrArg Except.ok⟩
  | refused malformed strict => simp [nothing malformed]

/-- An entry that is well-formed exactly if it is absent or spells an integer of the range is read
exactly. -/
theorem FieldRead.readsIntegers {fits : Prop} {found : Option α}
    (reads : ∀ strictness, FieldRead strictness key fits found (read strictness))
    (wellFormed : fits ↔ IsAbsent entry ∨ found.isSome = true)
    (nothing : IsAbsent entry → found = none)
    (spelled : ∀ v, (∃ a, found = some a ∧ value a = v) ↔
      Spells entry v ∧ least ≤ v ∧ v ≤ greatest) :
    ReadsIntegers read value least greatest key entry where
  taken strictness v := by
    have empty (malformed : ¬ fits) : found = none := by
      rw [wellFormed, not_or] at malformed
      exact Option.not_isSome_iff_eq_none.1 malformed.2
    simp only [(reads strictness).eq_ok_some_iff empty]
    exact spelled v
  absent gone strictness := by
    have fits := wellFormed.2 (.inl gone)
    have reads := reads strictness
    generalize read strictness = result at reads
    cases reads with
    | taken => rw [nothing gone]
    | passedOver malformed => exact absurd fits malformed
    | refused malformed => exact absurd fits malformed
  malformed present outside := by
    have none : found = none := by
      rw [Option.eq_none_iff_forall_ne_some]
      intro a same
      obtain ⟨spells, inside⟩ := (spelled (value a)).1 ⟨a, same, rfl⟩
      exact outside _ spells inside
    have malformed : ¬ fits := by
      rw [wellFormed, none]
      simpa using present
    have lenient := reads .permissive
    generalize read .permissive = first at lenient ⊢
    rcases (reads .strict).strict_cases with ⟨fits, -⟩ | ⟨-, problem, refused⟩
    · exact absurd fits malformed
    · refine ⟨?_, problem, refused, rfl⟩
      cases lenient with
      | taken fits => exact absurd fits malformed
      | passedOver => rw [none]
      | refused _ strict => cases strict

/-- Entries that spell the same integer are read alike. -/
theorem ReadsIntegers.agree (first : ReadsIntegers read value least greatest key entry)
    (second : ReadsIntegers again value least greatest otherKey other)
    (injective : ∀ a b, value a = value b → a = b) {v : Int} (spells : Spells entry v)
    (same : Spells other v) (strictness : Strictness) :
    (read strictness).toOption = (again strictness).toOption := by
  by_cases inside : least ≤ v ∧ v ≤ greatest
  · obtain ⟨a, left, rfl⟩ := (first.taken strictness v).2 ⟨spells, inside⟩
    obtain ⟨b, right, equal⟩ := (second.taken strictness (value a)).2 ⟨same, inside⟩
    rw [left, right, injective b a equal]
  · obtain ⟨lenient, problem, refused, -⟩ := first.malformed spells.not_isAbsent
      fun w spelled => spells.unique spelled ▸ inside
    obtain ⟨lenientToo, otherProblem, refusedToo, -⟩ := second.malformed same.not_isAbsent
      fun w spelled => same.unique spelled ▸ inside
    cases strictness with
    | strict =>
      rw [refused, refusedToo]
      rfl
    | permissive => rw [lenient, lenientToo]

end

namespace FieldSource

variable (source : FieldSource) (key : String)

theorem integer_readsIntegers :
    ReadsIntegers (source.integer · key) Int64.toInt (-9223372036854775808) 9223372036854775807
      key (source.get? key) :=
  FieldRead.readsIntegers (fun strictness => source.integer_reads strictness key) isInteger_iff
    IsAbsent.integerOf_eq fun _ => exists_integerOf_iff

theorem portNumber_readsIntegers :
    ReadsIntegers (source.portNumber · key) (fun port => (port.toNat : Int)) 1 65535 key
      (source.get? key) :=
  FieldRead.readsIntegers (fun strictness => source.portNumber_reads strictness key) isPort_iff
    IsAbsent.portOf_eq fun _ => exists_portOf_iff

/-- Integers and ports are read exactly as they are spelled, from properties and from extras, and
the spelling does not matter. -/
theorem integers_read_exactly :
    ReadsIntegers (source.integer · key) Int64.toInt (-9223372036854775808) 9223372036854775807
        key (source.get? key) ∧
      ReadsIntegers (source.portNumber · key) (fun port => (port.toNat : Int)) 1 65535 key
        (source.get? key) ∧
      ∀ (other : FieldSource) (otherKey : String) (v : Int), Spells (source.get? key) v →
        Spells (other.get? otherKey) v → ∀ strictness,
          (source.integer strictness key).toOption =
              (other.integer strictness otherKey).toOption ∧
            (source.portNumber strictness key).toOption =
              (other.portNumber strictness otherKey).toOption := by
  have integers := source.integer_readsIntegers key
  have ports := source.portNumber_readsIntegers key
  refine ⟨integers, ports, fun other otherKey v spells same strictness => ⟨?_, ?_⟩⟩
  · exact integers.agree (other.integer_readsIntegers otherKey)
      (fun a b equal => Int64.toInt_inj.1 equal) spells same strictness
  · exact ports.agree (other.portNumber_readsIntegers otherKey)
      (fun a b equal => UInt16.toNat_inj.1 (Int.ofNat.inj equal)) spells same strictness

-- The greatest port, with a sign and leading zeros, and the least integer that is too large.
example : (properties (TextMap.ofPairs [("port", "+00000065535")])).portNumber .strict "port" =
      .ok (some 65535) ∧
    (extras (TextMap.ofPairs [("time", .ofInt 9223372036854775808)])).integer .permissive "time" =
      .ok none :=
  ⟨rfl, rfl⟩

end FieldSource

end ProvisionGate
