import ProvisionGate.Proofs.Component
import ProvisionGate.Proofs.Request.Extras

/-!
# What a field reads at its entry

For each type of field there are the entries that are well-formed for it and the value that an entry
stands for.  A reader takes the value of a well-formed entry.  At any other one it goes on without
the field if it is permissive, and names the field if it is strict.
-/

namespace ProvisionGate

namespace Entry

/-- The entry is one of a text. -/
def IsText : Option Json → Prop
  | none | some .null | some (.text _) => True
  | some _ => False

/-- The text that an entry stands for. -/
def textOf : Option Json → Option String
  | some (.text value) => fullText (some value)
  | _ => none

/-- The entry is one of a truth value. -/
def IsFlag : Option Json → Prop
  | none | some .null | some (.bool _) => True
  | some (.text value) => Text.trimmed value = "true" ∨ Text.trimmed value = "false"
  | some _ => False

/-- The truth value that an entry stands for. -/
def flagOf : Option Json → Bool
  | some (.bool value) => value
  | some (.text value) => Text.trimmed value = "true"
  | _ => false

/-- The entry is one of a component in flat form. -/
def IsComponent (entry : Option Json) : Prop :=
  IsText entry ∧ ∀ flat ∈ textOf entry, (Component.unflatten? flat).isSome = true

/-- The component that an entry stands for. -/
def componentOf (entry : Option Json) : Option Component :=
  (textOf entry).bind Component.unflatten?

/-- The entry is one of an integer of sixty-four bits. -/
def IsInteger : Option Json → Prop
  | none | some .null => True
  | some (.number (.int value)) => Text.FitsInt64 value
  | some (.text value) => (Text.int64? (Text.trim value.toList)).isSome = true
  | some _ => False

/-- The integer that an entry stands for. -/
def integerOf : Option Json → Option Int64
  | some (.number (.int value)) =>
    if Text.FitsInt64 value then some (Int64.ofInt value) else none
  | some (.text value) => Text.int64? (Text.trim value.toList)
  | _ => none

/-- The integer is the number of a port. -/
def IsPortNumber (number : Int64) : Prop :=
  1 ≤ number.toInt ∧ number.toInt ≤ 65535

instance (number : Int64) : Decidable (IsPortNumber number) :=
  inferInstanceAs (Decidable (_ ∧ _))

/-- The entry is one of the number of a port. -/
def IsPort (entry : Option Json) : Prop :=
  IsInteger entry ∧ ∀ number ∈ integerOf entry, IsPortNumber number

/-- The port that an entry stands for. -/
def portOf (entry : Option Json) : Option UInt16 :=
  (integerOf entry).bind fun number =>
    if IsPortNumber number then some (UInt16.ofNat number.toInt.toNat) else none

/-- The entry is one of an object of texts. -/
def IsTexts : Option Json → Prop
  | none | some .null => True
  | some (.object members) => ∀ member ∈ members, ∃ value, member.2 = .text value
  | some _ => False

/-- The member of an object that is a text. -/
def textMember (member : String × Json) : Option (String × String) :=
  match member.2 with
  | .text value => some (member.1, value)
  | _ => none

/-- The texts that an entry stands for. -/
def textsOf : Option Json → TextMap String
  | some (.object members) => TextMap.ofPairs (members.filterMap textMember)
  | _ => TextMap.empty

/-- A text, or the text of any other value. -/
def shownText : Json → String
  | .text value => value
  | other => other.compact

/-- The member of an object with its value as a text. -/
def shownMember (member : String × Json) : String × String :=
  (member.1, shownText member.2)

/-- The texts that an entry stands for, if any value does for a text. -/
def extrasOf : Option Json → TextMap String
  | some (.object members) => TextMap.ofPairs (members.map shownMember)
  | _ => TextMap.empty

theorem textMember_of_text {members : List (String × Json)}
    (texts : ∀ member ∈ members, ∃ value, member.2 = .text value) :
    members.filterMap textMember = members.map shownMember := by
  induction members with
  | nil => rfl
  | cons member rest ih =>
    obtain ⟨name, value⟩ := member
    obtain ⟨⟨content, rfl⟩, others⟩ := List.forall_mem_cons.1 texts
    have given : textMember (name, .text content) = some (name, content) := rfl
    rw [List.filterMap_cons_some given, ih others]
    rfl

/-- Where every value is a text, no other value does for one. -/
theorem textsOf_eq {entry : Option Json} (texts : IsTexts entry) : textsOf entry = extrasOf entry := by
  cases entry with
  | none => rfl
  | some value =>
    cases value with
    | object members => exact congrArg TextMap.ofPairs (textMember_of_text texts)
    | _ => rfl

theorem textOf_eq_none {entry : Option Json} (malformed : ¬ IsText entry) : textOf entry = none := by
  cases entry with
  | none => rfl
  | some value =>
    cases value with
    | text value => exact absurd trivial malformed
    | _ => rfl

theorem textOf_eq_some_iff {entry : Option Json} {name : String} :
    textOf entry = some name ↔ entry = some (.text name) ∧ name ≠ "" := by
  constructor
  · intro read
    cases entry with
    | none => cases read
    | some value =>
      cases value with
      | text content =>
        rw [textOf, fullText_some] at read
        by_cases empty : content.isEmpty = true
        · rw [if_pos empty] at read
          cases read
        · rw [if_neg empty] at read
          obtain rfl := Option.some.inj read
          refine ⟨rfl, fun same => empty ?_⟩
          exact String.isEmpty_iff.2 same
      | _ => cases read
  · rintro ⟨rfl, full⟩
    have filled : ¬ name.isEmpty = true := fun empty => full (String.isEmpty_iff.1 empty)
    rw [textOf, fullText_some, if_neg filled]

theorem componentOf_eq_some_iff {entry : Option Json} {c : Component} :
    componentOf entry = some c ↔
      ∃ flat, entry = some (.text flat) ∧ Component.unflatten? flat = some c := by
  unfold componentOf
  rw [Option.bind_eq_some_iff]
  constructor
  · rintro ⟨flat, text, read⟩
    exact ⟨flat, (textOf_eq_some_iff.1 text).1, read⟩
  · rintro ⟨flat, given, read⟩
    refine ⟨flat, textOf_eq_some_iff.2 ⟨given, ?_⟩, read⟩
    rintro rfl
    cases read

theorem integerOf_eq_none {entry : Option Json} (malformed : ¬ IsInteger entry) :
    integerOf entry = none := by
  cases entry with
  | none => rfl
  | some value =>
    cases value with
    | number value =>
      cases value with
      | int value => exact if_neg malformed
      | float value => rfl
    | text value => exact Option.not_isSome_iff_eq_none.1 malformed
    | _ => rfl

theorem portOf_eq_some_iff {entry : Option Json} {port : UInt16} :
    portOf entry = some port ↔
      ∃ number, integerOf entry = some number ∧ number.toInt = port.toNat ∧ port ≠ 0 := by
  unfold portOf
  rw [Option.bind_eq_some_iff]
  constructor
  · rintro ⟨number, read, taken⟩
    by_cases real : IsPortNumber number
    · rw [if_pos real] at taken
      obtain rfl := Option.some.inj taken
      obtain ⟨positive, bound⟩ := real
      have kept : (UInt16.ofNat number.toInt.toNat).toNat = number.toInt.toNat :=
        UInt16.toNat_ofNat_of_lt' (show _ < 65536 by omega)
      refine ⟨number, read, by omega, fun zero => ?_⟩
      have none : (UInt16.ofNat number.toInt.toNat).toNat = 0 := congrArg UInt16.toNat zero
      omega
    · rw [if_neg real] at taken
      cases taken
  · rintro ⟨number, read, same, full⟩
    have different : port.toNat ≠ 0 := fun zero => full (UInt16.toNat_inj.1 zero)
    have bound := port.toNat_lt
    have real : IsPortNumber number := by
      unfold IsPortNumber
      omega
    refine ⟨number, read, ?_⟩
    rw [if_pos real, same, Int.toNat_natCast, UInt16.ofNat_toNat]

end Entry

/-- The admin of parameters is the package of the component that is given for them.  Where none is,
it is the package that is given. -/
theorem Params.admin?_eq_some_iff_given {p : Params} {admin : String}
    {package component : String → Prop}
    (packages : ∀ name, p.adminPackage = some name ↔ package name ∧ name ≠ "")
    (components : ∀ c, p.adminComponent = some c ↔
      ∃ flat, component flat ∧ Component.unflatten? flat = some c)
    (readable : ∀ flat, component flat → flat ≠ "" → ∃ c, Component.unflatten? flat = some c) :
    p.admin? = some admin ↔
      (∃ flat c, component flat ∧ Component.unflatten? flat = some c ∧ c.package = admin) ∨
        (∀ flat, component flat → flat = "") ∧ package admin ∧ admin ≠ "" := by
  unfold admin?
  cases held : p.adminComponent with
  | some c =>
    obtain ⟨flat, given, read⟩ := (components c).1 held
    have named : (some c.package).filter (fun name => !name.isEmpty) = some c.package := by
      rw [Option.filter_some, if_pos (by simpa using Component.package_ne_of_unflatten? read)]
    rw [Option.map_some, Option.some_or, named, Option.some.injEq]
    constructor
    · intro same
      exact .inl ⟨flat, c, given, read, same⟩
    · rintro (⟨again, other, givenAgain, reread, rfl⟩ | ⟨bare, -⟩)
      · rw [(components other).2 ⟨again, givenAgain, reread⟩] at held
        rw [Option.some.inj held]
      · rw [bare flat given] at read
        cases read
  | none =>
    rw [Option.map_none, Option.none_or, Option.filter_eq_some_iff, packages admin]
    constructor
    · rintro ⟨given, -⟩
      refine .inr ⟨fun flat component => ?_, given⟩
      by_cases full : flat = ""
      · exact full
      · obtain ⟨c, read⟩ := readable flat component full
        rw [(components c).2 ⟨flat, component, read⟩] at held
        cases held
    · rintro (⟨flat, c, given, read, -⟩ | ⟨-, given, full⟩)
      · rw [(components c).2 ⟨flat, given, read⟩] at held
        cases held
      · exact ⟨⟨given, full⟩, by simpa using full⟩

open Entry

/-- What a reader makes of an entry: `value` if the entry is well-formed or need not be, else a fault
of the field. -/
inductive FieldRead {α : Type} (strictness : Strictness) (key : String) (wellFormed : Prop)
    (value : α) : Except RequestFault α → Prop
  | taken (fits : wellFormed) : FieldRead strictness key wellFormed value (.ok value)
  | passedOver (malformed : ¬ wellFormed) (lenient : strictness = .permissive) :
      FieldRead strictness key wellFormed value (.ok value)
  | refused {problem : FieldProblem} (malformed : ¬ wellFormed) (strict : strictness = .strict) :
      FieldRead strictness key wellFormed value (.error (.field key problem))

namespace FieldRead

variable {α : Type} {strictness : Strictness} {key : String} {wellFormed : Prop} {value : α}
  {read : Except RequestFault α}

theorem of_malformed {problem : FieldProblem} (malformed : ¬ wellFormed) :
    FieldRead strictness key wellFormed value
      (FieldSource.malformed strictness key problem value) := by
  cases strictness with
  | strict => exact .refused malformed rfl
  | permissive => exact .passedOver malformed rfl

/-- A strict reader takes the value of a well-formed entry and no other. -/
theorem strict_cases (reads : FieldRead .strict key wellFormed value read) :
    wellFormed ∧ read = .ok value ∨
      ¬ wellFormed ∧ ∃ problem, read = .error (.field key problem) := by
  cases reads with
  | taken fits => exact .inl ⟨fits, rfl⟩
  | passedOver malformed lenient => cases lenient
  | refused malformed strict => exact .inr ⟨malformed, _, rfl⟩

/-- What is made of the value that was read. -/
theorem map {β : Type} (f : α → β) (reads : FieldRead strictness key wellFormed value read) :
    FieldRead strictness key wellFormed (f value) (read >>= fun found => pure (f found)) := by
  cases reads with
  | taken fits => exact .taken fits
  | passedOver malformed lenient => exact .passedOver malformed lenient
  | refused malformed strict => exact .refused malformed strict

end FieldRead

namespace FieldSource

variable (source : FieldSource) (strictness : Strictness) (key : String)

theorem text_reads : FieldRead strictness key (IsText (source.get? key)) (textOf (source.get? key))
    (source.text strictness key) := by
  unfold text
  cases source.get? key with
  | none => exact .taken trivial
  | some value =>
    cases value with
    | null => exact .taken trivial
    | text value =>
      simp only [textOf, fullText_some]
      exact .taken trivial
    | _ => exact .of_malformed id

theorem flag_reads : FieldRead strictness key (IsFlag (source.get? key)) (flagOf (source.get? key))
    (source.flag strictness key) := by
  unfold flag
  cases source.get? key with
  | none => exact .taken trivial
  | some value =>
    cases value with
    | null => exact .taken trivial
    | bool value => exact .taken trivial
    | text value =>
      simp only [IsFlag, flagOf]
      by_cases affirmed : Text.trimmed value = "true"
      · rw [if_pos affirmed, decide_eq_true affirmed]
        exact .taken (.inl affirmed)
      · rw [if_neg affirmed, decide_eq_false affirmed]
        by_cases denied : Text.trimmed value = "false"
        · rw [if_pos denied]
          exact .taken (.inr denied)
        · rw [if_neg denied]
          refine .of_malformed ?_
          rintro (word | word)
          · exact affirmed word
          · exact denied word
    | _ => exact .of_malformed id

theorem component_reads : FieldRead strictness key (IsComponent (source.get? key))
    (componentOf (source.get? key)) (source.component strictness key) := by
  unfold component IsComponent componentOf
  have reads := source.text_reads strictness key
  generalize source.text strictness key = read at reads
  cases reads with
  | taken fits =>
    cases textOf (source.get? key) with
    | none => exact .taken ⟨fits, by simp⟩
    | some flat =>
      cases parsed : Component.unflatten? flat with
      | some c =>
        simp only [Option.bind_some, parsed, bind, Except.bind]
        exact .taken ⟨fits, by simp [parsed]⟩
      | none =>
        simp only [Option.bind_some, parsed, bind, Except.bind]
        refine .of_malformed ?_
        rintro ⟨-, sound⟩
        have some := sound flat rfl
        rw [parsed] at some
        cases some
  | passedOver malformed lenient =>
    rw [textOf_eq_none malformed]
    exact .passedOver (fun both => malformed both.1) lenient
  | refused malformed strict => exact .refused (fun both => malformed both.1) strict

theorem integer_reads : FieldRead strictness key (IsInteger (source.get? key))
    (integerOf (source.get? key)) (source.integer strictness key) := by
  unfold integer
  cases source.get? key with
  | none => exact .taken trivial
  | some value =>
    cases value with
    | null => exact .taken trivial
    | number value =>
      cases value with
      | int value =>
        simp only [IsInteger, integerOf]
        by_cases fits : Text.FitsInt64 value
        · rw [if_pos fits, if_pos fits]
          exact .taken fits
        · rw [if_neg fits, if_neg fits]
          exact .of_malformed fits
      | float value => exact .of_malformed id
    | text value =>
      simp only [IsInteger, integerOf]
      cases read : Text.int64? (Text.trim value.toList) with
      | some found => exact .taken rfl
      | none => exact .of_malformed (by simp)
    | _ => exact .of_malformed id

theorem portNumber_reads : FieldRead strictness key (IsPort (source.get? key))
    (portOf (source.get? key)) (source.portNumber strictness key) := by
  unfold portNumber IsPort portOf
  have reads := source.integer_reads strictness key
  generalize source.integer strictness key = read at reads
  cases reads with
  | taken fits =>
    cases integerOf (source.get? key) with
    | none => exact .taken ⟨fits, by simp⟩
    | some number =>
      have inRange : (0 < number.toInt ∧ number.toInt < UInt16.size) ↔ IsPortNumber number := by
        have size : (UInt16.size : Int) = 65536 := rfl
        unfold IsPortNumber
        omega
      simp only [Option.bind_some, bind, Except.bind, inRange]
      by_cases real : IsPortNumber number
      · rw [if_pos real, if_pos real]
        exact .taken ⟨fits, by simpa using real⟩
      · rw [if_neg real, if_neg real]
        exact .of_malformed fun both => real (both.2 number rfl)
  | passedOver malformed lenient =>
    rw [integerOf_eq_none malformed]
    exact .passedOver (fun both => malformed both.1) lenient
  | refused malformed strict => exact .refused (fun both => malformed both.1) strict

/-- The members of an object are read as texts.  A value that is none is shown as one, or named. -/
theorem members_reads (members : List (String × Json)) :
    FieldRead strictness Key.adminExtras (∀ member ∈ members, ∃ value, member.2 = .text value)
      (members.map shownMember) (members.mapM (adminExtraValue strictness)) := by
  induction members with
  | nil => exact .taken (by simp)
  | cons member rest ih =>
    obtain ⟨name, value⟩ := member
    rw [List.mapM_cons, List.map_cons]
    by_cases text : ∃ content, value = .text content
    · obtain ⟨content, rfl⟩ := text
      have first : adminExtraValue strictness (name, .text content) = .ok (name, content) := rfl
      have all : (∀ member ∈ (name, Json.text content) :: rest, ∃ value, member.2 = .text value) ↔
          ∀ member ∈ rest, ∃ value, member.2 = .text value := by
        rw [List.forall_mem_cons]
        exact and_iff_right ⟨content, rfl⟩
      rw [first, all]
      exact ih.map fun texts => (name, content) :: texts
    · have malformed : ¬ ∀ member ∈ (name, value) :: rest, ∃ content, member.2 = .text content :=
        fun all => text (List.forall_mem_cons.1 all).1
      cases strictness with
      | strict =>
        have first : adminExtraValue .strict (name, value) =
            .error (.field Key.adminExtras (.extraNotText name value)) := by
          cases value with
          | text content => exact absurd ⟨content, rfl⟩ text
          | _ => rfl
        rw [first]
        exact .refused malformed rfl
      | permissive =>
        have first : adminExtraValue .permissive (name, value) =
            .ok (shownMember (name, value)) := by
          cases value <;> rfl
        rw [first]
        generalize rest.mapM (adminExtraValue .permissive) = read at ih
        cases ih with
        | taken => exact .passedOver malformed rfl
        | passedOver => exact .passedOver malformed rfl
        | refused _ strict => cases strict

theorem adminExtras_reads (found : TextMap Json) :
    FieldRead strictness Key.adminExtras (IsTexts (found.get? Key.adminExtras))
      (extrasOf (found.get? Key.adminExtras))
      ((FieldSource.extras found).adminExtras strictness) := by
  simp only [adminExtras]
  cases found.get? Key.adminExtras with
  | none => exact .taken trivial
  | some value =>
    cases value with
    | null => exact .taken trivial
    | object members => exact (members_reads strictness members).map TextMap.ofPairs
    | _ => exact .of_malformed id

end FieldSource

/-! ## What answers a request -/

/-- If a result is accepted or refused, with one value or one kind of fault, and never both, it is a
value exactly if this value is accepted, and a fault exactly of a kind that is refused. -/
theorem answered_iff {result : Except RequestFault Params} {Accepted : Params → Prop}
    {Refused : RejectionKind → Prop}
    (answered : (∃ p, result = .ok p ∧ Accepted p) ∨
      ∃ fault, result = .error fault ∧ Refused fault.kind)
    (either : ∀ p kind, Accepted p → ¬ Refused kind)
    (oneValue : ∀ p q, Accepted p → Accepted q → p = q)
    (oneKind : ∀ kind other, Refused kind → Refused other → kind = other) :
    (∀ p, result = .ok p ↔ Accepted p) ∧
      ∀ kind, (∃ fault, result = .error fault ∧ fault.kind = kind) ↔ Refused kind := by
  rcases answered with ⟨q, rfl, accepted⟩ | ⟨fault, rfl, refused⟩
  · refine ⟨fun p => ⟨?_, ?_⟩, fun kind => ⟨?_, ?_⟩⟩
    · intro same
      obtain rfl := Except.ok.inj same
      exact accepted
    · intro again
      rw [oneValue p q again accepted]
    · rintro ⟨fault, rejected, -⟩
      cases rejected
    · intro refused
      exact absurd refused (either q kind accepted)
  · refine ⟨fun p => ⟨?_, ?_⟩, fun kind => ⟨?_, ?_⟩⟩
    · intro parsed
      cases parsed
    · intro accepted
      exact absurd refused (either p fault.kind accepted)
    · rintro ⟨other, again, rfl⟩
      obtain rfl := Except.error.inj again
      exact refused
    · intro again
      exact ⟨fault, rfl, oneKind _ _ refused again⟩

end ProvisionGate
