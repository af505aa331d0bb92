import ProvisionGate.Component
import ProvisionGate.Proofs.Text

/-!
# Components written and read again

A component that was read from a flat text is written flat again, and reading that text gives the
component back unless its class begins with a point.  Such a class is taken for a relative one a
second time.
-/

namespace ProvisionGate

namespace Component

/-- What holds of every component that was read from a flat text. -/
structure IsRead (c : Component) : Prop where
  package_trimmed : Text.Trimmed c.package.toList
  package_ne : c.package.toList ≠ []
  package_slash : '/' ∉ c.package.toList
  class_trimmed : Text.Trimmed c.className.toList
  class_ne : c.className.toList ≠ []
  class_slash : '/' ∉ c.className.toList

/-- The class would be taken for a relative one. -/
def isRelative (c : Component) : Bool :=
  c.className.toList.head? = some '.'

/-- The component that is read from the flat form of one. -/
def reread (c : Component) : Component :=
  if c.isRelative then { c with className := c.package ++ c.className } else c

variable {c : Component} {flat : String}

theorem reread_of_not_isRelative (absolute : c.isRelative = false) : c.reread = c := by
  rw [reread, absolute]
  rfl

theorem reread_eq_self_iff (read : c.IsRead) : c.reread = c ↔ c.isRelative = false := by
  constructor
  · intro same
    cases relative : c.isRelative with
    | false => rfl
    | true =>
      rw [reread, relative, if_pos rfl] at same
      have longer := congrArg (fun d => d.className.toList.length) same
      have positive := List.length_pos_iff.2 read.package_ne
      simp only [String.toList_append, List.length_append] at longer
      omega
  · exact reread_of_not_isRelative

theorem reread_package : c.reread.package = c.package := by
  unfold reread
  split <;> rfl

/-- A flat text is read by what is before and after its first slash. -/
theorem unflatten?_of_split {before after : List Char}
    (split : Text.splitAtFirst (· == '/') flat.toList = some (before, after)) :
    unflatten? flat =
      if Text.trim before ≠ [] ∧ Text.trim after ≠ [] ∧ '/' ∉ Text.trim after then
        some ⟨String.ofList (Text.trim before),
          String.ofList (if (Text.trim after).head? = some '.' then
            Text.trim before ++ Text.trim after else Text.trim after)⟩
      else none := by
  unfold unflatten?
  rw [split]
  by_cases met : Text.trim before ≠ [] ∧ Text.trim after ≠ [] ∧ '/' ∉ Text.trim after
  · have passes : (!(Text.trim before).isEmpty && !(Text.trim after).isEmpty &&
        !(Text.trim after).contains '/') = true := by
      simp [met.1, met.2.1, met.2.2]
    rw [if_pos met, Option.bind_eq_bind, Option.bind_some]
    dsimp only
    rw [passes]
    rfl
  · have refused : (!(Text.trim before).isEmpty && !(Text.trim after).isEmpty &&
        !(Text.trim after).contains '/') = false := by
      rw [Bool.eq_false_iff]
      intro all
      apply met
      simpa [and_assoc] using all
    rw [if_neg met, Option.bind_eq_bind, Option.bind_some]
    dsimp only
    rw [refused]
    rfl

theorem isRead_of_unflatten? (read : unflatten? flat = some c) : c.IsRead := by
  cases split : Text.splitAtFirst (· == '/') flat.toList with
  | none =>
    unfold unflatten? at read
    rw [split] at read
    cases read
  | some parts =>
  obtain ⟨before, after⟩ := parts
  rw [unflatten?_of_split split] at read
  by_cases met : Text.trim before ≠ [] ∧ Text.trim after ≠ [] ∧ '/' ∉ Text.trim after
  case neg =>
    rw [if_neg met] at read
    cases read
  rw [if_pos met] at read
  obtain rfl := Option.some.inj read
  obtain ⟨package, named, slash⟩ := met
  have clear := Text.splitAtFirst_clear split
  have unslashed : '/' ∉ Text.trim before := by
    intro member
    have hit := clear '/' (Text.trim_subset member)
    simp at hit
  by_cases relative : (Text.trim after).head? = some '.'
  · simp only [if_pos relative]
    refine ⟨?_, ?_, ?_, ?_, ?_, ?_⟩
    · simpa using Text.trimmed_trim
    · simpa using package
    · simpa using unslashed
    · simpa using Text.trimmed_trim.append Text.trimmed_trim package named
    · simp [package]
    · simp [unslashed, slash]
  · simp only [if_neg relative]
    refine ⟨?_, ?_, ?_, ?_, ?_, ?_⟩
    · simpa using Text.trimmed_trim
    · simpa using package
    · simpa using unslashed
    · simpa using Text.trimmed_trim
    · simpa using named
    · simpa using slash

theorem package_ne_of_unflatten? (read : unflatten? flat = some c) : c.package ≠ "" := by
  intro empty
  apply (isRead_of_unflatten? read).package_ne
  rw [empty]
  rfl

/-- The flat form of a component that was read is read again. -/
theorem unflatten?_flatten (read : c.IsRead) : unflatten? c.flatten = some c.reread := by
  have clear : ∀ d ∈ c.package.toList, (d == '/') = false := by
    intro d member
    rw [beq_eq_false_iff_ne]
    rintro rfl
    exact read.package_slash member
  have flat : c.flatten.toList = c.package.toList ++ '/' :: c.className.toList := by
    simp [flatten]
  have split : Text.splitAtFirst (· == '/') (c.package.toList ++ '/' :: c.className.toList) =
      some (c.package.toList, c.className.toList) :=
    Text.splitAtFirst_append clear (beq_self_eq_true '/')
  rw [← flat] at split
  have met : c.package.toList ≠ [] ∧ c.className.toList ≠ [] ∧ '/' ∉ c.className.toList :=
    ⟨read.package_ne, read.class_ne, read.class_slash⟩
  rw [unflatten?_of_split split, read.package_trimmed.trim_eq, read.class_trimmed.trim_eq,
    if_pos met]
  by_cases relative : c.className.toList.head? = some '.'
  · rw [if_pos relative, reread, isRelative, if_pos (decide_eq_true relative)]
    simp
  · rw [if_neg relative, reread, isRelative, decide_eq_false relative]
    simp

end Component

end ProvisionGate
