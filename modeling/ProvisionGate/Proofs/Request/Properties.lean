import ProvisionGate.Proofs.Text
import ProvisionGate.Proofs.TextMap
import ProvisionGate.Request.Properties

/-!
# Properties on raw lines

A property is read from a line that was trimmed first, and a secret is masked on the line as it is.
The two agree on where the key ends, since no separator is blank: masking a body masks the property
of every secret key and leaves all other properties alone.  What a body gives a key is what the last
line that holds a property of this key gives it.
-/

namespace ProvisionGate.Properties

open Text

variable {line key value : List Char}

theorem isBlank_of_isSeparator {c : Char} (separates : isSeparator c = true) :
    isBlank c = false := by
  simp only [isSeparator, Bool.or_eq_true, beq_iff_eq] at separates
  rcases separates with rfl | rfl <;> decide

theorem isCommentMark_of_isSeparator {c : Char} (separates : isSeparator c = true) :
    isCommentMark c = false := by
  simp only [isSeparator, Bool.or_eq_true, beq_iff_eq] at separates
  rcases separates with rfl | rfl <;> decide

/-- A line is trimmed on both sides of its first separator. -/
theorem trim_of_split (split : splitAtFirst isSeparator line = some (key, value)) :
    ∃ separator, isSeparator separator = true ∧
      trim line = trimStart key ++ separator :: trimEnd value := by
  obtain ⟨separator, separates, rfl⟩ := splitAtFirst_eq_some split
  have kept := isBlank_of_isSeparator separates
  refine ⟨separator, separates, ?_⟩
  by_cases blank : trimStart key = []
  · have head : ∀ c ∈ (separator :: value).head?, isBlank c = false := by
      intro c first
      obtain rfl := Option.some.inj first
      exact kept
    rw [trim, trimStart_append_of_blank blank, trimStart_of_head head, blank, List.nil_append]
    exact trimEnd_append_cons (s := []) kept
  · rw [trim, trimStart_append blank, trimEnd_append_cons kept]

/-- A line without a separator holds no property. -/
theorem property?_of_clear (clear : splitAtFirst isSeparator line = none) :
    property? line = none := by
  have inside := splitAtFirst_eq_none_iff.1 clear
  have none : splitAtFirst isSeparator (trim line) = none :=
    splitAtFirst_eq_none_iff.2 fun c member => inside c (trim_subset member)
  simp [property?, none]

/-- The property on a line, by where the line as it is has its first separator. -/
theorem property?_of_split (split : splitAtFirst isSeparator line = some (key, value)) :
    property? line =
      if (trimStart key).head?.any isCommentMark then none
      else some (String.ofList (trim key), String.ofList (trim value)) := by
  obtain ⟨separator, separates, whole⟩ := trim_of_split split
  have clear : ∀ c ∈ trimStart key, isSeparator c = false := fun c member =>
    splitAtFirst_clear split c (trimStart_subset member)
  have mark : (trimStart key ++ separator :: trimEnd value).head?.any isCommentMark =
      (trimStart key).head?.any isCommentMark := by
    cases trimStart key with
    | nil => simp [isCommentMark_of_isSeparator separates]
    | cons c rest => rfl
  simp only [property?, whole, mark, splitAtFirst_append clear separates, Option.map_some,
    trim_trimStart, trim_trimEnd]

theorem property?_trim (line : List Char) : property? (trim line) = property? line := by
  unfold property?
  rw [trimmed_trim.trim_eq]

/-- A line whose key is the password's gives the password. -/
theorem property?_of_password (split : splitAtFirst isSeparator line = some (key, value))
    (secret : String.ofList (trim key) = Key.wifiPassword) :
    property? line = some (Key.wifiPassword, String.ofList (trim value)) := by
  have trimmed : trim key = Key.wifiPassword.toList := by
    rw [← secret, String.toList_ofList]
  have head : 'p' ∈ (trimStart key).head? := by
    apply head_of_leading trimEnd_prefix
    show 'p' ∈ (trim key).head?
    rw [trimmed]
    rfl
  rw [property?_of_split split, Option.mem_def.1 head, ← secret]
  rfl

/-- A property with its value masked if its key is secret. -/
def maskProperty (property : String × String) : String × String :=
  if property.1 = Key.wifiPassword then (property.1, mask) else property

/-- Masking a line masks its property. -/
theorem property?_redactLine (line : List Char) :
    property? (redactLine line) = (property? line).map maskProperty := by
  cases split : splitAtFirst isSeparator line with
  | none =>
    have same : redactLine line = line := by rw [redactLine, split]
    rw [same, property?_of_clear split]
    rfl
  | some parts =>
    obtain ⟨key, value⟩ := parts
    by_cases secret : String.ofList (trim key) = Key.wifiPassword
    · have masked : redactLine line = trimEnd key ++ '=' :: mask.toList := by
        simp only [redactLine, split, Key.secret, List.mem_singleton, if_pos secret]
      have clear : ∀ c ∈ trimEnd key, isSeparator c = false := fun c member =>
        splitAtFirst_clear split c (trimEnd_subset member)
      have again : splitAtFirst isSeparator (trimEnd key ++ '=' :: mask.toList) =
          some (trimEnd key, mask.toList) := splitAtFirst_append clear (by decide)
      have kept : String.ofList (trim (trimEnd key)) = Key.wifiPassword := by
        rw [trim_trimEnd, secret]
      have shown : String.ofList (trim mask.toList) = mask := by decide
      rw [masked, property?_of_password again kept, property?_of_password split secret, shown,
        Option.map_some, maskProperty, if_pos rfl]
    · have same : redactLine line = line := by
        simp only [redactLine, split, Key.secret, List.mem_singleton, if_neg secret]
      rw [same, property?_of_split split]
      split
      · rfl
      · rw [Option.map_some, maskProperty, if_neg secret]

theorem newline_not_mem_redactLine (clear : '\n' ∉ line) : '\n' ∉ redactLine line := by
  unfold redactLine
  cases split : splitAtFirst isSeparator line with
  | none => exact clear
  | some parts =>
    obtain ⟨key, value⟩ := parts
    simp only
    split
    · obtain ⟨separator, -, rfl⟩ := splitAtFirst_eq_some split
      intro member
      rcases List.mem_append.1 member with inside | behind
      · exact clear (List.mem_append_left _ (trimEnd_subset inside))
      · exact absurd behind (by decide)
    · exact clear

/-- The properties of a masked body are those of the body, masked one by one. -/
theorem filterMap_lines_redact (body : String) :
    (lines (redact body).toList).filterMap property? =
      ((lines body.toList).filterMap property?).map maskProperty := by
  have clear : ∀ line ∈ (lines body.toList).map redactLine, '\n' ∉ line := by
    intro line member
    obtain ⟨raw, inside, rfl⟩ := List.mem_map.1 member
    exact newline_not_mem_redactLine (newline_not_mem_of_lines raw inside)
  rw [redact, String.toList_ofList, filterMap_lines_joinLines property?_trim rfl clear,
    List.filterMap_map, List.map_filterMap]
  congr 1
  funext line
  exact property?_redactLine line

/-! ## What a body gives a key -/

/-- A line holds a property: trimmed, it does not begin a comment, and its first separator stands
between the key and the value. -/
inductive Holds : List Char → String → String → Prop
  | line {line front back : List Char} {separator : Char}
      (whole : trim line = front ++ separator :: back) (separates : isSeparator separator = true)
      (first : ∀ c ∈ front, isSeparator c = false)
      (counts : ∀ c ∈ front.head?, isCommentMark c = false) :
      Holds line (String.ofList (trim front)) (String.ofList (trim back))

/-- A body gives a key a value: the last of its lines that hold a property of the key does. -/
def Gives (body key value : String) : Prop :=
  ∃ before line after, lines body.toList = before ++ line :: after ∧ Holds line key value ∧
    ∀ later ∈ after, ∀ other, ¬ Holds later key other

theorem property?_eq_some_iff {line : List Char} {key value : String} :
    property? line = some (key, value) ↔ Holds line key value := by
  constructor
  · intro held
    unfold property? at held
    simp only at held
    split at held
    · cases held
    · rename_i counts
      obtain ⟨⟨front, back⟩, split, same⟩ := Option.map_eq_some_iff.1 held
      obtain ⟨separator, separates, whole⟩ := splitAtFirst_eq_some split
      obtain ⟨rfl, rfl⟩ := Prod.mk.inj same
      refine .line whole separates (splitAtFirst_clear split) fun c first => ?_
      have head : c ∈ (trim line).head? := by
        rw [whole]
        exact head_of_leading (List.prefix_append _ _) first
      rw [Option.mem_def.1 head, Option.any_some] at counts
      exact Bool.eq_false_iff.2 counts
  · rintro ⟨whole, separates, first, counts⟩
    rename_i front back separator
    have mark : (front ++ separator :: back).head?.any isCommentMark = false := by
      cases front with
      | nil => exact isCommentMark_of_isSeparator separates
      | cons c rest => exact counts c rfl
    simp only [property?, whole, mark, splitAtFirst_append first separates, Option.map_some]
    rfl

theorem get?_parse_eq_some_iff {body key value : String} :
    (parse body).get? key = some value ↔ Gives body key value := by
  unfold parse Gives
  simp only [TextMap.get?_ofPairs_filterMap_eq_some_iff, ne_eq, property?_eq_some_iff]

-- The comment and the line without a separator hold nothing, and the last line of a key counts.
example : parse "#a=1\na: 2\nb\n a = x=y " = TextMap.ofPairs [("a", "x=y")] := by
  decide

theorem Gives.unique {body key value other : String} (gives : Gives body key value)
    (again : Gives body key other) : value = other := by
  rw [← get?_parse_eq_some_iff] at gives again
  exact Option.some.inj (gives.symm.trans again)

/-- Keys and values have no blanks at their ends. -/
theorem Gives.trimmed {body key value : String} (gives : Gives body key value) :
    Trimmed value.toList := by
  obtain ⟨before, line, after, -, held, -⟩ := gives
  cases held with
  | line =>
    rw [String.toList_ofList]
    exact trimmed_trim

end ProvisionGate.Properties
