import ProvisionGate.Proofs.Request.Properties

/-!
# Properties that are written down

A body is written line by line: properties with any blanks around their keys and values, and lines
that are skipped, anywhere.  However it is written, the properties are found again, and of several
with one key the last.  A body behind another one adds its properties to those of the first and wins
where both give a key a value.
-/

namespace ProvisionGate.Properties

open Text

/-- A key that can be told from the rest of its line. -/
structure IsKey (key : String) : Prop where
  trimmed : Text.trimmed key = key
  clear : ∀ c ∈ key.toList, c ≠ '=' ∧ c ≠ ':' ∧ c ≠ '\n'
  counts : ∀ c ∈ key.toList.head?, c ≠ '#' ∧ c ≠ '!'

/-- A value that stays as it is on a line. -/
structure IsValue (value : String) : Prop where
  trimmed : Text.trimmed value = value
  oneLine : '\n' ∉ value.toList

/-- Blanks within a line: any but a line feed. -/
def IsSpace (s : List Char) : Prop :=
  ∀ c ∈ s, isBlank c = true ∧ c ≠ '\n'

/-- A line with a property, with blanks around the key and the value. -/
inductive Shows (key value : String) : List Char → Prop
  | line {before behindKey beforeValue behind : List Char} {separator : Char}
      (start : IsSpace before) (left : IsSpace behindKey) (right : IsSpace beforeValue)
      (finish : IsSpace behind) (separates : separator = '=' ∨ separator = ':') :
      Shows key value
        ((before ++ key.toList ++ behindKey) ++
          separator :: (beforeValue ++ value.toList ++ behind))

/-- A line that is skipped: a blank one, a comment, or one without a separator. -/
inductive IsSkipped (line : List Char) : Prop
  | blank (blank : ∀ c ∈ line, isBlank c = true)
  | comment {mark : Char} (begins : mark ∈ (trim line).head?) (marks : mark = '#' ∨ mark = '!')
  | bare (bare : ∀ c ∈ line, c ≠ '=' ∧ c ≠ ':')

/-- What stands behind a line: a line end with the rest of the text.  The last line needs no end. -/
inductive Ends : List Char → List Char → Prop
  | feed {rest : List Char} : Ends ('\n' :: rest) rest
  | returnFeed {rest : List Char} : Ends ('\r' :: '\n' :: rest) rest
  | last : Ends [] []

/-- A text writes properties: each on a line of its own, in order, with any lines between them that
are skipped. -/
inductive Renders : List (String × String) → List Char → Prop
  | done : Renders [] []
  | skipped {pairs : List (String × String)} {line behind rest : List Char}
      (skips : IsSkipped line) (oneLine : '\n' ∉ line) (ends : Ends behind rest)
      (more : Renders pairs rest) : Renders pairs (line ++ behind)
  | property {key value : String} {pairs : List (String × String)} {line behind rest : List Char}
      (shows : Shows key value line) (ends : Ends behind rest) (more : Renders pairs rest) :
      Renders ((key, value) :: pairs) (line ++ behind)

variable {key value : String} {pairs : List (String × String)} {line behind rest : List Char}

/-! ## One line -/

theorem IsSpace.blank {s : List Char} (space : IsSpace s) : ∀ c ∈ s, isBlank c = true :=
  fun c member => (space c member).1

theorem IsSpace.oneLine {s : List Char} (space : IsSpace s) : '\n' ∉ s :=
  fun member => (space _ member).2 rfl

theorem IsSpace.clear {s : List Char} (space : IsSpace s) : ∀ c ∈ s, isSeparator c = false := by
  intro c member
  cases separates : isSeparator c with
  | false => rfl
  | true =>
    have kept := isBlank_of_isSeparator separates
    rw [space.blank c member] at kept
    cases kept

theorem IsKey.isSeparator_eq (isKey : IsKey key) : ∀ c ∈ key.toList, isSeparator c = false := by
  intro c member
  obtain ⟨equals, colon, -⟩ := isKey.clear c member
  simp [isSeparator, equals, colon]

theorem trim_toList {text : String} (trimmed : Text.trimmed text = text) :
    trim text.toList = text.toList := by
  rw [← String.toList_inj, Text.trimmed, String.toList_ofList] at trimmed
  exact trimmed

/-- A line with a property holds the property. -/
theorem Shows.property?_eq (shows : Shows key value line) (isKey : IsKey key)
    (isValue : IsValue value) : property? line = some (key, value) := by
  obtain @⟨before, behindKey, beforeValue, behind, separator, start, left, right, finish,
    separates⟩ := shows
  have clear : ∀ c ∈ before ++ key.toList ++ behindKey, isSeparator c = false := by
    simp only [List.forall_mem_append]
    exact ⟨⟨start.clear, isKey.isSeparator_eq⟩, left.clear⟩
  have separating : isSeparator separator = true := by
    rcases separates with rfl | rfl <;> rfl
  have front : trim (before ++ key.toList ++ behindKey) = key.toList := by
    rw [trim_padded start.blank left.blank, trim_toList isKey.trimmed]
  have back : trim (beforeValue ++ value.toList ++ behind) = value.toList := by
    rw [trim_padded right.blank finish.blank, trim_toList isValue.trimmed]
  have counts :
      ¬ (trimStart (before ++ key.toList ++ behindKey)).head?.any isCommentMark = true := by
    rw [← head?_trim, front]
    cases first : key.toList.head? with
    | none => simp
    | some c =>
      obtain ⟨hash, bang⟩ := isKey.counts c first
      simp [isCommentMark, hash, bang]
  rw [property?_of_split (splitAtFirst_append clear separating), if_neg counts, front, back,
    String.ofList_toList, String.ofList_toList]

theorem Shows.oneLine (shows : Shows key value line) (isKey : IsKey key) (isValue : IsValue value) :
    '\n' ∉ line := by
  obtain @⟨before, behindKey, beforeValue, behind, separator, start, left, right, finish,
    separates⟩ := shows
  have inKey : '\n' ∉ key.toList := fun member => (isKey.clear _ member).2.2 rfl
  have other : '\n' ≠ separator := by
    rcases separates with rfl | rfl <;> decide
  simp [start.oneLine, left.oneLine, right.oneLine, finish.oneLine, isValue.oneLine, inKey, other]

/-- A line that is skipped holds nothing. -/
theorem IsSkipped.property?_eq (skips : IsSkipped line) : property? line = none := by
  cases skips with
  | blank blank =>
    have nothing : trim line = [] := by rw [trim, trimStart_of_blank blank, trimEnd_nil]
    rw [← property?_trim, nothing]
    rfl
  | comment begins marks =>
    have mark : (trim line).head?.any isCommentMark = true := by
      rw [Option.mem_def.1 begins]
      rcases marks with rfl | rfl <;> rfl
    rw [property?, if_pos mark]
  | bare bare =>
    refine property?_of_clear (splitAtFirst_eq_none_iff.2 fun c member => ?_)
    obtain ⟨equals, colon⟩ := bare c member
    simp [isSeparator, equals, colon]

/-! ## Line after line -/

theorem Ends.filterMap_lines (ends : Ends behind rest) (oneLine : '\n' ∉ line) :
    (lines (line ++ behind)).filterMap property? =
      (property? line).toList ++ (lines rest).filterMap property? := by
  cases ends with
  | feed => exact filterMap_lines_line property?_trim oneLine
  | returnFeed =>
    have clear : '\n' ∉ line ++ ['\r'] := by simp [oneLine]
    have same : property? (line ++ ['\r']) = property? line := by
      rw [← property?_trim, trim_append_blank (by decide), property?_trim]
    rw [← same, ← filterMap_lines_line property?_trim clear, List.append_assoc]
    rfl
  | last => rw [List.append_nil, filterMap_lines_of_clear rfl oneLine, lines, List.filterMap_nil,
      List.append_nil]

/-- The lines of a text hold the properties that were written. -/
theorem Renders.filterMap_lines {body : List Char} (renders : Renders pairs body)
    (fits : ∀ pair ∈ pairs, IsKey pair.1 ∧ IsValue pair.2) :
    (lines body).filterMap property? = pairs := by
  induction renders with
  | done => rfl
  | skipped skips oneLine ends more ih =>
    rw [ends.filterMap_lines oneLine, skips.property?_eq, ih fits]
    rfl
  | property shows ends more ih =>
    obtain ⟨⟨isKey, isValue⟩, others⟩ := List.forall_mem_cons.1 fits
    rw [ends.filterMap_lines (shows.oneLine isKey isValue), shows.property?_eq isKey isValue,
      ih others]
    rfl

/-- Bodies one behind the other, on lines of their own, have their properties one behind the
other. -/
theorem parse_append_newline (first second : String) :
    parse (first ++ "\n" ++ second) = TextMap.ofPairs
      ((lines first.toList).filterMap property? ++ (lines second.toList).filterMap property?) := by
  have whole : (first ++ "\n" ++ second).toList = first.toList ++ '\n' :: second.toList := by simp
  rw [parse, whole, filterMap_lines_append_newline property?_trim rfl]

/-- However properties are written down, they are found again, and of several with one key the last.
Of two bodies, one behind the other, the second one wins where both give a key a value. -/
theorem parse_decodes :
    (∀ (pairs : List (String × String)) (body : String),
      (∀ pair ∈ pairs, IsKey pair.1 ∧ IsValue pair.2) → Renders pairs body.toList →
        parse body = TextMap.ofPairs pairs ∧
          ∀ key value, (parse body).get? key = some value ↔
            ∃ before after, pairs = before ++ (key, value) :: after ∧
              ∀ later ∈ after, later.1 ≠ key) ∧
    ∀ (first second key : String), (parse (first ++ "\n" ++ second)).get? key =
      ((parse second).get? key).or ((parse first).get? key) := by
  constructor
  · intro pairs body fits renders
    have whole : parse body = TextMap.ofPairs pairs := by
      rw [parse, renders.filterMap_lines fits]
    refine ⟨whole, fun key value => ?_⟩
    rw [whole]
    exact TextMap.get?_ofPairs_eq_some_iff
  · intro first second key
    rw [parse_append_newline, parse, parse, TextMap.get?_ofPairs, TextMap.get?_ofPairs,
      TextMap.get?_ofPairs, List.reverse_append, List.lookup_append]

/-- A body with a comment, an empty line, a line without a separator, and a key that comes twice. -/
def motleyBody : String :=
  "\t# a = 0\r\n\n\u00a0a = 1\r\r\nplain\na:x=y"

theorem motleyBody_renders : Renders [("a", "1"), ("a", "x=y")] motleyBody.toList := by
  have space {c : Char} (blank : isBlank c = true) (other : c ≠ '\n') : IsSpace [c] :=
    List.forall_mem_singleton.2 ⟨blank, other⟩
  have final : Shows "a" "x=y" "a:x=y".toList :=
    @Shows.line "a" "x=y" [] [] [] [] ':' (by simp [IsSpace]) (by simp [IsSpace])
      (by simp [IsSpace]) (by simp [IsSpace]) (.inr rfl)
  have first : Shows "a" "1" "\u00a0a = 1\r".toList :=
    @Shows.line "a" "1" ['\u00a0'] [' '] [' '] ['\r'] '=' (space (by decide) (by decide))
      (space (by decide) (by decide)) (space (by decide) (by decide))
      (space (by decide) (by decide)) (.inl rfl)
  have comment : IsSkipped "\t# a = 0".toList := @IsSkipped.comment _ '#' (by decide) (.inl rfl)
  have empty : IsSkipped "".toList := .blank (by simp)
  have bare : IsSkipped "plain".toList := .bare (by simp)
  exact .skipped comment (by decide) .returnFeed <| .skipped empty (by decide) .feed <|
    .property first .returnFeed <| .skipped bare (by decide) .feed <| .property final .last .done

theorem motleyBody_decodes :
    (∀ pair ∈ [("a", "1"), ("a", "x=y")], IsKey pair.1 ∧ IsValue pair.2) ∧
      Renders [("a", "1"), ("a", "x=y")] motleyBody.toList ∧
      (parse motleyBody).get? "a" = some "x=y" ∧
      (parse ("a=0" ++ "\n" ++ motleyBody)).get? "a" = some "x=y" := by
  have fits : ∀ pair ∈ [("a", "1"), ("a", "x=y")], IsKey pair.1 ∧ IsValue pair.2 := by
    have isKey : IsKey "a" := ⟨by decide, by simp, by simp⟩
    simp only [List.forall_mem_cons]
    exact ⟨⟨isKey, by decide, by decide⟩, ⟨isKey, by decide, by decide⟩, by simp⟩
  have found : (parse motleyBody).get? "a" = some "x=y" :=
    ((parse_decodes.1 _ _ fits motleyBody_renders).2 "a" "x=y").2 ⟨[("a", "1")], [], rfl, by simp⟩
  refine ⟨fits, motleyBody_renders, found, ?_⟩
  rw [parse_decodes.2, found, Option.some_or]

end ProvisionGate.Properties
