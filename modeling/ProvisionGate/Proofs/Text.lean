import ProvisionGate.Text.Blank
import ProvisionGate.Text.Lines

/-!
# Texts that are trimmed and split

Trimming leaves a text that neither begins nor ends with a blank, and drops nothing else.  Lines
hold no line feed; put together and taken apart again they come back up to a carriage return at
their ends and an empty last line.  A text that is split at its first separator has none before it.
-/

namespace ProvisionGate.Text

variable {s t : List Char}

/-! ## Blanks at the ends -/

/-- A text that neither begins nor ends with a blank. -/
structure Trimmed (s : List Char) : Prop where
  head : ∀ c ∈ s.head?, isBlank c = false
  last : ∀ c ∈ s.getLast?, isBlank c = false

theorem head_trimStart : ∀ c ∈ (trimStart s).head?, isBlank c = false := by
  intro c first
  have dropped := List.head?_dropWhile_not isBlank s
  rw [show (s.dropWhile isBlank).head? = some c from first] at dropped
  exact dropped

theorem trimStart_of_head (head : ∀ c ∈ s.head?, isBlank c = false) : trimStart s = s := by
  cases s with
  | nil => rfl
  | cons c rest =>
    have kept := head c rfl
    rw [trimStart, List.dropWhile_cons, kept]
    rfl

theorem trimEnd_prefix : trimEnd s <+: s := by
  have suffix : trimStart s.reverse <:+ s.reverse := List.dropWhile_suffix isBlank
  rw [← List.reverse_reverse s]
  exact List.reverse_prefix.2 (by rwa [List.reverse_reverse])

theorem head_of_leading {c : Char} (shorter : t <+: s) (first : c ∈ t.head?) : c ∈ s.head? := by
  obtain ⟨rest, rfl⟩ := shorter
  cases t with
  | nil => cases first
  | cons d more => exact first

theorem trimmed_trim : Trimmed (trim s) where
  head c first := head_trimStart c (head_of_leading trimEnd_prefix first)
  last c final := by
    rw [trim, trimEnd, List.getLast?_reverse] at final
    exact head_trimStart c final

theorem Trimmed.trim_eq (trimmed : Trimmed s) : trim s = s := by
  have start := trimStart_of_head trimmed.head
  have back : ∀ c ∈ s.reverse.head?, isBlank c = false := by
    rw [List.head?_reverse]
    exact trimmed.last
  rw [trim, start, trimEnd, trimStart_of_head back, List.reverse_reverse]

theorem Trimmed.trimmed_eq {text : String} (trimmed : Trimmed text.toList) :
    Text.trimmed text = text := by
  rw [Text.trimmed, trimmed.trim_eq, String.ofList_toList]

theorem Trimmed.append (first : Trimmed s) (second : Trimmed t) (left : s ≠ []) (right : t ≠ []) :
    Trimmed (s ++ t) where
  head c member := by
    obtain ⟨d, rest, rfl⟩ := List.exists_cons_of_ne_nil left
    exact first.head c member
  last c member := by
    have final := List.getLast?_eq_some_getLast right
    rw [List.getLast?_append, final, Option.some_or] at member
    exact second.last c (final.trans member)

theorem trimStart_subset : trimStart s ⊆ s :=
  (List.dropWhile_suffix isBlank).subset

theorem trimEnd_subset : trimEnd s ⊆ s :=
  List.IsPrefix.subset trimEnd_prefix

theorem trim_subset : trim s ⊆ s := by
  intro c member
  exact trimStart_subset (trimEnd_subset member)

theorem trimStart_append (full : trimStart s ≠ []) :
    trimStart (s ++ t) = trimStart s ++ t := by
  unfold trimStart at full ⊢
  rw [List.dropWhile_append, if_neg (by simpa using full)]

/-- What is at the end of a text is trimmed up to a character that is not blank. -/
theorem trimEnd_append_cons {c : Char} (kept : isBlank c = false) :
    trimEnd (s ++ c :: t) = s ++ c :: trimEnd t := by
  unfold trimEnd trimStart
  rw [List.reverse_append, List.reverse_cons, List.append_assoc, List.dropWhile_append]
  split
  · rename_i blank
    rw [List.isEmpty_iff.1 blank, List.singleton_append, List.dropWhile_cons, kept]
    simp
  · simp

theorem mem_trimStart {c : Char} (member : c ∈ s) (kept : isBlank c = false) :
    c ∈ trimStart s := by
  induction s with
  | nil => exact member
  | cons d rest ih =>
    rw [trimStart, List.dropWhile_cons]
    split
    · rename_i blank
      rcases List.mem_cons.1 member with rfl | later
      · rw [kept] at blank
        cases blank
      · exact ih later
    · exact member

theorem mem_trimEnd {c : Char} (member : c ∈ s) (kept : isBlank c = false) : c ∈ trimEnd s :=
  List.mem_reverse.2 (mem_trimStart (List.mem_reverse.2 member) kept)

/-- A text is blank if nothing of it is left when it is trimmed. -/
theorem trim_ne_nil_iff : trim s ≠ [] ↔ ∃ c ∈ s, isBlank c = false := by
  constructor
  · intro full
    obtain ⟨c, rest, same⟩ := List.exists_cons_of_ne_nil full
    have first : c ∈ (trim s).head? := by
      rw [same]
      rfl
    exact ⟨c, trim_subset (List.mem_of_mem_head? first), trimmed_trim.head c first⟩
  · rintro ⟨c, member, kept⟩
    exact List.ne_nil_of_mem (mem_trimEnd (mem_trimStart member kept) kept)

theorem trimStart_append_of_blank (blank : trimStart s = []) : trimStart (s ++ t) = trimStart t := by
  unfold trimStart at blank ⊢
  rw [List.dropWhile_append, if_pos (by simp [blank])]

theorem trimEnd_append_blank {c : Char} (blank : isBlank c = true) :
    trimEnd (s ++ [c]) = trimEnd s := by
  unfold trimEnd trimStart
  rw [List.reverse_append, List.reverse_singleton, List.singleton_append, List.dropWhile_cons,
    if_pos blank]

theorem trim_append_blank {c : Char} (blank : isBlank c = true) : trim (s ++ [c]) = trim s := by
  by_cases left : trimStart s = []
  · have alone : trimStart [c] = [] := by rw [trimStart, List.dropWhile_cons, if_pos blank]; rfl
    rw [trim, trimStart_append_of_blank left, alone, trim, left]
  · rw [trim, trimStart_append left, trimEnd_append_blank blank, trim]

/-- A text that is trimmed begins where it begins without its leading blanks. -/
theorem head?_trim : (trim s).head? = (trimStart s).head? := by
  cases start : trimStart s with
  | nil =>
    rw [trim, start]
    rfl
  | cons c rest =>
    have kept : isBlank c = false := head_trimStart c (by rw [start]; rfl)
    have begun : trimEnd (c :: rest) = c :: trimEnd rest := trimEnd_append_cons (s := []) kept
    rw [trim, start, begun]
    rfl

theorem trim_trimStart : trim (trimStart s) = trim s := by
  rw [trim, trimStart_of_head head_trimStart, trim]

theorem trim_trimEnd (s : List Char) : trim (trimEnd s) = trim s := by
  rw [← s.reverse_reverse]
  induction s.reverse with
  | nil => rfl
  | cons c rest ih =>
    rw [List.reverse_cons]
    cases blank : isBlank c with
    | true => rw [trimEnd_append_blank blank, ih, trim_append_blank blank]
    | false => rw [trimEnd_append_cons blank, trimEnd_nil]

theorem trimStart_of_blank (blank : ∀ c ∈ s, isBlank c = true) : trimStart s = [] := by
  induction s with
  | nil => rfl
  | cons c rest ih =>
    obtain ⟨first, later⟩ := List.forall_mem_cons.1 blank
    rw [trimStart, List.dropWhile_cons, if_pos first]
    exact ih later

/-- Blanks around a text do not count when it is trimmed. -/
theorem trim_padded {before after : List Char} (left : ∀ c ∈ before, isBlank c = true)
    (right : ∀ c ∈ after, isBlank c = true) : trim (before ++ s ++ after) = trim s := by
  have start : trimStart (before ++ s) = trimStart s :=
    trimStart_append_of_blank (trimStart_of_blank left)
  rw [← after.reverse_reverse] at right ⊢
  generalize after.reverse = back at right ⊢
  induction back with
  | nil => rw [List.reverse_nil, List.append_nil, trim, start, trim]
  | cons c rest ih =>
    rw [List.reverse_cons] at right ⊢
    obtain ⟨others, last⟩ := List.forall_mem_append.1 right
    rw [← List.append_assoc, trim_append_blank (last c List.mem_cons_self), ih others]

/-! ## Lines -/

/-- A line without a carriage return at its end. -/
def withoutReturn (line : List Char) : List Char :=
  if line.getLast? = some '\r' then line.dropLast else line

theorem trim_withoutReturn (line : List Char) : trim (withoutReturn line) = trim line := by
  unfold withoutReturn
  split
  · rename_i last
    obtain ⟨rest, rfl⟩ := List.getLast?_eq_some_iff.1 last
    rw [List.dropLast_concat, trim_append_blank (by decide)]
  · rfl

theorem withoutReturn_cons {c : Char} {line : List Char} (full : line ≠ []) :
    withoutReturn (c :: line) = c :: withoutReturn line := by
  obtain ⟨d, more, rfl⟩ := List.exists_cons_of_ne_nil full
  unfold withoutReturn
  rw [List.getLast?_cons_cons, List.dropLast_cons_cons]
  split <;> rfl

theorem lines_cons {c : Char} {rest : List Char} (inside : c ≠ '\n')
    (alone : c = '\r' → rest.head? ≠ some '\n') :
    lines (c :: rest) =
      match lines rest with
      | [] => [[c]]
      | line :: more => (c :: line) :: more := by
  have apart : ∀ more, c = '\r' → rest = '\n' :: more → False := by
    rintro more rfl rfl
    exact alone rfl rfl
  refine (lines.eq_4 c rest inside apart).trans ?_
  cases lines rest <;> rfl

theorem lines_append_newline {line rest : List Char} (clear : '\n' ∉ line) :
    lines (line ++ '\n' :: rest) = withoutReturn line :: lines rest := by
  induction line with
  | nil => rfl
  | cons c more ih =>
    obtain ⟨other, later⟩ : '\n' ≠ c ∧ '\n' ∉ more := by simpa using clear
    by_cases last : more = []
    · subst last
      by_cases ret : c = '\r'
      · subst ret
        rfl
      · have kept : withoutReturn [c] = [c] := by simp [withoutReturn, ret]
        rw [kept, List.singleton_append, lines_cons other.symm (fun same => absurd same ret)]
        rfl
    · have next : (more ++ '\n' :: rest).head? ≠ some '\n' := by
        obtain ⟨d, others, rfl⟩ := List.exists_cons_of_ne_nil last
        intro same
        exact later (by simp [Option.some.inj same])
      rw [List.cons_append, lines_cons other.symm fun _ => next, ih later, withoutReturn_cons last]

theorem lines_of_clear {line : List Char} (clear : '\n' ∉ line) (full : line ≠ []) :
    lines line = [line] := by
  induction line with
  | nil => exact absurd rfl full
  | cons c more ih =>
    obtain ⟨other, later⟩ : '\n' ≠ c ∧ '\n' ∉ more := by simpa using clear
    have next : more.head? ≠ some '\n' := fun first => later (List.mem_of_mem_head? first)
    rw [lines_cons other.symm fun _ => next]
    by_cases last : more = []
    · subst last
      rfl
    · rw [ih later last]

theorem newline_not_mem_of_lines : ∀ line ∈ lines s, '\n' ∉ line := by
  fun_induction lines s with
  | case1 => simp
  | case2 rest ih => exact List.forall_mem_cons.2 ⟨by simp, ih⟩
  | case3 rest ih => exact List.forall_mem_cons.2 ⟨by simp, ih⟩
  | case4 c rest inside alone none ih =>
    intro line member
    obtain rfl := List.mem_singleton.1 member
    simpa using fun same => inside same.symm
  | case5 c rest inside alone line more found ih =>
    rw [found] at ih
    obtain ⟨first, later⟩ := List.forall_mem_cons.1 ih
    refine List.forall_mem_cons.2 ⟨?_, later⟩
    simp only [List.mem_cons, not_or]
    exact ⟨fun same => inside same.symm, first⟩

section reading

variable {α : Type} {f : List Char → Option α} {line : List Char}

theorem filterMap_lines_of_clear (none : f [] = none) (clear : '\n' ∉ line) :
    (lines line).filterMap f = (f line).toList := by
  by_cases full : line = []
  · subst full
    rw [none]
    rfl
  · rw [lines_of_clear clear full, List.filterMap_cons]
    cases f line <;> rfl

/-- The end of a line does not count for what is left of the line when it is trimmed. -/
theorem filterMap_lines_line (trims : ∀ line, f (trim line) = f line) {rest : List Char}
    (clear : '\n' ∉ line) :
    (lines (line ++ '\n' :: rest)).filterMap f = (f line).toList ++ (lines rest).filterMap f := by
  have same : f (withoutReturn line) = f line := by
    rw [← trims, trim_withoutReturn, trims]
  rw [lines_append_newline clear, List.filterMap_cons, same]
  cases f line <;> rfl

/-- What is read from the lines of a text is read from the lines put together again, if it is a
matter of what is left of a line when it is trimmed. -/
theorem filterMap_lines_joinLines (trims : ∀ line, f (trim line) = f line) (none : f [] = none)
    {ls : List (List Char)} (clear : ∀ line ∈ ls, '\n' ∉ line) :
    (lines (joinLines ls)).filterMap f = ls.filterMap f := by
  fun_induction joinLines ls with
  | case1 => rfl
  | case2 line =>
    rw [filterMap_lines_of_clear none (clear line List.mem_cons_self), List.filterMap_cons]
    cases f line <;> rfl
  | case3 line rest more ih =>
    obtain ⟨first, later⟩ := List.forall_mem_cons.1 clear
    rw [filterMap_lines_line trims first, ih later, List.filterMap_cons]
    cases f line <;> rfl

/-- What is read from the lines of two texts is read from the texts with a line feed between them,
under the same condition. -/
theorem filterMap_lines_append_newline (trims : ∀ line, f (trim line) = f line)
    (none : f [] = none) (s t : List Char) :
    (lines (s ++ '\n' :: t)).filterMap f = (lines s).filterMap f ++ (lines t).filterMap f := by
  -- The lines of the first text are taken off one by one, up to its last one.
  induction length : s.length using Nat.strongRecOn generalizing s with
  | ind n ih =>
    by_cases more : '\n' ∈ s
    · obtain ⟨line, rest, rfl, clear⟩ := List.eq_append_cons_of_mem more
      have shorter : rest.length < n := by
        rw [← length, List.length_append, List.length_cons]
        omega
      rw [List.append_assoc, List.cons_append, filterMap_lines_line trims clear,
        filterMap_lines_line trims clear, ih rest.length shorter rest rfl, List.append_assoc]
    · rw [filterMap_lines_line trims more, filterMap_lines_of_clear none more]

end reading

/-! ## The first separator -/

/-- What is before the first separator holds none. -/
theorem splitAtFirst_clear {p : Char → Bool} {before after : List Char}
    (split : splitAtFirst p s = some (before, after)) : ∀ c ∈ before, p c = false := by
  induction s generalizing before after with
  | nil => cases split
  | cons d rest ih =>
    by_cases hit : p d = true
    · rw [splitAtFirst, if_pos hit] at split
      obtain ⟨rfl, -⟩ := Prod.mk.inj (Option.some.inj split)
      simp
    · rw [splitAtFirst, if_neg hit, Option.map_eq_some_iff] at split
      obtain ⟨⟨first, second⟩, found, same⟩ := split
      obtain ⟨rfl, -⟩ := Prod.mk.inj same
      intro c member
      rcases List.mem_cons.1 member with rfl | later
      · exact Bool.eq_false_iff.2 hit
      · exact ih found c later

/-- A text is what is before a separator, the separator, and what is after it. -/
theorem splitAtFirst_eq_some {p : Char → Bool} {before after : List Char}
    (split : splitAtFirst p s = some (before, after)) :
    ∃ separator, p separator = true ∧ s = before ++ separator :: after := by
  induction s generalizing before after with
  | nil => cases split
  | cons c rest ih =>
    by_cases hit : p c = true
    · rw [splitAtFirst, if_pos hit] at split
      obtain ⟨rfl, rfl⟩ := Prod.mk.inj (Option.some.inj split)
      exact ⟨c, hit, rfl⟩
    · rw [splitAtFirst, if_neg hit, Option.map_eq_some_iff] at split
      obtain ⟨⟨first, second⟩, found, same⟩ := split
      obtain ⟨rfl, rfl⟩ := Prod.mk.inj same
      obtain ⟨separator, separates, rfl⟩ := ih found
      exact ⟨separator, separates, rfl⟩

end ProvisionGate.Text
