/-!
# Lines and first separators

A line ends at a line feed, and a carriage return right before that line feed belongs to the line
end.  A text that ends with a line feed has no empty last line, and a carriage return at the very
end of a text is part of its last line.
-/

namespace ProvisionGate.Text

/-- The lines of a text, without their line ends. -/
def lines : List Char → List (List Char)
  | [] => []
  | '\n' :: rest => [] :: lines rest
  | '\r' :: '\n' :: rest => [] :: lines rest
  | c :: rest =>
    match lines rest with
    | [] => [[c]]
    | line :: more => (c :: line) :: more

/-- Lines put together again, with a line feed between any two. -/
def joinLines : List (List Char) → List Char
  | [] => []
  | [line] => line
  | line :: rest => line ++ '\n' :: joinLines rest

/-- The text before the first character that satisfies `p`, and the text after that character. -/
def splitAtFirst (p : Char → Bool) : List Char → Option (List Char × List Char)
  | [] => none
  | c :: rest =>
    if p c then some ([], rest)
    else (splitAtFirst p rest).map fun (before, after) => (c :: before, after)

variable {p : Char → Bool}

theorem splitAtFirst_eq_none_iff {s : List Char} :
    splitAtFirst p s = none ↔ ∀ c ∈ s, p c = false := by
  induction s with
  | nil => simp [splitAtFirst]
  | cons c rest ih => by_cases hit : p c = true <;> simp [splitAtFirst, hit, ih]

theorem splitAtFirst_append {before after : List Char} {separator : Char}
    (clear : ∀ c ∈ before, p c = false) (hit : p separator = true) :
    splitAtFirst p (before ++ separator :: after) = some (before, after) := by
  induction before with
  | nil => simp [splitAtFirst, hit]
  | cons c rest ih =>
    have miss := clear c (by simp)
    simp [splitAtFirst, miss, ih fun d member => clear d (by simp [member])]

end ProvisionGate.Text
