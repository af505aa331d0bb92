import Mathlib.Data.List.DropRight
import ProvisionGate.Json.Skip
import ProvisionGate.Proofs.Json.Value

/-!
# Records are read again

A reader that passes over the members it does not know reads an object as any other reader does if
it knows all members of the object.  So a record that is written is read back.
-/

namespace ProvisionGate.Json

variable {names : List String} {s rest : List Char}

theorem skipSpace_skipSpace (s : List Char) : skipSpace (skipSpace s) = skipSpace s :=
  List.dropWhile_idempotent _ _

theorem readValue_skipSpace (room : Nat) (s : List Char) :
    readValue room (skipSpace s) = readValue room s := by
  cases room <;> rw [readValue, readValue, skipSpace_skipSpace]

/-! ## What was read -/

variable {item : ValueReader} {members : List (String × Json)}

theorem of_readMember {member : String × Json} (read : readMember item s = some (member, rest)) :
    ∃ quoted named after, skipSpace s = '"' :: quoted ∧
      stringBody? quoted = some (member.1, named) ∧ skipSpace named = ':' :: after ∧
        item after = some (member.2, rest) := by
  unfold readMember at read
  split at read
  · rename_i quoted opened
    obtain ⟨⟨key, named⟩, text, read⟩ := Option.bind_eq_some_iff.1 read
    dsimp only at read
    split at read
    · rename_i after colon
      obtain ⟨⟨value, last⟩, found, same⟩ := Option.bind_eq_some_iff.1 read
      obtain ⟨rfl, rfl⟩ := Prod.mk.inj (Option.some.inj same)
      exact ⟨quoted, named, after, opened, text, colon, found⟩
    · cases read
  · cases read

theorem of_readMembers {c : Char} {bound : List Char}
    (read : readMembers item (c :: bound) s = some (members, rest)) :
    members = [] ∧ skipSpace s = '}' :: rest ∨
      ∃ next member after more, members = member :: more ∧ skipSpace s = ',' :: next ∧
        readMember item next = some (member, after) ∧
          readMembers item bound after = some (more, rest) := by
  unfold readMembers at read
  split at read
  · rename_i closed
    obtain ⟨rfl, rfl⟩ := Prod.mk.inj (Option.some.inj read)
    exact .inl ⟨rfl, closed⟩
  · rename_i next comma
    obtain ⟨⟨member, after⟩, first, read⟩ := Option.bind_eq_some_iff.1 read
    obtain ⟨⟨more, last⟩, others, same⟩ := Option.bind_eq_some_iff.1 read
    obtain ⟨rfl, rfl⟩ := Prod.mk.inj (Option.some.inj same)
    exact .inr ⟨next, member, after, more, rfl, comma, first, others⟩
  · cases read

theorem of_readObject (read : readObject item s = some (object members, rest)) :
    members = [] ∧ skipSpace s = '}' :: rest ∨
      ∃ member after more, members = member :: more ∧
        readMember item (skipSpace s) = some (member, after) ∧
          readMembers item (skipSpace s) after = some (more, rest) := by
  unfold readObject at read
  split at read
  · rename_i closed
    obtain ⟨same, rfl⟩ := Prod.mk.inj (Option.some.inj read)
    exact .inl ⟨(object.inj same).symm, closed⟩
  · obtain ⟨⟨member, after⟩, first, read⟩ := Option.bind_eq_some_iff.1 read
    obtain ⟨⟨more, last⟩, others, same⟩ := Option.bind_eq_some_iff.1 read
    obtain ⟨found, rfl⟩ := Prod.mk.inj (Option.some.inj same)
    exact .inr ⟨member, after, more, (object.inj found).symm, first, others⟩

/-! ## Members that are known -/

theorem readKnownMember_of_readMember {member : String × Json} (known : member.1 ∈ names)
    (read : readMember (readValue (nestingLimit - 1)) s = some (member, rest)) :
    readKnownMember names s = some (member, rest) := by
  obtain ⟨quoted, named, after, opened, text, colon, found⟩ := of_readMember read
  unfold readKnownMember
  rw [opened]
  simp only [text, Option.bind_eq_bind, Option.bind_some, colon]
  rw [if_pos known, found]
  rfl

/-- Members that are all known are read, however much longer the bound is. -/
theorem readKnownMembers_of_readMembers {bound longer : List Char}
    (known : ∀ member ∈ members, member.1 ∈ names) (long : bound.length ≤ longer.length)
    (read : readMembers (readValue (nestingLimit - 1)) bound s = some (members, rest)) :
    readKnownMembers names longer s = some (members, rest) := by
  induction bound generalizing longer s members with
  | nil => cases read
  | cons c bound ih =>
    cases longer with
    | nil => cases long
    | cons d longer =>
      unfold readKnownMembers
      rcases of_readMembers read with
        ⟨rfl, closed⟩ | ⟨next, member, after, more, rfl, comma, first, others⟩
      · simp only [closed]
      · obtain ⟨firstKnown, othersKnown⟩ := List.forall_mem_cons.1 known
        have member := readKnownMember_of_readMember firstKnown first
        have members := ih othersKnown (Nat.le_of_succ_le_succ long) others
        rw [comma]
        simp only [member, members, Option.bind_eq_bind, Option.bind_some]
        rfl

/-- The first member begins with a quote, so the object is not empty. -/
theorem readRecord_of_members {body : List Char} {member : String × Json}
    {more : List (String × Json)} {after : List Char} (opened : skipSpace s = '{' :: body)
    (quoted : ∃ tail, skipSpace body = '"' :: tail)
    (first : readKnownMember names (skipSpace body) = some (member, after))
    (others : readKnownMembers names s after = some (more, rest)) :
    readRecord names s = some (object (member :: more), rest) := by
  obtain ⟨tail, quoted⟩ := quoted
  rw [quoted] at first
  unfold readRecord
  rw [opened]
  simp [quoted, first, others]

/-- An object whose members are all known is read as any other value. -/
theorem readRecord_of_readValue (known : ∀ member ∈ members, member.1 ∈ names)
    (read : readValue nestingLimit s = some (object members, rest)) :
    readRecord names s = some (object members, rest) := by
  have shorter (s : List Char) : (skipSpace s).length ≤ s.length :=
    (List.dropWhile_suffix isSpace).length_le
  by_cases brace : ∃ body, skipSpace s = '{' :: body
  · obtain ⟨body, opened⟩ := brace
    have long : (skipSpace body).length ≤ s.length := by
      have whole := shorter s
      rw [opened, List.length_cons] at whole
      exact Nat.le_trans (shorter body) (Nat.le_of_succ_le whole)
    have whole : readObject (readValue (nestingLimit - 1)) body = some (object members, rest) := by
      rw [show nestingLimit = nestingLimit - 1 + 1 from rfl, readValue, opened] at read
      exact read
    rcases of_readObject whole with
      ⟨rfl, closed⟩ | ⟨member, after, more, rfl, first, others⟩
    · unfold readRecord
      rw [opened]
      simp only [closed]
    · obtain ⟨firstKnown, othersKnown⟩ := List.forall_mem_cons.1 known
      obtain ⟨tail, -, -, quoted, -⟩ := of_readMember first
      rw [skipSpace_skipSpace] at quoted
      exact readRecord_of_members opened ⟨tail, quoted⟩
        (readKnownMember_of_readMember firstKnown first)
        (readKnownMembers_of_readMembers othersKnown long others)
  · unfold readRecord
    split
    · rename_i body opened
      exact absurd ⟨body, opened⟩ brace
    · rw [readValue_skipSpace]
      exact read

/-- A record that was written in any layout is read back by a reader that knows its members. -/
theorem recordOfText?_layout (layout : Layout) (known : ∀ member ∈ members, member.1 ∈ names)
    (exact : IsExact nestingLimit (object members)) :
    recordOfText? names (layout.value 0 (object members)) = some (object members) := by
  unfold recordOfText?
  rw [readRecord_of_readValue known (layout.readValue_whole exact)]
  rfl

theorem recordOfText?_indented (known : ∀ member ∈ members, member.1 ∈ names)
    (exact : IsExact nestingLimit (object members)) :
    recordOfText? names (indentedText 0 (object members)) = some (object members) :=
  recordOfText?_layout .indented known exact

end ProvisionGate.Json
