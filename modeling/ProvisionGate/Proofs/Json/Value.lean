import ProvisionGate.Proofs.Json.Leaf

/-!
# Values are read again

The compact and the indented text of a value differ in nothing but the blanks between its parts.
Both are layouts, and every layout of a value that nests no deeper than a text may, and whose
numbers are integers of sixty-four bits, is read back as the value.
-/

namespace ProvisionGate.Json

/-- A value that reads back as it was written: it nests at most a number of containers, and its
numbers are integers that fit. -/
inductive IsExact : Nat → Json → Prop
  | null {room : Nat} : IsExact room null
  | bool {room : Nat} (value : Bool) : IsExact room (bool value)
  | int {room : Nat} {value : Int} (fits : FitsWord value) : IsExact room (ofInt value)
  | text {room : Nat} (value : String) : IsExact room (text value)
  | array {room : Nat} {items : List Json} (exact : ∀ item ∈ items, IsExact room item) :
      IsExact (room + 1) (array items)
  | object {room : Nat} {members : List (String × Json)}
      (exact : ∀ member ∈ members, IsExact room member.2) : IsExact (room + 1) (object members)

/-- The value is no container that holds something. -/
def IsLeaf : Json → Prop
  | array items => items = []
  | object members => members = []
  | _ => True

/-- Nothing but blanks. -/
def IsBlank (s : List Char) : Prop :=
  ∀ c ∈ s, isSpace c = true

/-- A way to write values, with blanks between their parts. -/
structure Layout where
  /-- The text of a value inside a number of containers. -/
  value : Nat → Json → List Char
  /-- The text of an array from the end of its first item on. -/
  items : Nat → List Json → List Char
  /-- The text of an object from the end of its first member on. -/
  members : Nat → List (String × Json) → List Char
  /-- What stands before an item, a member or a closing bracket. -/
  gap : Nat → List Char
  /-- What stands after a colon. -/
  pause : List Char
  gap_blank : ∀ depth, IsBlank (gap depth)
  pause_blank : IsBlank pause
  value_leaf : ∀ depth j, IsLeaf j → value depth j = compactText j
  value_array : ∀ depth item rest, value depth (array (item :: rest)) =
    '[' :: gap (depth + 1) ++ value (depth + 1) item ++ items depth rest
  value_object : ∀ depth key j rest, value depth (object ((key, j) :: rest)) =
    '{' :: gap (depth + 1) ++ stringText key ++ ':' :: pause ++ value (depth + 1) j ++
      members depth rest
  items_nil : ∀ depth, items depth [] = gap depth ++ [']']
  items_cons : ∀ depth item rest, items depth (item :: rest) =
    ',' :: gap (depth + 1) ++ value (depth + 1) item ++ items depth rest
  members_nil : ∀ depth, members depth [] = gap depth ++ ['}']
  members_cons : ∀ depth key j rest, members depth ((key, j) :: rest) =
    ',' :: gap (depth + 1) ++ stringText key ++ ':' :: pause ++ value (depth + 1) j ++
      members depth rest

namespace Layout

/-- Without blanks. -/
def compact : Layout where
  value _ := compactText
  items _ := compactItems
  members _ := compactMembers
  gap _ := []
  pause := []
  gap_blank := by simp [IsBlank]
  pause_blank := by simp [IsBlank]
  value_leaf _ _ _ := rfl
  value_array := by simp [compactText]
  value_object := by simp [compactText]
  items_nil := by simp [compactItems]
  items_cons := by simp [compactItems]
  members_nil := by simp [compactMembers]
  members_cons := by simp [compactMembers]

/-- Every part on a line of its own. -/
def indented : Layout where
  value := indentedText
  items := indentedItems
  members := indentedMembers
  gap := newLine
  pause := [' ']
  gap_blank := by simp [IsBlank, newLine, isSpace]
  pause_blank := by simp [IsBlank, isSpace]
  value_leaf depth j leaf := by
    cases j with
    | array items =>
      obtain rfl : items = [] := leaf
      simp [indentedText]
    | object members =>
      obtain rfl : members = [] := leaf
      simp [indentedText]
    | _ => simp [indentedText]
  value_array := by simp [indentedText]
  value_object := by simp [indentedText]
  items_nil := by simp [indentedItems]
  items_cons := by simp [indentedItems]
  members_nil := by simp [indentedMembers]
  members_cons := by simp [indentedMembers]

end Layout

variable {room depth : Nat} {j : Json} {key : String} {s t rest : List Char}

/-! ## Between the parts -/

theorem skipSpace_blank (blank : IsBlank s) : skipSpace (s ++ t) = skipSpace t :=
  List.dropWhile_append_of_pos blank

theorem skipSpace_shown {c : Char} (shown : isSpace c = false) : skipSpace (c :: t) = c :: t := by
  rw [skipSpace, List.dropWhile_cons, shown]
  rfl

theorem readValue_blank (blank : IsBlank s) : readValue room (s ++ t) = readValue room t := by
  cases room <;> rw [readValue, readValue, skipSpace_blank blank]

theorem endsNumber_blank (blank : IsBlank s) (ends : EndsNumber t) : EndsNumber (s ++ t) := by
  cases s with
  | nil => exact ends
  | cons c s =>
    have space := blank c List.mem_cons_self
    simp only [isSpace, Bool.or_eq_true, beq_iff_eq] at space
    rintro d ⟨⟩
    rcases space with ((rfl | rfl) | rfl) | rfl <;> decide

theorem endsNumber_cons {c : Char} (ends : c.isDigit = false ∧ c ≠ '.' ∧ c ≠ 'e' ∧ c ≠ 'E') :
    EndsNumber (c :: t) := by
  rintro d ⟨⟩
  exact ends

/-! ## Leaves -/

theorem readValue_scalar {c : Char} (shown : isSpace c = false) (bracket : c ≠ '[')
    (brace : c ≠ '{') : readValue room (c :: t) = readScalar (c :: t) := by
  cases room with
  | zero => rw [readValue, skipSpace_shown shown]
  | succ room =>
    rw [readValue, skipSpace_shown shown]
    split
    · rename_i same
      exact absurd (List.cons.inj same).1 bracket
    · rename_i same
      exact absurd (List.cons.inj same).1 brace
    · rfl

theorem readScalar_text (value : String) :
    readScalar (stringText value ++ rest) = some (text value, rest) := by
  simp [stringText, readScalar, stringBody?_escaped]

theorem readValue_leaf (exact : IsExact room j) (leaf : IsLeaf j) (ends : EndsNumber rest) :
    readValue room (compactText j ++ rest) = some (j, rest) := by
  cases exact with
  | null => exact readValue_scalar (by decide) (by decide) (by decide)
  | bool value =>
    cases value with
    | false => exact readValue_scalar (by decide) (by decide) (by decide)
    | true => exact readValue_scalar (by decide) (by decide) (by decide)
  | @int _ value fits =>
    obtain ⟨c, s, written, starts⟩ := intText_starts value
    have read := readScalar_intText fits ends
    have scalar : readValue room (c :: s ++ rest) = readScalar (c :: s ++ rest) :=
      readValue_scalar starts.shown (starts.ne (by decide)) (starts.ne (by decide))
    rw [← written] at scalar
    exact scalar.trans read
  | text value =>
    have scalar : readValue room (stringText value ++ rest) =
        readScalar (stringText value ++ rest) :=
      readValue_scalar (by decide) (by decide) (by decide)
    exact scalar.trans (readScalar_text value)
  | array exact =>
    obtain rfl := leaf
    rfl
  | object exact =>
    obtain rfl := leaf
    rfl

/-! ## Containers -/

namespace Layout

variable (layout : Layout)

/-- Wherever the value is written, it is read back. -/
def ReadsBack (room : Nat) (j : Json) : Prop :=
  ∀ depth rest, EndsNumber rest → readValue room (layout.value depth j ++ rest) = some (j, rest)

/-- No value begins with a blank or like the end of an array. -/
theorem value_starts (exact : IsExact room j) (depth : Nat) :
    ∃ c s, layout.value depth j = c :: s ∧ isSpace c = false ∧ c ≠ ']' := by
  cases exact with
  | null => exact ⟨'n', _, layout.value_leaf depth _ trivial, by decide, by decide⟩
  | bool value =>
    have written := layout.value_leaf depth (bool value) trivial
    cases value with
    | false => exact ⟨'f', _, written, by decide, by decide⟩
    | true => exact ⟨'t', _, written, by decide, by decide⟩
  | @int _ value fits =>
    obtain ⟨c, s, written, starts⟩ := intText_starts value
    have leaf := layout.value_leaf depth (ofInt value) trivial
    exact ⟨c, s, leaf.trans written, starts.shown, starts.ne (by decide)⟩
  | text value => exact ⟨'"', _, layout.value_leaf depth _ trivial, by decide, by decide⟩
  | @array _ items exact =>
    cases items with
    | nil => exact ⟨'[', _, layout.value_leaf depth _ rfl, by decide, by decide⟩
    | cons item more => exact ⟨'[', _, layout.value_array depth item more, by decide, by decide⟩
  | @object _ members exact =>
    cases members with
    | nil => exact ⟨'{', _, layout.value_leaf depth _ rfl, by decide, by decide⟩
    | cons member more =>
      exact ⟨'{', _, layout.value_object depth member.1 member.2 more, by decide, by decide⟩

theorem items_endsNumber (items : List Json) : EndsNumber (layout.items depth items ++ rest) := by
  cases items with
  | nil =>
    rw [layout.items_nil, List.append_assoc]
    exact endsNumber_blank (layout.gap_blank depth) (endsNumber_cons (by decide))
  | cons item more =>
    rw [layout.items_cons]
    exact endsNumber_cons (by decide)

theorem members_endsNumber (members : List (String × Json)) :
    EndsNumber (layout.members depth members ++ rest) := by
  cases members with
  | nil =>
    rw [layout.members_nil, List.append_assoc]
    exact endsNumber_blank (layout.gap_blank depth) (endsNumber_cons (by decide))
  | cons member more =>
    rw [layout.members_cons]
    exact endsNumber_cons (by decide)

/-- Every item but the first takes a part of the text. -/
theorem length_lt_items (depth : Nat) (items : List Json) :
    items.length < (layout.items depth items).length := by
  induction items with
  | nil => simp [layout.items_nil]
  | cons item more ih =>
    simp only [layout.items_cons, List.length_cons, List.length_append]
    omega

theorem length_lt_members (depth : Nat) (members : List (String × Json)) :
    members.length < (layout.members depth members).length := by
  induction members with
  | nil => simp [layout.members_nil]
  | cons member more ih =>
    simp only [layout.members_cons, List.length_cons, List.length_append]
    omega

variable {layout}

theorem readItems_items {items : List Json} (reads : ∀ item ∈ items, layout.ReadsBack room item)
    {bound : List Char} (long : items.length < bound.length) :
    readItems (readValue room) bound (layout.items depth items ++ rest) = some (items, rest) := by
  induction items generalizing bound with
  | nil =>
    cases bound with
    | nil => cases long
    | cons c bound =>
      have closed : skipSpace (layout.items depth [] ++ rest) = ']' :: rest := by
        rw [layout.items_nil, List.append_assoc, skipSpace_blank (layout.gap_blank depth)]
        rfl
      unfold readItems
      simp only [closed]
  | cons item more ih =>
    cases bound with
    | nil => cases long
    | cons c bound =>
      obtain ⟨first, others⟩ := List.forall_mem_cons.1 reads
      have later := ih others (Nat.lt_of_succ_lt_succ long)
      let body := layout.gap (depth + 1) ++
        (layout.value (depth + 1) item ++ (layout.items depth more ++ rest))
      have comma : skipSpace (layout.items depth (item :: more) ++ rest) = ',' :: body := by
        rw [layout.items_cons]
        simp [skipSpace, isSpace, body]
      have value : readValue room body = some (item, layout.items depth more ++ rest) := by
        rw [readValue_blank (layout.gap_blank (depth + 1))]
        exact first (depth + 1) _ (layout.items_endsNumber more)
      unfold readItems
      simp only [comma, value]
      simp [later]

theorem readMember_member (reads : layout.ReadsBack room j) (blank : IsBlank s)
    (ends : EndsNumber rest) :
    readMember (readValue room)
        (s ++ (stringText key ++ ':' :: (layout.pause ++ (layout.value depth j ++ rest)))) =
      some ((key, j), rest) := by
  let body := layout.pause ++ (layout.value depth j ++ rest)
  have quoted : skipSpace (s ++ (stringText key ++ ':' :: body)) =
      '"' :: (key.toList.flatMap escapedChar ++ '"' :: ':' :: body) := by
    rw [skipSpace_blank blank]
    simp [stringText, skipSpace, isSpace]
  have colon : skipSpace (':' :: body) = ':' :: body := rfl
  have value : readValue room body = some (j, rest) := by
    rw [readValue_blank layout.pause_blank]
    exact reads depth rest ends
  unfold readMember
  rw [quoted]
  simp only [stringBody?_escaped]
  simp [colon, value]

theorem readMembers_members {members : List (String × Json)}
    (reads : ∀ member ∈ members, layout.ReadsBack room member.2) {bound : List Char}
    (long : members.length < bound.length) :
    readMembers (readValue room) bound (layout.members depth members ++ rest) =
      some (members, rest) := by
  induction members generalizing bound with
  | nil =>
    cases bound with
    | nil => cases long
    | cons c bound =>
      have closed : skipSpace (layout.members depth [] ++ rest) = '}' :: rest := by
        rw [layout.members_nil, List.append_assoc, skipSpace_blank (layout.gap_blank depth)]
        rfl
      unfold readMembers
      simp only [closed]
  | cons member more ih =>
    obtain ⟨key, value⟩ := member
    cases bound with
    | nil => cases long
    | cons c bound =>
      obtain ⟨first, others⟩ := List.forall_mem_cons.1 reads
      have later := ih others (Nat.lt_of_succ_lt_succ long)
      let body := layout.gap (depth + 1) ++ (stringText key ++ ':' :: (layout.pause ++
        (layout.value (depth + 1) value ++ (layout.members depth more ++ rest))))
      have comma : skipSpace (layout.members depth ((key, value) :: more) ++ rest) =
          ',' :: body := by
        rw [layout.members_cons]
        simp [skipSpace, isSpace, body]
      have member : readMember (readValue room) body =
          some ((key, value), layout.members depth more ++ rest) :=
        readMember_member first (layout.gap_blank (depth + 1)) (layout.members_endsNumber more)
      unfold readMembers
      simp only [comma, member]
      simp [later]

theorem readArray_items {item : Json} {more : List Json} (exact : IsExact room item)
    (first : layout.ReadsBack room item) (others : ∀ item ∈ more, layout.ReadsBack room item)
    (blank : IsBlank s) :
    readArray (readValue room)
        (s ++ (layout.value (depth + 1) item ++ (layout.items depth more ++ rest))) =
      some (array (item :: more), rest) := by
  let body := layout.value (depth + 1) item ++ (layout.items depth more ++ rest)
  obtain ⟨c, tail, starts, shown, other⟩ := layout.value_starts exact (depth + 1)
  have begun : skipSpace (s ++ body) = c :: (tail ++ (layout.items depth more ++ rest)) := by
    rw [skipSpace_blank blank]
    simp only [body, starts]
    exact skipSpace_shown shown
  have value : readValue room (c :: (tail ++ (layout.items depth more ++ rest))) =
      some (item, layout.items depth more ++ rest) := by
    rw [← List.cons_append, ← starts]
    exact first (depth + 1) _ (layout.items_endsNumber more)
  have long : more.length < (c :: (tail ++ (layout.items depth more ++ rest))).length := by
    have shorter := layout.length_lt_items depth more
    simp only [List.length_cons, List.length_append]
    omega
  have items : readItems (readValue room) (c :: (tail ++ (layout.items depth more ++ rest)))
      (layout.items depth more ++ rest) = some (more, rest) := readItems_items others long
  unfold readArray
  rw [begun]
  split
  · rename_i same
    exact absurd (List.cons.inj same).1 other
  · simp [value, items]

theorem readObject_of_members {item : ValueReader} {member : String × Json}
    {more : List (String × Json)} {after : List Char} (quoted : skipSpace s = '"' :: t)
    (first : readMember item ('"' :: t) = some (member, after))
    (others : readMembers item ('"' :: t) after = some (more, rest)) :
    readObject item s = some (object (member :: more), rest) := by
  unfold readObject
  rw [quoted]
  simp [first, others]

theorem readObject_members {value : Json} {more : List (String × Json)}
    (first : layout.ReadsBack room value)
    (others : ∀ member ∈ more, layout.ReadsBack room member.2) (blank : IsBlank s) :
    readObject (readValue room) (s ++ (stringText key ++ ':' :: (layout.pause ++
        (layout.value (depth + 1) value ++ (layout.members depth more ++ rest))))) =
      some (object ((key, value) :: more), rest) := by
  let body := stringText key ++ ':' :: (layout.pause ++
    (layout.value (depth + 1) value ++ (layout.members depth more ++ rest)))
  have begun : skipSpace (s ++ body) = body := skipSpace_blank blank
  have member : readMember (readValue room) body =
      some ((key, value), layout.members depth more ++ rest) :=
    readMember_member (s := []) first (by simp [IsBlank]) (layout.members_endsNumber more)
  have long : more.length < body.length := by
    have shorter := layout.length_lt_members depth more
    simp only [body, List.length_cons, List.length_append]
    omega
  exact readObject_of_members begun member (readMembers_members others long)

theorem readsBack_leaf (exact : IsExact room j) (leaf : IsLeaf j) : layout.ReadsBack room j := by
  intro depth rest ends
  rw [layout.value_leaf depth j leaf]
  exact readValue_leaf exact leaf ends

/-- Every value that is exact is read back, however its parts are spaced. -/
theorem readsBack (layout : Layout) (exact : IsExact room j) : layout.ReadsBack room j := by
  induction exact with
  | null => exact readsBack_leaf .null trivial
  | bool value => exact readsBack_leaf (.bool value) trivial
  | int fits => exact readsBack_leaf (.int fits) trivial
  | text value => exact readsBack_leaf (.text value) trivial
  | @array room items exact ih =>
    cases items with
    | nil => exact readsBack_leaf (.array exact) rfl
    | cons item more =>
      obtain ⟨itemExact, -⟩ := List.forall_mem_cons.1 exact
      obtain ⟨first, others⟩ := List.forall_mem_cons.1 ih
      intro depth rest ends
      rw [layout.value_array]
      simp only [List.append_assoc, List.cons_append]
      exact readArray_items itemExact first others (layout.gap_blank (depth + 1))
  | @object room members exact ih =>
    cases members with
    | nil => exact readsBack_leaf (.object exact) rfl
    | cons member more =>
      obtain ⟨key, value⟩ := member
      obtain ⟨first, others⟩ := List.forall_mem_cons.1 ih
      intro depth rest ends
      rw [layout.value_object]
      simp only [List.append_assoc, List.cons_append]
      exact readObject_members first others (layout.gap_blank (depth + 1))

theorem readValue_whole (layout : Layout) (exact : IsExact room j) :
    readValue room (layout.value 0 j) = some (j, []) := by
  have ends : EndsNumber [] := by
    rintro c ⟨⟩
  have read := layout.readsBack exact 0 [] ends
  rwa [List.append_nil] at read

end Layout

end ProvisionGate.Json
