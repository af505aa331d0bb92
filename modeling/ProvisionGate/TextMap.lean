/-!
# Finite maps from texts

A map is the list of its entries in the order of their keys, by code point, with every key once.
Two maps that answer every look-up alike are therefore equal.
-/

namespace ProvisionGate

/-- Puts an entry in its place, over an entry with the same key. -/
def insertEntry {α : Type} (key : String) (value : α) :
    List (String × α) → List (String × α)
  | [] => [(key, value)]
  | entry :: rest =>
    if key < entry.1 then (key, value) :: entry :: rest
    else if key = entry.1 then (key, value) :: rest
    else entry :: insertEntry key value rest

/-- A finite map from texts. -/
structure TextMap (α : Type) where
  entries : List (String × α)
  ordered : entries.Pairwise fun a b => a.1 < b.1
  deriving DecidableEq

namespace TextMap

variable {α β : Type}

/-- The map without entries. -/
def empty : TextMap α := ⟨[], .nil⟩

instance : Inhabited (TextMap α) := ⟨empty⟩

instance : EmptyCollection (TextMap α) := ⟨empty⟩

/-- The value under a key. -/
def get? (m : TextMap α) (key : String) : Option α :=
  m.entries.lookup key

/-- A key has a value. -/
def contains (m : TextMap α) (key : String) : Bool :=
  (m.get? key).isSome

/-- The map has no entry. -/
def isEmpty (m : TextMap α) : Bool :=
  m.entries.isEmpty

theorem mem_insertEntry {key : String} {value : α} {a : String × α}
    {entries : List (String × α)} (member : a ∈ insertEntry key value entries) :
    a = (key, value) ∨ a ∈ entries := by
  induction entries with
  | nil => simpa [insertEntry] using member
  | cons entry rest ih =>
    simp only [insertEntry] at member
    split at member
    · simpa using member
    · split at member
      · rcases List.mem_cons.1 member with rfl | later
        · exact .inl rfl
        · exact .inr (by simp [later])
      · rcases List.mem_cons.1 member with rfl | later
        · exact .inr (by simp)
        · rcases ih later with here | there
          · exact .inl here
          · exact .inr (by simp [there])

private theorem lt_of_not_lt_of_ne {a b : String} (notBefore : ¬ a < b) (different : a ≠ b) :
    b < a :=
  Std.lt_of_le_of_ne (String.not_lt.1 notBefore) (Ne.symm different)

private theorem lt_or_eq_or_gt (a b : String) : a < b ∨ a = b ∨ b < a := by
  by_cases before : a < b
  · exact .inl before
  · by_cases same : a = b
    · exact .inr (.inl same)
    · exact .inr (.inr (lt_of_not_lt_of_ne before same))

theorem insertEntry_ordered {key : String} {value : α} {entries : List (String × α)}
    (ordered : entries.Pairwise fun a b => a.1 < b.1) :
    (insertEntry key value entries).Pairwise fun a b => a.1 < b.1 := by
  induction entries with
  | nil => simp [insertEntry]
  | cons entry rest ih =>
    obtain ⟨before, tail⟩ := List.pairwise_cons.1 ordered
    simp only [insertEntry]
    split
    · rename_i first
      refine List.pairwise_cons.2 ⟨fun a member => ?_, ordered⟩
      rcases List.mem_cons.1 member with rfl | later
      · exact first
      · exact String.lt_trans first (before a later)
    · split
      · rename_i same
        exact List.pairwise_cons.2 ⟨fun a member => same ▸ before a member, tail⟩
      · rename_i notBefore different
        refine List.pairwise_cons.2 ⟨fun a member => ?_, ih tail⟩
        rcases mem_insertEntry member with rfl | later
        · exact lt_of_not_lt_of_ne notBefore different
        · exact before a later

/-- The map with a value put under a key. -/
def insert (m : TextMap α) (key : String) (value : α) : TextMap α :=
  ⟨insertEntry key value m.entries, insertEntry_ordered m.ordered⟩

/-- The map with every pair of a list put in, in order: the last pair with a key wins. -/
def insertAll (m : TextMap α) (pairs : List (String × α)) : TextMap α :=
  pairs.foldl (fun m (key, value) => m.insert key value) m

/-- The map of a list of pairs, in which the last pair with a key wins. -/
def ofPairs (pairs : List (String × α)) : TextMap α :=
  empty.insertAll pairs

/-- The map with `f` applied to every value. -/
def mapValues (f : α → β) (m : TextMap α) : TextMap β :=
  ⟨m.entries.map fun (key, value) => (key, f value),
    List.pairwise_map.2 (m.ordered.imp fun earlier => earlier)⟩

@[simp] theorem get?_empty (key : String) : (empty : TextMap α).get? key = none := rfl

theorem lookup_eq_none_of_lt {key : String} {entries : List (String × α)}
    (later : ∀ a ∈ entries, key < a.1) : entries.lookup key = none := by
  induction entries with
  | nil => rfl
  | cons entry rest ih =>
    have first := later entry (by simp)
    have different : (key == entry.1) = false := by
      simp only [beq_eq_false_iff_ne]
      rintro rfl
      exact String.lt_irrefl _ first
    rw [List.lookup_cons, different]
    exact ih fun a member => later a (by simp [member])

theorem get?_insert_self (m : TextMap α) (key : String) (value : α) :
    (m.insert key value).get? key = some value := by
  show (insertEntry key value m.entries).lookup key = some value
  induction m.entries with
  | nil => simp [insertEntry]
  | cons entry rest ih =>
    simp only [insertEntry]
    split
    · simp
    · split
      · simp
      · rename_i different
        have : (key == entry.1) = false := by simpa using different
        rw [List.lookup_cons, this]
        exact ih

theorem get?_insert_of_ne (m : TextMap α) {key other : String} (value : α)
    (different : other ≠ key) : (m.insert key value).get? other = m.get? other := by
  show (insertEntry key value m.entries).lookup other = m.entries.lookup other
  have miss : (other == key) = false := by simpa using different
  induction m.entries with
  | nil => simp [insertEntry, List.lookup_cons, miss]
  | cons entry rest ih =>
    simp only [insertEntry]
    split
    · rw [List.lookup_cons, miss]
    · split
      · rename_i same
        rw [List.lookup_cons, miss, List.lookup_cons, ← same, miss]
      · rw [List.lookup_cons, List.lookup_cons, ih]

theorem get?_insert (m : TextMap α) (key other : String) (value : α) :
    (m.insert key value).get? other = if other = key then some value else m.get? other := by
  split
  · rename_i same
    subst same
    exact m.get?_insert_self other value
  · rename_i different
    exact m.get?_insert_of_ne value different

private theorem lookup_head (entry : String × α) (rest : List (String × α)) :
    (entry :: rest).lookup entry.1 = some entry.2 := by
  obtain ⟨key, value⟩ := entry
  simp

private theorem entries_eq_of_lookup {left right : List (String × α)}
    (leftOrdered : left.Pairwise fun a b => a.1 < b.1)
    (rightOrdered : right.Pairwise fun a b => a.1 < b.1)
    (same : ∀ key, left.lookup key = right.lookup key) : left = right := by
  induction left generalizing right with
  | nil =>
    cases right with
    | nil => rfl
    | cons entry rest =>
      have found := same entry.1
      rw [lookup_head] at found
      simp at found
  | cons a rest ih =>
    cases right with
    | nil =>
      have found := same a.1
      rw [lookup_head] at found
      simp at found
    | cons b more =>
      obtain ⟨aBefore, restOrdered⟩ := List.pairwise_cons.1 leftOrdered
      obtain ⟨bBefore, moreOrdered⟩ := List.pairwise_cons.1 rightOrdered
      have keys : a.1 = b.1 := by
        rcases lt_or_eq_or_gt a.1 b.1 with h | h | h
        · have found := same a.1
          have none : (b :: more).lookup a.1 = none := lookup_eq_none_of_lt fun c member => by
            rcases List.mem_cons.1 member with rfl | later
            · exact h
            · exact String.lt_trans h (bBefore c later)
          rw [none, lookup_head] at found
          simp at found
        · exact h
        · have found := same b.1
          have none : (a :: rest).lookup b.1 = none := lookup_eq_none_of_lt fun c member => by
            rcases List.mem_cons.1 member with rfl | later
            · exact h
            · exact String.lt_trans h (aBefore c later)
          rw [none, lookup_head] at found
          simp at found
      have values : a.2 = b.2 := by
        have found := same a.1
        rw [lookup_head, keys, lookup_head] at found
        exact Option.some.inj found
      have entry : a = b := Prod.ext keys values
      subst entry
      congr 1
      refine ih restOrdered moreOrdered fun key => ?_
      by_cases head : key = a.1
      · subst head
        rw [lookup_eq_none_of_lt aBefore, lookup_eq_none_of_lt bBefore]
      · have found := same key
        have miss : (key == a.1) = false := by simpa using head
        rwa [List.lookup_cons, List.lookup_cons, miss] at found

/-- Maps that answer every look-up alike are equal. -/
theorem ext_get? {left right : TextMap α} (same : ∀ key, left.get? key = right.get? key) :
    left = right := by
  obtain ⟨leftEntries, leftOrdered⟩ := left
  obtain ⟨rightEntries, rightOrdered⟩ := right
  have : leftEntries = rightEntries := entries_eq_of_lookup leftOrdered rightOrdered same
  subst this
  rfl

end TextMap

end ProvisionGate
