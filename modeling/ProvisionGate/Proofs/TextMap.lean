import ProvisionGate.TextMap

/-!
# Maps made of pairs

The last pair with a key gives the value under it.  Entries that are changed or dropped one by one,
each for itself, do not touch the others.
-/

namespace ProvisionGate

namespace TextMap

variable {α : Type} {pairs : List (String × α)} {key : String}

theorem lookup_cons_ite {value : α} {other : String} :
    ((key, value) :: pairs).lookup other = if other = key then some value else pairs.lookup other := by
  rw [List.lookup_cons]
  by_cases same : other = key
  · rw [if_pos same, beq_iff_eq.2 same]
  · rw [if_neg same, beq_eq_false_iff_ne.2 same]

theorem get?_insertAll (m : TextMap α) :
    (m.insertAll pairs).get? key = (pairs.reverse.lookup key).or (m.get? key) := by
  induction pairs generalizing m with
  | nil => rfl
  | cons pair rest ih =>
    have later : m.insertAll (pair :: rest) = (m.insert pair.1 pair.2).insertAll rest := rfl
    rw [later, ih, List.reverse_cons, List.lookup_append, get?_insert, Option.or_assoc,
      lookup_cons_ite]
    congr 1
    split <;> rfl

/-- The last pair with a key gives the value. -/
theorem get?_ofPairs : (ofPairs pairs).get? key = pairs.reverse.lookup key := by
  rw [ofPairs, get?_insertAll, get?_empty, Option.or_none]

theorem lookup_reverse {key : String} {entries : List (String × α)}
    (ordered : entries.Pairwise fun a b => a.1 < b.1) :
    entries.reverse.lookup key = entries.lookup key := by
  induction entries with
  | nil => rfl
  | cons entry rest ih =>
    obtain ⟨first, value⟩ := entry
    obtain ⟨before, others⟩ := List.pairwise_cons.1 ordered
    rw [List.reverse_cons, List.lookup_append, ih others, lookup_cons_ite, lookup_cons_ite]
    by_cases same : key = first
    · subst same
      rw [lookup_eq_none_of_lt before, if_pos rfl, if_pos rfl]
      rfl
    · rw [if_neg same, if_neg same]
      cases rest.lookup key <;> rfl

/-- The entries of a map put together again give the map. -/
theorem ofPairs_entries (m : TextMap α) : ofPairs m.entries = m := by
  apply ext_get?
  intro key
  rw [get?_ofPairs]
  exact lookup_reverse m.ordered

/-- An entry is found under its key. -/
theorem get?_eq_some_iff {m : TextMap α} {value : α} :
    m.get? key = some value ↔ (key, value) ∈ m.entries := by
  unfold get?
  constructor
  · intro found
    obtain ⟨before, after, split, -⟩ := List.lookup_eq_some_iff.1 found
    rw [split]
    simp
  · intro member
    obtain ⟨before, after, split⟩ := List.append_of_mem member
    refine List.lookup_eq_some_iff.2 ⟨before, after, split, fun entry inside => ?_⟩
    have ordered := m.ordered
    rw [split] at ordered
    have earlier := (List.pairwise_append.1 ordered).2.2 entry inside _ List.mem_cons_self
    rw [bne_iff_ne]
    rintro rfl
    exact String.lt_irrefl _ earlier

/-- The value under a key comes from the last item that gives the key one. -/
theorem get?_ofPairs_filterMap_eq_some_iff {β : Type} {f : β → Option (String × α)}
    {items : List β} {value : α} :
    (ofPairs (items.filterMap f)).get? key = some value ↔
      ∃ before item after, items = before ++ item :: after ∧ f item = some (key, value) ∧
        ∀ later ∈ after, ∀ other, f later ≠ some (key, other) := by
  rw [get?_ofPairs, List.lookup_eq_some_iff]
  constructor
  · rintro ⟨behind, ahead, split, others⟩
    have straight : items.filterMap f = ahead.reverse ++ (key, value) :: behind.reverse := by
      rw [← List.reverse_inj, split]
      simp
    obtain ⟨first, second, rfl, -, found⟩ := List.filterMap_eq_append_iff.1 straight
    obtain ⟨skipped, item, after, rfl, -, given, rest⟩ := List.filterMap_eq_cons_iff.1 found
    refine ⟨first ++ skipped, item, after, by simp, given, ?_⟩
    intro later member other same
    have inside : (key, other) ∈ behind.reverse := by
      rw [← rest]
      exact List.mem_filterMap.2 ⟨later, member, same⟩
    have different := others _ (List.mem_reverse.1 inside)
    simp at different
  · rintro ⟨before, item, after, rfl, given, others⟩
    refine ⟨(after.filterMap f).reverse, (before.filterMap f).reverse, ?_, ?_⟩
    · rw [List.filterMap_append, List.filterMap_cons_some given]
      simp
    · rintro ⟨name, other⟩ member
      obtain ⟨later, inside, same⟩ := List.mem_filterMap.1 (List.mem_reverse.1 member)
      rw [bne_iff_ne]
      rintro rfl
      exact others later inside other same

/-- The value under a key is that of the last pair with the key. -/
theorem get?_ofPairs_eq_some_iff {value : α} :
    (ofPairs pairs).get? key = some value ↔
      ∃ before after, pairs = before ++ (key, value) :: after ∧ ∀ later ∈ after, later.1 ≠ key := by
  have all : pairs.filterMap some = pairs := List.filterMap_some
  rw [← all, get?_ofPairs_filterMap_eq_some_iff, all]
  constructor
  · rintro ⟨before, item, after, rfl, same, others⟩
    obtain rfl := Option.some.inj same
    refine ⟨before, after, rfl, fun later member equal => ?_⟩
    exact others later member later.2 (by rw [← equal])
  · rintro ⟨before, after, rfl, others⟩
    refine ⟨before, _, after, rfl, rfl, fun later member other same => others later member ?_⟩
    rw [Option.some.inj same]

/-- The map with every value changed or dropped for its key. -/
def filterMapValues {β : Type} (f : String → α → Option β) (m : TextMap α) : TextMap β where
  entries := m.entries.filterMap fun entry => (f entry.1 entry.2).map fun value => (entry.1, value)
  ordered := by
    rw [List.pairwise_filterMap]
    refine m.ordered.imp ?_
    intro a b before c left d right
    obtain ⟨-, -, rfl⟩ := Option.map_eq_some_iff.1 left
    obtain ⟨-, -, rfl⟩ := Option.map_eq_some_iff.1 right
    exact before

theorem get?_filterMapValues {β : Type} (f : String → α → Option β) (m : TextMap α) :
    (m.filterMapValues f).get? key = (m.get? key).bind (f key) := by
  obtain ⟨entries, ordered⟩ := m
  show (entries.filterMap _).lookup key = (entries.lookup key).bind (f key)
  induction entries with
  | nil => rfl
  | cons entry rest ih =>
    obtain ⟨first, value⟩ := entry
    obtain ⟨before, others⟩ := List.pairwise_cons.1 ordered
    rw [lookup_cons_ite]
    by_cases same : key = first
    · subst same
      rw [if_pos rfl, Option.bind_some]
      cases kept : f key value with
      | some changed =>
        rw [List.filterMap_cons_some (by rw [kept, Option.map_some]), lookup_cons_ite, if_pos rfl]
      | none =>
        rw [List.filterMap_cons_none (by rw [kept, Option.map_none]), ih others,
          lookup_eq_none_of_lt before, Option.bind_none]
    · rw [if_neg same, ← ih others]
      cases kept : f first value with
      | some changed =>
        rw [List.filterMap_cons_some (by rw [kept, Option.map_some]), lookup_cons_ite,
          if_neg same]
      | none => rw [List.filterMap_cons_none (by rw [kept, Option.map_none])]

end TextMap

section maps

variable {α : Type} {change : String × α → String × α}

theorem insertEntry_map (keeps : ∀ entry, (change entry).1 = entry.1) (entry : String × α)
    (entries : List (String × α)) :
    insertEntry (change entry).1 (change entry).2 (entries.map change) =
      (insertEntry entry.1 entry.2 entries).map change := by
  induction entries with
  | nil => rfl
  | cons first rest ih =>
    simp only [List.map_cons, insertEntry, keeps first, keeps entry] at ih ⊢
    have self : (entry.1, (change entry).2) = change entry := Prod.ext (keeps entry).symm rfl
    split
    · rw [self]
      rfl
    · split
      · rw [self]
        rfl
      · rw [ih]
        rfl

/-- Pairs that are changed under their keys make a map with its entries changed. -/
theorem TextMap.entries_ofPairs_map (keeps : ∀ entry, (change entry).1 = entry.1)
    (pairs : List (String × α)) :
    (ofPairs (pairs.map change)).entries = (ofPairs pairs).entries.map change := by
  have inserted {m other : TextMap α} (begun : other.entries = m.entries.map change) :
      (other.insertAll (pairs.map change)).entries = (m.insertAll pairs).entries.map change := by
    induction pairs generalizing m other with
    | nil => exact begun
    | cons pair rest ih =>
      apply ih
      show insertEntry _ _ other.entries = (insertEntry _ _ m.entries).map change
      rw [begun]
      exact insertEntry_map keeps pair m.entries
  exact inserted rfl

end maps

end ProvisionGate
