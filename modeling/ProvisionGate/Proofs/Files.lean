import ProvisionGate.Files

/-!
# Files that are written and found again

Following names from the root leads to the position of a place, the one that its trail names.  A
file that is put where no directory stood, or taken away, leaves every directory a directory, so a
path leads to the same place before and after.
-/

namespace ProvisionGate

namespace FileNode

theorem at?_directory (entries : FileEntries) (name : String) (place : Place) :
    at? (name :: place) (directory entries) = (entries.lookup name).bind (at? place) := rfl

theorem at?_append (first second : Place) (node : FileNode) :
    at? (first ++ second) node = (at? first node).bind (at? second) := by
  induction first generalizing node with
  | nil => rfl
  | cons name rest ih =>
    cases node with
    | file content => rfl
    | directory entries =>
      rw [List.cons_append, at?_directory, at?_directory]
      cases entries.lookup name with
      | none => rfl
      | some inner => exact ih inner

/-- A node that is no directory, if there is one at all. -/
def IsBare (node : Option FileNode) : Prop :=
  ∀ entries, node ≠ some (directory entries)

theorem isBare_file (content : ByteArray) : IsBare (some (file content)) := by
  intro entries same
  cases same

theorem isBare_none : IsBare none := by
  intro entries same
  cases same

/-- Wherever there was a directory below, there is one still. -/
def KeepsDirectories (before after : Option FileNode) : Prop :=
  ∀ place entries, before.bind (at? place) = some (directory entries) →
    ∃ others, after.bind (at? place) = some (directory others)

variable {before after : Option FileNode} {entries others : FileEntries}

theorem keepsDirectories_of_isBare (bare : IsBare before) : KeepsDirectories before after := by
  intro place entries found
  cases before with
  | none => cases found
  | some node =>
    cases node with
    | directory inner => exact absurd rfl (bare inner)
    | file content => cases place <;> cases found

theorem keepsDirectories_of_lookup
    (kept : ∀ name, KeepsDirectories (entries.lookup name) (others.lookup name)) :
    KeepsDirectories (some (directory entries)) (some (directory others)) := by
  intro place inner found
  cases place with
  | nil => exact ⟨others, rfl⟩
  | cons name rest => exact kept name rest inner found

theorem KeepsDirectories.refl (node : Option FileNode) : KeepsDirectories node node := by
  intro place entries found
  exact ⟨entries, found⟩

/-- Directories that are kept under one name are kept by the directory of that name. -/
theorem KeepsDirectories.set {name : String} (kept : KeepsDirectories (entries.lookup name) after) :
    KeepsDirectories (some (directory entries)) (some (directory (entries.set name after))) := by
  apply keepsDirectories_of_lookup
  intro other
  by_cases same : other = name
  · subst same
    rw [FileEntries.lookup_set_self]
    exact kept
  · rw [FileEntries.lookup_set_of_ne entries same]
    exact .refl _

end FileNode

namespace FilePosition

/-- The place of a position. -/
def place (position : FilePosition) : Place :=
  (position.trail.map Prod.fst).reverse

/-- A position in the tree with the given entries at its root. -/
inductive Within (root : FileEntries) : FilePosition → Prop
  | root : Within root ⟨some (.directory root), []⟩
  | child {entries : FileEntries} {trail : List (String × FileEntries)} (name : String)
      (above : Within root ⟨some (.directory entries), trail⟩) :
      Within root ⟨entries.lookup name, (name, entries) :: trail⟩

variable {root : FileEntries} {position next : FilePosition}

theorem Within.at?_place (within : Within root position) :
    (FileNode.directory root).at? position.place = position.node := by
  induction within with
  | root => rfl
  | @child entries trail name above ih =>
    have split : place ⟨entries.lookup name, (name, entries) :: trail⟩ =
        place ⟨some (.directory entries), trail⟩ ++ [name] := by
      simp [place]
    rw [split, FileNode.at?_append, ih]
    show (entries.lookup name).bind (FileNode.at? []) = _
    cases entries.lookup name <;> rfl

theorem Within.up (within : Within root position) : Within root position.up := by
  cases within with
  | root => exact .root
  | child name above => exact above

theorem place_up : position.up.place = position.place.dropLast := by
  obtain ⟨node, trail⟩ := position
  cases trail with
  | nil => rfl
  | cons entry trail => simp [up, place]

/-- Names can only be followed in a directory. -/
theorem directory_of_enter {name : String} (entered : position.enter name = .ok next) :
    ∃ entries, position.node = some (.directory entries) := by
  unfold enter at entered
  split at entered
  · rename_i entries found
    exact ⟨entries, found⟩
  · cases entered
  · cases entered

theorem Within.enter {name : String} (within : Within root position)
    (entered : position.enter name = .ok next) : Within root next := by
  obtain ⟨entries, found⟩ := directory_of_enter entered
  unfold FilePosition.enter at entered
  simp only [found] at entered
  split at entered
  · obtain rfl := Except.ok.inj entered
    exact within
  split at entered
  · obtain rfl := Except.ok.inj entered
    exact within.up
  split at entered
  · cases entered
  obtain rfl := Except.ok.inj entered
  obtain ⟨node, trail⟩ := position
  obtain rfl : node = _ := found
  exact .child name within

/-- Where two trees have directories at a place, a name leads to the same place in both. -/
theorem enter_same_place {other : FilePosition} {name : String} {entries : FileEntries}
    (same : other.place = position.place) (found : other.node = some (.directory entries))
    (entered : position.enter name = .ok next) :
    ∃ later, other.enter name = .ok later ∧ later.place = next.place := by
  obtain ⟨inner, here⟩ := directory_of_enter entered
  unfold FilePosition.enter at entered ⊢
  simp only [here] at entered
  simp only [found]
  by_cases idle : name = "."
  · rw [if_pos idle] at entered ⊢
    obtain rfl := Except.ok.inj entered
    exact ⟨other, rfl, same⟩
  rw [if_neg idle] at entered ⊢
  by_cases back : name = ".."
  · rw [if_pos back] at entered ⊢
    obtain rfl := Except.ok.inj entered
    exact ⟨other.up, rfl, by rw [place_up, place_up, same]⟩
  rw [if_neg back] at entered ⊢
  by_cases long : longestName < name.utf8ByteSize
  · rw [if_pos long] at entered
    cases entered
  rw [if_neg long] at entered ⊢
  obtain rfl := Except.ok.inj entered
  refine ⟨_, rfl, ?_⟩
  have names : other.trail.map Prod.fst = position.trail.map Prod.fst :=
    List.reverse_inj.1 same
  simp [place, names]

/-- Names that lead to a place in one tree lead to it in every tree that keeps its directories. -/
theorem follow_same_place {before after : FileEntries}
    (kept : FileNode.KeepsDirectories (some (.directory before)) (some (.directory after)))
    {names : List String} {first second last : FilePosition} (within : Within before first)
    (other : Within after second) (same : second.place = first.place)
    (followed : names.foldlM FilePosition.enter first = .ok last) :
    Within before last ∧ ∃ later, names.foldlM FilePosition.enter second = .ok later ∧
      Within after later ∧ later.place = last.place := by
  induction names generalizing first second with
  | nil =>
    obtain rfl := Except.ok.inj followed
    exact ⟨within, second, rfl, other, same⟩
  | cons name rest ih =>
    rw [List.foldlM_cons] at followed ⊢
    cases entered : first.enter name with
    | error error =>
      rw [entered] at followed
      cases followed
    | ok next =>
      rw [entered] at followed
      obtain ⟨entries, found⟩ := directory_of_enter entered
      have here := within.at?_place.trans found
      obtain ⟨others, there⟩ := kept first.place entries here
      have still : second.node = some (.directory others) := by
        rw [← other.at?_place, same]
        exact there
      obtain ⟨later, reached, place⟩ := enter_same_place same still entered
      rw [reached]
      exact ih (within.enter entered) (other.enter reached) place followed

/-- The entries of the root with those of the directory at the end of a trail replaced. -/
def rebuilt (trail : List (String × FileEntries)) (inner : FileEntries) : FileEntries :=
  trail.foldl (fun inner (name, outer) => outer.set name (some (.directory inner))) inner

theorem Within.keepsDirectories_rebuilt {entries inner : FileEntries}
    {trail : List (String × FileEntries)}
    (within : Within root ⟨some (.directory entries), trail⟩)
    (kept : FileNode.KeepsDirectories (some (.directory entries)) (some (.directory inner))) :
    FileNode.KeepsDirectories (some (.directory root))
      (some (.directory (rebuilt trail inner))) := by
  induction trail generalizing entries inner with
  | nil =>
    generalize found : (⟨some (.directory entries), []⟩ : FilePosition) = position at within
    cases within with
    | root =>
      cases found
      exact kept
    | child name up =>
      obtain ⟨-, same⟩ := FilePosition.mk.inj found
      cases same
  | cons entry above ih =>
    obtain ⟨name, outer⟩ := entry
    generalize found : (⟨some (.directory entries), (name, outer) :: above⟩ : FilePosition) =
      position at within
    cases within with
    | root => cases found
    | child name up =>
      obtain ⟨node, same⟩ := FilePosition.mk.inj found
      obtain ⟨entry, rfl⟩ := List.cons.inj same
      obtain ⟨rfl, rfl⟩ := Prod.mk.inj entry
      rw [node] at kept
      exact ih up kept.set

theorem at?_rebuilt (trail : List (String × FileEntries)) (inner : FileEntries) (rest : Place) :
    (FileNode.directory (rebuilt trail inner)).at? ((trail.map Prod.fst).reverse ++ rest) =
      (FileNode.directory inner).at? rest := by
  induction trail generalizing inner rest with
  | nil => rfl
  | cons entry above ih =>
    obtain ⟨name, outer⟩ := entry
    have later := ih (outer.set name (some (.directory inner))) (name :: rest)
    rw [FileNode.at?_directory, FileEntries.lookup_set_self] at later
    rw [List.map_cons, List.reverse_cons, List.append_assoc]
    exact later

end FilePosition

namespace Files

/-- Files with the given entries at the root, where the working directory is. -/
def atRoot (entries : FileEntries) : Files := ⟨entries, []⟩

variable {files after : Files} {p : Path} {position : FilePosition}

/-- A relative path is followed from the working directory on. -/
theorem resolve_relative (relative : p.isAbsolute = false) (full : p.names ≠ [])
    (clean : ∀ name ∈ p.names, '\x00' ∉ name.toList)
    (short : p.text.utf8ByteSize ≤ longestPath) :
    files.resolve p =
      (files.workingDirectory ++ p.names).foldlM FilePosition.enter files.rootPosition := by
  unfold resolve
  rw [if_neg, if_neg, if_neg (Nat.not_lt.2 short), relative]
  · rfl
  · simp [Path.isEmpty, relative, full]
  · simpa using clean

theorem resolve_within (resolved : files.resolve p = .ok position) :
    FilePosition.Within files.entries position := by
  unfold resolve at resolved
  split at resolved
  · cases resolved
  split at resolved
  · cases resolved
  split at resolved
  · cases resolved
  exact (FilePosition.follow_same_place (.refl _) .root .root rfl resolved).1

/-- A path leads to the same place in files that keep their directories. -/
theorem resolve_same_place
    (kept : FileNode.KeepsDirectories (some (.directory files.entries))
      (some (.directory after.entries)))
    (home : after.workingDirectory = files.workingDirectory)
    (resolved : files.resolve p = .ok position) :
    ∃ later, after.resolve p = .ok later ∧ FilePosition.Within after.entries later ∧
      later.place = position.place := by
  unfold resolve at resolved ⊢
  split at resolved
  · cases resolved
  rename_i clean
  rw [if_neg clean]
  split at resolved
  · cases resolved
  rename_i full
  rw [if_neg full]
  split at resolved
  · cases resolved
  rename_i short
  rw [if_neg short, home]
  exact (FilePosition.follow_same_place kept .root .root rfl resolved).2

theorem workingDirectory_replace (files : Files) (position : FilePosition)
    (node : Option FileNode) :
    (files.replace position node).workingDirectory = files.workingDirectory := by
  unfold replace
  split <;> rfl

/-- What is put where no directory stood leaves every directory a directory. -/
theorem keepsDirectories_replace {node : Option FileNode}
    (resolved : files.resolve p = .ok position) (bare : FileNode.IsBare position.node) :
    FileNode.KeepsDirectories (some (.directory files.entries))
      (some (.directory (files.replace position node).entries)) := by
  have within := resolve_within resolved
  obtain ⟨here, trail⟩ := position
  cases within with
  | root => exact absurd rfl (bare _)
  | child name outer =>
    exact outer.keepsDirectories_rebuilt (FileNode.keepsDirectories_of_isBare bare).set

/-- What is put at a position stands there, and the path that led there leads there still. -/
theorem resolve_replace {node : Option FileNode} (resolved : files.resolve p = .ok position)
    (bare : FileNode.IsBare position.node) :
    ∃ later, (files.replace position node).resolve p = .ok later ∧ later.node = node := by
  obtain ⟨later, reached, there, same⟩ := resolve_same_place
    (keepsDirectories_replace resolved bare) (files.workingDirectory_replace position node) resolved
  refine ⟨later, reached, ?_⟩
  have within := resolve_within resolved
  obtain ⟨here, trail⟩ := position
  cases within with
  | root => exact absurd rfl (bare _)
  | @child entries above name outer =>
    have replaced : (files.replace ⟨entries.lookup name, (name, entries) :: above⟩ node).entries =
        FilePosition.rebuilt above (entries.set name node) := rfl
    have place : later.place = (above.map Prod.fst).reverse ++ [name] := by
      rw [same]
      simp [FilePosition.place]
    rw [← there.at?_place, place, replaced, FilePosition.at?_rebuilt, FileNode.at?_directory,
      FileEntries.lookup_set_self]
    cases node <;> rfl

theorem find_file_iff {content : ByteArray} : files.find p = .ok (.file content) ↔
    ∃ position, files.resolve p = .ok position ∧ position.node = some (.file content) ∧
      p.asksDirectory = false := by
  unfold find
  rw [bind_eq_ok_iff]
  refine exists_congr fun position => and_congr_right fun _ => ?_
  cases stands : position.node with
  | none => simp [throw, throwThe, MonadExceptOf.throw]
  | some node =>
    cases node with
    | directory entries => simp [pure, Except.pure]
    | file old =>
      cases p.asksDirectory <;> simp [throw, throwThe, MonadExceptOf.throw, pure, Except.pure]

/-- A file can be put where no directory stands, unless the path asks for one. -/
theorem write_ok_iff {content : ByteArray} : files.write p content = .ok after ↔
    ∃ position, files.resolve p = .ok position ∧ FileNode.IsBare position.node ∧
      p.asksDirectory = false ∧ after = files.replace position (some (.file content)) := by
  unfold write
  rw [bind_eq_ok_iff]
  refine exists_congr fun position => and_congr_right fun _ => ?_
  cases asks : p.asksDirectory with
  | true => simp [bind, Except.bind, throw, throwThe, MonadExceptOf.throw]
  | false =>
    cases stands : position.node with
    | none => simp [FileNode.isBare_none, pure, Except.pure, eq_comm]
    | some node =>
      cases node with
      | directory entries => simp [FileNode.IsBare, throw, throwThe, MonadExceptOf.throw]
      | file old => simp [FileNode.isBare_file, pure, Except.pure, eq_comm]

/-- A file that was written is found with its content. -/
theorem find_write {content : ByteArray} (written : files.write p content = .ok after) :
    after.find p = .ok (.file content) := by
  obtain ⟨position, resolved, bare, asks, rfl⟩ := write_ok_iff.1 written
  obtain ⟨later, reached, there⟩ := resolve_replace resolved bare
  refine bind_eq_ok_iff.2 ⟨later, reached, ?_⟩
  simp only [there, asks]
  rfl

/-- Nothing is found where there was nothing to remove. -/
theorem find_of_remove_error (absent : files.remove p = .error .notFound) :
    files.find p = .error .notFound := by
  unfold remove at absent
  unfold find
  cases resolved : files.resolve p with
  | error error =>
    rw [resolved] at absent
    cases absent
    rfl
  | ok position =>
    rw [resolved] at absent
    simp only [bind, Except.bind] at absent ⊢
    cases found : position.node with
    | none => rfl
    | some node =>
      rw [found] at absent
      cases node with
      | directory entries => cases absent
      | file content =>
        simp only at absent
        split at absent
        · cases absent
        · cases absent

/-- Nothing is removed where there is nothing. -/
theorem remove_of_find_error (absent : files.find p = .error .notFound) :
    files.remove p = .error .notFound := by
  unfold find at absent
  unfold remove
  cases resolved : files.resolve p with
  | error error =>
    rw [resolved] at absent
    cases absent
    rfl
  | ok position =>
    rw [resolved] at absent
    simp only [bind, Except.bind] at absent ⊢
    cases stands : position.node with
    | none => rfl
    | some node =>
      rw [stands] at absent
      cases node with
      | directory entries => cases absent
      | file content =>
        simp only at absent
        split at absent <;> cases absent

/-- A file can be removed, unless the path asks for a directory. -/
theorem remove_ok_iff : files.remove p = .ok after ↔
    ∃ position content, files.resolve p = .ok position ∧
      position.node = some (.file content) ∧ p.asksDirectory = false ∧
      after = files.replace position none := by
  unfold remove
  rw [bind_eq_ok_iff]
  refine exists_congr fun position => ?_
  cases stands : position.node with
  | none => simp [throw, throwThe, MonadExceptOf.throw]
  | some node =>
    cases node with
    | directory entries => simp [throw, throwThe, MonadExceptOf.throw]
    | file old =>
      cases p.asksDirectory <;>
        simp [throw, throwThe, MonadExceptOf.throw, pure, Except.pure, eq_comm]

/-- A file that was removed is found no more. -/
theorem find_remove (removed : files.remove p = .ok after) : after.find p = .error .notFound := by
  obtain ⟨position, content, resolved, stands, -, rfl⟩ := remove_ok_iff.1 removed
  have bare : FileNode.IsBare position.node := by
    rw [stands]
    exact FileNode.isBare_file content
  obtain ⟨later, reached, there⟩ :
      ∃ later, (files.replace position none).resolve p = .ok later ∧ later.node = none :=
    resolve_replace resolved bare
  unfold find
  simp only [reached, bind, Except.bind, there]
  rfl

/-! ## Directories -/

theorem holdsDirectory_iff : files.holdsDirectory p = true ↔
    ∃ position entries, files.resolve p = .ok position ∧
      position.node = some (.directory entries) := by
  unfold holdsDirectory find
  cases files.resolve p with
  | error error => simp [bind, Except.bind]
  | ok position =>
    cases stands : position.node with
    | none => simp [bind, Except.bind, stands, throw, throwThe, MonadExceptOf.throw]
    | some node =>
      cases node with
      | directory entries => simp [bind, Except.bind, stands, pure, Except.pure]
      | file content =>
        cases p.asksDirectory <;>
          simp [bind, Except.bind, stands, throw, throwThe, MonadExceptOf.throw, pure, Except.pure]

/-- A directory stays one when something is put where no directory stood. -/
theorem holdsDirectory_replace {other : Path} {node : Option FileNode}
    (there : files.holdsDirectory other = true) (resolved : files.resolve p = .ok position)
    (bare : FileNode.IsBare position.node) :
    (files.replace position node).holdsDirectory other = true := by
  obtain ⟨found, entries, reached, stands⟩ := holdsDirectory_iff.1 there
  have kept : FileNode.KeepsDirectories (some (.directory files.entries))
      (some (.directory (files.replace position node).entries)) :=
    keepsDirectories_replace resolved bare
  obtain ⟨later, leads, within, same⟩ :=
    resolve_same_place kept (files.workingDirectory_replace position node) reached
  have here := (resolve_within reached).at?_place.trans stands
  obtain ⟨others, still⟩ := kept found.place entries here
  refine holdsDirectory_iff.2 ⟨later, others, leads, ?_⟩
  rw [← within.at?_place, same]
  exact still

theorem makeDirectory_of_holdsDirectory (there : files.holdsDirectory p = true) :
    files.makeDirectory p = .error .alreadyExists := by
  obtain ⟨position, entries, resolved, stands⟩ := holdsDirectory_iff.1 there
  unfold makeDirectory
  rw [resolved]
  simp only [bind, Except.bind, stands]
  rfl

/-- A directory that was made is there. -/
theorem holdsDirectory_makeDirectory (made : files.makeDirectory p = .ok after) :
    after.holdsDirectory p = true := by
  obtain ⟨position, resolved, made⟩ := bind_eq_ok_iff.1 made
  cases stands : position.node with
  | some node =>
    simp only [stands] at made
    cases made
  | none =>
    simp only [stands] at made
    obtain rfl := Except.ok.inj made
    have bare : FileNode.IsBare position.node := by
      rw [stands]
      exact FileNode.isBare_none
    obtain ⟨later, reached, there⟩ := resolve_replace resolved bare
    exact holdsDirectory_iff.2 ⟨later, [], reached, there⟩

end Files

end ProvisionGate
