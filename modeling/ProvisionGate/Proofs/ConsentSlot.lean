import Mathlib.Data.List.Induction
import ProvisionGate.Proofs.Consent

/-!
# The file of a store as one slot

A store on a file that nobody else writes keeps one record: the one that was saved last, until it is
cleared.  `Holding` ties the files to the record that is kept, and no call fails as long as the
directories on the way to the file can be made.
-/

namespace ProvisionGate

/-- A call to a consent store. -/
inductive ConsentCall where
  | load (attempt : AttemptId) (admin : String)
  | save (record : ConsentRecord)
  | clear
  deriving DecidableEq

namespace ConsentCall

/-- What a call returns. -/
abbrev Result : ConsentCall → Type
  | load _ _ => Bool
  | save _ => Unit
  | clear => Unit

/-- What is kept after a call if only one record is. -/
def keep (held : Option ConsentRecord) : ConsentCall → Option ConsentRecord
  | load _ _ => held
  | save record => some record
  | clear => none

/-- The call saves a record or clears the store. -/
def Replaces : ConsentCall → Prop
  | load _ _ => False
  | save _ => True
  | clear => True

/-- The last of the calls that saves or clears saves the record. -/
def SavedLast (calls : List ConsentCall) (record : ConsentRecord) : Prop :=
  ∃ older since, calls = older ++ .save record :: since ∧ ∀ call ∈ since, ¬ call.Replaces

variable {calls : List ConsentCall} {record : ConsentRecord}

/-- One call more saves the record itself, or replaces nothing. -/
theorem savedLast_append_iff {call : ConsentCall} : SavedLast (calls ++ [call]) record ↔
    call = .save record ∨ ¬ call.Replaces ∧ SavedLast calls record := by
  constructor
  · rintro ⟨older, since, same, quiet⟩
    rcases List.eq_nil_or_concat since with rfl | ⟨since, last, rfl⟩
    · obtain ⟨-, rfl⟩ := List.append_singleton_inj.1 same
      exact .inl rfl
    · rw [List.concat_eq_append] at same quiet
      rw [← List.cons_append, ← List.append_assoc] at same
      obtain ⟨rfl, rfl⟩ := List.append_singleton_inj.1 same
      obtain ⟨before, last⟩ := List.forall_mem_append.1 quiet
      exact .inr ⟨last call (by simp), older, since, rfl, before⟩
  · rintro (rfl | ⟨idle, older, since, rfl, quiet⟩)
    · exact ⟨calls, [], rfl, by simp⟩
    · refine ⟨older, since ++ [call], by simp, List.forall_mem_append.2 ⟨quiet, ?_⟩⟩
      simpa using idle

/-- What is kept in the end is what was saved last. -/
theorem foldl_keep_eq_some_iff :
    calls.foldl keep none = some record ↔ SavedLast calls record := by
  induction calls using List.reverseRecOn with
  | nil =>
    constructor
    · rintro ⟨⟩
    · rintro ⟨older, since, same, -⟩
      simp at same
  | append_singleton calls call ih =>
    rw [List.foldl_append, savedLast_append_iff, ← ih]
    cases call <;> simp [keep, Replaces]

end ConsentCall

namespace ConsentStore

/-- The program of a call. -/
def step (store : ConsentStore) : (call : ConsentCall) → FileStep ConsentStoreError call.Result
  | .load attempt admin => store.load attempt admin
  | .save record => store.save record
  | .clear => store.clear

/-- The files after calls to a store, one after the other. -/
def serve (store : ConsentStore) (files : Files) (calls : List ConsentCall) : Files :=
  calls.foldl (fun files call => (files.run (store.step call)).2) files

/-- The file of a store can be written at once: it may be there or not, but the directory that it is
in is there, and there is no directory in its place. -/
structure IsReady (store : ConsentStore) (files : Files) : Prop where
  asks : store.place.asksDirectory = false
  parent : ∃ parent, store.place.parent? = some parent ∧ files.IsDirectory parent
  position : ∃ position, files.resolve store.place = .ok position ∧ FileNode.IsBare position.node

/-- The path of a store can be used for a file: nothing is there yet, and the directories on the way
to it are there or can be made. -/
structure IsUsable (store : ConsentStore) (files : Files) : Prop where
  absent : files.find store.place = .error .notFound
  asks : store.place.asksDirectory = false
  way : ∃ parent made position, store.place.parent? = some parent ∧
    files.run (FileStep.ensureDirectories parent) = (.ok (), made) ∧
    made.resolve store.place = .ok position ∧ FileNode.IsBare position.node

variable {store : ConsentStore} {files made : Files} {parent : Path} {record : ConsentRecord}

theorem IsUsable.ready (usable : store.IsUsable files) :
    ∃ parent made, store.place.parent? = some parent ∧
      files.run (FileStep.ensureDirectories parent) = (.ok (), made) ∧ store.IsReady made := by
  obtain ⟨parent, made, position, named, ensured, resolved, bare⟩ := usable.way
  have there := Files.isDirectory_of_ensureDirectories ensured
  exact ⟨parent, made, named, ensured, usable.asks, ⟨parent, named, there⟩,
    ⟨position, resolved, bare⟩⟩

/-- What is put at the position of the file leaves it ready to be written. -/
theorem IsReady.replace (ready : store.IsReady files) {position : FilePosition}
    {node : Option FileNode} (resolved : files.resolve store.place = .ok position)
    (bare : FileNode.IsBare position.node) (still : FileNode.IsBare node) :
    store.IsReady (files.replace position node) where
  asks := ready.asks
  parent := by
    obtain ⟨parent, named, there⟩ := ready.parent
    have kept : (files.replace position node).IsDirectory parent :=
      there.imp_right fun there => Files.holdsDirectory_replace there resolved bare
    exact ⟨parent, named, kept⟩
  position := by
    obtain ⟨later, reached, stands⟩ : ∃ later,
        (files.replace position node).resolve store.place = .ok later ∧ later.node = node :=
      Files.resolve_replace resolved bare
    exact ⟨later, reached, stands ▸ still⟩

/-! ## Single calls -/

/-- A record can be saved when the directories on the way to the file can be made. -/
theorem run_save (named : store.place.parent? = some parent)
    (ensured : files.run (FileStep.ensureDirectories parent) = (.ok (), made))
    (ready : store.IsReady made) (record : ConsentRecord) :
    ∃ after, files.run (store.save record) = (.ok (), after) ∧ store.IsReady after := by
  obtain ⟨position, resolved, bare⟩ := ready.position
  let after := made.replace position (some (.file record.storedText.toUTF8))
  have written : made.write store.place record.storedText.toUTF8 = .ok after :=
    Files.write_ok_iff.2 ⟨position, resolved, bare, ready.asks, rfl⟩
  have adapted : files.run (ExceptT.adapt ConsentStoreError.file
      (FileStep.ensureDirectories parent)) = (.ok (), made) := by
    rw [Files.run_adapt, ensured]
    rfl
  refine ⟨after, ?_, ready.replace resolved bare (FileNode.isBare_file _)⟩
  unfold save
  rw [named]
  refine Files.run_bind_ok_iff.2 ⟨(), made, adapted, ?_⟩
  exact Files.run_bind_ok_iff.2
    ⟨.ok (), after, Files.run_write_ok_iff.2 written, Files.run_orFail_ok_iff.2 ⟨rfl, rfl⟩⟩

/-! ## Sequences of calls -/

/-- The files hold the record that is kept: they were not written yet, or the file is ready and
holds the record if there is one. -/
inductive Holding (store : ConsentStore) (files : Files) : Option ConsentRecord → Prop
  | unused (usable : store.IsUsable files) : Holding store files none
  | written {held : Option ConsentRecord} (ready : store.IsReady files)
      (content : store.content? files = held.map fun record => record.storedText.toUTF8) :
      Holding store files held

variable {held : Option ConsentRecord}

/-- A file that is ready is there or not. -/
theorem IsReady.find_cases (ready : store.IsReady files) :
    files.find store.place = .error .notFound ∨
      ∃ content, files.find store.place = .ok (.file content) := by
  obtain ⟨position, resolved, bare⟩ := ready.position
  cases stands : position.node with
  | none =>
    left
    unfold Files.find
    rw [resolved]
    simp only [bind, Except.bind, stands]
    rfl
  | some node =>
    cases node with
    | directory entries => exact absurd stands (bare entries)
    | file content => exact .inr ⟨content, Files.find_file_iff.2 ⟨_, resolved, stands, ready.asks⟩⟩

/-- What is kept is found. -/
theorem Holding.find (holding : store.Holding files held) :
    files.find store.place = match held with
      | some record => .ok (.file record.storedText.toUTF8)
      | none => .error .notFound := by
  cases holding with
  | unused usable => exact usable.absent
  | written ready content =>
    rcases ready.find_cases with absent | ⟨stored, there⟩
    · rw [content?, absent] at content
      cases held with
      | none => exact absent
      | some record => cases content
    · rw [content?, there] at content
      cases held with
      | none => cases content
      | some record =>
        obtain rfl := Option.some.inj content
        exact there

theorem Holding.run_save (holding : store.Holding files held) (record : ConsentRecord) :
    ∃ after, files.run (store.save record) = (.ok (), after) ∧
      store.Holding after (some record) := by
  obtain ⟨after, saved, ready⟩ :
      ∃ after, files.run (store.save record) = (.ok (), after) ∧ store.IsReady after := by
    cases holding with
    | unused usable =>
      obtain ⟨parent, made, named, ensured, ready⟩ := usable.ready
      exact ConsentStore.run_save named ensured ready record
    | written ready content =>
      obtain ⟨parent, named, there⟩ := ready.parent
      exact ConsentStore.run_save named (Files.run_ensureDirectories there) ready record
  exact ⟨after, saved, .written ready (content?_save saved)⟩

theorem Holding.run_clear (holding : store.Holding files held) :
    ∃ after, files.run store.clear = (.ok (), after) ∧ store.Holding after none := by
  cases held with
  | none => exact ⟨files, run_clear_absent holding.find, holding⟩
  | some record =>
    obtain ⟨position, resolved, stands, asks⟩ := Files.find_file_iff.1 holding.find
    have removed : files.remove store.place = .ok (files.replace position none) :=
      Files.remove_ok_iff.2 ⟨position, _, resolved, stands, asks, rfl⟩
    have cleared : files.run store.clear = (.ok (), files.replace position none) :=
      Files.run_bind_ok_iff.2 ⟨_, _, Files.run_remove_iff.2 (.inl ⟨rfl, removed⟩), rfl⟩
    have bare : FileNode.IsBare position.node := by
      rw [stands]
      exact FileNode.isBare_file _
    cases holding with
    | written ready content =>
      have empty := ready.replace resolved bare FileNode.isBare_none
      exact ⟨_, cleared, .written empty (content?_clear cleared)⟩

/-- A load tells whether the record that is kept answers for the attempt and the admin. -/
theorem Holding.run_load (holding : store.Holding files held)
    (readable : ∀ record ∈ held, record.IsReadable) (attempt : AttemptId) (admin : String) :
    files.run (store.load attempt admin) =
      (.ok (held.any fun record => record.answerFor attempt admin), files) := by
  have found := holding.find
  cases held with
  | none => exact run_load_absent found attempt admin
  | some record => exact run_load_stored found (readable record rfl) attempt admin

/-- No call fails, and each leaves what one slot would keep. -/
theorem Holding.run_step (holding : store.Holding files held)
    (readable : ∀ record ∈ held, record.IsReadable) (call : ConsentCall) :
    ∃ answer after, files.run (store.step call) = (.ok answer, after) ∧
      store.Holding after (call.keep held) := by
  cases call with
  | load attempt admin => exact ⟨_, files, holding.run_load readable attempt admin, holding⟩
  | save record => exact ⟨(), holding.run_save record⟩
  | clear => exact ⟨(), holding.run_clear⟩

/-- After any calls the files hold what one slot would keep. -/
theorem Holding.serve {calls : List ConsentCall} (holding : store.Holding files held)
    (readable : ∀ record ∈ held, record.IsReadable)
    (written : ∀ record, .save record ∈ calls → record.IsReadable) :
    store.Holding (store.serve files calls) (calls.foldl ConsentCall.keep held) := by
  induction calls generalizing files held with
  | nil => exact holding
  | cons call rest ih =>
    obtain ⟨answer, after, done, holding⟩ := holding.run_step readable call
    have begun : store.serve files (call :: rest) = store.serve after rest := by
      rw [ConsentStore.serve, List.foldl_cons, done]
      rfl
    rw [begun]
    refine ih holding ?_ fun record member => written record (List.mem_cons_of_mem _ member)
    intro record kept
    cases call with
    | load attempt admin => exact readable record kept
    | save other =>
      obtain rfl := Option.some.inj kept
      exact written other List.mem_cons_self
    | clear => cases kept

/-- A store whose path can be used is one slot.  After any calls no further call fails, and a load
tells of a consent exactly if the record that was saved last, and not cleared since, has it for the
same attempt and the same admin, who has a name. -/
theorem serves_as_slot {calls : List ConsentCall} (usable : store.IsUsable files)
    (readable : ∀ record, .save record ∈ calls → record.IsReadable) :
    (∀ call : ConsentCall, ∃ answer after,
      (store.serve files calls).run (store.step call) = (.ok answer, after)) ∧
    ∀ attempt admin, ((store.serve files calls).run (store.load attempt admin)).1 = .ok true ↔
      ∃ record, ConsentCall.SavedLast calls record ∧ record.attempt = attempt ∧
        record.adminPackage = admin ∧ admin ≠ "" ∧ record.userConsented = true := by
  have holding := Holding.serve (.unused usable) (by simp) readable
  have kept : ∀ record ∈ calls.foldl ConsentCall.keep none, record.IsReadable := by
    intro record kept
    obtain ⟨older, since, rfl, -⟩ := ConsentCall.foldl_keep_eq_some_iff.1 kept
    exact readable record (by simp)
  constructor
  · intro call
    obtain ⟨answer, after, done, -⟩ := holding.run_step kept call
    exact ⟨answer, after, done⟩
  · intro attempt admin
    rw [holding.run_load kept, Except.ok.injEq, Option.any_eq_true]
    simp only [ConsentCall.foldl_keep_eq_some_iff, ConsentRecord.answerFor_iff]

/-- A store in a directory that has to be made first. -/
def nestedStore : ConsentStore := ⟨"state/consent"⟩

/-- The directory of the store. -/
def nestedParent : Path := ⟨false, ["state"]⟩

/-- A record of an attempt and an admin with names that have to be escaped. -/
def oddRecord : ConsentRecord :=
  ⟨⟨"a\"\\\n\t\x00\x7f"⟩, "администратор\r\n/\"", true, ⟨0, 0, 0⟩⟩

theorem resolve_nestedParent (entries : FileEntries) : (Files.atRoot entries).resolve nestedParent =
    .ok ⟨entries.lookup "state", [("state", entries)]⟩ := by
  rw [Files.resolve_relative (by decide) (by decide +kernel) (by decide +kernel)
    (by decide +kernel)]
  rfl

theorem resolve_nestedStore (entries : FileEntries) :
    (Files.atRoot entries).resolve nestedStore.place =
      ["state", "consent"].foldlM FilePosition.enter (Files.atRoot entries).rootPosition := by
  rw [Files.resolve_relative (by decide) (by decide +kernel) (by decide +kernel)
    (by decide +kernel)]
  rfl

theorem run_nestedParent : (Files.atRoot []).run (FileStep.ensureDirectories nestedParent) =
    (.ok (), Files.atRoot [("state", .directory [])]) := by
  have made : (Files.atRoot []).makeDirectory nestedParent =
      .ok (Files.atRoot [("state", .directory [])]) := by
    unfold Files.makeDirectory
    rw [resolve_nestedParent]
    rfl
  have ensured : (Files.atRoot []).run (FileStep.ensureDirectory nestedParent) =
      (.ok (), Files.atRoot [("state", .directory [])]) :=
    Files.run_bind_ok_iff.2 ⟨_, _, Files.run_makeDirectory_iff.2 (.inl ⟨rfl, made⟩), rfl⟩
  show (Files.atRoot []).run (tryCatch (FileStep.ensureDirectory nestedParent) _) = _
  rw [Files.run_tryCatch, ensured]

theorem nestedStore_usable : nestedStore.IsUsable (Files.atRoot []) where
  absent := by
    unfold Files.find
    rw [resolve_nestedStore]
    rfl
  asks := rfl
  way := by
    let inner : FilePosition := ⟨none, [("consent", []), ("state", [("state", .directory [])])]⟩
    refine ⟨nestedParent, _, inner, rfl, run_nestedParent, ?_, FileNode.isBare_none⟩
    rw [resolve_nestedStore]
    rfl

/-- The record is found under its own names, and under no others. -/
theorem nestedStore_keeps :
    let calls : List ConsentCall := [.clear, .save oddRecord, .load ⟨"other"⟩ "other"]
    let later := nestedStore.serve (Files.atRoot []) calls
    (later.run (nestedStore.load oddRecord.attempt oddRecord.adminPackage)).1 = .ok true ∧
      (later.run (nestedStore.load ⟨"other"⟩ oddRecord.adminPackage)).1 ≠ .ok true := by
  intro calls later
  have readable : ∀ record, .save record ∈ calls → record.IsReadable := by
    intro record member
    obtain rfl : record = oddRecord := by simpa [calls] using member
    exact ⟨⟨0, 0, 0⟩, by decide +kernel⟩
  obtain ⟨-, loads⟩ := serves_as_slot nestedStore_usable readable
  have saved : ConsentCall.SavedLast calls oddRecord := ConsentCall.foldl_keep_eq_some_iff.1 rfl
  refine ⟨(loads _ _).2 ⟨oddRecord, saved, rfl, rfl, by decide, rfl⟩, ?_⟩
  intro consented
  obtain ⟨record, kept, attempt, -⟩ := (loads _ _).1 consented
  obtain rfl : oddRecord = record := Option.some.inj (ConsentCall.foldl_keep_eq_some_iff.2 kept)
  revert attempt
  decide

end ConsentStore

end ProvisionGate
