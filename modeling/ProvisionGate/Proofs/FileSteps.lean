import ProvisionGate.Proofs.Dialogue
import ProvisionGate.Proofs.Files

/-!
# Programs over files

What a program does to the files is told by what its calls do to them.  The directories that a path
needs are made once: where they stand, nothing is changed.
-/

namespace ProvisionGate

namespace Files

variable {ε α β : Type} {files later : Files}

/-- A program in two parts goes on from where the first one left the files, unless it failed. -/
theorem run_bind (files : Files) (step : FileStep ε α) (next : α → FileStep ε β) :
    files.run (step >>= next) = match files.run step with
      | (.ok a, between) => between.run (next a)
      | (.error error, between) => (.error error, between) := by
  unfold run
  rw [ExceptT.run_bind, Dialogue.perform_bind]
  rw [StateT.run_bind]
  generalize (Dialogue.perform respond step.run).run files = reached
  obtain ⟨result, between⟩ := reached
  cases result <;> rfl

/-- A program that succeeds in two parts succeeds in the first one and goes on with the second. -/
theorem run_bind_ok_iff {step : FileStep ε α} {next : α → FileStep ε β} {b : β} :
    files.run (step >>= next) = (.ok b, later) ↔
      ∃ a between, files.run step = (.ok a, between) ∧ between.run (next a) = (.ok b, later) := by
  rw [run_bind]
  constructor
  · intro done
    split at done
    · rename_i a between first
      exact ⟨a, between, first, done⟩
    · cases done
  · rintro ⟨a, between, first, second⟩
    rw [first]
    exact second

/-- A program that is caught goes on with the handler of its error. -/
theorem run_tryCatch (files : Files) (step : FileStep ε α) (handler : ε → FileStep ε α) :
    files.run (tryCatch step handler) = match files.run step with
      | (.ok a, between) => (.ok a, between)
      | (.error error, between) => between.run (handler error) := by
  show (Dialogue.perform respond (step.run >>= fun reached => _)).run files = _
  unfold run
  rw [Dialogue.perform_bind, StateT.run_bind]
  generalize (Dialogue.perform respond step.run).run files = reached
  obtain ⟨result, between⟩ := reached
  cases result <;> rfl

/-- Errors that are put in other words change nothing else. -/
theorem run_adapt {ε' : Type} (files : Files) (step : FileStep ε α) (inWords : ε → ε') :
    files.run (ExceptT.adapt inWords step) =
      ((files.run step).1.mapError inWords, (files.run step).2) := by
  show (Dialogue.perform respond (step.run >>= fun reached => _)).run files = _
  unfold run
  rw [Dialogue.perform_bind, StateT.run_bind]
  rfl

theorem run_orFail_ok_iff {error : FileError → ε} {answer : Except FileError α} {a : α} :
    files.run (FileStep.orFail error answer) = (.ok a, later) ↔ answer = .ok a ∧ later = files := by
  cases answer with
  | ok b =>
    show ((Except.ok b, files) : Except ε α × Files) = (.ok a, later) ↔ _
    rw [Prod.mk.injEq, Except.ok.injEq, Except.ok.injEq, eq_comm (a := files)]
  | error cause =>
    show ((Except.error (error cause), files) : Except ε α × Files) = (.ok a, later) ↔ _
    simp

theorem run_ask {call : FileCall} :
    files.run (FileStep.ask call : FileStep ε call.Answer) =
      (.ok ((respond call).run files).1, ((respond call).run files).2) := rfl

theorem run_ask_iff {call : FileCall} {answer : call.Answer} :
    files.run (FileStep.ask call : FileStep ε call.Answer) = (.ok answer, later) ↔
      (respond call).run files = (answer, later) := by
  rw [run_ask, Prod.mk.injEq, Except.ok.injEq, Prod.ext_iff]

/-- A call changes the files, or tells why it does not and leaves them as they are. -/
theorem run_changing (change : Files → Except FileError Files) :
    (changing change).run files = match change files with
      | .ok changed => (.ok (), changed)
      | .error error => (.error error, files) := by
  show StateT.run (get >>= fun files => _) files = _
  rw [StateT.run_bind]
  show StateT.run (match change files with | .ok _ => _ | .error _ => _) files = _
  cases change files <;> rfl

theorem run_changing_iff {change : Files → Except FileError Files}
    {answer : Except FileError Unit} :
    (changing change).run files = (answer, later) ↔
      answer = .ok () ∧ change files = .ok later ∨
        ∃ error, answer = .error error ∧ change files = .error error ∧ later = files := by
  rw [run_changing]
  cases change files with
  | ok after =>
    constructor
    · rintro ⟨⟩
      exact .inl ⟨rfl, rfl⟩
    · rintro (⟨rfl, ⟨⟩⟩ | ⟨_, -, failed, -⟩)
      · rfl
      · cases failed
  | error error =>
    constructor
    · rintro ⟨⟩
      exact .inr ⟨error, rfl, rfl, rfl⟩
    · rintro (⟨-, failed⟩ | ⟨_, rfl, ⟨⟩, rfl⟩)
      · cases failed
      · rfl

theorem run_write_ok_iff {p : Path} {text : String} :
    files.run (FileStep.ask (.write p text) : FileStep ε _) = (.ok (.ok ()), later) ↔
      files.write p text.toUTF8 = .ok later := by
  refine run_ask_iff.trans (run_changing_iff.trans ?_)
  simp

theorem run_remove_iff {p : Path} {answer : Except FileError Unit} :
    files.run (FileStep.ask (.remove p) : FileStep ε _) = (.ok answer, later) ↔
      answer = .ok () ∧ files.remove p = .ok later ∨
        ∃ error, answer = .error error ∧ files.remove p = .error error ∧ later = files :=
  run_ask_iff.trans run_changing_iff

theorem run_makeDirectory_iff {p : Path} {answer : Except FileError Unit} :
    files.run (FileStep.ask (.makeDirectory p) : FileStep ε _) = (.ok answer, later) ↔
      answer = .ok () ∧ files.makeDirectory p = .ok later ∨
        ∃ error, answer = .error error ∧ files.makeDirectory p = .error error ∧ later = files :=
  run_ask_iff.trans run_changing_iff

/-! ## Directories on the way -/

/-- The path names a directory; the empty one names the working directory. -/
def IsDirectory (files : Files) (p : Path) : Prop :=
  p.isEmpty = true ∨ files.holdsDirectory p = true

variable {p : Path}

/-- A directory that is there is left as it is. -/
theorem run_ensureDirectory (there : files.IsDirectory p) :
    files.run (FileStep.ensureDirectory p) = (.ok (), files) := by
  unfold FileStep.ensureDirectory
  by_cases empty : p.isEmpty = true
  · rw [if_pos empty]
    rfl
  · rw [if_neg empty]
    have stands := there.resolve_left empty
    have refused := makeDirectory_of_holdsDirectory stands
    refine run_bind_ok_iff.2 ⟨_, files, run_makeDirectory_iff.2 (.inr ⟨_, rfl, refused, rfl⟩), ?_⟩
    refine run_bind_ok_iff.2 ⟨true, files, ?_, rfl⟩
    rw [run_ask]
    exact congrArg (fun answer => (Except.ok answer, files)) stands

/-- A directory that was to be ensured is there then. -/
theorem isDirectory_of_ensureDirectory
    (ensured : files.run (FileStep.ensureDirectory p) = (.ok (), later)) : later.IsDirectory p := by
  unfold FileStep.ensureDirectory at ensured
  by_cases empty : p.isEmpty = true
  · exact .inl empty
  · rw [if_neg empty] at ensured
    obtain ⟨answer, between, asked, ended⟩ := run_bind_ok_iff.1 ensured
    rcases run_makeDirectory_iff.1 asked with ⟨rfl, made⟩ | ⟨error, rfl, -, rfl⟩
    · obtain ⟨-, rfl⟩ := Prod.mk.inj ended
      exact .inr (holdsDirectory_makeDirectory made)
    · cases error with
      | alreadyExists =>
        obtain ⟨there, last, told, ended⟩ := run_bind_ok_iff.1 ended
        obtain ⟨result, rfl⟩ := Prod.mk.inj (run_ask.symm.trans told)
        cases there with
        | true =>
          obtain ⟨-, rfl⟩ := Prod.mk.inj ended
          exact .inr (Except.ok.inj result)
        | false => cases (Prod.mk.inj ended).1
      | _ => cases (Prod.mk.inj ended).1

theorem run_ensureDirectories (there : files.IsDirectory p) :
    files.run (FileStep.ensureDirectories p) = (.ok (), files) := by
  have first := run_ensureDirectory there
  unfold FileStep.ensureDirectories
  cases p.names.length with
  | zero => exact first
  | succ bound => rw [FileStep.ensureDirectoriesWithin, run_tryCatch, first]

/-- Whatever directories were made on the way to it, the last one that is ensured is the wanted
one. -/
theorem isDirectory_of_ensureDirectories
    (ensured : files.run (FileStep.ensureDirectories p) = (.ok (), later)) :
    later.IsDirectory p := by
  unfold FileStep.ensureDirectories at ensured
  cases named : p.names.length with
  | zero =>
    rw [named] at ensured
    exact isDirectory_of_ensureDirectory ensured
  | succ bound =>
    rw [named, FileStep.ensureDirectoriesWithin, run_tryCatch] at ensured
    split at ensured
    · rename_i made between first
      rw [ensured] at first
      exact isDirectory_of_ensureDirectory first
    · split at ensured
      · obtain ⟨_, made, -, ended⟩ := run_bind_ok_iff.1 ensured
        exact isDirectory_of_ensureDirectory ended
      · cases (Prod.mk.inj ensured).1

end Files

end ProvisionGate
