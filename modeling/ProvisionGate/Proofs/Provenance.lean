import ProvisionGate.Proofs.Consent
import ProvisionGate.Proofs.Request.Resume
import ProvisionGate.Proofs.Session.Consent

/-!
# The provenance of a consent

Sessions one after the other share one consent store, whose file nobody else writes.  A consent that
is loaded is then one that was saved last and not cleared since, in whatever session, and every
launch that needs a consent goes back to a confirmation of its own attempt and admin.
-/

namespace ProvisionGate

/-- The store carries out what it is asked. -/
def Moment.isStored : Moment → Bool
  | .exchanged ⟨.loadConsent _ _, .ok _⟩ | .exchanged ⟨.saveConsent _, .ok _⟩
  | .exchanged ⟨.clearConsent, .ok _⟩ => true
  | _ => false

theorem Moment.isStored_of_clears {m : Moment} (clears : m.Clears) : m.isStored = true := by
  rw [Moment.eq_of_clears clears]
  rfl

namespace ConsentStore

/-- How the files are before and after a moment.  The store carries out what succeeds; whatever
else happens, and a call of the store that fails, leaves its file as it is. -/
inductive Passes (store : ConsentStore) : Files → Moment → Files → Prop
  | loaded {files later : Files} {attempt : AttemptId} {admin : String} {answer : Bool}
      (done : files.run (store.load attempt admin) = (.ok answer, later)) :
      Passes store files (.exchanged ⟨.loadConsent attempt admin, .ok answer⟩) later
  | saved {files later : Files} {record : ConsentRecord}
      (done : files.run (store.save record) = (.ok (), later)) :
      Passes store files (.exchanged ⟨.saveConsent record, .ok ()⟩) later
  | cleared {files later : Files} (done : files.run store.clear = (.ok (), later)) :
      Passes store files (.exchanged ⟨.clearConsent, .ok ()⟩) later
  | other {files later : Files} {m : Moment} (other : m.isStored = false)
      (kept : store.content? later = store.content? files) : Passes store files m later

/-- The files after all that happened, when there was no file at first. -/
inductive Serves (store : ConsentStore) : List Moment → Files → Prop
  | fresh {files : Files} (absent : store.content? files = none) : Serves store [] files
  | after {past : List Moment} {m : Moment} {files later : Files} (served : Serves store past files)
      (passes : Passes store files m later) : Serves store (past ++ [m]) later

variable {store : ConsentStore} {past later : List Moment} {files after : Files}

/-- How the last moment passed. -/
theorem Serves.last {m : Moment} (served : store.Serves (past ++ [m]) files) :
    ∃ before, store.Serves past before ∧ store.Passes before m files := by
  generalize whole : past ++ [m] = all at served
  cases served with
  | fresh absent => simp at whole
  | after earlier passes =>
    obtain ⟨rfl, same⟩ := List.append_inj' whole rfl
    obtain rfl := List.singleton_inj.1 same
    exact ⟨_, earlier, passes⟩

theorem Serves.of_append (served : store.Serves (past ++ later) files) :
    ∃ before, store.Serves past before := by
  induction later generalizing past with
  | nil =>
    rw [List.append_nil] at served
    exact ⟨files, served⟩
  | cons m rest ih =>
    rw [List.append_cons] at served
    obtain ⟨between, earlier⟩ := ih served
    obtain ⟨before, first, -⟩ := earlier.last
    exact ⟨before, first⟩

/-- Moments in which nothing is stored may as well leave all files as they are. -/
theorem Serves.idle (served : store.Serves past files)
    (idle : later.all (fun m => !m.isStored) = true) : store.Serves (past ++ later) files := by
  induction later generalizing past with
  | nil =>
    rw [List.append_nil]
    exact served
  | cons m rest ih =>
    rw [List.all_cons, Bool.and_eq_true, Bool.not_eq_true'] at idle
    rw [List.append_cons]
    exact ih (.after served (.other idle.1 rfl)) idle.2

/-- A record was saved last, and nothing was cleared since. -/
def SavedLast (past : List Moment) (record : ConsentRecord) : Prop :=
  ∃ older since, past = older ++ .exchanged ⟨.saveConsent record, .ok ()⟩ :: since ∧
    ∀ m ∈ since, ¬ m.Clears

theorem SavedLast.append {record : ConsentRecord} (saved : SavedLast past record)
    (quiet : ∀ m ∈ later, ¬ m.Clears) : SavedLast (past ++ later) record := by
  obtain ⟨older, since, rfl, before⟩ := saved
  exact ⟨older, since ++ later, by simp, List.forall_mem_append.2 ⟨before, quiet⟩⟩

/-- The file holds nothing but the record that was saved last. -/
theorem Serves.content (served : store.Serves past files) :
    store.content? files = none ∨
      ∃ record, SavedLast past record ∧ store.content? files = some record.storedText.toUTF8 := by
  induction served with
  | fresh absent => exact .inl absent
  | @after past m files later served passes ih =>
    cases passes with
    | loaded done =>
      rw [(content?_load done).1]
      rcases ih with absent | ⟨record, saved, held⟩
      · exact .inl absent
      · exact .inr ⟨record, saved.append (by simp [Moment.Clears]), held⟩
    | saved done => exact .inr ⟨_, ⟨past, [], rfl, by simp⟩, content?_save done⟩
    | cleared done => exact .inl (content?_clear done)
    | other other kept =>
      rw [kept]
      rcases ih with absent | ⟨record, saved, held⟩
      · exact .inl absent
      · refine .inr ⟨record, saved.append ?_, held⟩
        intro n member clears
        obtain rfl := List.mem_singleton.1 member
        rw [Moment.isStored_of_clears clears] at other
        cases other

/-- A consent that was loaded is the one that was saved last. -/
theorem Serves.savedLast_of_loaded {attempt : AttemptId} {admin : String}
    (served : store.Serves (past ++ [.exchanged ⟨.loadConsent attempt admin, .ok true⟩]) files) :
    ∃ record, SavedLast past record ∧ record.attempt = attempt ∧ record.adminPackage = admin := by
  obtain ⟨before, earlier, passes⟩ := served.last
  cases passes with
  | other other kept => cases other
  | loaded done =>
    rcases earlier.content with absent | ⟨record, saved, held⟩
    · obtain ⟨content, -, -, found, -⟩ := (content?_load done).2 rfl
      rw [absent] at found
      cases found
    · obtain ⟨attempt, admin, -⟩ := eq_of_load held done
      exact ⟨record, saved, attempt, admin⟩

end ConsentStore

namespace Session

/-- The user confirmed an attempt and the admin of its parameters: he was asked by a session that
waited for him then, his confirmation was saved in the same call, and nothing was cleared since. -/
def Confirmed (past : List Moment) (attempt : AttemptId) (params : Params) : Prop :=
  ∃ older prompt between s log record since,
    past = older ++ .exchanged ⟨.presentConsent prompt, .ok ()⟩ :: between ++
      .called .confirmConsent s :: moments log ++
      .exchanged ⟨.saveConsent record, .ok ()⟩ :: since ∧
    (∀ m ∈ between, ¬ m.Opens) ∧ s.state = .awaitingConsent ∧
    prompt.attempt = attempt ∧ params.admin? = some prompt.adminPackage ∧
    record.attempt = attempt ∧ params.admin? = some record.adminPackage ∧
    record.userConsented = true ∧ ∀ m ∈ since, ¬ m.Clears

/-- A launch of parameters is due: they are those of the request that the session accepted last,
and the user confirmed them if he has to be asked. -/
def LaunchConfirmed (past : List Moment) (params : Params) : Prop :=
  ∃ attempt taken since, LastAccepted past attempt taken since ∧ (∀ m ∈ since, ¬ m.Opens) ∧
    taken.params = params ∧
    (taken.caller = .primary → params.startedByDiscovery = false → Confirmed past attempt params)

theorem LastAccepted.admin?_eq {past since : List Moment} {attempt : AttemptId}
    {taken : AcceptedRequest} (last : LastAccepted past attempt taken since) :
    taken.params.admin? = some taken.params.adminOrEmpty := by
  obtain ⟨older, request, before, log, -, accepting, -⟩ := last
  have parsed : request.parse = .ok taken.params := by
    cases accepting with
    | anew new parsed => exact parsed
    | again resumed parsed => exact parsed
  obtain ⟨-, named⟩ := Request.isRead_of_parse parsed
  obtain ⟨admin, found⟩ := Option.isSome_iff_exists.1 named
  rw [Params.adminOrEmpty, found]
  rfl

/-- A record that was saved for the attempt and the admin goes back to a confirmation. -/
theorem confirmed_of_savedLast {past : List Moment} {record : ConsentRecord} {params : Params}
    (known : Throughout ConsentKnown past) (saved : ConsentStore.SavedLast past record)
    (admin : params.admin? = some record.adminPackage) : Confirmed past record.attempt params := by
  obtain ⟨before, since, rfl, quiet⟩ := saved
  obtain ⟨consented, older, prompt, between, s, log, rfl, same, state, attempt, package⟩ :=
    (known before _ since rfl).1 record rfl
  rw [← package] at admin
  exact ⟨older, prompt, between, s, log, record, since, rfl, same, state, attempt, admin, rfl,
    package ▸ admin, consented, quiet⟩

/-- Whatever sessions share a store whose file is absent at first and written by nobody else, no
launch that needs a consent is without one. -/
theorem launches_confirmed {store : ConsentStore} {past : List Moment} {files : Files}
    (lifetime : Lifetime past) (served : store.Serves past files) :
    Throughout (fun before m => ∀ params, m.launched? = some params →
      LaunchConfirmed before params) past := by
  intro before m after split params launched
  have known := lifetime.consentKnown
  obtain ⟨attempt, taken, since, last, rfl, same, backed⟩ :=
    (known before m after split).2 params launched
  rw [split] at known served
  have earlier := (Throughout.append_iff.1 known).1
  obtain ⟨now, servedBefore⟩ := served.of_append
  have admin := last.admin?_eq
  refine ⟨attempt, taken, since, last, same, rfl, ?_⟩
  intro primary direct
  rcases backed primary direct with
    ⟨older, record, rfl, rfl, package⟩ | ⟨older, behind, rfl, quiet⟩
  · rw [← package] at admin
    exact confirmed_of_savedLast earlier ⟨older, [], rfl, by simp⟩ admin
  · rw [List.append_cons] at servedBefore
    obtain ⟨loadedAt, servedLoad⟩ := servedBefore.of_append
    obtain ⟨record, saved, rfl, package⟩ := servedLoad.savedLast_of_loaded
    rw [← package] at admin
    refine confirmed_of_savedLast earlier ?_ admin
    refine saved.append ?_
    intro n member clears
    rcases List.mem_cons.1 member with rfl | inside
    · exact clears
    · exact quiet n inside (Moment.accepts_of_clears clears)

/-! ## An attempt that is taken up again -/

/-- A store in the working directory. -/
def plainStore : ConsentStore := ⟨"consent"⟩

/-- The record of the confirmation of the plain attempt. -/
def plainRecord : ConsentRecord := ⟨⟨"attempt"⟩, "org.example.admin", true, ⟨0, 0, 0⟩⟩

/-- The files that hold the record. -/
def plainRecorded : Files :=
  Files.atRoot [("consent", .file plainRecord.storedText.toUTF8)]

theorem resolve_plainStore (entries : FileEntries) :
    (Files.atRoot entries).resolve plainStore.place =
      .ok ⟨entries.lookup "consent", [("consent", entries)]⟩ := by
  rw [Files.resolve_relative (by decide) (by decide +kernel) (by decide +kernel)
    (by decide +kernel)]
  rfl

theorem plainStore_absent : plainStore.content? (Files.atRoot []) = none := by
  simp [ConsentStore.content?, Files.find, resolve_plainStore, bind, Except.bind]

theorem plainStore_clear : (Files.atRoot []).run plainStore.clear = (.ok (), Files.atRoot []) := by
  have absent : (Files.atRoot []).find plainStore.place = .error .notFound := by
    unfold Files.find
    rw [resolve_plainStore]
    rfl
  exact ConsentStore.run_clear_absent absent

theorem plainStore_save :
    (Files.atRoot []).run (plainStore.save plainRecord) = (.ok (), plainRecorded) := by
  have written : (Files.atRoot []).write plainStore.place plainRecord.storedText.toUTF8 =
      .ok plainRecorded := by
    have asks : plainStore.place.asksDirectory = false := rfl
    simp [Files.write, resolve_plainStore, bind, Except.bind, asks]
    rfl
  have saved : (Files.atRoot []).run (FileStep.ask (.write plainStore.place plainRecord.storedText) >>=
      FileStep.orFail ConsentStoreError.notCreated) = (.ok (), plainRecorded) :=
    Files.run_bind_ok_iff.2
      ⟨.ok (), plainRecorded, Files.run_write_ok_iff.2 written, Files.run_orFail_ok_iff.2 ⟨rfl, rfl⟩⟩
  have parent : plainStore.place.parent? = some ⟨false, []⟩ := rfl
  unfold ConsentStore.save
  rw [parent]
  exact Files.run_bind_ok_iff.2 ⟨(), Files.atRoot [], rfl, saved⟩

theorem plainStore_load :
    plainRecorded.run (plainStore.load ⟨"attempt"⟩ "org.example.admin") =
      (.ok true, plainRecorded) := by
  have found : plainRecorded.find plainStore.place =
      .ok (.file plainRecord.storedText.toUTF8) := by
    unfold plainRecorded Files.find
    rw [resolve_plainStore]
    rfl
  have readable : plainRecord.IsReadable := ⟨⟨0, 0, 0⟩, by decide +kernel⟩
  exact ConsentStore.run_load_stored found readable ⟨"attempt"⟩ "org.example.admin"

/-- The plain request, to take the attempt up again. -/
def resumedRequest : Request :=
  { plainRequest with resumedAttempt := some ⟨"attempt"⟩ }

/-- Surroundings in which the device is encrypted and the consent recorded. -/
def recalling : (c : SessionCall) → c.Answer
  | .loadConsent _ _ => .ok true
  | .device .deviceEncrypted => .ok true
  | other => obliging other

/-- The plain attempt taken up again by another session. -/
def resumedAttempt : List Moment × Session :=
  driven recalling [.start resumedRequest] ([.opened ⟨"reopened"⟩], opened ⟨"reopened"⟩)

theorem resumedAttempt_lifetime : Lifetime (plainAttempt.1 ++ resumedAttempt.1) := by
  have first : Lifetime ([] ++ plainAttempt.1) := Lifetime.empty.whole plainAttempt_history
  have second : History ⟨"reopened"⟩ resumedAttempt.1 resumedAttempt.2 := History.opened.driven _
  exact first.whole second

theorem resumedAttempt_served :
    plainStore.Serves (plainAttempt.1 ++ resumedAttempt.1) plainRecorded := by
  have split : plainAttempt.1 ++ resumedAttempt.1 = [] ++ plainAttempt.1.take 4 ++
      [.exchanged ⟨.clearConsent, .ok ()⟩] ++ (plainAttempt.1.drop 5).take 19 ++
      [.exchanged ⟨.saveConsent plainRecord, .ok ()⟩] ++
      (plainAttempt.1.drop 25 ++ resumedAttempt.1.take 3) ++
      [.exchanged ⟨.loadConsent ⟨"attempt"⟩ "org.example.admin", .ok true⟩] ++
      resumedAttempt.1.drop 4 := rfl
  have begun : plainStore.Serves ([] ++ plainAttempt.1.take 4) (Files.atRoot []) :=
    ConsentStore.Serves.idle (.fresh plainStore_absent) rfl
  have asked : plainStore.Serves ([] ++ plainAttempt.1.take 4 ++
      [.exchanged ⟨.clearConsent, .ok ()⟩] ++ (plainAttempt.1.drop 5).take 19) (Files.atRoot []) :=
    .idle (.after begun (.cleared plainStore_clear)) rfl
  rw [split]
  exact .idle (.after (.idle (.after asked (.saved plainStore_save)) rfl)
    (.loaded plainStore_load)) rfl

/-- The second session launches with the consent that the first one saved. -/
theorem resumedAttempt_confirmed :
    resumedAttempt.1.filterMap Moment.launched? =
        [{ Params.empty with adminPackage := some "org.example.admin" }] ∧
      Throughout (fun before m => ∀ params, m.launched? = some params →
        LaunchConfirmed before params) (plainAttempt.1 ++ resumedAttempt.1) :=
  ⟨rfl, launches_confirmed resumedAttempt_lifetime resumedAttempt_served⟩

end Session

end ProvisionGate
