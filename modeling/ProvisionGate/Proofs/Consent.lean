import ProvisionGate.Consent.Store
import ProvisionGate.Proofs.FileSteps
import ProvisionGate.Proofs.Json.Record
import ProvisionGate.Proofs.Text

/-!
# Consents that are stored and loaded

A record that was saved is what the file of the store holds, a store that was cleared has no file,
and a load tells of nothing but the record in the file.
-/

namespace ProvisionGate

/-! ## The record -/

namespace ConsentRecord

theorem ofJson?_toJson (record : ConsentRecord) :
    ofJson? record.toJson =
      (instant? (.text record.updatedAt.text)).map
        fun time => { record with updatedAt := time } := by
  let r : Json.Record := ⟨[("attempt", .text record.attempt.text),
    ("admin_package", .text record.adminPackage), ("user_consented", .bool record.userConsented),
    ("updated_at", .text record.updatedAt.text)]⟩
  have fields : Json.Record.ofJson? fieldNames [] record.toJson = some r := by
    simp [Json.Record.ofJson?, toJson, fieldNames, r]
  have attempt : r.required? "attempt" Json.text? = some record.attempt.text := by
    simp [Json.Record.required?, r, Json.text?]
  have admin : r.withDefault? "admin_package" Json.text? "" = some record.adminPackage := by
    simp [Json.Record.withDefault?, r, Json.text?, List.lookup_cons]
  have consented : r.required? "user_consented" Json.bool? = some record.userConsented := by
    simp [Json.Record.required?, r, Json.bool?, List.lookup_cons]
  have time : r.required? "updated_at" instant? = instant? (.text record.updatedAt.text) := by
    simp [Json.Record.required?, r, List.lookup_cons]
  unfold ofJson?
  rw [fields]
  simp only [Option.bind_eq_bind, Option.bind_some, attempt, admin, consented, time]
  cases instant? (.text record.updatedAt.text) <;> rfl

/-- A stored record is read as it was, as far as its time can be read. -/
theorem ofText?_storedText (record : ConsentRecord) :
    ofText? record.storedText =
      (instant? (.text record.updatedAt.text)).map
        fun time => { record with updatedAt := time } := by
  have read : Json.recordOfText? fieldNames (Json.indentedText 0 record.toJson) =
      some record.toJson := by
    apply Json.recordOfText?_indented
    · simp [fieldNames]
    · exact .object (by simp [Json.IsExact.text, Json.IsExact.bool])
  have text : record.storedText.toList = Json.indentedText 0 record.toJson := by
    simp [storedText, Json.indented]
  unfold ofText?
  rw [text, read, Option.bind_eq_bind, Option.bind_some, ofJson?_toJson]

/-- The time of the record can be read as it is written. -/
def IsReadable (record : ConsentRecord) : Prop :=
  ∃ time, Instant.ofText? record.updatedAt.text.toList = some time

theorem IsReadable.ofText?_storedText {record : ConsentRecord} (readable : record.IsReadable) :
    ∃ time, ofText? record.storedText = some { record with updatedAt := time } := by
  obtain ⟨time, read⟩ := readable
  have instant : instant? (.text record.updatedAt.text) = some time := by
    rw [instant?, Json.text?, Option.bind_eq_bind, Option.bind_some, read]
  refine ⟨time, ?_⟩
  rw [ConsentRecord.ofText?_storedText, instant]
  rfl

/-- A record answers for its own attempt and admin, and not for one without a name. -/
theorem answerFor_iff {record : ConsentRecord} {attempt : AttemptId} {admin : String} :
    record.answerFor attempt admin = true ↔ record.attempt = attempt ∧
      record.adminPackage = admin ∧ admin ≠ "" ∧ record.userConsented = true := by
  unfold answerFor
  constructor
  · intro answers
    split at answers
    · rename_i own
      obtain ⟨rfl, named, rfl⟩ := own
      exact ⟨rfl, rfl, named, answers⟩
    · cases answers
  · rintro ⟨rfl, rfl, named, consented⟩
    rw [if_pos ⟨rfl, named, rfl⟩]
    exact consented

end ConsentRecord

/-! ## The store -/

namespace ConsentStore

theorem fromUTF8?_toUTF8 (text : String) : String.fromUTF8? text.toUTF8 = some text := by
  simp [String.fromUTF8?, String.fromUTF8, text.isValidUTF8]

/-- What the file at the path of a store holds, if there is a file. -/
def content? (store : ConsentStore) (files : Files) : Option ByteArray :=
  match files.find store.place with
  | .ok (.file content) => some content
  | _ => none

variable {store : ConsentStore} {files later : Files} {attempt : AttemptId} {admin : String}
  {record : ConsentRecord}

theorem content?_of_find_error (absent : files.find store.place = .error .notFound) :
    store.content? files = none := by
  rw [content?, absent]

/-- A record that was saved is what the file holds. -/
theorem content?_save (saved : files.run (store.save record) = (.ok (), later)) :
    store.content? later = some record.storedText.toUTF8 := by
  -- Whatever directories were made before, the last thing that is done is to write.
  obtain ⟨made, writing⟩ : ∃ made : Files,
      made.run (FileStep.ask (.write store.place record.storedText) >>=
        FileStep.orFail ConsentStoreError.notCreated) = (.ok (), later) := by
    unfold save at saved
    split at saved
    · obtain ⟨_, made, -, writing⟩ := Files.run_bind_ok_iff.1 saved
      exact ⟨made, writing⟩
    · exact ⟨files, saved⟩
  obtain ⟨answer, between, asked, ended⟩ := Files.run_bind_ok_iff.1 writing
  obtain ⟨rfl, rfl⟩ := Files.run_orFail_ok_iff.1 ended
  have found := Files.find_write (Files.run_write_ok_iff.1 asked)
  rw [content?, found]

/-- A store that was cleared has no file, whether there was one or not. -/
theorem content?_clear (cleared : files.run store.clear = (.ok (), later)) :
    store.content? later = none := by
  unfold clear at cleared
  obtain ⟨answer, between, asked, ended⟩ := Files.run_bind_ok_iff.1 cleared
  rcases Files.run_remove_iff.1 asked with ⟨rfl, removed⟩ | ⟨error, rfl, absent, rfl⟩
  · obtain ⟨-, rfl⟩ := Prod.mk.inj ended
    exact content?_of_find_error (Files.find_remove removed)
  · cases error with
    | notFound =>
      obtain ⟨-, rfl⟩ := Prod.mk.inj ended
      exact content?_of_find_error (Files.find_of_remove_error absent)
    | _ => cases (Prod.mk.inj ended).1

/-- A text is read from the file, which is left as it is. -/
theorem run_readText_ok {text : String}
    (read : files.run (FileStep.ask (.readText store.place) : FileStep ConsentStoreError _) =
      (.ok (.ok text), later)) :
    later = files ∧ ∃ content, store.content? files = some content ∧
      String.fromUTF8? content = some text := by
  obtain ⟨result, rfl⟩ := Prod.mk.inj (Files.run_ask.symm.trans read)
  have found : files.readText store.place = .ok text := Except.ok.inj result
  obtain ⟨node, stands, found⟩ := bind_eq_ok_iff.1 found
  refine ⟨rfl, ?_⟩
  cases node with
  | directory entries => cases found
  | file content =>
    refine ⟨content, by rw [content?, stands], ?_⟩
    cases decoded : String.fromUTF8? content with
    | none =>
      simp only [decoded] at found
      cases found
    | some other =>
      simp only [decoded] at found
      exact congrArg some (Except.ok.inj found)

/-- A record is read from the file, which is left as it is. -/
theorem run_record?_ok {found : Option ConsentRecord}
    (read : files.run store.record? = (.ok found, later)) :
    later = files ∧ ∀ record ∈ found, ∃ content text, store.content? files = some content ∧
      String.fromUTF8? content = some text ∧ ConsentRecord.ofText? text = some record := by
  unfold record? at read
  obtain ⟨there, between, asked, looking⟩ := Files.run_bind_ok_iff.1 read
  obtain ⟨-, rfl⟩ := Prod.mk.inj (Files.run_ask.symm.trans asked)
  change files.run _ = _ at looking
  cases there with
  | false =>
    obtain ⟨result, rfl⟩ := Prod.mk.inj looking
    obtain rfl := Except.ok.inj result
    exact ⟨rfl, by simp⟩
  | true =>
    obtain ⟨answer, between, told, deciding⟩ := Files.run_bind_ok_iff.1 looking
    obtain ⟨text, last, taken, ending⟩ := Files.run_bind_ok_iff.1 deciding
    obtain ⟨rfl, rfl⟩ := Files.run_orFail_ok_iff.1 taken
    obtain ⟨rfl, content, stands, decoded⟩ := run_readText_ok told
    by_cases blank : (Text.trim text.toList).isEmpty = true
    · rw [if_pos blank] at ending
      obtain ⟨result, rfl⟩ := Prod.mk.inj ending
      obtain rfl := Except.ok.inj result
      exact ⟨rfl, by simp⟩
    · rw [if_neg blank] at ending
      cases parsed : ConsentRecord.ofText? text with
      | none =>
        simp only [parsed] at ending
        cases (Prod.mk.inj ending).1
      | some record =>
        simp only [parsed] at ending
        obtain ⟨result, rfl⟩ := Prod.mk.inj ending
        obtain rfl := Except.ok.inj result
        refine ⟨rfl, ?_⟩
        rintro _ ⟨⟩
        exact ⟨content, text, stands, decoded, parsed⟩

/-- A load that tells of a consent found it in the file. -/
theorem content?_load {answer : Bool}
    (loaded : files.run (store.load attempt admin) = (.ok answer, later)) :
    store.content? later = store.content? files ∧ (answer = true →
      ∃ content text record, store.content? files = some content ∧
        String.fromUTF8? content = some text ∧ ConsentRecord.ofText? text = some record ∧
          record.answerFor attempt admin = true) := by
  unfold load at loaded
  obtain ⟨found, between, read, ended⟩ := Files.run_bind_ok_iff.1 loaded
  obtain ⟨rfl, held⟩ := run_record?_ok read
  cases found with
  | none =>
    obtain ⟨result, rfl⟩ := Prod.mk.inj ended
    obtain rfl := Except.ok.inj result
    exact ⟨rfl, by simp⟩
  | some record =>
    obtain ⟨result, rfl⟩ := Prod.mk.inj ended
    obtain rfl := Except.ok.inj result
    obtain ⟨content, text, stands, decoded, parsed⟩ := held record rfl
    exact ⟨rfl, fun consented => ⟨content, text, record, stands, decoded, parsed, consented⟩⟩

/-- A load that tells of a consent tells of the record that was stored. -/
theorem eq_of_load (stored : store.content? files = some record.storedText.toUTF8)
    (loaded : files.run (store.load attempt admin) = (.ok true, later)) :
    record.attempt = attempt ∧ record.adminPackage = admin ∧ record.userConsented = true := by
  obtain ⟨content, text, found, stands, decoded, parsed, answers⟩ := (content?_load loaded).2 rfl
  obtain rfl := Option.some.inj (stored.symm.trans stands)
  obtain rfl := Option.some.inj ((fromUTF8?_toUTF8 record.storedText).symm.trans decoded)
  rw [ConsentRecord.ofText?_storedText] at parsed
  obtain ⟨time, -, rfl⟩ := Option.map_eq_some_iff.1 parsed
  obtain ⟨attempt, admin, -, consented⟩ := ConsentRecord.answerFor_iff.1 answers
  exact ⟨attempt, admin, consented⟩

/-! ## Calls that succeed -/

/-- Nothing is cleared where nothing is. -/
theorem run_clear_absent (absent : files.find store.place = .error .notFound) :
    files.run store.clear = (.ok (), files) := by
  have refused := Files.remove_of_find_error absent
  exact Files.run_bind_ok_iff.2
    ⟨_, files, Files.run_remove_iff.2 (.inr ⟨.notFound, rfl, refused, rfl⟩), rfl⟩

theorem run_holds (files : Files) (p : Path) :
    files.run (FileStep.ask (.holds p) : FileStep ConsentStoreError Bool) =
      (.ok (files.holds p), files) := rfl

/-- Nothing is loaded where nothing is. -/
theorem run_load_absent (absent : files.find store.place = .error .notFound)
    (attempt : AttemptId) (admin : String) :
    files.run (store.load attempt admin) = (.ok false, files) := by
  have missing : files.holds store.place = false := by
    rw [Files.holds, absent]
  have none : files.run store.record? = (.ok none, files) := by
    unfold record?
    rw [Files.run_bind, run_holds, missing]
    rfl
  exact Files.run_bind_ok_iff.2 ⟨_, files, none, rfl⟩

/-- What was stored is no blank text: it begins with a brace. -/
theorem storedText_full (record : ConsentRecord) :
    (Text.trim record.storedText.toList).isEmpty = false := by
  have brace : '{' ∈ record.storedText.toList := by
    simp [ConsentRecord.storedText, Json.indented, ConsentRecord.toJson, Json.indentedText]
  have full := Text.trim_ne_nil_iff.2 ⟨'{', brace, by decide⟩
  simpa using full

/-- The record that is in the file is loaded. -/
theorem run_load_stored (stands : files.find store.place = .ok (.file record.storedText.toUTF8))
    (readable : record.IsReadable) (attempt : AttemptId) (admin : String) :
    files.run (store.load attempt admin) = (.ok (record.answerFor attempt admin), files) := by
  obtain ⟨time, parsed⟩ := readable.ofText?_storedText
  have there : files.holds store.place = true := by
    rw [Files.holds, stands]
  have text : files.readText store.place = .ok record.storedText := by
    refine bind_eq_ok_iff.2 ⟨_, stands, ?_⟩
    simp only [fromUTF8?_toUTF8]
    rfl
  have told : files.run (FileStep.ask (.readText store.place) : FileStep ConsentStoreError _) =
      (.ok (.ok record.storedText), files) :=
    congrArg (fun answer => (Except.ok answer, files)) text
  have found : files.run store.record? = (.ok (some { record with updatedAt := time }), files) := by
    unfold record?
    rw [Files.run_bind, run_holds, there]
    refine Files.run_bind_ok_iff.2 ⟨.ok record.storedText, _, told, ?_⟩
    refine Files.run_bind_ok_iff.2 ⟨_, _, Files.run_orFail_ok_iff.2 ⟨rfl, rfl⟩, ?_⟩
    rw [storedText_full]
    simp only [parsed]
    rfl
  exact Files.run_bind_ok_iff.2 ⟨_, files, found, rfl⟩

end ConsentStore

end ProvisionGate
