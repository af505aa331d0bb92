import ProvisionGate.Files.Call
import ProvisionGate.Text.Blank
import ProvisionGate.Wire.Consent

/-!
# The consent store

One record is kept in one file.  A file that is not there or is blank holds no consent, and a record
counts only for its own attempt and admin.
-/

namespace ProvisionGate

/-- The store could not do what it was asked. -/
inductive ConsentStoreError where
  | file (cause : FileError)
  | unreadableRecord
  | notCreated (cause : FileError)
  | notRemoved (cause : FileError)
  deriving DecidableEq

/-- The error in words. -/
def ConsentStoreError.message : ConsentStoreError → String
  | file cause => cause.message
  | unreadableRecord => "Failed to parse consent record"
  | notCreated cause => "Failed to create consent file: " ++ cause.message
  | notRemoved cause => "Failed to remove consent file: " ++ cause.message

/-- A store on the file at a path. -/
structure ConsentStore where
  path : String
  deriving DecidableEq

namespace ConsentStore

/-- The name of the record's file where none is given. -/
def defaultFileName : String := ".consent_record"

/-- The store on a file in a directory. -/
def inDirectory (directory : String) (name : String) : ConsentStore :=
  ⟨Path.join directory name⟩

/-- The path of the store, taken apart. -/
def place (store : ConsentStore) : Path :=
  Path.ofText store.path

/-- The record in the store, if there is one. -/
def record? (store : ConsentStore) : FileStep ConsentStoreError (Option ConsentRecord) := do
  let there : Bool ← FileStep.ask (.holds store.place)
  if !there then return none
  let text ← FileStep.orFail .file (← FileStep.ask (.readText store.place))
  if (Text.trim text.toList).isEmpty then return none
  match ConsentRecord.ofText? text with
  | some record => return some record
  | none => throw .unreadableRecord

/-- The consent recorded for an attempt and an admin. -/
def load (store : ConsentStore) (attempt : AttemptId) (admin : String) :
    FileStep ConsentStoreError Bool := do
  match ← store.record? with
  | some record => return record.answerFor attempt admin
  | none => return false

/-- Records a consent, over any older one.  The directories on the way are made first, and stay
even if the file cannot be created. -/
def save (store : ConsentStore) (record : ConsentRecord) : FileStep ConsentStoreError Unit := do
  if let some parent := store.place.parent? then
    ExceptT.adapt .file (FileStep.ensureDirectories parent)
  FileStep.orFail .notCreated (← FileStep.ask (.write store.place record.storedText))

/-- Removes the record, if there is one. -/
def clear (store : ConsentStore) : FileStep ConsentStoreError Unit := do
  match ← FileStep.ask (.remove store.place) with
  | .ok () => return ()
  | .error .notFound => return ()
  | .error cause => throw (.notRemoved cause)

end ConsentStore

end ProvisionGate
