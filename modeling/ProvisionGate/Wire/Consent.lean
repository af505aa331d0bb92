import ProvisionGate.Consent
import ProvisionGate.Instant.Printer
import ProvisionGate.Instant.Reader
import ProvisionGate.Json.Printer
import ProvisionGate.Json.Skip
import ProvisionGate.Wire.Params

/-!
# The JSON form of consents

A record is stored as indented JSON text.  A record without an admin is read as one that names
none.
-/

namespace ProvisionGate

/-- The JSON form of a prompt. -/
def ConsentPrompt.toJson (prompt : ConsentPrompt) : Json :=
  .object [
    ("attempt", .text prompt.attempt.text),
    ("admin_package", .text prompt.adminPackage),
    ("admin_component", .ofOption Component.toJson prompt.adminComponent)]

namespace ConsentRecord

/-- The JSON form of a record. -/
def toJson (record : ConsentRecord) : Json :=
  .object [
    ("attempt", .text record.attempt.text),
    ("admin_package", .text record.adminPackage),
    ("user_consented", .bool record.userConsented),
    ("updated_at", .text record.updatedAt.text)]

/-- The names of the fields of a record. -/
def fieldNames : List String :=
  ["attempt", "admin_package", "user_consented", "updated_at"]

/-- Reads an instant. -/
def instant? (j : Json) : Option Instant := do
  Instant.ofText? (← j.text?).toList

/-- Reads a record. -/
def ofJson? (j : Json) : Option ConsentRecord := do
  let r ← Json.Record.ofJson? fieldNames [] j
  return {
    attempt := ⟨← r.required? "attempt" Json.text?⟩
    adminPackage := ← r.withDefault? "admin_package" Json.text? ""
    userConsented := ← r.required? "user_consented" Json.bool?
    updatedAt := ← r.required? "updated_at" instant? }

/-- The text in which a record is stored. -/
def storedText (record : ConsentRecord) : String :=
  record.toJson.indented

/-- Reads the text of a record. -/
def ofText? (s : String) : Option ConsentRecord := do
  ofJson? (← Json.recordOfText? fieldNames s.toList)

end ConsentRecord

end ProvisionGate
