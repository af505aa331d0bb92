import ProvisionGate.Json.Record
import ProvisionGate.Precondition.Evaluation

/-!
# The JSON form of preconditions and their evaluation

Values without data are their names.
-/

namespace ProvisionGate

namespace Caller

/-- The JSON form of a caller. -/
def toJson (c : Caller) : Json :=
  .text c.name

/-- Reads a caller. -/
def ofJson? (j : Json) : Option Caller :=
  Json.ofNames? ([primary, secondary].map fun c => (c.name, c)) j

end Caller

namespace Precondition

/-- The JSON form of a check. -/
def toJson (p : Precondition) : Json :=
  .text p.name

/-- Reads a check. -/
def ofJson? (j : Json) : Option Precondition :=
  Json.ofNames? (order.map fun p => (p.name, p)) j

end Precondition

namespace Facts

/-- The JSON form of facts. -/
def toJson (facts : Facts) : Json :=
  .object [
    (Fact.deviceProvisioned.name, .bool facts.deviceProvisioned),
    (Fact.userSetupComplete.name, .bool facts.userSetupComplete),
    (Fact.frpBlockSize.name, .ofOption (fun size => .ofInt size.toNat) facts.frpBlockSize),
    (Fact.deviceEncrypted.name, .bool facts.deviceEncrypted),
    (Fact.encryptionExempt.name, .bool facts.encryptionExempt),
    (Fact.networkConnected.name, .bool facts.networkConnected)]

/-- The names of the fields of facts. -/
def fieldNames : List String :=
  [Fact.deviceProvisioned, .userSetupComplete, .frpBlockSize, .deviceEncrypted,
    .encryptionExempt, .networkConnected].map Fact.name

/-- Reads facts. -/
def ofJson? (j : Json) : Option Facts := do
  let r ← Json.Record.ofJson? fieldNames [] j
  return {
    deviceProvisioned := ← r.required? Fact.deviceProvisioned.name Json.bool?
    userSetupComplete := ← r.required? Fact.userSetupComplete.name Json.bool?
    frpBlockSize := ← r.optional? Fact.frpBlockSize.name Json.uint64?
    deviceEncrypted := ← r.required? Fact.deviceEncrypted.name Json.bool?
    encryptionExempt := ← r.required? Fact.encryptionExempt.name Json.bool?
    networkConnected := ← r.required? Fact.networkConnected.name Json.bool? }

end Facts

namespace RemediationKind

/-- The JSON form of a kind. -/
def toJson (kind : RemediationKind) : Json :=
  .text kind.name

/-- Reads a kind. -/
def ofJson? (j : Json) : Option RemediationKind :=
  Json.ofNames? ([encryption, network].map fun kind => (kind.name, kind)) j

end RemediationKind

namespace RemediationOutcome

/-- The JSON form of an outcome. -/
def toJson (outcome : RemediationOutcome) : Json :=
  .text outcome.name

/-- Reads an outcome. -/
def ofJson? (j : Json) : Option RemediationOutcome := do
  ofName? (← Json.plainVariant? j)

end RemediationOutcome

namespace RejectionKind

/-- All kinds. -/
def all : List RejectionKind :=
  [unknownAction, malformedPayload, missingAdmin, callerUnknown, permissionDenied]

/-- Reads a kind. -/
def ofJson? (j : Json) : Option RejectionKind :=
  Json.ofNames? (all.map fun kind => (kind.name, kind)) j

end RejectionKind

namespace Rejection

/-- The JSON form of a rejection. -/
def toJson (r : Rejection) : Json :=
  .object [("kind", .text r.kind.name), ("message", .text r.message)]

/-- Reads a rejection. -/
def ofJson? (j : Json) : Option Rejection := do
  let r ← Json.Record.ofJson? ["kind", "message"] [] j
  return {
    kind := ← r.required? "kind" RejectionKind.ofJson?
    message := ← r.required? "message" Json.text? }

end Rejection

namespace AbortReason

/-- The JSON form of a reason. -/
def toJson (reason : AbortReason) : Json :=
  match reason with
  | invalidRequest rejection => .ofVariant reason.kind.name rejection.toJson
  | alreadyProvisioned caller =>
    .ofVariant reason.kind.name (.object [("caller", caller.toJson)])
  | remediationFailed kind => .ofVariant reason.kind.name (.object [("kind", kind.toJson)])
  | factoryResetProtected | userCancelledEncryption | userCancelledNetwork =>
    .text reason.kind.name

/-- The reasons without data. -/
def plain : List AbortReason :=
  [factoryResetProtected, userCancelledEncryption, userCancelledNetwork]

/-- Reads a reason with data. -/
def ofData? (name : String) (data : Json) : Option AbortReason :=
  if name = AbortKind.invalidRequest.name then
    (Rejection.ofJson? data).map invalidRequest
  else if name = AbortKind.alreadyProvisioned.name then do
    let r ← Json.variantFields? ["caller"] data
    return alreadyProvisioned (← r.required? "caller" Caller.ofJson?)
  else if name = AbortKind.remediationFailed.name then do
    let r ← Json.variantFields? ["kind"] data
    return remediationFailed (← r.required? "kind" RemediationKind.ofJson?)
  else none

/-- Reads a reason. -/
def ofJson? (j : Json) : Option AbortReason :=
  (Json.ofNames? (plain.map fun reason => (reason.kind.name, reason)) j).or
    (match j.variant? with
      | some (name, some data) => ofData? name data
      | _ => none)

end AbortReason

namespace Decision

/-- The JSON form of a decision. -/
def toJson : Decision → Json
  | proceed => .text "Proceed"
  | abort reason => .ofVariant "Abort" reason.toJson
  | remediate kind => .ofVariant "Remediate" kind.toJson

/-- Reads a decision. -/
def ofJson? (j : Json) : Option Decision :=
  match j.variant? with
  | some ("Proceed", none) | some ("Proceed", some .null) => some proceed
  | some ("Abort", some data) => (AbortReason.ofJson? data).map abort
  | some ("Remediate", some data) => (RemediationKind.ofJson? data).map remediate
  | _ => none

end Decision

/-- The JSON form of a verdict. -/
def Verdict.toJson : Verdict → Json
  | passed => .text "Passed"
  | skipped => .text "Skipped"
  | failed => .text "Failed"

/-- The JSON form of a check that ran. -/
def CheckRecord.toJson (record : CheckRecord) : Json :=
  .object [
    ("precondition", record.precondition.toJson),
    ("verdict", record.verdict.toJson)]

end ProvisionGate
