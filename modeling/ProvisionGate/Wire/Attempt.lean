import ProvisionGate.Attempt.Transition
import ProvisionGate.Wire.Evaluation
import ProvisionGate.Wire.Params

/-!
# The JSON form of attempts

States, events and commands: those without data are their names.
-/

namespace ProvisionGate

/-- The JSON form of a ticket. -/
def Ticket.toJson (t : Ticket) : Json :=
  .object [
    ("id", .text t.id.text),
    ("kind", t.kind.toJson),
    ("attempt", .text t.attempt.text),
    ("resume_params", t.resumeParams.toJson)]

namespace ResumeSignal

/-- The JSON form of a signal. -/
def toJson : ResumeSignal → Json
  | reevaluate start => .ofVariant "Reevaluate" (.object [("from", start.toJson)])
  | abort reason => .ofVariant "Abort" reason.toJson

/-- Reads a signal. -/
def ofJson? (j : Json) : Option ResumeSignal :=
  match j.variant? with
  | some ("Reevaluate", some data) => do
    let r ← Json.variantFields? ["from"] data
    return reevaluate (← r.required? "from" Precondition.ofJson?)
  | some ("Abort", some data) => (AbortReason.ofJson? data).map abort
  | _ => none

end ResumeSignal

namespace LaunchResult

/-- The JSON form of a result. -/
def toJson : LaunchResult → Json
  | succeeded => .text "Succeeded"
  | failed message => .ofVariant "Failed" (.object [("message", .text message)])

/-- Reads a result. -/
def ofJson? (j : Json) : Option LaunchResult :=
  match j.variant? with
  | some ("Succeeded", none) | some ("Succeeded", some .null) => some succeeded
  | some ("Failed", some data) => do
    let r ← Json.variantFields? ["message"] data
    return failed (← r.required? "message" Json.text?)
  | _ => none

end LaunchResult

namespace TicketId

/-- Reads the identity of a ticket. -/
def ofJson? (j : Json) : Option TicketId :=
  j.text?.map mk

end TicketId

/-- The JSON form of data about a ticket. -/
def TicketId.field (ticket : TicketId) : Json :=
  .object [("ticket", .text ticket.text)]

namespace AttemptState

/-- The JSON form of a state. -/
def toJson : AttemptState → Json
  | init => .text "Init"
  | checkingOwnershipProvisioned => .text "CheckingOwnershipProvisioned"
  | checkingFactoryResetProtection => .text "CheckingFactoryResetProtection"
  | checkingEncryption => .text "CheckingEncryption"
  | awaitingEncryptionRemediation ticket =>
    .ofVariant "AwaitingEncryptionRemediation" ticket.field
  | checkingNetwork => .text "CheckingNetwork"
  | awaitingNetworkRemediation ticket => .ofVariant "AwaitingNetworkRemediation" ticket.field
  | awaitingConsent => .text "AwaitingConsent"
  | launching => .text "Launching"
  | aborted reason => .ofVariant "Aborted" (.object [("reason", reason.toJson)])
  | done result => .ofVariant "Done" (.object [("result", result.toJson)])

/-- The states without data, with their names. -/
def plainNames : List (String × AttemptState) := [
  ("Init", init),
  ("CheckingOwnershipProvisioned", checkingOwnershipProvisioned),
  ("CheckingFactoryResetProtection", checkingFactoryResetProtection),
  ("CheckingEncryption", checkingEncryption),
  ("CheckingNetwork", checkingNetwork),
  ("AwaitingConsent", awaitingConsent),
  ("Launching", launching)]

/-- Reads a state with data. -/
def ofData? (name : String) (data : Json) : Option AttemptState :=
  match name with
  | "AwaitingEncryptionRemediation" => do
    let r ← Json.variantFields? ["ticket"] data
    return awaitingEncryptionRemediation (← r.required? "ticket" TicketId.ofJson?)
  | "AwaitingNetworkRemediation" => do
    let r ← Json.variantFields? ["ticket"] data
    return awaitingNetworkRemediation (← r.required? "ticket" TicketId.ofJson?)
  | "Aborted" => do
    let r ← Json.variantFields? ["reason"] data
    return aborted (← r.required? "reason" AbortReason.ofJson?)
  | "Done" => do
    let r ← Json.variantFields? ["result"] data
    return done (← r.required? "result" LaunchResult.ofJson?)
  | _ => none

/-- Reads a state. -/
def ofJson? (j : Json) : Option AttemptState :=
  (Json.ofNames? plainNames j).or
    (match j.variant? with
      | some (name, some data) => ofData? name data
      | _ => none)

end AttemptState

/-- The JSON form of an attempt's report. -/
def AttemptOutcome.toJson : AttemptOutcome → Json
  | pending state => .ofVariant "Pending" state.toJson
  | completed result => .ofVariant "Completed" result.toJson
  | aborted reason => .ofVariant "Aborted" reason.toJson

namespace AttemptEvent

/-- The events without data, with their names. -/
def plainNames : List (String × AttemptEvent) := [
  ("RequestAccepted", requestAccepted),
  ("ConsentRequired", consentRequired),
  ("ConsentNotRequired", consentNotRequired),
  ("ConsentConfirmed", consentConfirmed),
  ("ConsentCancelled", consentCancelled),
  ("ProceedRequested", proceedRequested),
  ("RetryRequested", retryRequested)]

/-- Reads an event with data. -/
def ofData? (name : String) (data : Json) : Option AttemptEvent :=
  match name with
  | "RequestRejected" => do
    let r ← Json.variantFields? ["reason"] data
    return requestRejected (← r.required? "reason" Rejection.ofJson?)
  | "PreconditionsEvaluated" => do
    let r ← Json.variantFields? ["decision"] data
    return preconditionsEvaluated (← r.required? "decision" Decision.ofJson?)
  | "RemediationRequested" => do
    let r ← Json.variantFields? ["kind", "ticket"] data
    return remediationRequested (← r.required? "kind" RemediationKind.ofJson?)
      (← r.required? "ticket" TicketId.ofJson?)
  | "RemediationResolved" => do
    let r ← Json.variantFields? ["signal"] data
    return remediationResolved (← r.required? "signal" ResumeSignal.ofJson?)
  | "ProvisioningFinished" => do
    let r ← Json.variantFields? ["result"] data
    return provisioningFinished (← r.required? "result" LaunchResult.ofJson?)
  | _ => none

/-- Reads an event. -/
def ofJson? (j : Json) : Option AttemptEvent :=
  (Json.ofNames? plainNames j).or
    (match j.variant? with
      | some (name, some data) => ofData? name data
      | _ => none)

end AttemptEvent

/-- The JSON form of a command. -/
def AttemptCommand.toJson : AttemptCommand → Json
  | evaluate start => .ofVariant "Evaluate" (.object [("from", start.toJson)])
  | beginRemediation kind => .ofVariant "BeginRemediation" (.object [("kind", kind.toJson)])
  | consultConsent => .text "ConsultConsent"
  | presentConsent => .text "PresentConsent"
  | persistConsent => .text "PersistConsent"
  | launchProvisioning => .text "LaunchProvisioning"
  | reportAbort reason => .ofVariant "ReportAbort" (.object [("reason", reason.toJson)])

end ProvisionGate
