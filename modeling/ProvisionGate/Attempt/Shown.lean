import ProvisionGate.Attempt.State
import ProvisionGate.Text.Constructor

/-!
# States of an attempt in messages

A state is shown in full, as a constructor term.
-/

namespace ProvisionGate

/-- A rejection in full. -/
def Rejection.shown (r : Rejection) : String :=
  Text.namedTerm "InvalidRequest" [("kind", r.kind.name), ("message", Text.quoted r.message)]

/-- A reason in full. -/
def AbortReason.shown (reason : AbortReason) : String :=
  let name := reason.kind.name
  match reason with
  | invalidRequest rejection => Text.wrappedTerm name rejection.shown
  | alreadyProvisioned caller => Text.namedTerm name [("caller", caller.name)]
  | remediationFailed kind => Text.namedTerm name [("kind", kind.name)]
  | factoryResetProtected | userCancelledEncryption | userCancelledNetwork => name

/-- A result in full. -/
def LaunchResult.shown : LaunchResult → String
  | succeeded => "Succeeded"
  | failed message => Text.namedTerm "Failed" [("message", Text.quoted message)]

/-- A ticket's identity in full. -/
def TicketId.shown (id : TicketId) : String :=
  Text.wrappedTerm "TicketId" (Text.quoted id.text)

/-- A state in full. -/
def AttemptState.shown : AttemptState → String
  | init => "Init"
  | checkingOwnershipProvisioned => "CheckingOwnershipProvisioned"
  | checkingFactoryResetProtection => "CheckingFactoryResetProtection"
  | checkingEncryption => "CheckingEncryption"
  | awaitingEncryptionRemediation ticket =>
    Text.namedTerm "AwaitingEncryptionRemediation" [("ticket", ticket.shown)]
  | checkingNetwork => "CheckingNetwork"
  | awaitingNetworkRemediation ticket =>
    Text.namedTerm "AwaitingNetworkRemediation" [("ticket", ticket.shown)]
  | awaitingConsent => "AwaitingConsent"
  | launching => "Launching"
  | aborted reason => Text.namedTerm "Aborted" [("reason", reason.shown)]
  | done result => Text.namedTerm "Done" [("result", result.shown)]

end ProvisionGate
