import ProvisionGate.Abort

/-!
# States of an attempt
-/

namespace ProvisionGate

/-- What a launch reports at its end.  It is passed on as it is. -/
inductive LaunchResult where
  | succeeded
  | failed (message : String)
  deriving DecidableEq

/-- Where an attempt stands. -/
inductive AttemptState where
  /-- No request was read yet. -/
  | init
  | checkingOwnershipProvisioned
  | checkingFactoryResetProtection
  | checkingEncryption
  /-- Waits for an encryption, which may outlive a restart. -/
  | awaitingEncryptionRemediation (ticket : TicketId)
  | checkingNetwork
  /-- Waits for a network to be chosen. -/
  | awaitingNetworkRemediation (ticket : TicketId)
  /-- Waits for the user to confirm. -/
  | awaitingConsent
  | launching
  | aborted (reason : AbortReason)
  | done (result : LaunchResult)
  deriving DecidableEq

namespace AttemptState

/-- The state in which a check runs. -/
def checking : Precondition → AttemptState
  | .notYetProvisioned => checkingOwnershipProvisioned
  | .factoryResetProtection => checkingFactoryResetProtection
  | .encryption => checkingEncryption
  | .network => checkingNetwork

/-- The state that waits for a remediation. -/
def awaiting : RemediationKind → TicketId → AttemptState
  | .encryption, ticket => awaitingEncryptionRemediation ticket
  | .network, ticket => awaitingNetworkRemediation ticket

/-- The check that runs in a state. -/
def checkedPrecondition? : AttemptState → Option Precondition
  | checkingOwnershipProvisioned => some .notYetProvisioned
  | checkingFactoryResetProtection => some .factoryResetProtection
  | checkingEncryption => some .encryption
  | checkingNetwork => some .network
  | _ => none

/-- The ticket that a state waits for. -/
def pendingTicket? : AttemptState → Option TicketId
  | awaitingEncryptionRemediation ticket | awaitingNetworkRemediation ticket => some ticket
  | _ => none

/-- The attempt waits for somebody outside. -/
def isSuspended : AttemptState → Bool
  | awaitingEncryptionRemediation _ | awaitingNetworkRemediation _ | awaitingConsent => true
  | _ => false

/-- The attempt is at its end. -/
def isTerminal : AttemptState → Bool
  | aborted _ | done _ => true
  | _ => false

@[simp] theorem checkedPrecondition?_checking (p : Precondition) :
    (checking p).checkedPrecondition? = some p := by
  cases p <;> rfl

@[simp] theorem pendingTicket?_awaiting (kind : RemediationKind) (ticket : TicketId) :
    (awaiting kind ticket).pendingTicket? = some ticket := by
  cases kind <;> rfl

end AttemptState

/-- What an attempt reports to whoever drives it. -/
inductive AttemptOutcome where
  | pending (state : AttemptState)
  | completed (result : LaunchResult)
  | aborted (reason : AbortReason)
  deriving DecidableEq

/-- The report of a state. -/
def AttemptState.outcome : AttemptState → AttemptOutcome
  | .aborted reason => .aborted reason
  | .done result => .completed result
  | state => .pending state

end ProvisionGate
