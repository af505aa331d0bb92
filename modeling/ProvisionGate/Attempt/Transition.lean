import ProvisionGate.Attempt.State
import ProvisionGate.Precondition.Evaluation
import ProvisionGate.Remediation.Ticket

/-!
# How an attempt moves

An event takes a state to the next one and orders commands.  An event that a state does not expect
changes nothing and orders nothing.
-/

namespace ProvisionGate

/-- What happens to an attempt. -/
inductive AttemptEvent where
  | requestAccepted
  | requestRejected (rejection : Rejection)
  | preconditionsEvaluated (decision : Decision)
  /-- A ticket was handed to the one who remedies. -/
  | remediationRequested (kind : RemediationKind) (ticket : TicketId)
  | remediationResolved (signal : ResumeSignal)
  | consentRequired
  | consentNotRequired
  | consentConfirmed
  | consentCancelled
  /-- The user asks to go on after cancelling. -/
  | proceedRequested
  | provisioningFinished (result : LaunchResult)
  /-- The checks run again after a failure outside. -/
  | retryRequested
  deriving DecidableEq

/-- What a move of an attempt orders to be done. -/
inductive AttemptCommand where
  | evaluate (start : Precondition)
  | beginRemediation (kind : RemediationKind)
  | consultConsent
  | presentConsent
  | persistConsent
  | launchProvisioning
  | reportAbort (reason : AbortReason)
  deriving DecidableEq

namespace AttemptState

/-- Ends an attempt. -/
def abort (reason : AbortReason) : AttemptState × List AttemptCommand :=
  (aborted reason, [.reportAbort reason])

/-- Runs the checks from one on. -/
def evaluateFrom (start : Precondition) : AttemptState × List AttemptCommand :=
  (checking start, [.evaluate start])

/-- Follows a decision.  The consent step belongs to the network check, whichever check the
evaluation began with. -/
def decided : Decision → AttemptState × List AttemptCommand
  | .proceed => (checkingNetwork, [.consultConsent])
  | .abort reason => abort reason
  | .remediate kind => (checking kind.precondition, [.beginRemediation kind])

/-- Follows the outcome of a remediation. -/
def resumed : ResumeSignal → AttemptState × List AttemptCommand
  | .reevaluate start => evaluateFrom start
  | .abort reason => abort reason

/-- Runs interrupted checks again: the check of the state, or the network check if a ticket was
taken back and resuming failed. -/
def retried (state : AttemptState) : AttemptState × List AttemptCommand :=
  match state.checkedPrecondition? with
  | some start => (state, [.evaluate start])
  | none => if state.pendingTicket?.isSome then evaluateFrom .network else (state, [])

/-- The next state after an event, and the commands. -/
def transition (state : AttemptState) : AttemptEvent → AttemptState × List AttemptCommand
  | .requestAccepted =>
    if state = init then evaluateFrom .notYetProvisioned else (state, [])
  | .requestRejected rejection =>
    if state = init then abort (.invalidRequest rejection) else (state, [])
  | .preconditionsEvaluated decision =>
    if state.checkedPrecondition?.isSome then decided decision else (state, [])
  | .remediationRequested kind ticket =>
    if state.checkedPrecondition? = some kind.precondition then (awaiting kind ticket, [])
    else (state, [])
  | .remediationResolved signal =>
    if state.pendingTicket?.isSome then resumed signal else (state, [])
  | .consentRequired =>
    if state = checkingNetwork then (awaitingConsent, [.presentConsent]) else (state, [])
  | .consentNotRequired =>
    if state = checkingNetwork then (launching, [.launchProvisioning]) else (state, [])
  | .consentConfirmed =>
    if state = awaitingConsent then (launching, [.persistConsent, .launchProvisioning])
    else (state, [])
  | .consentCancelled => (state, [])
  | .proceedRequested =>
    if state = awaitingConsent then (awaitingConsent, [.presentConsent]) else (state, [])
  | .provisioningFinished result =>
    if state = launching then (done result, []) else (state, [])
  | .retryRequested => state.retried

end AttemptState

end ProvisionGate
