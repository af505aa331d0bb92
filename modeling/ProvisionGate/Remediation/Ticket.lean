import ProvisionGate.Abort
import ProvisionGate.Request.Extras

/-!
# Remediation tickets

A ticket tells the one who remedies what is wanted and how the attempt is taken up again.  What a
remediation's outcome means for the attempt depends on the kind alone; a reported success is never
trusted, and the network is checked again.
-/

namespace ProvisionGate

/-- A remediation that was asked for. -/
structure Ticket where
  id : TicketId
  kind : RemediationKind
  attempt : AttemptId
  resumeParams : Params
  deriving DecidableEq

/-- The request that takes the ticket's attempt up again. -/
def Ticket.resumeRequest (t : Ticket) : Request :=
  t.resumeParams.resumeRequest t.attempt

/-- How an attempt goes on after a remediation. -/
inductive ResumeSignal where
  | reevaluate (start : Precondition)
  | abort (reason : AbortReason)
  deriving DecidableEq

/-- How an attempt goes on after a remediation of a kind.  Only a cancellation ends it if the
device was to be encrypted; of a network, a failure does as well. -/
def RemediationKind.resumeSignal : RemediationKind → RemediationOutcome → ResumeSignal
  | encryption, .cancelled => .abort .userCancelledEncryption
  | network, .cancelled => .abort .userCancelledNetwork
  | network, .failed => .abort (.remediationFailed network)
  | encryption, .success | encryption, .failed | network, .success => .reevaluate .network

end ProvisionGate
