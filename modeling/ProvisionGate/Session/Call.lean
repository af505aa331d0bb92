import ProvisionGate.Attempt.State
import ProvisionGate.Consent
import ProvisionGate.Dialogue
import ProvisionGate.Precondition.Facts
import ProvisionGate.Remediation.Ticket

/-!
# The surroundings of a session

Everything that a session asks of or tells to the world around it.  A call that can fail is answered
by the text of its failure; those that report events cannot fail, and neither can the sources of
identities and of the time.
-/

namespace ProvisionGate

/-- A call of a session. -/
inductive SessionCall where
  | callerClass
  | device (fact : Fact)
  | requestRemediation (ticket : Ticket)
  | loadConsent (attempt : AttemptId) (admin : String)
  | saveConsent (record : ConsentRecord)
  | clearConsent
  | presentConsent (prompt : ConsentPrompt)
  | launch (params : Params)
  | reportState (attempt : AttemptId) (state : AttemptState)
  | reportAbort (attempt : AttemptId) (reason : AbortReason)
  | freshAttempt
  | freshTicket
  | currentTime
  deriving DecidableEq

/-- The answers to a call. -/
abbrev SessionCall.Answer : SessionCall → Type
  | callerClass => Except String Caller
  | device fact => Except String fact.Value
  | requestRemediation _ => Except String Unit
  | loadConsent _ _ => Except String Bool
  | saveConsent _ => Except String Unit
  | clearConsent => Except String Unit
  | presentConsent _ => Except String Unit
  | launch _ => Except String LaunchResult
  | reportState _ _ => Unit
  | reportAbort _ _ => Unit
  | freshAttempt => AttemptId
  | freshTicket => TicketId
  | currentTime => Instant

/-- A program over the surroundings of a session. -/
abbrev SessionDialogue (α : Type) :=
  Dialogue SessionCall.Answer α

/-- Reads a fact about the device, which can fail. -/
def askDevice (fact : Fact) : ExceptT String (Dialogue SessionCall.Answer) fact.Value :=
  ExceptT.mk (Dialogue.call (SessionCall.device fact))

end ProvisionGate
