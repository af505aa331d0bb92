import ProvisionGate.Precondition

/-!
# Remediation

Two checks can be remedied by somebody outside: a device can be encrypted, and a network chosen.
-/

namespace ProvisionGate

/-- What is remedied. -/
inductive RemediationKind where
  | encryption
  | network
  deriving DecidableEq

namespace RemediationKind

/-- The name of a kind. -/
def name : RemediationKind → String
  | encryption => "Encryption"
  | network => "Network"

/-- A kind as a word of a message. -/
def word : RemediationKind → String
  | encryption => "encryption"
  | network => "network"

/-- The check that a remediation is for. -/
def precondition : RemediationKind → Precondition
  | encryption => .encryption
  | network => .network

end RemediationKind

/-- How a remediation ended. -/
inductive RemediationOutcome where
  | success
  | cancelled
  | failed
  deriving DecidableEq

namespace RemediationOutcome

/-- The name of an outcome. -/
def name : RemediationOutcome → String
  | success => "success"
  | cancelled => "cancelled"
  | failed => "failed"

/-- The outcome with a name. -/
def ofName? (name : String) : Option RemediationOutcome :=
  [success, cancelled, failed].find? fun outcome => outcome.name == name

end RemediationOutcome

end ProvisionGate
