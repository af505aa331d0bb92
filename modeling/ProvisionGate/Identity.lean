/-!
# Identities

Attempts and remediation tickets are known by texts.  A fresh identity comes from the surroundings
of an attempt; any other text is an identity as well.
-/

namespace ProvisionGate

/-- The identity of a provisioning attempt. -/
structure AttemptId where
  text : String
  deriving DecidableEq

/-- The identity of a remediation ticket. -/
structure TicketId where
  text : String
  deriving DecidableEq

end ProvisionGate
