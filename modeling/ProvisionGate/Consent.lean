import ProvisionGate.Caller
import ProvisionGate.Identity
import ProvisionGate.Instant
import ProvisionGate.Params

/-!
# Consent

The user of a device confirms that an admin takes it over.  Nobody is asked whose attempt began at
a tag or is not for the device's owner, and nobody is asked twice in one attempt.  The consent is
recorded with the attempt and the admin it was given for, and counts for no other.
-/

namespace ProvisionGate

/-- What a user is asked to confirm. -/
structure ConsentPrompt where
  attempt : AttemptId
  adminPackage : String
  adminComponent : Option Component
  deriving DecidableEq

/-- The gate before a launch. -/
structure ConsentGate where
  consented : Bool
  deriving DecidableEq

namespace ConsentGate

/-- The gate before any consent. -/
def closed : ConsentGate := ⟨false⟩

/-- The user has to be asked. -/
def isRequired (gate : ConsentGate) (params : Params) (caller : Caller) : Bool :=
  !(gate.consented || params.startedByDiscovery || caller != .primary)

/-- The gate after the user confirmed. -/
def confirm (_ : ConsentGate) : ConsentGate := ⟨true⟩

/-- The gate after the user cancelled, which does not change it. -/
def cancel (gate : ConsentGate) : ConsentGate := gate

end ConsentGate

/-- A recorded answer of a user. -/
structure ConsentRecord where
  attempt : AttemptId
  adminPackage : String
  userConsented : Bool
  updatedAt : Instant
  deriving DecidableEq

/-- The answer in a record if it is for the given attempt and admin, else no consent.  A record
that names no admin is for none. -/
def ConsentRecord.answerFor (record : ConsentRecord) (attempt : AttemptId) (admin : String) :
    Bool :=
  if record.attempt = attempt ∧ record.adminPackage ≠ "" ∧ record.adminPackage = admin then
    record.userConsented
  else false

end ProvisionGate
