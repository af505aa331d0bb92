import ProvisionGate.Caller
import ProvisionGate.Remediation
import ProvisionGate.Request.Rejection

/-!
# Why an attempt is aborted
-/

namespace ProvisionGate

/-- The reason for which an attempt ends without a launch. -/
inductive AbortReason where
  | invalidRequest (rejection : Rejection)
  | alreadyProvisioned (caller : Caller)
  | factoryResetProtected
  | userCancelledEncryption
  | userCancelledNetwork
  | remediationFailed (kind : RemediationKind)
  deriving DecidableEq

/-- The kinds of reasons. -/
inductive AbortKind where
  | invalidRequest
  | alreadyProvisioned
  | factoryResetProtected
  | userCancelledEncryption
  | userCancelledNetwork
  | remediationFailed
  deriving DecidableEq

/-- The name of a kind of reasons. -/
def AbortKind.name : AbortKind → String
  | invalidRequest => "InvalidRequest"
  | alreadyProvisioned => "AlreadyProvisioned"
  | factoryResetProtected => "FactoryResetProtected"
  | userCancelledEncryption => "UserCancelledEncryption"
  | userCancelledNetwork => "UserCancelledNetwork"
  | remediationFailed => "RemediationFailed"

namespace AbortReason

/-- The kind of a reason. -/
def kind : AbortReason → AbortKind
  | invalidRequest _ => .invalidRequest
  | alreadyProvisioned _ => .alreadyProvisioned
  | factoryResetProtected => .factoryResetProtected
  | userCancelledEncryption => .userCancelledEncryption
  | userCancelledNetwork => .userCancelledNetwork
  | remediationFailed _ => .remediationFailed

/-- The reason in words. -/
def message : AbortReason → String
  | invalidRequest rejection => "invalid provisioning request: " ++ rejection.message
  | alreadyProvisioned caller => caller.word ++ " already provisioned"
  | factoryResetProtected => "factory reset protection blocks provisioning"
  | userCancelledEncryption => "user cancelled device encryption"
  | userCancelledNetwork => "user cancelled network selection"
  | remediationFailed kind => kind.word ++ " remediation failed"

/-- The user ended the attempt, and nothing went wrong. -/
def isUserCancellation : AbortReason → Bool
  | userCancelledEncryption | userCancelledNetwork => true
  | _ => false

end AbortReason

end ProvisionGate
