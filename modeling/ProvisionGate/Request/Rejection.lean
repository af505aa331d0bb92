import ProvisionGate.Request
import ProvisionGate.Request.Key
import ProvisionGate.Json.Printer
import ProvisionGate.Text.Quoted

/-!
# Why a request is rejected

A fault is the cause; its kind and its message are what an aborted attempt reports.
-/

namespace ProvisionGate

/-- The kinds of faults that can be told apart from outside. -/
inductive RejectionKind where
  | unknownAction
  | malformedPayload
  | missingAdmin
  | callerUnknown
  | permissionDenied
  deriving DecidableEq

/-- The name of a kind. -/
def RejectionKind.name : RejectionKind → String
  | unknownAction => "UnknownAction"
  | malformedPayload => "MalformedPayload"
  | missingAdmin => "MissingAdmin"
  | callerUnknown => "CallerUnknown"
  | permissionDenied => "PermissionDenied"

/-- A request was rejected. -/
structure Rejection where
  kind : RejectionKind
  message : String
  deriving DecidableEq

/-- What is wrong with the value of a field. -/
inductive FieldProblem where
  | notText (found : Json)
  | notTruthText (found : String)
  | notTruth (found : Json)
  | notIntegerNumber (found : Number)
  | notIntegerText (found : String)
  | notInteger (found : Json)
  | notPortNumber (found : Int64)
  | notComponent (found : String)
  | notObject (found : Json)
  | extraNotText (name : String) (found : Json)
  deriving DecidableEq

/-- The problem in words. -/
def FieldProblem.message : FieldProblem → String
  | notText found => "expected a string, found " ++ found.compact
  | notTruthText found => "expected true or false, found " ++ Text.quoted found
  | notTruth found => "expected a boolean, found " ++ found.compact
  | notIntegerNumber found => (Json.number found).compact ++ " is not an integer"
  | notIntegerText found => Text.quoted found ++ " is not an integer"
  | notInteger found => "expected an integer, found " ++ found.compact
  | notPortNumber found => toString found.toInt ++ " is not a valid port"
  | notComponent found => Text.quoted found ++ " is not of the form package/class"
  | notObject found => "expected an object, found " ++ found.compact
  | extraNotText name found =>
    "value of " ++ name ++ " must be a string, found " ++ found.compact

/-- The cause of a rejection. -/
inductive RequestFault where
  | unknownAction (identifier : String)
  /-- A tag was announced, but no records came with it. -/
  | noTagRecords
  /-- No record of the tag is of the provisioning type. -/
  | noProvisioningRecord
  /-- A direct trigger came with tag records. -/
  | tagRecordsForExtras
  | field (key : String) (problem : FieldProblem)
  | missingAdmin
  | callerUnknown
  /-- The sender named an admin other than itself. -/
  | permissionDenied (caller admin : String)
  deriving DecidableEq

namespace RequestFault

/-- The kind of a fault. -/
def kind : RequestFault → RejectionKind
  | unknownAction _ => .unknownAction
  | noTagRecords | noProvisioningRecord | tagRecordsForExtras | field _ _ => .malformedPayload
  | missingAdmin => .missingAdmin
  | callerUnknown => .callerUnknown
  | permissionDenied _ _ => .permissionDenied

/-- The fault in words. -/
def message : RequestFault → String
  | unknownAction identifier => "unknown request action " ++ identifier
  | noTagRecords => "discovery request carries no tag records"
  | noProvisioningRecord => "no tag record of type " ++ provisioningMimeType
  | tagRecordsForExtras => "direct request carries tag records instead of extras"
  | field key problem => key ++ ": " ++ problem.message
  | missingAdmin => "request does not name a device admin package or component"
  | callerUnknown =>
    "calling package is unknown; the request must be sent so that its caller can be identified"
  | permissionDenied caller admin =>
    "permission denied: calling package " ++ caller ++ " tried to set " ++ admin ++
      " as device owner"

/-- The rejection that a fault leads to. -/
def rejection (fault : RequestFault) : Rejection :=
  ⟨fault.kind, fault.message⟩

end RequestFault

end ProvisionGate
