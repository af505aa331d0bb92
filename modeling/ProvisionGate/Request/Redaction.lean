import ProvisionGate.Request.Properties
import ProvisionGate.Request

/-!
# Requests safe to show

The values of secret keys are masked, in extras and in the body of every tag record.
-/

namespace ProvisionGate

/-- The extras with the value of a key masked if it has one. -/
def maskEntry (extras : TextMap Json) (key : String) : TextMap Json :=
  if extras.contains key then extras.insert key (.text Properties.mask) else extras

/-- The record with its secret properties masked. -/
def TagRecord.redacted (record : TagRecord) : TagRecord :=
  { record with body := Properties.redact record.body }

/-- The payload with its secrets masked. -/
def Payload.redacted : Payload → Payload
  | .discovery records => .discovery (records.map TagRecord.redacted)
  | .extras found => .extras (Key.secret.foldl maskEntry found)

/-- The request with its secrets masked. -/
def Request.redacted (r : Request) : Request :=
  { r with payload := r.payload.redacted }

end ProvisionGate
