import ProvisionGate.Json.Record
import ProvisionGate.Json.Skip
import ProvisionGate.Request

/-!
# The JSON form of requests

A payload names its form in a member `type` beside its data, or as the first item of an array.  The
values of extras keep their own form, with the objects in them read as maps.
-/

namespace ProvisionGate

namespace TagRecord

/-- The JSON form of a tag record. -/
def toJson (record : TagRecord) : Json :=
  .object [("mime_type", .text record.mimeType), ("payload", .text record.body)]

/-- Reads a tag record. -/
def ofJson? (j : Json) : Option TagRecord := do
  let r ← Json.Record.ofJson? ["mime_type", "payload"] [] j
  return {
    mimeType := ← r.required? "mime_type" Json.text?
    body := ← r.required? "payload" Json.text? }

end TagRecord

namespace Payload

/-- The JSON form of a payload. -/
def toJson : Payload → Json
  | discovery records =>
    .object [("type", .text "discovery"), ("records", .array (records.map TagRecord.toJson))]
  | extras found => .object [("type", .text "extras"), ("extras", .ofMap found)]

/-- The form that a payload names, and the data beside the name. -/
def tagged? : Json → Option (String × Json)
  | .object members =>
    match members.filter fun member => member.1 == "type" with
    | [(_, .text form)] => some (form, .object (members.filter fun member => member.1 != "type"))
    | _ => none
  | .array (.text form :: rest) => some (form, .array rest)
  | _ => none

/-- Reads a payload. -/
def ofJson? (j : Json) : Option Payload := do
  let (form, data) ← tagged? j
  if form = "discovery" then
    let r ← Json.Record.ofJson? ["records"] [] data
    return discovery (← r.required? "records" (Json.list? TagRecord.ofJson?))
  else if form = "extras" then
    let r ← Json.Record.ofJson? ["extras"] [] data
    return extras (← r.required? "extras" (Json.map? fun value => some value.sorted))
  else none

end Payload

namespace Request

/-- The JSON form of a request. -/
def toJson (r : Request) : Json :=
  .object [
    ("action", .text r.action.identifier),
    ("payload", r.payload.toJson),
    ("calling_principal", .ofOption .text r.callingPrincipal),
    ("resumed_attempt", .ofOption (fun attempt => .text attempt.text) r.resumedAttempt)]

/-- The names of the fields of a request. -/
def fieldNames : List String :=
  ["action", "payload", "calling_principal", "resumed_attempt"]

/-- Reads a request. -/
def ofJson? (j : Json) : Option Request := do
  let r ← Json.Record.ofJson? fieldNames ["calling_principal", "resumed_attempt"] j
  return {
    action := Action.ofIdentifier (← r.required? "action" Json.text?)
    payload := ← r.required? "payload" Payload.ofJson?
    callingPrincipal := ← r.optional? "calling_principal" Json.text?
    resumedAttempt := (← r.optional? "resumed_attempt" Json.text?).map AttemptId.mk }

/-- Reads the text of a request. -/
def ofText? (s : String) : Option Request := do
  ofJson? (← Json.recordOfText? fieldNames s.toList)

end Request

end ProvisionGate
