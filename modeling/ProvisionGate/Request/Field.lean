import ProvisionGate.Request.Rejection
import ProvisionGate.Component
import ProvisionGate.Text.Blank
import ProvisionGate.Text.Integer

/-!
# Reading the fields of a request

Fields come from tag properties or from extras.  A strict reader rejects the request at a malformed
value; a permissive one takes the field's default.  A missing value, and `null`, is the default for
both.
-/

namespace ProvisionGate

/-- What happens at a malformed value. -/
inductive Strictness where
  | strict
  | permissive
  deriving DecidableEq

/-- Where fields are read from. -/
inductive FieldSource where
  | properties (found : TextMap String)
  | extras (found : TextMap Json)

namespace FieldSource

/-- The value under a key; a property is a text. -/
def get? : FieldSource → String → Option Json
  | properties found, key => (found.get? key).map Json.text
  | extras found, key => found.get? key

/-- What a malformed value of a field gives. -/
def malformed {α : Type} (strictness : Strictness) (key : String) (problem : FieldProblem)
    (default : α) : Except RequestFault α :=
  match strictness with
  | .strict => .error (.field key problem)
  | .permissive => .ok default

variable (source : FieldSource) (strictness : Strictness) (key : String)

/-- Reads a text; an empty one is absent. -/
def text : Except RequestFault (Option String) :=
  match source.get? key with
  | none | some .null => .ok none
  | some (.text value) => .ok (if value.isEmpty then none else some value)
  | some found => malformed strictness key (.notText found) none

/-- Reads a truth value, also from a text. -/
def flag : Except RequestFault Bool :=
  match source.get? key with
  | none | some .null => .ok false
  | some (.bool value) => .ok value
  | some (.text value) =>
    let word := Text.trimmed value
    if word = "true" then .ok true
    else if word = "false" then .ok false
    else malformed strictness key (.notTruthText word) false
  | some found => malformed strictness key (.notTruth found) false

/-- Reads an integer of sixty-four bits, also from a text. -/
def integer : Except RequestFault (Option Int64) :=
  match source.get? key with
  | none | some .null => .ok none
  | some (.number (.int value)) =>
    if Text.FitsInt64 value then .ok (some (Int64.ofInt value))
    else malformed strictness key (.notIntegerNumber (.int value)) none
  | some (.number found) => malformed strictness key (.notIntegerNumber found) none
  | some (.text value) =>
    match Text.int64? (Text.trim value.toList) with
    | some found => .ok (some found)
    | none => malformed strictness key (.notIntegerText value) none
  | some found => malformed strictness key (.notInteger found) none

/-- Reads the number of a port: an integer from 1 to 65535. -/
def portNumber : Except RequestFault (Option UInt16) := do
  match ← source.integer strictness key with
  | none => return none
  | some value =>
    if 0 < value.toInt ∧ value.toInt < UInt16.size then
      return some (UInt16.ofNat value.toInt.toNat)
    else malformed strictness key (.notPortNumber value) none

/-- Reads a component in flat form. -/
def component : Except RequestFault (Option Component) := do
  match ← source.text strictness key with
  | none => return none
  | some flat =>
    match Component.unflatten? flat with
    | some found => return some found
    | none => malformed strictness key (.notComponent flat) none

end FieldSource

/-- The name of the admin extra that a property's key stands for. -/
def adminExtraName? (key : String) : Option String := do
  let name ← Key.adminExtraBeginning.toList.isPrefixOf? key.toList
  guard !name.isEmpty
  return String.ofList name

/-- The admin extra in a property. -/
def adminExtra? (property : String × String) : Option (String × String) :=
  (adminExtraName? property.1).map fun name => (name, property.2)

/-- Reads the value of an admin extra in an object: a text, or the text of any other value if the
reader is permissive. -/
def adminExtraValue (strictness : Strictness) (member : String × Json) :
    Except RequestFault (String × String) :=
  match member.2, strictness with
  | .text value, _ => .ok (member.1, value)
  | found, .permissive => .ok (member.1, found.compact)
  | found, .strict => .error (.field Key.adminExtras (.extraNotText member.1 found))

/-- Reads the admin extras. -/
def FieldSource.adminExtras (source : FieldSource) (strictness : Strictness) :
    Except RequestFault (TextMap String) :=
  match source with
  | .properties found => .ok (TextMap.ofPairs (found.entries.filterMap adminExtra?))
  | .extras found =>
    match found.get? Key.adminExtras with
    | none | some .null => .ok TextMap.empty
    | some (.object members) => do
      return TextMap.ofPairs (← members.mapM (adminExtraValue strictness))
    | some other => malformed strictness Key.adminExtras (.notObject other) TextMap.empty

end ProvisionGate
