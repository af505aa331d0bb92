import ProvisionGate.Json.Basic
import ProvisionGate.Text.Integer

/-!
# Records and variants in JSON

A record is an object with a member for each of its fields, or the array of its fields in order.
Members that are no fields do not matter, and no field may stand twice.  A variant without data is
its name; one with data is an object whose only member is the data under the name.
-/

namespace ProvisionGate.Json

/-- The fields of a record that are present. -/
structure Record where
  fields : List (String × Json)

namespace Record

/-- Reads a record with the given field names, of which an array may leave out a tail of those in
`optional`. -/
def ofJson? (names optional : List String) : Json → Option Record
  | object members =>
    let known := members.filter fun member => names.contains member.1
    if (known.map Prod.fst).Nodup then some ⟨known⟩ else none
  | array items =>
    if items.length ≤ names.length ∧ ∀ name ∈ names.drop items.length, name ∈ optional then
      some ⟨names.zip items⟩
    else none
  | _ => none

variable {α : Type}

/-- Reads a field that has to be there. -/
def required? (r : Record) (name : String) (read? : Json → Option α) : Option α :=
  (r.fields.lookup name).bind read?

/-- Reads a field that may be missing, and takes a default then. -/
def withDefault? (r : Record) (name : String) (read? : Json → Option α) (default : α) : Option α :=
  match r.fields.lookup name with
  | none => some default
  | some value => read? value

end Record

variable {α : Type}

/-- Reads a value that may be absent: missing or `null`. -/
def optional? (read? : Json → Option α) : Json → Option (Option α)
  | null => some none
  | value => (read? value).map some

/-- Reads an optional field. -/
def Record.optional? (r : Record) (name : String) (read? : Json → Option α) :
    Option (Option α) :=
  r.withDefault? name (Json.optional? read?) none

/-- Reads a text. -/
def text? : Json → Option String
  | text value => some value
  | _ => none

/-- Reads a truth value. -/
def bool? : Json → Option Bool
  | bool value => some value
  | _ => none

/-- Reads an integer. -/
def int? : Json → Option Int
  | number (.int value) => some value
  | _ => none

/-- Reads an integer of sixty-four bits with a sign. -/
def int64? (j : Json) : Option Int64 :=
  (int? j).bind fun v => if Text.FitsInt64 v then some (Int64.ofInt v) else none

/-- Reads an integer of sixty-four bits without a sign. -/
def uint64? (j : Json) : Option UInt64 :=
  (int? j).bind fun v => if 0 ≤ v ∧ v < UInt64.size then some (UInt64.ofNat v.toNat) else none

/-- Reads an integer of sixteen bits without a sign. -/
def uint16? (j : Json) : Option UInt16 :=
  (int? j).bind fun v => if 0 ≤ v ∧ v < UInt16.size then some (UInt16.ofNat v.toNat) else none

/-- Reads the items of an array. -/
def list? (read? : Json → Option α) : Json → Option (List α)
  | array items => items.mapM read?
  | _ => none

/-- Reads a member of an object that serves as a map. -/
def memberPair? (read? : Json → Option α) (member : String × Json) : Option (String × α) :=
  (read? member.2).map fun value => (member.1, value)

/-- Reads the members of an object as a map, in which the last member with a key wins. -/
def map? (read? : Json → Option α) : Json → Option (TextMap α)
  | object members => (members.mapM (memberPair? read?)).map TextMap.ofPairs
  | _ => none

/-- The name of a variant and its data, if it has any. -/
def variant? : Json → Option (String × Option Json)
  | text name => some (name, none)
  | object [(name, data)] => some (name, some data)
  | _ => none

/-- A variant without data. -/
def plainVariant? (j : Json) : Option String :=
  match variant? j with
  | some (name, none) => some name
  | some (name, some null) => some name
  | _ => none

/-- A variant without data out of a list of values and their names. -/
def ofNames? (names : List (String × α)) (j : Json) : Option α := do
  names.lookup (← plainVariant? j)

/-- The data of a variant with named fields. -/
def variantFields? (names : List String) : Json → Option Record
  | object members => Record.ofJson? names [] (object members)
  | _ => none

/-- A variant with data. -/
def ofVariant (name : String) (data : Json) : Json :=
  object [(name, data)]

end ProvisionGate.Json
