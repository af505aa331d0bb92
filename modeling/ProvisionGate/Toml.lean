/-!
# TOML documents

A document is a table.  While it is read, a table remembers how it came to be, because a header may
define a table only once and a dotted key may enter only tables that dotted keys or longer headers
brought about.  The members of a table stand in the order in which they came, but a header that
defines a table after a longer one brings it to the end.
-/

namespace ProvisionGate.Toml

/-- A value.  Floats, dates and times are kept as they are written. -/
inductive Value where
  | text (value : String)
  | int (value : Int64)
  | bool (value : Bool)
  | float (literal : String)
  | dateTime (literal : String)
  | array (items : List Value)
  | table (members : List (String × Value))

namespace Value

/-- The value under a key of a table. -/
def get? (key : String) : Value → Option Value
  | table members => members.lookup key
  | _ => none

/-- The text of a text. -/
def text? : Value → Option String
  | text value => some value
  | _ => none

/-- The truth value of a truth value. -/
def bool? : Value → Option Bool
  | bool value => some value
  | _ => none

/-- The integer of an integer. -/
def int? : Value → Option Int64
  | int value => some value
  | _ => none

end Value

/-- How a table came to be. -/
inductive Origin where
  /-- By its own header, or as the document. -/
  | header
  /-- By the header of a table inside it. -/
  | implied
  /-- By a dotted key. -/
  | dotted
  deriving DecidableEq

/-- What stands under a key while a document is read. -/
inductive Item where
  | value (v : Value)
  | table (origin : Origin) (members : List (String × Item))
  | tables (elements : List (List (String × Item)))

/-- The members of a table while it is read. -/
abbrev Members := List (String × Item)

/-- A table while it is read. -/
abbrev OpenTable := Origin × Members

mutual

/-- The value of an item. -/
def Item.toValue : Item → Value
  | .value v => v
  | .table _ members => .table (membersToValues members)
  | .tables elements => .array (elementsToValues elements)

/-- The values of the members of a table. -/
def membersToValues : List (String × Item) → List (String × Value)
  | [] => []
  | (key, item) :: rest => (key, item.toValue) :: membersToValues rest

/-- The values of the elements of an array of tables. -/
def elementsToValues : List (List (String × Item)) → List Value
  | [] => []
  | members :: rest => .table (membersToValues members) :: elementsToValues rest

end

namespace Members

/-- The members with an item under a key, in the place of an older one. -/
def put (key : String) (item : Item) : Members → Members
  | [] => [(key, item)]
  | (other, old) :: rest =>
    if other = key then (key, item) :: rest else (other, old) :: put key item rest

/-- The members with an item under a key at their end, and no older one. -/
def putLast (key : String) (item : Item) (members : Members) : Members :=
  members.filter (fun member => member.1 ≠ key) ++ [(key, item)]

/-- Adds a value under a new key. -/
def add? (key : String) (v : Value) (members : Members) : Option Members :=
  match members.lookup key with
  | none => some (put key (.value v) members)
  | some _ => none

end Members

namespace OpenTable

/-- Changes the table that a path leads to.  A missing table on the way is brought about with the
given origin, an array of tables leads to its last element, and a dotted key enters no table that
has its own header. -/
def change? (origin : Origin) (change : OpenTable → Option OpenTable) :
    List String → OpenTable → Option OpenTable
  | [], table => change table
  | name :: path, (own, members) =>
    match members.lookup name with
    | none => do
      let (made, inner) ← change? origin change path (origin, [])
      return (own, Members.put name (.table made inner) members)
    | some (.value _) => none
    | some (.table made inner) => do
      if origin = .dotted ∧ made = .header then none
      else
        let (made, inner) ← change? origin change path (made, inner)
        return (own, Members.put name (.table made inner) members)
    | some (.tables elements) => do
      let last ← elements.getLast?
      let (_, inner) ← change? origin change path (.header, last)
      return (own, Members.put name (.tables (elements.dropLast ++ [inner])) members)

/-- Adds a value under a dotted key, whose last table must be there for dotted keys. -/
def addDotted? (path : List String) (key : String) (v : Value) (table : OpenTable) :
    Option OpenTable :=
  let add (reached : OpenTable) : Option OpenTable := do
    if path ≠ [] ∧ reached.1 ≠ .dotted then none
    else return (reached.1, ← reached.2.add? key v)
  change? .dotted add path table

/-- Defines a table by its header, unless something but a longer header came before it. -/
def defineTable? (key : String) (table : OpenTable) : Option OpenTable :=
  match table.2.lookup key with
  | none => some (table.1, Members.putLast key (.table .header []) table.2)
  | some (.table .implied inner) =>
    some (table.1, Members.putLast key (.table .header inner) table.2)
  | some _ => none

/-- Adds an element to an array of tables, which comes about with its first element. -/
def defineElement? (key : String) (table : OpenTable) : Option OpenTable :=
  match table.2.lookup key with
  | none => some (table.1, Members.put key (.tables [[]]) table.2)
  | some (.tables elements) =>
    some (table.1, Members.put key (.tables (elements ++ [[]])) table.2)
  | some _ => none

end OpenTable

/-- A document that is being read, and the header that is in force. -/
structure OpenDocument where
  root : OpenTable
  current : List String

namespace OpenDocument

/-- The document before its first line. -/
def empty : OpenDocument := ⟨(.header, []), []⟩

/-- Adds a value to the table in force. -/
def addValue? (doc : OpenDocument) (path : List String) (key : String) (v : Value) :
    Option OpenDocument := do
  return { doc with root := ← doc.root.change? .implied (·.addDotted? path key v) doc.current }

/-- Puts a header in force. -/
def addHeader? (doc : OpenDocument) (define? : String → OpenTable → Option OpenTable)
    (path : List String) : Option OpenDocument := do
  let key ← path.getLast?
  return { root := ← doc.root.change? .implied (define? key) path.dropLast, current := path }

/-- The document's value. -/
def toValue (doc : OpenDocument) : Value :=
  .table (membersToValues doc.root.2)

end OpenDocument

end ProvisionGate.Toml
