import ProvisionGate.Json.Scan

/-!
# Reading JSON texts

A value is read from the start of a text, inside the containers that are still allowed: a text may
nest one hundred and twenty-seven of them.  Each loop over items or members takes a longer text than
the one it reads for a bound: it ends when nothing of this text is left.
-/

namespace ProvisionGate.Json

/-- Reads one value from the start of a text. -/
abbrev ValueReader := List Char → Option (Json × List Char)

/-- Reads a value that is no container. -/
def readScalar (s : List Char) : Option (Json × List Char) :=
  match s with
  | 'n' :: rest => (dropExact? ['u', 'l', 'l'] rest).map fun after => (null, after)
  | 't' :: rest => (dropExact? ['r', 'u', 'e'] rest).map fun after => (bool true, after)
  | 'f' :: rest => (dropExact? ['a', 'l', 's', 'e'] rest).map fun after => (bool false, after)
  | '"' :: rest => (stringBody? rest).map fun (value, after) => (text value, after)
  | s => do
    let (found, after) ← literal? s
    let value ← Number.ofLiteral? found.negative found.whole found.fraction found.exponent
    return (number value, after)

/-- Reads the items of an array from the end of its first item on. -/
def readItems (item : ValueReader) : List Char → List Char → Option (List Json × List Char)
  | [], _ => none
  | _ :: bound, s =>
    match skipSpace s with
    | ']' :: rest => some ([], rest)
    | ',' :: rest => do
      let (value, after) ← item rest
      let (more, after) ← readItems item bound after
      return (value :: more, after)
    | _ => none

/-- Reads an array after its opening bracket. -/
def readArray (item : ValueReader) (s : List Char) : Option (Json × List Char) :=
  match skipSpace s with
  | ']' :: rest => some (array [], rest)
  | s => do
    let (first, after) ← item s
    let (more, after) ← readItems item s after
    return (array (first :: more), after)

/-- Reads a member of an object. -/
def readMember (item : ValueReader) (s : List Char) : Option ((String × Json) × List Char) :=
  match skipSpace s with
  | '"' :: rest => do
    let (key, after) ← stringBody? rest
    match skipSpace after with
    | ':' :: after => do
      let (value, after) ← item after
      return ((key, value), after)
    | _ => none
  | _ => none

/-- Reads the members of an object from the end of its first member on. -/
def readMembers (item : ValueReader) :
    List Char → List Char → Option (List (String × Json) × List Char)
  | [], _ => none
  | _ :: bound, s =>
    match skipSpace s with
    | '}' :: rest => some ([], rest)
    | ',' :: rest => do
      let (member, after) ← readMember item rest
      let (more, after) ← readMembers item bound after
      return (member :: more, after)
    | _ => none

/-- Reads an object after its opening brace. -/
def readObject (item : ValueReader) (s : List Char) : Option (Json × List Char) :=
  match skipSpace s with
  | '}' :: rest => some (object [], rest)
  | s => do
    let (first, after) ← readMember item s
    let (more, after) ← readMembers item s after
    return (object (first :: more), after)

/-- Reads a value that nests at most `room` containers. -/
def readValue : Nat → ValueReader
  | 0, s => readScalar (skipSpace s)
  | room + 1, s =>
    match skipSpace s with
    | '[' :: rest => readArray (readValue room) rest
    | '{' :: rest => readObject (readValue room) rest
    | s => readScalar s

/-- The number of containers that a text may nest. -/
def nestingLimit : Nat := 127

/-- The value of a text that holds one value and blanks around it. -/
def ofText? (s : List Char) : Option Json := do
  let (value, after) ← readValue nestingLimit s
  guard (skipSpace after).isEmpty
  return value

/-- `ofText?` on strings. -/
def ofString? (s : String) : Option Json :=
  ofText? s.toList

end ProvisionGate.Json
