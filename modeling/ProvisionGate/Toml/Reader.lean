import ProvisionGate.Toml.DateTime
import ProvisionGate.Toml.Text

/-!
# Reading TOML documents

A value is read from the start of a text, inside the containers that are still allowed.  Each loop
over items or members takes a longer text than the one it reads for a bound.
-/

namespace ProvisionGate.Toml

/-- Reads one value from the start of a text. -/
abbrev ValueReader := List Char → Option (Value × List Char)

/-- Reads a value that is no container. -/
def readScalar (s : List Char) : Option (Value × List Char) :=
  match s with
  | '"' :: _ | '\'' :: _ => (text? s).map fun (found, after) => (.text (String.ofList found), after)
  | 't' :: 'r' :: 'u' :: 'e' :: after => some (.bool true, after)
  | 'f' :: 'a' :: 'l' :: 's' :: 'e' :: after => some (.bool false, after)
  | s => number? s

/-- Reads the items of an array from the end of its first item on. -/
def readItems (item : ValueReader) : List Char → List Char → Option (List Value × List Char)
  | [], _ => none
  | _ :: bound, s =>
    match skipTrivia false s with
    | ']' :: after => some ([], after)
    | ',' :: rest =>
      match skipTrivia false rest with
      | ']' :: after => some ([], after)
      | rest => do
        let (value, after) ← item rest
        let (more, after) ← readItems item bound after
        return (value :: more, after)
    | _ => none

/-- Reads an array after its opening bracket. -/
def readArray (item : ValueReader) (s : List Char) : Option (Value × List Char) :=
  match skipTrivia false s with
  | ']' :: after => some (.array [], after)
  | s => do
    let (first, after) ← item s
    let (more, after) ← readItems item s after
    return (.array (first :: more), after)

/-- Reads a key, an equals sign and a value: the key's tables, its last part and the value. -/
def readMember (item : ValueReader) (s : List Char) :
    Option ((List String × String × Value) × List Char) := do
  let (parts, after) ← key? s
  let key ← parts.getLast?
  match after with
  | '=' :: rest =>
    let (value, after) ← item (skipBlanks rest)
    return ((parts.dropLast, key, value), after)
  | _ => none

/-- Reads a member into a table on one line. -/
def readMemberInto (item : ValueReader) (table : OpenTable) (s : List Char) :
    Option (OpenTable × List Char) := do
  let ((path, key, value), after) ← readMember item s
  return (← table.addDotted? path key value, skipBlanks after)

/-- Reads the members of a table on one line from the end of its first member on. -/
def readMembers (item : ValueReader) :
    List Char → OpenTable → List Char → Option (OpenTable × List Char)
  | [], _, _ => none
  | _ :: bound, table, s =>
    match s with
    | '}' :: after => some (table, after)
    | ',' :: rest => do
      let (table, after) ← readMemberInto item table rest
      readMembers item bound table after
    | _ => none

/-- Reads a table on one line after its opening brace. -/
def readInlineTable (item : ValueReader) (s : List Char) : Option (Value × List Char) :=
  match skipBlanks s with
  | '}' :: after => some (.table [], after)
  | s => do
    let (table, after) ← readMemberInto item (.header, []) s
    let (table, after) ← readMembers item s table after
    return (.table (membersToValues table.2), after)

/-- Reads a value that nests at most `room` containers. -/
def readValue : Nat → ValueReader
  | 0, s => readScalar s
  | room + 1, s =>
    match s with
    | '[' :: rest => readArray (readValue room) rest
    | '{' :: rest => readInlineTable (readValue room) rest
    | s => readScalar s

/-- Reads the rest of a header after its opening brackets, up to its closing ones. -/
def readHeader (closing : List Char) (s : List Char) : Option (List String × List Char) := do
  let (path, after) ← key? s
  return (path, ← endOfLine? (← Json.dropExact? closing after))

/-- Reads a line that is neither empty nor a comment. -/
def readLine (doc : OpenDocument) (s : List Char) : Option (OpenDocument × List Char) :=
  match s with
  | '[' :: '[' :: rest => do
    let (path, after) ← readHeader [']', ']'] rest
    return (← doc.addHeader? OpenTable.defineElement? path, after)
  | '[' :: rest => do
    let (path, after) ← readHeader [']'] rest
    return (← doc.addHeader? OpenTable.defineTable? path, after)
  | s => do
    let ((path, key, value), after) ← readMember (readValue (depthLimit - 1)) s
    return (← doc.addValue? path key value, ← endOfLine? after)

/-- Reads lines up to the end of a document. -/
def readLines : Nat → OpenDocument → List Char → Option OpenDocument
  | 0, _, _ => none
  | bound + 1, doc, s =>
    match skipBlanks s with
    | [] => some doc
    | '#' :: rest => do readLines bound doc (← lineEnd? (skipComment ('#' :: rest)))
    | s =>
      match newline? s with
      | some rest => readLines bound doc rest
      | none => do
        let (doc, after) ← readLine doc s
        readLines bound doc after

/-- The text without a byte order mark. -/
def afterMark : List Char → List Char
  | c :: rest => if c.toNat = 0xFEFF then rest else c :: rest
  | [] => []

/-- The value of a document. -/
def ofText? (s : String) : Option Value := do
  let text := afterMark s.toList
  let doc ← readLines (text.length + 1) .empty text
  doc.toValue.withDateTimes?

end ProvisionGate.Toml
