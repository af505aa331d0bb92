import ProvisionGate.Json.Number

/-!
# JSON values as text

The compact text has no blank characters of its own; the indented text puts every item and member
on a line, two spaces deeper than its container.  Members stand in the order in which the object
lists them.
-/

namespace ProvisionGate.Json

/-- The digit of a number below sixteen, in lower case. -/
def hexDigit (n : Nat) : Char :=
  Nat.digitChar n

/-- A character as it stands between quotes. -/
def escapedChar (c : Char) : List Char :=
  if c = '"' then ['\\', '"']
  else if c = '\\' then ['\\', '\\']
  else if c = '\n' then ['\\', 'n']
  else if c = '\r' then ['\\', 'r']
  else if c = '\t' then ['\\', 't']
  else if c = '\x08' then ['\\', 'b']
  else if c = '\x0c' then ['\\', 'f']
  else if c.toNat < 0x20 then
    ['\\', 'u', '0', '0', hexDigit (c.toNat / 16), hexDigit (c.toNat % 16)]
  else [c]

/-- A text between double quotes. -/
def stringText (s : String) : List Char :=
  '"' :: s.toList.flatMap escapedChar ++ ['"']

/-- The text of a truth value. -/
def boolText (b : Bool) : List Char :=
  if b then ['t', 'r', 'u', 'e'] else ['f', 'a', 'l', 's', 'e']

mutual

/-- The compact text of a value. -/
def compactText : Json → List Char
  | null => ['n', 'u', 'l', 'l']
  | bool value => boolText value
  | number value => value.toText
  | text value => stringText value
  | array [] => ['[', ']']
  | array (item :: rest) => '[' :: compactText item ++ compactItems rest
  | object [] => ['{', '}']
  | object ((key, value) :: rest) =>
    '{' :: stringText key ++ ':' :: compactText value ++ compactMembers rest

/-- The compact text of an array from the end of its first item on. -/
def compactItems : List Json → List Char
  | [] => [']']
  | item :: rest => ',' :: compactText item ++ compactItems rest

/-- The compact text of an object from the end of its first member on. -/
def compactMembers : List (String × Json) → List Char
  | [] => ['}']
  | (key, value) :: rest =>
    ',' :: stringText key ++ ':' :: compactText value ++ compactMembers rest

end

/-- A line feed and the indentation of a depth. -/
def newLine (depth : Nat) : List Char :=
  '\n' :: List.replicate (2 * depth) ' '

mutual

/-- The indented text of a value inside a number of containers. -/
def indentedText (depth : Nat) : Json → List Char
  | array (item :: rest) =>
    '[' :: newLine (depth + 1) ++ indentedText (depth + 1) item ++ indentedItems depth rest
  | object ((key, value) :: rest) =>
    '{' :: newLine (depth + 1) ++ stringText key ++ ':' :: ' ' :: indentedText (depth + 1) value ++
      indentedMembers depth rest
  | other => compactText other

/-- The indented text of an array from the end of its first item on. -/
def indentedItems (depth : Nat) : List Json → List Char
  | [] => newLine depth ++ [']']
  | item :: rest =>
    ',' :: newLine (depth + 1) ++ indentedText (depth + 1) item ++ indentedItems depth rest

/-- The indented text of an object from the end of its first member on. -/
def indentedMembers (depth : Nat) : List (String × Json) → List Char
  | [] => newLine depth ++ ['}']
  | (key, value) :: rest =>
    ',' :: newLine (depth + 1) ++ stringText key ++ ':' :: ' ' :: indentedText (depth + 1) value ++
      indentedMembers depth rest

end

/-- The compact text of a value as a string. -/
def compact (j : Json) : String :=
  String.ofList (compactText j)

/-- The indented text of a value as a string. -/
def indented (j : Json) : String :=
  String.ofList (indentedText 0 j)

end ProvisionGate.Json
