import ProvisionGate.Json.Reader

/-!
# Skipping values that nobody reads

A record that is read from a text passes over the members it does not know.  Only their form is
looked at: such a value may nest deeper than one that is read, its numbers may be too large, and
the units of its escapes need not pair up.  Every function that skips takes a longer text than the
one it reads for a bound.
-/

namespace ProvisionGate.Json

mutual

/-- The text after a value at its start. -/
def skipValue : List Char → List Char → Option (List Char)
  | [], _ => none
  | _ :: bound, s =>
    match skipSpace s with
    | '[' :: rest =>
      match skipSpace rest with
      | ']' :: after => some after
      | rest => (skipValue bound rest).bind (skipItems bound)
    | '{' :: rest =>
      match skipSpace rest with
      | '}' :: after => some after
      | rest => (skipMember bound rest).bind (skipMembers bound)
    | '"' :: rest => (pieces rest).map Prod.snd
    | 'n' :: rest => dropExact? ['u', 'l', 'l'] rest
    | 't' :: rest => dropExact? ['r', 'u', 'e'] rest
    | 'f' :: rest => dropExact? ['a', 'l', 's', 'e'] rest
    | s => (literal? s).map Prod.snd

/-- The text after an array, from the end of its first item on. -/
def skipItems : List Char → List Char → Option (List Char)
  | [], _ => none
  | _ :: bound, s =>
    match skipSpace s with
    | ']' :: after => some after
    | ',' :: rest => (skipValue bound rest).bind (skipItems bound)
    | _ => none

/-- The text after a member. -/
def skipMember : List Char → List Char → Option (List Char)
  | [], _ => none
  | _ :: bound, s =>
    match skipSpace s with
    | '"' :: rest =>
      match (pieces rest).map fun found => skipSpace found.2 with
      | some (':' :: after) => skipValue bound after
      | _ => none
    | _ => none

/-- The text after an object, from the end of its first member on. -/
def skipMembers : List Char → List Char → Option (List Char)
  | [], _ => none
  | _ :: bound, s =>
    match skipSpace s with
    | '}' :: after => some after
    | ',' :: rest => (skipMember bound rest).bind (skipMembers bound)
    | _ => none

end

/-- Reads a member whose value only counts under one of the given names; the value of any other
member is `null`. -/
def readKnownMember (names : List String) (s : List Char) :
    Option ((String × Json) × List Char) :=
  match skipSpace s with
  | '"' :: rest => do
    let (key, after) ← stringBody? rest
    match skipSpace after with
    | ':' :: after =>
      if key ∈ names then do
        let (value, after) ← readValue (nestingLimit - 1) after
        return ((key, value), after)
      else (skipValue s after).map fun after => ((key, null), after)
    | _ => none
  | _ => none

/-- Reads the members of a record from the end of its first member on. -/
def readKnownMembers (names : List String) :
    List Char → List Char → Option (List (String × Json) × List Char)
  | [], _ => none
  | _ :: bound, s =>
    match skipSpace s with
    | '}' :: rest => some ([], rest)
    | ',' :: rest => do
      let (member, after) ← readKnownMember names rest
      let (more, after) ← readKnownMembers names bound after
      return (member :: more, after)
    | _ => none

/-- Reads a record with the given field names at the start of a text. -/
def readRecord (names : List String) (s : List Char) : Option (Json × List Char) :=
  match skipSpace s with
  | '{' :: rest =>
    match skipSpace rest with
    | '}' :: after => some (object [], after)
    | rest => do
      let (first, after) ← readKnownMember names rest
      let (more, after) ← readKnownMembers names s after
      return (object (first :: more), after)
  | s => readValue nestingLimit s

/-- The record in a text that holds one value and blanks around it. -/
def recordOfText? (names : List String) (s : List Char) : Option Json := do
  let (value, after) ← readRecord names s
  guard (skipSpace after).isEmpty
  return value

end ProvisionGate.Json
