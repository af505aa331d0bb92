/-!
# Paths

A path is a text of names with slashes between them.  A leading slash makes it start at the root,
and a trailing one asks for a directory.  Repeated slashes count as one, but a path keeps them,
because they add to its length.
-/

namespace ProvisionGate

/-- The parts of a text between its slashes. -/
def splitSlash : List Char → List (List Char)
  | [] => [[]]
  | c :: rest =>
    if c = '/' then [] :: splitSlash rest
    else
      match splitSlash rest with
      | [] => [[c]]
      | part :: more => (c :: part) :: more

/-- A path, taken apart at its slashes. -/
structure Path where
  isAbsolute : Bool
  /-- What stands between the slashes, after a leading one. -/
  parts : List String
  deriving DecidableEq

namespace Path

/-- Takes a path apart. -/
def ofText (s : String) : Path :=
  match s.toList with
  | '/' :: rest => ⟨true, (splitSlash rest).map String.ofList⟩
  | s => ⟨false, (splitSlash s).map String.ofList⟩

/-- The text of a path. -/
def text (p : Path) : String :=
  (if p.isAbsolute then "/" else "") ++ "/".intercalate p.parts

/-- The names on the way, from the first one on. -/
def names (p : Path) : List String :=
  p.parts.filter fun part => !part.isEmpty

/-- The path ends with a slash. -/
def asksDirectory (p : Path) : Bool :=
  p.parts.getLast? == some ""

/-- The path names nothing. -/
def isEmpty (p : Path) : Bool :=
  !p.isAbsolute && p.names.isEmpty

/-- The path of a name in a directory; an absolute name stays as it is. -/
def join (directory name : String) : String :=
  if name.toList.head? = some '/' ∨ directory = "" then name
  else if directory.toList.getLast? = some '/' then directory ++ name
  else directory ++ "/" ++ name

/-- A part that leads nowhere: an empty one, or the point that stands for the directory it is in. -/
def isIdle (part : String) : Bool :=
  part == "" || part == "."

/-- The parts up to the last one that leads somewhere. -/
def dropIdle (parts : List String) : List String :=
  (parts.reverse.dropWhile isIdle).reverse

/-- The point at the start of a path, if it starts with one. -/
def start (p : Path) : List String :=
  if !p.isAbsolute && p.parts.head? == some "." then ["."] else []

/-- The directory in which a path has its last name.  A point at the start of a path counts as a
name, every other one as nothing. -/
def parent? (p : Path) : Option Path :=
  match dropIdle (p.parts.drop p.start.length) with
  | [] => if p.start.isEmpty then none else some ⟨false, []⟩
  | body => some ⟨p.isAbsolute, p.start ++ dropIdle body.dropLast⟩

end Path

end ProvisionGate
