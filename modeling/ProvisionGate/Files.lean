import ProvisionGate.Files.Call

/-!
# Files

A tree of directories and files with a working directory.  Every call is answered as the file system
of a machine answers it, also where a path leads through a file, ends at a directory or is too long.

A path is followed name by name.  The position reached keeps the way back to the root, so that what
stands there can be replaced in the whole tree.
-/

namespace ProvisionGate

/-- What stands at a place: a file with its bytes, or a directory with its entries. -/
inductive FileNode where
  | file (content : ByteArray)
  | directory (entries : List (String × FileNode))

/-- The entries of a directory, by name. -/
abbrev FileEntries := List (String × FileNode)

/-- A place: the names on the way to it. -/
abbrev Place := List String

namespace FileNode

/-- What stands at a place below a node. -/
def at? : Place → FileNode → Option FileNode
  | [], node => some node
  | name :: rest, directory entries => do (← entries.lookup name).at? rest
  | _ :: _, file _ => none

mutual

/-- All that stands below a node, with its place. -/
def descendants : FileNode → List (Place × FileNode)
  | file _ => []
  | directory entries => entryDescendants entries

/-- All that entries hold, with its place. -/
def entryDescendants : List (String × FileNode) → List (Place × FileNode)
  | [] => []
  | (name, node) :: rest =>
    ([name], node) :: (node.descendants.map fun (place, inner) => (name :: place, inner)) ++
      entryDescendants rest

end

end FileNode

/-- The entries with a node under a name, or with none there. -/
def FileEntries.set (name : String) (node : Option FileNode) (entries : FileEntries) :
    FileEntries :=
  let others := entries.filter fun entry => entry.1 ≠ name
  match node with
  | some node => (name, node) :: others
  | none => others

namespace FileEntries

private theorem lookup_filter_ne_self (entries : FileEntries) (name : String) :
    (entries.filter fun entry => entry.1 ≠ name).lookup name = none := by
  induction entries with
  | nil => rfl
  | cons entry rest ih =>
    rcases entry with ⟨key, node⟩
    by_cases same : key = name
    · rw [List.filter_cons_of_neg (by simp [same])]
      exact ih
    · rw [List.filter_cons_of_pos (by simp [same]), List.lookup_cons,
        beq_false_of_ne (Ne.symm same)]
      exact ih

private theorem lookup_filter_ne (entries : FileEntries) {name other : String}
    (differs : other ≠ name) :
    (entries.filter fun entry => entry.1 ≠ name).lookup other = entries.lookup other := by
  induction entries with
  | nil => rfl
  | cons entry rest ih =>
    rcases entry with ⟨key, node⟩
    by_cases same : key = name
    · subst key
      rw [List.filter_cons_of_neg (by simp), List.lookup_cons, beq_false_of_ne differs]
      exact ih
    · rw [List.filter_cons_of_pos (by simp [same]), List.lookup_cons, List.lookup_cons, ih]

@[simp] theorem lookup_set_self (entries : FileEntries) (name : String)
    (node : Option FileNode) : (entries.set name node).lookup name = node := by
  cases node with
  | none => exact lookup_filter_ne_self entries name
  | some node => exact List.lookup_cons_self

/-- Only the entry under the name changes. -/
theorem lookup_set_of_ne (entries : FileEntries) {name other : String} (differs : other ≠ name)
    (node : Option FileNode) : (entries.set name node).lookup other = entries.lookup other := by
  have kept := lookup_filter_ne entries differs
  cases node with
  | none => exact kept
  | some node =>
    simp only [set, List.lookup_cons, beq_false_of_ne differs]
    exact kept

end FileEntries
/-- A position in a tree. -/
structure FilePosition where
  /-- What stands here, if anything does. -/
  node : Option FileNode
  /-- The names on the way here, the last one first, each with the entries of its directory. -/
  trail : List (String × FileEntries)

namespace FilePosition

/-- The longest name, in bytes. -/
def longestName : Nat := 255

/-- The position of the directory that this one is in; the root is in itself. -/
def up (position : FilePosition) : FilePosition :=
  match position.trail with
  | [] => position
  | (_, entries) :: trail => ⟨some (.directory entries), trail⟩

/-- The position that a name leads to. -/
def enter (position : FilePosition) (name : String) : Except FileError FilePosition :=
  match position.node with
  | some (.directory entries) =>
    if name = "." then .ok position
    else if name = ".." then .ok position.up
    else if longestName < name.utf8ByteSize then .error .nameTooLong
    else .ok ⟨entries.lookup name, (name, entries) :: position.trail⟩
  | some (.file _) => .error .notDirectory
  | none => .error .notFound

end FilePosition

/-- A tree of files. -/
structure Files where
  /-- The entries of the root. -/
  entries : FileEntries
  workingDirectory : Place

namespace Files

/-- Nothing but the directories on the way to the working directory. -/
def fresh (workingDirectory : Place) : Files where
  entries := workingDirectory.foldr (fun name inner => [(name, .directory inner)]) []
  workingDirectory

/-- What stands at a place. -/
def node? (files : Files) (place : Place) : Option FileNode :=
  (FileNode.directory files.entries).at? place

/-- The position of the root. -/
def rootPosition (files : Files) : FilePosition :=
  ⟨some (.directory files.entries), []⟩

/-- The longest path, in bytes. -/
def longestPath : Nat := 4095

/-- The position that a path leads to; nothing need stand there yet. -/
def resolve (files : Files) (p : Path) : Except FileError FilePosition :=
  if p.names.any fun name => name.contains '\x00' then .error .nulInName
  else if p.isEmpty then .error .notFound
  else if longestPath < p.text.utf8ByteSize then .error .nameTooLong
  else
    let names := if p.isAbsolute then p.names else files.workingDirectory ++ p.names
    names.foldlM FilePosition.enter files.rootPosition

/-- The files with another node at a position, or with none.  The root stays a directory. -/
def replace (files : Files) (position : FilePosition) (node : Option FileNode) : Files :=
  match position.trail with
  | [] => files
  | (name, entries) :: above =>
    { files with
      entries := above.foldl (fun inner (name, outer) => outer.set name (some (.directory inner)))
        (entries.set name node) }

/-- What stands at a path. -/
def find (files : Files) (p : Path) : Except FileError FileNode := do
  match (← files.resolve p).node with
  | some (.directory entries) => return .directory entries
  | some (.file content) => if p.asksDirectory then throw .notDirectory else return .file content
  | none => throw .notFound

/-- Something stands at a path. -/
def holds (files : Files) (p : Path) : Bool :=
  match files.find p with
  | .ok _ => true
  | .error _ => false

/-- A directory stands at a path. -/
def holdsDirectory (files : Files) (p : Path) : Bool :=
  match files.find p with
  | .ok (.directory _) => true
  | _ => false

/-- The text of the file at a path. -/
def readText (files : Files) (p : Path) : Except FileError String := do
  match ← files.find p with
  | .directory _ => throw .isDirectory
  | .file content =>
    match String.fromUTF8? content with
    | some text => return text
    | none => throw .notText

/-- The files with a file at a path, over an older one. -/
def write (files : Files) (p : Path) (content : ByteArray) : Except FileError Files := do
  let position ← files.resolve p
  if p.asksDirectory then throw .isDirectory
  match position.node with
  | some (.directory _) => throw .isDirectory
  | _ => return files.replace position (some (.file content))

/-- The files with a new directory. -/
def makeDirectory (files : Files) (p : Path) : Except FileError Files := do
  let position ← files.resolve p
  match position.node with
  | some _ => throw .alreadyExists
  | none => return files.replace position (some (.directory []))

/-- The files without the file at a path. -/
def remove (files : Files) (p : Path) : Except FileError Files := do
  let position ← files.resolve p
  match position.node with
  | some (.directory _) => throw .isDirectory
  | some (.file _) =>
    if p.asksDirectory then throw .notDirectory else return files.replace position none
  | none => throw .notFound

/-- Changes the files, or leaves them as they are if the change fails. -/
def changing (change : Files → Except FileError Files) : StateM Files (Except FileError Unit) := do
  match change (← get) with
  | .ok files => do
    set files
    return .ok ()
  | .error error => return .error error

/-- Answers a call. -/
def respond : (c : FileCall) → StateM Files c.Answer
  | .holds p => do return (← get).holds p
  | .holdsDirectory p => do return (← get).holdsDirectory p
  | .readText p => do return (← get).readText p
  | .write p text => changing fun files => files.write p text.toUTF8
  | .makeDirectory p => changing fun files => files.makeDirectory p
  | .remove p => changing fun files => files.remove p

/-- Runs a program over the files: its result, and the files after it. -/
def run {ε α : Type} (files : Files) (step : FileStep ε α) : Except ε α × Files :=
  (step.run.perform respond).run files

/-- All that stands under the working directory, with its place there. -/
def listing (files : Files) : List (Place × FileNode) :=
  match files.node? files.workingDirectory with
  | some node => node.descendants
  | none => []

end Files

end ProvisionGate
