import ProvisionGate.Dialogue
import ProvisionGate.Files.Path

/-!
# Calls to a file system

What programs ask of the files of a machine.  The directories on the way to a file are made by
`ensureDirectories`, from the last one that is there on.
-/

namespace ProvisionGate

/-- Why an operation on files fails. -/
inductive FileError where
  | notFound
  | alreadyExists
  | notDirectory
  | isDirectory
  | nameTooLong
  | nulInName
  | notText
  /-- A machine may have reasons of its own. -/
  | other (message : String)
  deriving DecidableEq

/-- The error in words. -/
def FileError.message : FileError → String
  | notFound => "No such file or directory (os error 2)"
  | alreadyExists => "File exists (os error 17)"
  | notDirectory => "Not a directory (os error 20)"
  | isDirectory => "Is a directory (os error 21)"
  | nameTooLong => "File name too long (os error 36)"
  | nulInName => "file name contained an unexpected NUL byte"
  | notText => "stream did not contain valid UTF-8"
  | other message => message

/-- A call to a file system. -/
inductive FileCall where
  /-- Something stands at a path. -/
  | holds (p : Path)
  /-- A directory stands at a path. -/
  | holdsDirectory (p : Path)
  | readText (p : Path)
  /-- Puts a file with a text at a path, over an older one. -/
  | write (p : Path) (text : String)
  | makeDirectory (p : Path)
  /-- Removes the file at a path. -/
  | remove (p : Path)
  deriving DecidableEq

/-- The answers to a call. -/
abbrev FileCall.Answer : FileCall → Type
  | holds _ => Bool
  | holdsDirectory _ => Bool
  | readText _ => Except FileError String
  | write _ _ => Except FileError Unit
  | makeDirectory _ => Except FileError Unit
  | remove _ => Except FileError Unit

/-- A program over a file system that may fail. -/
abbrev FileStep (ε α : Type) :=
  ExceptT ε (Dialogue FileCall.Answer) α

namespace FileStep

variable {ε α : Type}

/-- Asks the file system. -/
def ask (call : FileCall) : FileStep ε call.Answer :=
  liftM (Dialogue.call call : Dialogue FileCall.Answer call.Answer)

/-- Ends with an error of its own if a call failed. -/
def orFail (error : FileError → ε) : Except FileError α → FileStep ε α
  | .ok answer => return answer
  | .error cause => throw (error cause)

/-- Makes one directory, unless there is one already.  The empty path stands for the working
directory. -/
def ensureDirectory (p : Path) : FileStep FileError Unit := do
  if p.isEmpty then return ()
  match ← ask (.makeDirectory p) with
  | .ok () => return ()
  | .error .alreadyExists =>
    let there : Bool ← ask (.holdsDirectory p)
    if there then return () else throw .alreadyExists
  | .error error => throw error

/-- Makes the directory of a path and those on the way to it.  The first argument bounds how many
names are taken from the end of the path in search of a directory that is there. -/
def ensureDirectoriesWithin : Nat → Path → FileStep FileError Unit
  | 0, p => ensureDirectory p
  | bound + 1, p =>
    tryCatch (ensureDirectory p) fun error =>
      match error, p.parent? with
      | .notFound, some parent => do
        ensureDirectoriesWithin bound parent
        ensureDirectory p
      | error, _ => throw error

/-- Makes the directory of a path and those on the way to it. -/
def ensureDirectories (p : Path) : FileStep FileError Unit :=
  ensureDirectoriesWithin p.names.length p

end FileStep

end ProvisionGate
