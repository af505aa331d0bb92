import ProvisionGate.Preflight
import ProvisionGate.Wire.Attempt
import Std.Time.DateTime.Timestamp

/-!
# The command

Answers the calls of a run with the files, the clock and the random numbers of the machine, and
prints the outcome.
-/

open ProvisionGate

namespace ProvisionGate.Command

/-- The code of an error; some calls give it negated. -/
def isCode (code expected : UInt32) : Bool :=
  code == expected || code == 0 - expected

/-- An error of the machine's files. -/
def fileError : IO.Error → FileError
  | .noFileOrDirectory _ _ _ => .notFound
  | .alreadyExists _ _ _ => .alreadyExists
  | .inappropriateType _ code _ =>
    if isCode code 21 then .isDirectory else .notDirectory
  | error@(.invalidArgument _ code _) =>
    if isCode code 36 then .nameTooLong else .other (toString error)
  | error => .other (toString error)

/-- Does something with what stands at a path. -/
def attempting {α : Type} (p : Path) (action : IO α) : IO (Except FileError α) := do
  if p.text.contains '\x00' then return .error .nulInName
  try return .ok (← action)
  catch error => return .error (fileError error)

/-- Answers a call to the files. -/
def fileAnswer : (c : FileCall) → IO c.Answer
  | .holds p => do ((← IO.currentDir) / p.text).pathExists
  | .holdsDirectory p => do ((← IO.currentDir) / p.text).isDir
  | .readText p => do
    match ← attempting p (IO.FS.readBinFile p.text) with
    | .error error => return .error error
    | .ok content =>
      match String.fromUTF8? content with
      | some text => return .ok text
      | none => return .error .notText
  | .write p text => attempting p (IO.FS.writeFile p.text text)
  | .makeDirectory p => attempting p (IO.FS.createDir p.text)
  | .remove p => attempting p (IO.FS.removeFile p.text)

/-- A byte as two hexadecimal digits. -/
def hexByte (b : UInt8) : String :=
  String.ofList [Nat.digitChar (b.toNat / 16), Nat.digitChar (b.toNat % 16)]

/-- An identity of random digits in the usual five groups. -/
def freshIdentity : IO String := do
  let bytes := (← IO.getRandomBytes 16).toList.map hexByte
  let group (start size : Nat) : String := String.join ((bytes.drop start).take size)
  return "-".intercalate [group 0 4, group 4 2, group 6 2, group 8 2, group 10 6]

/-- The time that the clock shows. -/
def currentTime : IO Instant := do
  let nanos := (← Std.Time.Timestamp.now).toNanosecondsSinceUnixEpoch.toInt
  let seconds := nanos.fdiv 1_000_000_000
  return {
    day := seconds.fdiv 86400
    second := (seconds.fmod 86400).toNat
    nanos := (nanos.fmod 1_000_000_000).toNat }

/-- Answers a call of a run. -/
def answer : (c : MachineCall) → IO c.Answer
  | .file call => fileAnswer call
  | .freshIdentity => freshIdentity
  | .currentTime => currentTime

/-- What the command says about words that ask for no run. -/
def usage : String :=
  "Usage: dop-preflight --request PATH [--config PATH] " ++
    "[--remediation-outcome success|cancelled|failed] [--confirm | --cancel]"

/-- Says why a run failed. -/
def fail (message : String) : IO UInt32 := do
  IO.eprintln ("Error: " ++ message)
  return 1

/-- Runs a command line. -/
def run (line : CommandLine) : IO UInt32 := do
  let location := DataLocation.ofEnvironment (← IO.getEnv "XDG_DATA_HOME") (← IO.getEnv "HOME") "/"
  let settings ← (Preflight.settings line location).run.perform fileAnswer
  match settings with
  | .error error => fail error.message
  | .ok settings =>
    match ← (Preflight.run line settings location).run.perform answer with
    | .error error => fail error.message
    | .ok outcome => do
      IO.println outcome.toJson.indented
      return 0

end ProvisionGate.Command

/-- Reads the command line and runs it. -/
def main (words : List String) : IO UInt32 := do
  match CommandLine.ofWords words with
  | .ok line => Command.run line
  | .error .displayHelp => do
    IO.println Command.usage
    return 0
  | .error .displayVersion => do
    IO.println "dop-preflight"
    return 0
  | .error _ => do
    IO.eprintln Command.usage
    return 2
