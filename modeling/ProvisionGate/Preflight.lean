import ProvisionGate.CommandLine
import ProvisionGate.Session
import ProvisionGate.Settings
import ProvisionGate.Wire.Request

/-!
# Preflight runs

A run reads one request, drives its attempt over a device that the settings describe, reports at
most one outcome of a remediation, and answers the question for consent if it is asked.
-/

namespace ProvisionGate

/-- A run failed. -/
inductive RunError where
  | unreadableRequestFile (path : String)
  | unreadableRequest
  | deviceState (cause : String)
  | session (cause : SessionError)
  deriving DecidableEq

/-- The error in words. -/
def RunError.message : RunError → String
  | unreadableRequestFile path => "Failed to read request file: " ++ path
  | unreadableRequest => "Failed to parse provisioning request"
  | deviceState cause => "Device state adapter initialization failed: " ++ cause
  | session cause => cause.message

/-- What a run asks of the machine on which it takes place. -/
inductive MachineCall where
  | file (call : FileCall)
  | freshIdentity
  | currentTime
  deriving DecidableEq

/-- The answers to a call. -/
abbrev MachineCall.Answer : MachineCall → Type
  | file call => call.Answer
  | freshIdentity => String
  | currentTime => Instant

/-- A program over a machine. -/
abbrev MachineDialogue (α : Type) :=
  Dialogue MachineCall.Answer α

namespace MachineDialogue

/-- Runs a program over the files of a machine. -/
def onFiles {ε α : Type} (step : FileStep ε α) : MachineDialogue (Except ε α) :=
  step.run.perform fun call => Dialogue.call (MachineCall.file call)

/-- Runs an operation of a consent store, with its error in words. -/
def onStore {α : Type} (step : FileStep ConsentStoreError α) :
    MachineDialogue (Except String α) := do
  return (← onFiles step).mapError ConsentStoreError.message

/-- Answers a call of a session.  The device is the one of the settings, tickets and prompts are
only shown, and a launch is a rehearsal that succeeds. -/
def respond (settings : Settings) (caller : Caller) (store : ConsentStore) :
    (c : SessionCall) → MachineDialogue c.Answer
  | .callerClass => return .ok caller
  | .device fact => return .ok (settings.facts.value fact)
  | .requestRemediation _ => return .ok ()
  | .loadConsent attempt admin => onStore (store.load attempt admin)
  | .saveConsent record => onStore (store.save record)
  | .clearConsent => onStore store.clear
  | .presentConsent _ => return .ok ()
  | .launch _ => return .ok .succeeded
  | .reportState _ _ => return ()
  | .reportAbort _ _ => return ()
  | .freshAttempt => do return ⟨← Dialogue.call MachineCall.freshIdentity⟩
  | .freshTicket => do return ⟨← Dialogue.call MachineCall.freshIdentity⟩
  | .currentTime => Dialogue.call MachineCall.currentTime

end MachineDialogue

namespace Preflight

/-- The settings of a run: from the file that the command line names, else the defaults. -/
def settings (line : CommandLine) (location : DataLocation) : FileStep SettingsError Settings :=
  match line.config with
  | some path => Settings.load path
  | none => return .inDataDirectory location.directory

/-- The request in the file that the command line names. -/
def request (line : CommandLine) : FileStep RunError Request := do
  let answer ← FileStep.ask (.readText (Path.ofText line.request))
  let text ← FileStep.orFail (fun _ => .unreadableRequestFile line.request) answer
  match Request.ofText? text with
  | some request => return request
  | none => throw .unreadableRequest

/-- The caller of a run. -/
def caller (settings : Settings) : Except RunError Caller :=
  match settings.caller? with
  | some caller => .ok caller
  | none => .error (.deviceState settings.unknownCallerMessage)

/-- Reports the outcome of a remediation if one is outstanding. -/
def reportOutcome (line : CommandLine) (reached : AttemptOutcome) :
    SessionStep AttemptOutcome := do
  match line.remediationOutcome, (← get).desk.outstanding with
  | some outcome, some ticket => Session.remediated ticket.id outcome
  | _, _ => return reached

/-- Answers the question for consent if it was asked. -/
def answerConsent (line : CommandLine) (reached : AttemptOutcome) :
    SessionStep AttemptOutcome := do
  if (← get).state ≠ .awaitingConsent then return reached
  else if line.confirm then Session.confirmConsent
  else if line.cancel then Session.cancelConsent
  else return reached

/-- Drives the attempt of a request as far as the command line allows. -/
def drive (line : CommandLine) (request : Request) : SessionStep AttemptOutcome := do
  let reached ← Session.start request
  let reached ← reportOutcome line reached
  answerConsent line reached

/-- A session for the attempt of a request, from its opening on. -/
def conduct (line : CommandLine) (request : Request) :
    SessionDialogue (Except SessionError AttemptOutcome) := do
  let attempt ← Dialogue.call SessionCall.freshAttempt
  let (result, _) ← ((drive line request).run).run (Session.opened attempt)
  return result

/-- Runs a command line with its settings. -/
def run (line : CommandLine) (settings : Settings) (location : DataLocation) :
    ExceptT RunError (Dialogue MachineCall.Answer) AttemptOutcome := do
  let request ← ExceptT.mk (MachineDialogue.onFiles (request line))
  let caller ← ExceptT.mk (pure (caller settings))
  let respond := MachineDialogue.respond settings caller (settings.consentStore location)
  ExceptT.adapt .session (ExceptT.mk ((conduct line request).perform respond))

end Preflight

end ProvisionGate
