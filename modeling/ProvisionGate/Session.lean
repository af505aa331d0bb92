import ProvisionGate.Attempt.Shown
import ProvisionGate.Attempt.Transition
import ProvisionGate.Remediation.Desk
import ProvisionGate.Request.Parse
import ProvisionGate.Session.Call

/-!
# Sessions

A session drives one attempt over its surroundings.  It holds where the attempt stands, the request
it accepted, the consent gate and the remediation desk.  A step of a session is a dialogue; if a
call fails, the step ends with an error and the session keeps what it reached.
-/

namespace ProvisionGate

/-- A request that was accepted: its parameters, and for whom they are. -/
structure AcceptedRequest where
  params : Params
  caller : Caller
  deriving DecidableEq

/-- The state of a session. -/
structure Session where
  state : AttemptState
  attempt : AttemptId
  accepted : Option AcceptedRequest
  gate : ConsentGate
  desk : RemediationDesk
  deriving DecidableEq

/-- A session before its first request. -/
def Session.opened (attempt : AttemptId) : Session where
  state := .init
  attempt
  accepted := none
  gate := .closed
  desk := .empty

/-- A failure of the surroundings, or a call that the session does not allow. -/
inductive SessionError where
  | deviceState (cause : String)
  | remediation (cause : String)
  | consentStore (cause : String)
  | consentPrompt (cause : String)
  | desk (cause : DeskError)
  | alreadyStarted (state : AttemptState)
  | noAcceptedRequest (command : String)
  deriving DecidableEq

/-- The error in words. -/
def SessionError.message : SessionError → String
  | deviceState cause => "device state query failed: " ++ cause
  | remediation cause => "remediation request failed: " ++ cause
  | consentStore cause => "consent store failed: " ++ cause
  | consentPrompt cause => "consent prompt failed: " ++ cause
  | desk cause => cause.message
  | alreadyStarted state => "an attempt is already running (state " ++ state.shown ++ ")"
  | noAcceptedRequest command => "action " ++ command ++ " requires an accepted request"

/-- A step of a session. -/
abbrev SessionStep (α : Type) :=
  ExceptT SessionError (StateT Session (Dialogue SessionCall.Answer)) α

namespace Session

/-- Asks the surroundings. -/
def ask (call : SessionCall) : SessionStep call.Answer :=
  liftM (Dialogue.call call : Dialogue SessionCall.Answer call.Answer)

/-- Ends the step with an error if a call failed. -/
def orFail {α : Type} (error : String → SessionError) : Except String α → SessionStep α
  | .ok answer => return answer
  | .error cause => throw (error cause)

/-- The request that a command works on. -/
def requireAccepted (command : String) : SessionStep AcceptedRequest := do
  match (← get).accepted with
  | some accepted => return accepted
  | none => throw (.noAcceptedRequest command)

/-- Runs a check on facts asked for it alone. -/
def checkDevice (accepted : AcceptedRequest) (p : Precondition) :
    ExceptT String (Dialogue SessionCall.Answer) Finding := do
  return p.check accepted.params accepted.caller (← p.factsFor askDevice accepted.caller)

/-- Evaluates the preconditions from one on, asking about the device check by check. -/
def evaluateDevice (accepted : AcceptedRequest) (start : Precondition) :
    ExceptT String (Dialogue SessionCall.Answer) Evaluation :=
  Evaluation.ofChecks (checkDevice accepted) start.andFollowing

/-- Evaluates the preconditions from one on. -/
def evaluate (start : Precondition) : SessionStep AttemptEvent := do
  let accepted ← requireAccepted "Evaluate"
  let evaluation ← orFail .deviceState (← liftM (evaluateDevice accepted start).run)
  return .preconditionsEvaluated evaluation.decision

/-- Gives out a ticket and hands it to the one who remedies; a ticket that could not be handed over
is given up. -/
def beginRemediation (kind : RemediationKind) : SessionStep AttemptEvent := do
  let accepted ← requireAccepted "BeginRemediation"
  let id ← ask .freshTicket
  let session ← get
  match session.desk.begin? id kind session.attempt accepted.params with
  | .error error => throw (.desk error)
  | .ok (ticket, desk) =>
    set { session with desk }
    match ← ask (.requestRemediation ticket) with
    | .ok () => return .remediationRequested kind ticket.id
    | .error cause =>
      modify fun session => { session with desk := session.desk.abandon.2 }
      throw (.remediation cause)

/-- Asks the gate whether the user has to be asked. -/
def consultConsent : SessionStep AttemptEvent := do
  let accepted ← requireAccepted "ConsultConsent"
  return if (← get).gate.isRequired accepted.params accepted.caller then .consentRequired
    else .consentNotRequired

/-- Asks the user. -/
def presentConsent : SessionStep Unit := do
  let accepted ← requireAccepted "PresentConsent"
  let prompt : ConsentPrompt := {
    attempt := (← get).attempt
    adminPackage := accepted.params.adminOrEmpty
    adminComponent := accepted.params.adminComponent }
  orFail .consentPrompt (← ask (.presentConsent prompt))

/-- Opens the gate and records the consent. -/
def persistConsent : SessionStep Unit := do
  let accepted ← requireAccepted "PersistConsent"
  modify fun session => { session with gate := session.gate.confirm }
  let session ← get
  let record : ConsentRecord := {
    attempt := session.attempt
    adminPackage := accepted.params.adminOrEmpty
    userConsented := session.gate.consented
    updatedAt := ← ask .currentTime }
  orFail .consentStore (← ask (.saveConsent record))

/-- Launches the provisioning.  A launch that fails outright is a launch that reports a failure. -/
def launch : SessionStep AttemptEvent := do
  let accepted ← requireAccepted "LaunchProvisioning"
  match ← ask (.launch accepted.params) with
  | .ok result => return .provisioningFinished result
  | .error cause => return .provisioningFinished (.failed cause)

/-- Reports the end of an attempt. -/
def reportAbort (reason : AbortReason) : SessionStep Unit := do
  ask (.reportAbort (← get).attempt reason)

/-- Carries out a command, and returns the events that follow from it. -/
def perform : AttemptCommand → SessionStep (List AttemptEvent)
  | .evaluate start => return [← evaluate start]
  | .beginRemediation kind => return [← beginRemediation kind]
  | .consultConsent => return [← consultConsent]
  | .presentConsent => do
    presentConsent
    return []
  | .persistConsent => do
    persistConsent
    return []
  | .launchProvisioning => return [← launch]
  | .reportAbort reason => do
    reportAbort reason
    return []

/-- Carries out commands one after the other. -/
def performAll : List AttemptCommand → SessionStep (List AttemptEvent)
  | [] => return []
  | command :: rest => return (← perform command) ++ (← performAll rest)

/-- Makes a state the state of the attempt and reports it. -/
def commit (state : AttemptState) : SessionStep Unit := do
  modify fun session => { session with state }
  ask (.reportState (← get).attempt state)

/-- Handles an event: the commands are carried out before the new state is committed.  At the end
of an attempt no event has an effect. -/
def handle (event : AttemptEvent) : SessionStep (List AttemptEvent) := do
  let state := (← get).state
  if state.isTerminal then return []
  let (next, commands) := state.transition event
  let followUps ← performAll commands
  commit next
  return followUps

/-- Handles pending events and those that follow from them, the latest first, up to a bound. -/
def handleAll : Nat → List AttemptEvent → SessionStep Unit
  | 0, _ => return ()
  | _ + 1, [] => return ()
  | bound + 1, event :: rest => do
    let followUps ← handle event
    handleAll bound (followUps.reverse ++ rest)

/-- The largest number of events that one event leads to, with itself: an acceptance, an
evaluation, an answer of the gate and the end of a launch. -/
def longestChain : Nat := 4

/-- Handles an event and all that follows from it. -/
def dispatch (event : AttemptEvent) : SessionStep AttemptOutcome := do
  handleAll longestChain [event]
  return (← get).state.outcome

/-- Accepts a request.  An attempt that is taken up again keeps the consent recorded for it and its
admin; any other attempt begins with an empty record. -/
def accept (attempt : AttemptId) (params : Params) (isResumed : Bool) : SessionStep Unit := do
  let caller ← orFail .deviceState (← ask .callerClass)
  let consented ←
    if isResumed then orFail .consentStore (← ask (.loadConsent attempt params.adminOrEmpty))
    else do
      orFail .consentStore (← ask .clearConsent)
      pure false
  modify fun session =>
    { session with gate := ⟨consented⟩, desk := .empty, accepted := some ⟨params, caller⟩ }

/-- Starts the attempt of a request and drives it to its first halt. -/
def start (request : Request) : SessionStep AttemptOutcome := do
  let state := (← get).state
  if state ≠ .init then throw (.alreadyStarted state)
  let attempt ←
    match request.resumedAttempt with
    | some attempt => pure attempt
    | none => ask .freshAttempt
  modify fun session => { session with attempt }
  match request.parse with
  | .ok params =>
    accept attempt params request.resumedAttempt.isSome
    dispatch .requestAccepted
  | .error fault => dispatch (.requestRejected fault.rejection)

/-- Runs checks again that a failure interrupted, unless a remediation is still outstanding. -/
def retryEvaluation : SessionStep AttemptOutcome := do
  let session ← get
  if session.state.pendingTicket?.isSome && session.desk.outstanding.isSome then
    return session.state.outcome
  else dispatch .retryRequested

/-- Takes a ticket back and goes on with its outcome. -/
def remediated (ticket : TicketId) (outcome : RemediationOutcome) :
    SessionStep AttemptOutcome := do
  let session ← get
  match session.desk.resolve? ticket outcome with
  | .error error => throw (.desk error)
  | .ok (signal, desk) =>
    set { session with desk }
    dispatch (.remediationResolved signal)

/-- The user confirms. -/
def confirmConsent : SessionStep AttemptOutcome :=
  dispatch .consentConfirmed

/-- The user cancels. -/
def cancelConsent : SessionStep AttemptOutcome := do
  modify fun session =>
    if session.state = .awaitingConsent then { session with gate := session.gate.cancel }
    else session
  dispatch .consentCancelled

/-- The user asks to go on after cancelling, and is asked again. -/
def requestProceed : SessionStep AttemptOutcome :=
  dispatch .proceedRequested

end Session

end ProvisionGate
