import ProvisionGate.Proofs.Session.Evaluation
import ProvisionGate.Proofs.Session.Runs

/-!
# The moves of a session

A move is what a session does with one event: what it asks and tells, how far it gets, and the one
event that may follow.  `Session.Expects` says which events can be pending in which sessions, and
`Session.Resting` which sessions there are between two calls.  `handle_move` shows that an expected
event is handled by one of the moves, and `Move.expects` and `Move.resting` that a move leaves a
session that expects the event that follows or rests.  Whatever holds of every run of a session is
proved by cases on its moves.
-/

namespace ProvisionGate

/-- After a remediation no check but the one of the network is run again. -/
theorem RemediationKind.reevaluate_network {kind : RemediationKind}
    {outcome : RemediationOutcome} {start : Precondition}
    (signal : kind.resumeSignal outcome = .reevaluate start) : start = .network := by
  cases kind <;> cases outcome <;> cases signal <;> rfl

namespace AttemptState

/-- A state in which an attempt can be left between two calls. -/
def rests : AttemptState → Bool
  | checkingFactoryResetProtection | checkingEncryption | launching => false
  | _ => true

/-- The attempt has begun and is not at its end. -/
def isUnderWay : AttemptState → Bool
  | init | aborted _ | done _ => false
  | _ => true

@[simp] theorem rests_awaiting (kind : RemediationKind) (id : TicketId) :
    (awaiting kind id).rests = true := by
  cases kind <;> rfl

@[simp] theorem isUnderWay_awaiting (kind : RemediationKind) (id : TicketId) :
    (awaiting kind id).isUnderWay = true := by
  cases kind <;> rfl

@[simp] theorem isUnderWay_checking (start : Precondition) :
    (checking start).isUnderWay = true := by
  cases start <;> rfl

theorem isTerminal_of_isUnderWay {state : AttemptState} (begun : state.isUnderWay = true) :
    state.isTerminal = false := by
  cases state <;> first | rfl | cases begun

theorem isTerminal_checking (start : Precondition) : (checking start).isTerminal = false :=
  isTerminal_of_isUnderWay (isUnderWay_checking start)

theorem isTerminal_awaiting (kind : RemediationKind) (id : TicketId) :
    (awaiting kind id).isTerminal = false :=
  isTerminal_of_isUnderWay (isUnderWay_awaiting kind id)

end AttemptState

namespace Session

open SessionStep

/-- The report of a state. -/
def reported (s : Session) (state : AttemptState) : Dialogue.Exchange SessionCall.Answer :=
  ⟨.reportState s.attempt state, ()⟩

/-- The ticket that a session gives out. -/
def ticket (s : Session) (id : TicketId) (kind : RemediationKind) (taken : AcceptedRequest) :
    Ticket :=
  ⟨id, kind, s.attempt, taken.params⟩

/-- The question that a session has the user asked. -/
def prompt (s : Session) (taken : AcceptedRequest) : ConsentPrompt where
  attempt := s.attempt
  adminPackage := taken.params.adminOrEmpty
  adminComponent := taken.params.adminComponent

/-- The record of a confirmation. -/
def consentRecord (s : Session) (taken : AcceptedRequest) (time : Instant) : ConsentRecord where
  attempt := s.attempt
  adminPackage := taken.params.adminOrEmpty
  userConsented := true
  updatedAt := time

/-- The end of a launch.  A launch that fails outright reports its failure as well. -/
def launchEnd : Except String LaunchResult → LaunchResult
  | .ok result => result
  | .error cause => .failed cause

/-- A session between two calls. -/
structure Resting (s : Session) : Prop where
  state : s.state.rests = true
  accepted : s.state = .init ∨ s.state.isTerminal = true ∨ ∃ taken, s.accepted = some taken
  desk : ∀ ticket, s.desk.outstanding = some ticket →
    s.state = .awaiting ticket.kind ticket.id ∧
      ∃ taken, s.accepted = some taken ∧ ticket = s.ticket ticket.id ticket.kind taken

theorem Resting.taken {s : Session} (resting : s.Resting) (begun : s.state.isUnderWay = true) :
    ∃ taken, s.accepted = some taken := by
  rcases resting.accepted with fresh | terminal | taken
  · rw [fresh] at begun
    cases begun
  · rw [AttemptState.isTerminal_of_isUnderWay begun] at terminal
    cases terminal
  · exact taken

/-- No ticket is out unless the state waits for it. -/
theorem Resting.free {s : Session} (resting : s.Resting)
    (settled : s.state.pendingTicket? = none) : s.desk.outstanding = none := by
  cases out : s.desk.outstanding with
  | none => rfl
  | some ticket =>
    obtain ⟨state, -⟩ := resting.desk ticket out
    rw [state, AttemptState.pendingTicket?_awaiting] at settled
    cases settled

/-- The states in which checks run, of which two are ever left to rest in. -/
inductive Evaluates : Precondition → Prop
  | ownership : Evaluates .notYetProvisioned
  | network : Evaluates .network

/-- The events that can be pending in a session. -/
inductive Expects (s : Session) : AttemptEvent → Prop
  | requestAccepted {taken : AcceptedRequest} (state : s.state = .init)
      (accepted : s.accepted = some taken) (free : s.desk.outstanding = none) :
      Expects s .requestAccepted
  | requestRejected {rejection : Rejection} (state : s.state = .init)
      (free : s.desk.outstanding = none) : Expects s (.requestRejected rejection)
  | evaluated {taken : AcceptedRequest} {start : Precondition} {log : SessionLog}
      {e : Evaluation} {decision : Decision} (state : s.state = .checking start)
      (evaluates : Evaluates start) (accepted : s.accepted = some taken)
      (free : s.desk.outstanding = none)
      (run : Dialogue.Runs (evaluateDevice taken start).run log (.ok e))
      (decided : e.decision = decision) : Expects s (.preconditionsEvaluated decision)
  | handedOver {taken : AcceptedRequest} {kind : RemediationKind} {id : TicketId}
      (state : s.state = .checking kind.precondition) (accepted : s.accepted = some taken)
      (out : s.desk.outstanding = some (s.ticket id kind taken)) :
      Expects s (.remediationRequested kind id)
  | resolved {kind : RemediationKind} {id : TicketId} {outcome : RemediationOutcome}
      {taken : AcceptedRequest} {signal : ResumeSignal} (state : s.state = .awaiting kind id)
      (accepted : s.accepted = some taken) (free : s.desk.outstanding = none)
      (resolves : kind.resumeSignal outcome = signal) : Expects s (.remediationResolved signal)
  | consentRequired {taken : AcceptedRequest} (state : s.state = .checkingNetwork)
      (accepted : s.accepted = some taken) (free : s.desk.outstanding = none)
      (required : s.gate.isRequired taken.params taken.caller = true) :
      Expects s .consentRequired
  | consentNotRequired {taken : AcceptedRequest} (state : s.state = .checkingNetwork)
      (accepted : s.accepted = some taken) (free : s.desk.outstanding = none)
      (unneeded : s.gate.isRequired taken.params taken.caller = false) :
      Expects s .consentNotRequired
  | finished {taken : AcceptedRequest} {result : LaunchResult} (state : s.state = .launching)
      (accepted : s.accepted = some taken) (free : s.desk.outstanding = none) :
      Expects s (.provisioningFinished result)
  | confirmed (resting : s.Resting) : Expects s .consentConfirmed
  | cancelled (resting : s.Resting) : Expects s .consentCancelled
  | proceeded (resting : s.Resting) : Expects s .proceedRequested
  | retried (resting : s.Resting)
      (free : s.state.pendingTicket?.isSome = true → s.desk.outstanding = none) :
      Expects s .retryRequested

/-- An event in a state has the checks run from one on. -/
inductive Begins : AttemptState → AttemptEvent → Precondition → Prop
  | accepted : Begins .init .requestAccepted .notYetProvisioned
  | retried {start : Precondition} (evaluates : Evaluates start) :
      Begins (.checking start) .retryRequested start
  | takenUp {kind : RemediationKind} {id : TicketId} :
      Begins (.awaiting kind id) .retryRequested .network
  | resolved {kind : RemediationKind} {id : TicketId} :
      Begins (.awaiting kind id) (.remediationResolved (.reevaluate .network)) .network

/-- An event in a state ends the attempt for a reason. -/
inductive Ends : AttemptState → AttemptEvent → AbortReason → Prop
  | rejected {rejection : Rejection} :
      Ends .init (.requestRejected rejection) (.invalidRequest rejection)
  | failed {start : Precondition} {reason : AbortReason} (evaluates : Evaluates start) :
      Ends (.checking start) (.preconditionsEvaluated (.abort reason)) reason
  | resolved {kind : RemediationKind} {id : TicketId} {outcome : RemediationOutcome}
      {reason : AbortReason} (signal : kind.resumeSignal outcome = .abort reason) :
      Ends (.awaiting kind id) (.remediationResolved (.abort reason)) reason

/-- An event in a state has the user asked. -/
inductive Prompts : AttemptState → AttemptEvent → Prop
  | required : Prompts .checkingNetwork .consentRequired
  | again : Prompts .awaitingConsent .proceedRequested

/-- What a session does with an event: what it asks and tells, the event that follows or an error,
and the session after it. -/
inductive Move : Session → AttemptEvent → SessionLog → Except SessionError (Option AttemptEvent) →
    Session → Prop
  | ended {s : Session} {event : AttemptEvent} (terminal : s.state.isTerminal = true) :
      Move s event [] (.ok none) s
  | ignored {s : Session} {event : AttemptEvent} (active : s.state.isTerminal = false)
      (unexpected : s.state.transition event = (s.state, [])) :
      Move s event [s.reported s.state] (.ok none) s
  | evaluated {s : Session} {event : AttemptEvent} {taken : AcceptedRequest}
      {start : Precondition} {log : SessionLog} {e : Evaluation}
      (begins : Begins s.state event start) (accepted : s.accepted = some taken)
      (run : Dialogue.Runs (evaluateDevice taken start).run log (.ok e)) :
      Move s event (log ++ [s.reported (.checking start)])
        (.ok (some (.preconditionsEvaluated e.decision))) { s with state := .checking start }
  | notEvaluated {s : Session} {event : AttemptEvent} {taken : AcceptedRequest}
      {start : Precondition} {log : SessionLog} {cause : String}
      (begins : Begins s.state event start) (accepted : s.accepted = some taken)
      (run : Dialogue.Runs (evaluateDevice taken start).run log (.error cause)) :
      Move s event log (.error (.deviceState cause)) s
  | proceeded {s : Session} {taken : AcceptedRequest} {start : Precondition}
      (state : s.state = .checking start) (evaluates : Evaluates start)
      (accepted : s.accepted = some taken) :
      Move s (.preconditionsEvaluated .proceed) [s.reported .checkingNetwork]
        (.ok (some (if s.gate.isRequired taken.params taken.caller then .consentRequired
          else .consentNotRequired)))
        { s with state := .checkingNetwork }
  | aborted {s : Session} {event : AttemptEvent} {reason : AbortReason}
      (ends : Ends s.state event reason) :
      Move s event [⟨.reportAbort s.attempt reason, ()⟩, s.reported (.aborted reason)] (.ok none)
        { s with state := .aborted reason }
  | handedOver {s : Session} {taken : AcceptedRequest} {start : Precondition}
      {kind : RemediationKind} {id : TicketId} (state : s.state = .checking start)
      (evaluates : Evaluates start) (accepted : s.accepted = some taken) :
      Move s (.preconditionsEvaluated (.remediate kind))
        [⟨.freshTicket, id⟩, ⟨.requestRemediation (s.ticket id kind taken), .ok ()⟩,
          s.reported (.checking kind.precondition)]
        (.ok (some (.remediationRequested kind id)))
        { s with
          state := .checking kind.precondition
          desk := ⟨some (s.ticket id kind taken)⟩ }
  | notHandedOver {s : Session} {taken : AcceptedRequest} {start : Precondition}
      {kind : RemediationKind} {id : TicketId} {cause : String} (state : s.state = .checking start)
      (evaluates : Evaluates start) (accepted : s.accepted = some taken) :
      Move s (.preconditionsEvaluated (.remediate kind))
        [⟨.freshTicket, id⟩, ⟨.requestRemediation (s.ticket id kind taken), .error cause⟩]
        (.error (.remediation cause)) s
  | suspended {s : Session} {kind : RemediationKind} {id : TicketId}
      (state : s.state = .checking kind.precondition) :
      Move s (.remediationRequested kind id) [s.reported (.awaiting kind id)] (.ok none)
        { s with state := .awaiting kind id }
  | prompted {s : Session} {event : AttemptEvent} {taken : AcceptedRequest}
      (prompts : Prompts s.state event) (accepted : s.accepted = some taken) :
      Move s event [⟨.presentConsent (s.prompt taken), .ok ()⟩, s.reported .awaitingConsent]
        (.ok none) { s with state := .awaitingConsent }
  | notPrompted {s : Session} {event : AttemptEvent} {taken : AcceptedRequest} {cause : String}
      (prompts : Prompts s.state event) (accepted : s.accepted = some taken) :
      Move s event [⟨.presentConsent (s.prompt taken), .error cause⟩]
        (.error (.consentPrompt cause)) s
  | confirmed {s : Session} {taken : AcceptedRequest} {time : Instant}
      {answer : Except String LaunchResult} (state : s.state = .awaitingConsent)
      (accepted : s.accepted = some taken) :
      Move s .consentConfirmed
        [⟨.currentTime, time⟩, ⟨.saveConsent (s.consentRecord taken time), .ok ()⟩,
          ⟨.launch taken.params, answer⟩, s.reported .launching]
        (.ok (some (.provisioningFinished (launchEnd answer))))
        { s with state := .launching, gate := ⟨true⟩ }
  | notSaved {s : Session} {taken : AcceptedRequest} {time : Instant} {cause : String}
      (state : s.state = .awaitingConsent) (accepted : s.accepted = some taken) :
      Move s .consentConfirmed
        [⟨.currentTime, time⟩, ⟨.saveConsent (s.consentRecord taken time), .error cause⟩]
        (.error (.consentStore cause)) { s with gate := ⟨true⟩ }
  | launched {s : Session} {taken : AcceptedRequest} {answer : Except String LaunchResult}
      (state : s.state = .checkingNetwork) (accepted : s.accepted = some taken) :
      Move s .consentNotRequired [⟨.launch taken.params, answer⟩, s.reported .launching]
        (.ok (some (.provisioningFinished (launchEnd answer)))) { s with state := .launching }
  | finished {s : Session} {result : LaunchResult} (state : s.state = .launching) :
      Move s (.provisioningFinished result) [s.reported (.done result)] (.ok none)
        { s with state := .done result }

/-! ## What each command does -/

section commands

variable {s after : Session} {log : SessionLog} {taken : AcceptedRequest} {α : Type}
  {result : Except SessionError (List AttemptEvent)}

theorem runs_requireAccepted {command : String} {result : Except SessionError α}
    {next : AcceptedRequest → SessionStep α} (accepted : s.accepted = some taken) :
    Runs (requireAccepted command >>= next) s log result after ↔
      Runs (next taken) s log result after := by
  unfold requireAccepted
  rw [bind_assoc, runs_get_bind_iff, accepted]
  exact Iff.rfl

theorem performAll_one (command : AttemptCommand) : performAll [command] = perform command := by
  simp [performAll]

theorem runs_evaluate {start : Precondition} (accepted : s.accepted = some taken)
    (run : Runs (performAll [.evaluate start]) s log result after) :
    ∃ answer, Dialogue.Runs (evaluateDevice taken start).run log answer ∧ after = s ∧
      ((∃ cause, answer = .error cause ∧ result = .error (.deviceState cause)) ∨
        ∃ e, answer = .ok e ∧ result = .ok [.preconditionsEvaluated e.decision]) := by
  rw [performAll_one] at run
  obtain ⟨reached, evaluated, rfl⟩ := runs_map_iff.1 run
  unfold evaluate at evaluated
  rw [runs_requireAccepted accepted] at evaluated
  obtain ⟨first, second, answer, rfl, asked, rest⟩ := runs_lift_bind_iff.1 evaluated
  rcases runs_orFail_bind_iff.1 rest with ⟨e, rfl, ended⟩ | ⟨cause, rfl, rfl, rfl, rfl⟩
  · obtain ⟨rfl, rfl, rfl⟩ := runs_pure_iff.1 ended
    exact ⟨.ok e, by simpa using asked, rfl, .inr ⟨e, rfl, rfl⟩⟩
  · exact ⟨.error cause, by simpa using asked, rfl, .inl ⟨cause, rfl, rfl⟩⟩

theorem runs_beginRemediation {kind : RemediationKind} (accepted : s.accepted = some taken)
    (free : s.desk.outstanding = none)
    (run : Runs (performAll [.beginRemediation kind]) s log result after) :
    ∃ id answer, log = [⟨.freshTicket, id⟩,
        ⟨.requestRemediation (s.ticket id kind taken), answer⟩] ∧
      ((∃ cause, answer = .error cause ∧ result = .error (.remediation cause) ∧ after = s) ∨
        answer = .ok () ∧ result = .ok [.remediationRequested kind id] ∧
          after = { s with desk := ⟨some (s.ticket id kind taken)⟩ }) := by
  rw [performAll_one] at run
  obtain ⟨reached, begun, rfl⟩ := runs_map_iff.1 run
  unfold beginRemediation at begun
  rw [runs_requireAccepted accepted] at begun
  obtain ⟨id, rest, rfl, asked⟩ := runs_ask_bind_iff.1 begun
  have given : s.desk.begin? id kind s.attempt taken.params =
      .ok (s.ticket id kind taken, ⟨some (s.ticket id kind taken)⟩) := by
    unfold RemediationDesk.begin?
    rw [free]
    rfl
  rw [runs_get_bind_iff, given] at asked
  obtain ⟨answer, later, rfl, ended⟩ := runs_ask_bind_iff.1 (runs_set_bind_iff.1 asked)
  cases answer with
  | ok done =>
    obtain ⟨rfl, rfl, rfl⟩ := runs_pure_iff.1 ended
    exact ⟨id, .ok (), rfl, .inr ⟨rfl, rfl, rfl⟩⟩
  | error cause =>
    obtain ⟨rfl, rfl, rfl⟩ := runs_throw_iff.1 (runs_modify_bind_iff.1 ended)
    refine ⟨id, .error cause, rfl, .inl ⟨cause, rfl, rfl, ?_⟩⟩
    -- A desk with no ticket out is the empty desk.
    have empty : s.desk = .empty := congrArg RemediationDesk.mk free
    rw [RemediationDesk.abandon, ← empty]

theorem runs_consultConsent (accepted : s.accepted = some taken)
    (run : Runs (performAll [.consultConsent]) s log result after) :
    log = [] ∧ after = s ∧
      result = .ok [if s.gate.isRequired taken.params taken.caller then .consentRequired
        else .consentNotRequired] := by
  rw [performAll_one] at run
  obtain ⟨reached, consulted, rfl⟩ := runs_map_iff.1 run
  unfold consultConsent at consulted
  rw [runs_requireAccepted accepted, runs_get_bind_iff] at consulted
  obtain ⟨rfl, rfl, rfl⟩ := runs_pure_iff.1 consulted
  exact ⟨rfl, rfl, rfl⟩

theorem runs_presentConsent (accepted : s.accepted = some taken)
    (run : Runs (performAll [.presentConsent]) s log result after) :
    ∃ answer, log = [⟨.presentConsent (s.prompt taken), answer⟩] ∧ after = s ∧
      ((∃ cause, answer = .error cause ∧ result = .error (.consentPrompt cause)) ∨
        answer = .ok () ∧ result = .ok []) := by
  rw [performAll_one] at run
  obtain ⟨reached, presented, rfl⟩ := (runs_map_iff (f := fun _ => [])).1 run
  unfold presentConsent at presented
  rw [runs_requireAccepted accepted, runs_get_bind_iff] at presented
  obtain ⟨answer, rest, rfl, ended⟩ := runs_ask_bind_iff.1 presented
  cases answer with
  | ok done =>
    obtain ⟨rfl, rfl, rfl⟩ := runs_pure_iff.1 ended
    exact ⟨.ok (), rfl, rfl, .inr ⟨rfl, rfl⟩⟩
  | error cause =>
    obtain ⟨rfl, rfl, rfl⟩ := runs_throw_iff.1 ended
    exact ⟨.error cause, rfl, rfl, .inl ⟨cause, rfl, rfl⟩⟩

theorem runs_launch (accepted : s.accepted = some taken)
    (run : Runs (performAll [.launchProvisioning]) s log result after) :
    ∃ answer, log = [⟨.launch taken.params, answer⟩] ∧ after = s ∧
      result = .ok [.provisioningFinished (launchEnd answer)] := by
  rw [performAll_one] at run
  obtain ⟨reached, launched, rfl⟩ := runs_map_iff.1 run
  unfold launch at launched
  rw [runs_requireAccepted accepted] at launched
  obtain ⟨answer, rest, rfl, ended⟩ := runs_ask_bind_iff.1 launched
  cases answer <;> obtain ⟨rfl, rfl, rfl⟩ := runs_pure_iff.1 ended <;> exact ⟨_, rfl, rfl, rfl⟩

theorem runs_persistConsent {result : Except SessionError Unit}
    (accepted : s.accepted = some taken) (run : Runs persistConsent s log result after) :
    after = { s with gate := ⟨true⟩ } ∧ ∃ time answer,
      log = [⟨.currentTime, time⟩, ⟨.saveConsent (s.consentRecord taken time), answer⟩] ∧
      ((∃ cause, answer = .error cause ∧ result = .error (.consentStore cause)) ∨
        answer = .ok () ∧ result = .ok ()) := by
  unfold persistConsent at run
  rw [runs_requireAccepted accepted, runs_modify_bind_iff, runs_get_bind_iff] at run
  obtain ⟨time, rest, rfl, asked⟩ := runs_ask_bind_iff.1 run
  obtain ⟨answer, later, rfl, ended⟩ := runs_ask_bind_iff.1 asked
  cases answer with
  | ok done =>
    obtain ⟨rfl, rfl, rfl⟩ := runs_pure_iff.1 ended
    exact ⟨rfl, time, .ok (), rfl, .inr ⟨rfl, rfl⟩⟩
  | error cause =>
    obtain ⟨rfl, rfl, rfl⟩ := runs_throw_iff.1 ended
    exact ⟨rfl, time, .error cause, rfl, .inl ⟨cause, rfl, rfl⟩⟩

theorem runs_reportAbort {reason : AbortReason}
    (run : Runs (performAll [.reportAbort reason]) s log result after) :
    log = [⟨.reportAbort s.attempt reason, ()⟩] ∧ result = .ok [] ∧ after = s := by
  rw [performAll_one] at run
  obtain ⟨reached, told, rfl⟩ := (runs_map_iff (f := fun _ => [])).1 run
  unfold reportAbort at told
  rw [runs_get_bind_iff] at told
  obtain ⟨answer, rfl, rfl, rfl⟩ := runs_ask_iff.1 told
  exact ⟨rfl, rfl, rfl⟩

end commands

/-! ## Handling an event -/

theorem Begins.transition {state : AttemptState} {event : AttemptEvent} {start : Precondition}
    (begins : Begins state event start) :
    state.transition event = (.checking start, [.evaluate start]) ∧ state.isTerminal = false := by
  cases begins with
  | accepted => exact ⟨rfl, rfl⟩
  | retried evaluates => cases evaluates <;> exact ⟨rfl, rfl⟩
  | @takenUp kind id => cases kind <;> exact ⟨rfl, rfl⟩
  | @resolved kind id => cases kind <;> exact ⟨rfl, rfl⟩

theorem Ends.transition {state : AttemptState} {event : AttemptEvent} {reason : AbortReason}
    (ends : Ends state event reason) :
    state.transition event = (.aborted reason, [.reportAbort reason]) ∧
      state.isTerminal = false := by
  cases ends with
  | rejected => exact ⟨rfl, rfl⟩
  | failed evaluates => cases evaluates <;> exact ⟨rfl, rfl⟩
  | @resolved kind id outcome reason signal => cases kind <;> exact ⟨rfl, rfl⟩

theorem Prompts.transition {state : AttemptState} {event : AttemptEvent}
    (prompts : Prompts state event) :
    state.transition event = (.awaitingConsent, [.presentConsent]) ∧
      state.isTerminal = false := by
  cases prompts <;> exact ⟨rfl, rfl⟩

section handling

variable {s after : Session} {event : AttemptEvent} {log : SessionLog} {taken : AcceptedRequest}
  {result : Except SessionError (List AttemptEvent)} {next : AttemptState}
  {commands : List AttemptCommand} {start : Precondition} {reason : AbortReason}

/-- The commands are carried out first, and the next state is committed unless one of them fails. -/
theorem runs_handle (moves : s.state.transition event = (next, commands))
    (active : s.state.isTerminal = false) (run : Runs (handle event) s log result after) :
    (∃ error, Runs (performAll commands) s log (.error error) after ∧ result = .error error) ∨
      ∃ first followUps middle, log = first ++ [middle.reported next] ∧
        Runs (performAll commands) s first (.ok followUps) middle ∧ result = .ok followUps ∧
        after = { middle with state := next } := by
  unfold handle at run
  rw [runs_get_bind_iff] at run
  simp only [active, moves] at run
  rcases runs_bind_iff.1 run with
    ⟨error, failed, rfl⟩ | ⟨first, second, followUps, middle, rfl, done, rest⟩
  · exact .inl ⟨error, failed, rfl⟩
  · refine .inr ⟨first, followUps, middle, ?_⟩
    unfold commit at rest
    rw [bind_assoc, runs_modify_bind_iff, bind_assoc, runs_get_bind_iff] at rest
    obtain ⟨answer, later, rfl, ended⟩ := runs_ask_bind_iff.1 rest
    obtain ⟨rfl, rfl, rfl⟩ := runs_pure_iff.1 ended
    exact ⟨rfl, done, rfl, rfl⟩

theorem handle_ignored (unexpected : s.state.transition event = (s.state, []))
    (active : s.state.isTerminal = false) (run : Runs (handle event) s log result after) :
    ∃ reached, result = reached.map Option.toList ∧ Move s event log reached after := by
  rcases runs_handle unexpected active run with
    ⟨error, failed, -⟩ | ⟨first, followUps, middle, rfl, done, rfl, rfl⟩
  · obtain ⟨-, same, -⟩ := runs_pure_iff.1 failed
    cases same
  · obtain ⟨rfl, same, rfl⟩ := runs_pure_iff.1 done
    obtain rfl := Except.ok.inj same
    exact ⟨.ok none, rfl, .ignored active unexpected⟩

theorem handle_evaluated (begins : Begins s.state event start)
    (accepted : s.accepted = some taken) (run : Runs (handle event) s log result after) :
    ∃ reached, result = reached.map Option.toList ∧ Move s event log reached after := by
  obtain ⟨moves, active⟩ := begins.transition
  rcases runs_handle moves active run with
    ⟨error, failed, rfl⟩ | ⟨first, followUps, middle, rfl, done, rfl, rfl⟩
  · obtain ⟨answer, asked, rfl, ⟨cause, rfl, same⟩ | ⟨e, rfl, same⟩⟩ :=
      runs_evaluate accepted failed
    · obtain rfl := Except.error.inj same
      exact ⟨_, rfl, .notEvaluated begins accepted asked⟩
    · cases same
  · obtain ⟨answer, asked, rfl, ⟨cause, rfl, same⟩ | ⟨e, rfl, same⟩⟩ :=
      runs_evaluate accepted done
    · cases same
    · obtain rfl := Except.ok.inj same
      exact ⟨_, rfl, .evaluated begins accepted asked⟩

theorem handle_aborted (ends : Ends s.state event reason)
    (run : Runs (handle event) s log result after) :
    ∃ reached, result = reached.map Option.toList ∧ Move s event log reached after := by
  obtain ⟨moves, active⟩ := ends.transition
  rcases runs_handle moves active run with
    ⟨error, failed, -⟩ | ⟨first, followUps, middle, rfl, done, rfl, rfl⟩
  · obtain ⟨-, same, -⟩ := runs_reportAbort failed
    cases same
  · obtain ⟨rfl, same, rfl⟩ := runs_reportAbort done
    obtain rfl := Except.ok.inj same
    exact ⟨.ok none, rfl, .aborted ends⟩

theorem handle_prompted (prompts : Prompts s.state event) (accepted : s.accepted = some taken)
    (run : Runs (handle event) s log result after) :
    ∃ reached, result = reached.map Option.toList ∧ Move s event log reached after := by
  obtain ⟨moves, active⟩ := prompts.transition
  rcases runs_handle moves active run with
    ⟨error, failed, rfl⟩ | ⟨first, followUps, middle, rfl, done, rfl, rfl⟩
  · obtain ⟨answer, rfl, rfl, ⟨cause, rfl, same⟩ | ⟨rfl, same⟩⟩ :=
      runs_presentConsent accepted failed
    · obtain rfl := Except.error.inj same
      exact ⟨_, rfl, .notPrompted prompts accepted⟩
    · cases same
  · obtain ⟨answer, rfl, rfl, ⟨cause, rfl, same⟩ | ⟨rfl, same⟩⟩ :=
      runs_presentConsent accepted done
    · cases same
    · obtain rfl := Except.ok.inj same
      exact ⟨.ok none, rfl, .prompted prompts accepted⟩

theorem handle_decided {decision : Decision} (state : s.state = .checking start)
    (evaluates : Evaluates start) (accepted : s.accepted = some taken)
    (free : s.desk.outstanding = none)
    (run : Runs (handle (.preconditionsEvaluated decision)) s log result after) :
    ∃ reached, result = reached.map Option.toList ∧
      Move s (.preconditionsEvaluated decision) log reached after := by
  have active : s.state.isTerminal = false := by
    rw [state]
    cases evaluates <;> rfl
  have decided : s.state.transition (.preconditionsEvaluated decision) =
      AttemptState.decided decision := by
    rw [state]
    cases evaluates <;> rfl
  cases decision with
  | abort reason =>
    have ends : Ends s.state (.preconditionsEvaluated (.abort reason)) reason := by
      rw [state]
      exact .failed evaluates
    exact handle_aborted ends run
  | proceed =>
    rcases runs_handle decided active run with
      ⟨error, failed, -⟩ | ⟨first, followUps, middle, rfl, done, rfl, rfl⟩
    · obtain ⟨-, -, same⟩ := runs_consultConsent accepted failed
      cases same
    · obtain ⟨rfl, rfl, same⟩ := runs_consultConsent accepted done
      obtain rfl := Except.ok.inj same
      exact ⟨_, rfl, .proceeded state evaluates accepted⟩
  | remediate kind =>
    rcases runs_handle decided active run with
      ⟨error, failed, rfl⟩ | ⟨first, followUps, middle, rfl, done, rfl, rfl⟩
    · obtain ⟨id, answer, rfl, ⟨cause, rfl, same, rfl⟩ | ⟨rfl, same, rfl⟩⟩ :=
        runs_beginRemediation accepted free failed
      · obtain rfl := Except.error.inj same
        exact ⟨_, rfl, .notHandedOver state evaluates accepted⟩
      · cases same
    · obtain ⟨id, answer, rfl, ⟨cause, rfl, same, rfl⟩ | ⟨rfl, same, rfl⟩⟩ :=
        runs_beginRemediation accepted free done
      · cases same
      · obtain rfl := Except.ok.inj same
        exact ⟨.ok (some _), rfl, .handedOver state evaluates accepted⟩

theorem handle_confirmed (state : s.state = .awaitingConsent) (accepted : s.accepted = some taken)
    (run : Runs (handle .consentConfirmed) s log result after) :
    ∃ reached, result = reached.map Option.toList ∧ Move s .consentConfirmed log reached after := by
  have moves : s.state.transition .consentConfirmed =
      (.launching, [.persistConsent, .launchProvisioning]) := by
    rw [state]
    rfl
  have active : s.state.isTerminal = false := by rw [state]; rfl
  have both : performAll [.persistConsent, .launchProvisioning] =
      persistConsent >>= fun _ => performAll [.launchProvisioning] := by
    simp [performAll, perform]
  rcases runs_handle moves active run with
    ⟨error, failed, rfl⟩ | ⟨first, followUps, middle, rfl, done, rfl, rfl⟩
  · rw [both] at failed
    rcases runs_bind_iff.1 failed with
      ⟨other, saved, same⟩ | ⟨first, second, _, middle, rfl, saved, launched⟩
    · obtain rfl := Except.error.inj same
      obtain ⟨rfl, time, answer, rfl, ⟨cause, rfl, same⟩ | ⟨rfl, same⟩⟩ :=
        runs_persistConsent accepted saved
      · obtain rfl := Except.error.inj same
        exact ⟨_, rfl, .notSaved state accepted⟩
      · cases same
    · obtain ⟨rfl, -⟩ := runs_persistConsent accepted saved
      obtain ⟨answer, rfl, rfl, same⟩ :=
        runs_launch (s := { s with gate := ⟨true⟩ }) accepted launched
      cases same
  · rw [both] at done
    rcases runs_bind_iff.1 done with
      ⟨other, saved, same⟩ | ⟨first, second, _, middle, rfl, saved, launched⟩
    · cases same
    · obtain ⟨rfl, time, answer, rfl, ⟨cause, rfl, same⟩ | ⟨rfl, same⟩⟩ :=
        runs_persistConsent accepted saved
      · cases same
      · obtain ⟨end_, rfl, rfl, same⟩ :=
          runs_launch (s := { s with gate := ⟨true⟩ }) accepted launched
        obtain rfl := Except.ok.inj same
        exact ⟨.ok (some _), rfl, .confirmed state accepted⟩

theorem handle_launched (state : s.state = .checkingNetwork) (accepted : s.accepted = some taken)
    (run : Runs (handle .consentNotRequired) s log result after) :
    ∃ reached, result = reached.map Option.toList ∧
      Move s .consentNotRequired log reached after := by
  have moves : s.state.transition .consentNotRequired = (.launching, [.launchProvisioning]) := by
    rw [state]
    rfl
  rcases runs_handle moves (by rw [state]; rfl) run with
    ⟨error, failed, rfl⟩ | ⟨first, followUps, middle, rfl, done, rfl, rfl⟩
  · obtain ⟨answer, rfl, rfl, same⟩ := runs_launch accepted failed
    cases same
  · obtain ⟨answer, rfl, rfl, same⟩ := runs_launch accepted done
    obtain rfl := Except.ok.inj same
    exact ⟨.ok (some _), rfl, .launched state accepted⟩

/-- An event without commands that a state expects. -/
theorem runs_handle_quiet (moves : s.state.transition event = (next, []))
    (active : s.state.isTerminal = false) (run : Runs (handle event) s log result after) :
    log = [s.reported next] ∧ result = .ok [] ∧ after = { s with state := next } := by
  rcases runs_handle moves active run with
    ⟨error, failed, -⟩ | ⟨first, followUps, middle, rfl, done, rfl, rfl⟩
  · obtain ⟨-, same, -⟩ := runs_pure_iff.1 failed
    cases same
  · obtain ⟨rfl, same, rfl⟩ := runs_pure_iff.1 done
    obtain rfl := Except.ok.inj same
    exact ⟨rfl, rfl, rfl⟩

/-- An expected event is handled by one of the moves. -/
theorem handle_move (expects : s.Expects event) (run : Runs (handle event) s log result after) :
    ∃ reached, result = reached.map Option.toList ∧ Move s event log reached after := by
  by_cases terminal : s.state.isTerminal = true
  · unfold handle at run
    rw [runs_get_bind_iff] at run
    simp only [terminal] at run
    obtain ⟨rfl, rfl, rfl⟩ := runs_pure_iff.1 run
    exact ⟨.ok none, rfl, .ended terminal⟩
  have active : s.state.isTerminal = false := Bool.eq_false_iff.2 terminal
  cases expects with
  | requestAccepted state accepted free =>
    have begins : Begins s.state .requestAccepted .notYetProvisioned := by
      rw [state]
      exact .accepted
    exact handle_evaluated begins accepted run
  | @requestRejected rejection state free =>
    have ends : Ends s.state (.requestRejected rejection) (.invalidRequest rejection) := by
      rw [state]
      exact .rejected
    exact handle_aborted ends run
  | evaluated state evaluates accepted free evaluation decided =>
    exact handle_decided state evaluates accepted free run
  | @handedOver taken kind id state accepted out =>
    have moves : s.state.transition (.remediationRequested kind id) =
        (.awaiting kind id, []) := by
      rw [state]
      cases kind <;> rfl
    obtain ⟨rfl, rfl, rfl⟩ := runs_handle_quiet moves active run
    exact ⟨.ok none, rfl, .suspended state⟩
  | @resolved kind id outcome taken signal state accepted free resolves =>
    cases signal with
    | abort reason =>
      have ends : Ends s.state (.remediationResolved (.abort reason)) reason := by
        rw [state]
        exact .resolved resolves
      exact handle_aborted ends run
    | reevaluate start =>
      obtain rfl := RemediationKind.reevaluate_network resolves
      have begins : Begins s.state (.remediationResolved (.reevaluate .network)) .network := by
        rw [state]
        exact .resolved
      exact handle_evaluated begins accepted run
  | consentRequired state accepted free required =>
    refine handle_prompted ?_ accepted run
    rw [state]
    exact .required
  | consentNotRequired state accepted free unneeded => exact handle_launched state accepted run
  | @finished taken result state accepted free =>
    have moves : s.state.transition (.provisioningFinished result) = (.done result, []) := by
      rw [state]
      rfl
    obtain ⟨rfl, rfl, rfl⟩ := runs_handle_quiet moves active run
    exact ⟨.ok none, rfl, .finished state⟩
  | confirmed resting =>
    by_cases state : s.state = .awaitingConsent
    · obtain ⟨taken, accepted⟩ := resting.taken (by rw [state]; rfl)
      exact handle_confirmed state accepted run
    · exact handle_ignored (by simp [AttemptState.transition, state]) active run
  | cancelled resting => exact handle_ignored rfl active run
  | proceeded resting =>
    by_cases state : s.state = .awaitingConsent
    · obtain ⟨taken, accepted⟩ := resting.taken (by rw [state]; rfl)
      refine handle_prompted ?_ accepted run
      rw [state]
      exact .again
    · exact handle_ignored (by simp [AttemptState.transition, state]) active run
  | retried resting free =>
    cases state : s.state with
    | init => exact handle_ignored (by rw [state]; rfl) active run
    | checkingOwnershipProvisioned =>
      obtain ⟨taken, accepted⟩ := resting.taken (by rw [state]; rfl)
      have begins : Begins s.state .retryRequested .notYetProvisioned := by
        rw [state]
        exact .retried .ownership
      exact handle_evaluated begins accepted run
    | checkingFactoryResetProtection =>
      have rests := resting.state
      rw [state] at rests
      cases rests
    | checkingEncryption =>
      have rests := resting.state
      rw [state] at rests
      cases rests
    | awaitingEncryptionRemediation id =>
      obtain ⟨taken, accepted⟩ := resting.taken (by rw [state]; rfl)
      have waits : Begins (.awaiting .encryption id) .retryRequested .network := .takenUp
      have begins : Begins s.state .retryRequested .network := by
        rw [state]
        exact waits
      exact handle_evaluated begins accepted run
    | checkingNetwork =>
      obtain ⟨taken, accepted⟩ := resting.taken (by rw [state]; rfl)
      have begins : Begins s.state .retryRequested .network := by
        rw [state]
        exact .retried .network
      exact handle_evaluated begins accepted run
    | awaitingNetworkRemediation id =>
      obtain ⟨taken, accepted⟩ := resting.taken (by rw [state]; rfl)
      have waits : Begins (.awaiting .network id) .retryRequested .network := .takenUp
      have begins : Begins s.state .retryRequested .network := by
        rw [state]
        exact waits
      exact handle_evaluated begins accepted run
    | awaitingConsent => exact handle_ignored (by rw [state]; rfl) active run
    | launching =>
      have rests := resting.state
      rw [state] at rests
      cases rests
    | aborted reason => rw [state] at active; cases active
    | done result => rw [state] at active; cases active

end handling

/-! ## What a move leaves -/

section leaving

variable {s after : Session} {event follower : AttemptEvent} {log : SessionLog}
  {error : SessionError} {start : Precondition} {reason : AbortReason} {taken : AcceptedRequest}

theorem Begins.evaluates {state : AttemptState} (begins : Begins state event start) :
    Evaluates start := by
  cases begins with
  | accepted => exact .ownership
  | retried evaluates => exact evaluates
  | takenUp => exact .network
  | resolved => exact .network

theorem Expects.active_or_resting (expects : s.Expects event) :
    s.state.isTerminal = false ∨ s.Resting := by
  cases expects with
  | requestAccepted state => exact .inl (by rw [state]; rfl)
  | requestRejected state => exact .inl (by rw [state]; rfl)
  | evaluated state evaluates => exact .inl (by rw [state]; cases evaluates <;> rfl)
  | @handedOver _ kind _ state => exact .inl (by rw [state]; cases kind <;> rfl)
  | @resolved kind _ _ _ _ state => exact .inl (by rw [state]; cases kind <;> rfl)
  | consentRequired state => exact .inl (by rw [state]; rfl)
  | consentNotRequired state => exact .inl (by rw [state]; rfl)
  | finished state => exact .inl (by rw [state]; rfl)
  | confirmed resting => exact .inr resting
  | cancelled resting => exact .inr resting
  | proceeded resting => exact .inr resting
  | retried resting => exact .inr resting

/-- No ticket is out when checks are run. -/
theorem Begins.free (begins : Begins s.state event start) (expects : s.Expects event) :
    s.desk.outstanding = none := by
  generalize state : s.state = reached at begins
  cases begins with
  | accepted =>
    cases expects with
    | requestAccepted _ _ free => exact free
  | retried evaluates =>
    cases expects with
    | retried resting => exact resting.free (by rw [state]; cases evaluates <;> rfl)
  | @takenUp kind id =>
    cases expects with
    | retried resting free => exact free (by rw [state, AttemptState.pendingTicket?_awaiting]; rfl)
  | resolved =>
    cases expects with
    | resolved _ _ free => exact free

/-- No ticket is out when an attempt ends early. -/
theorem Ends.free (ends : Ends s.state event reason) (expects : s.Expects event) :
    s.desk.outstanding = none := by
  generalize s.state = reached at ends
  cases ends with
  | rejected =>
    cases expects with
    | requestRejected _ free => exact free
  | failed evaluates =>
    cases expects with
    | evaluated _ _ _ free => exact free
  | resolved signal =>
    cases expects with
    | resolved _ _ free => exact free

/-- No ticket is out when the user is asked. -/
theorem Prompts.free (prompts : Prompts s.state event) (expects : s.Expects event) :
    s.desk.outstanding = none := by
  generalize state : s.state = reached at prompts
  cases prompts with
  | required =>
    cases expects with
    | consentRequired _ _ free => exact free
  | again =>
    cases expects with
    | proceeded resting => exact resting.free (by rw [state]; rfl)

/-- A session in another state, with no ticket out. -/
theorem Resting.of_free {state : AttemptState} (free : s.desk.outstanding = none)
    (settled : state.rests = true)
    (accepted : state = .init ∨ state.isTerminal = true ∨ ∃ taken, s.accepted = some taken) :
    Resting { s with state } where
  state := settled
  accepted := accepted
  desk ticket out := by
    rw [show s.desk.outstanding = some ticket from out] at free
    cases free

/-- What is ignored can only be a call that has no effect in the state. -/
theorem Expects.resting_of_ignored (expects : s.Expects event)
    (unexpected : s.state.transition event = (s.state, [])) : s.Resting := by
  have states := congrArg Prod.fst unexpected
  have commands := congrArg Prod.snd unexpected
  cases expects with
  | requestAccepted state => rw [state] at commands; cases commands
  | requestRejected state => rw [state] at commands; cases commands
  | @evaluated _ _ _ _ decision state evaluates =>
    rw [state] at commands
    cases evaluates <;> cases decision <;> cases commands
  | @handedOver _ kind _ state => rw [state] at states; cases kind <;> cases states
  | @resolved kind _ _ _ signal state =>
    rw [state] at commands
    cases kind <;> cases signal <;> cases commands
  | consentRequired state => rw [state] at commands; cases commands
  | consentNotRequired state => rw [state] at commands; cases commands
  | finished state => rw [state] at states; cases states
  | confirmed resting => exact resting
  | cancelled resting => exact resting
  | proceeded resting => exact resting
  | retried resting => exact resting

theorem Move.resting (move : Move s event log (.ok none) after) (expects : s.Expects event) :
    after.Resting := by
  cases move with
  | ended terminal =>
    rcases expects.active_or_resting with active | resting
    · rw [active] at terminal
      cases terminal
    · exact resting
  | ignored active unexpected => exact expects.resting_of_ignored unexpected
  | aborted ends => exact .of_free (ends.free expects) rfl (.inr (.inl rfl))
  | @suspended kind id state =>
    cases expects with
    | @handedOver taken _ _ _ accepted out =>
      refine ⟨AttemptState.rests_awaiting kind id, .inr (.inr ⟨taken, accepted⟩), ?_⟩
      intro ticket same
      obtain rfl := Option.some.inj (out.symm.trans same)
      exact ⟨rfl, taken, accepted, rfl⟩
  | prompted prompts accepted =>
    exact .of_free (prompts.free expects) rfl (.inr (.inr ⟨_, accepted⟩))
  | finished state =>
    cases expects with
    | finished _ _ free => exact .of_free free rfl (.inr (.inl rfl))

/-- A session in the state it was in, with no ticket out. -/
theorem Begins.resting (begins : Begins s.state event start) (expects : s.Expects event)
    (accepted : s.accepted = some taken) : s.Resting := by
  refine .of_free (begins.free expects) ?_ (.inr (.inr ⟨taken, accepted⟩))
  generalize s.state = reached at begins
  cases begins with
  | accepted => rfl
  | retried evaluates => cases evaluates <;> rfl
  | takenUp => exact AttemptState.rests_awaiting _ _
  | resolved => exact AttemptState.rests_awaiting _ _

/-- Whatever fails leaves a session that a later call can take up. -/
theorem Move.resting_of_error (move : Move s event log (.error error) after)
    (expects : s.Expects event) : after.Resting := by
  cases move with
  | notEvaluated begins accepted => exact begins.resting expects accepted
  | notHandedOver state evaluates accepted =>
    cases expects with
    | evaluated _ _ _ free =>
      refine .of_free free ?_ (.inr (.inr ⟨_, accepted⟩))
      rw [state]
      cases evaluates <;> rfl
  | notPrompted prompts accepted =>
    refine .of_free (prompts.free expects) ?_ (.inr (.inr ⟨_, accepted⟩))
    generalize s.state = reached at prompts
    cases prompts <;> rfl
  | notSaved state accepted =>
    cases expects with
    | confirmed resting =>
      have free := resting.free (by rw [state]; rfl)
      refine ⟨resting.state, .inr (.inr ⟨_, accepted⟩), ?_⟩
      intro ticket out
      rw [show s.desk.outstanding = some ticket from out] at free
      cases free

theorem Move.expects (move : Move s event log (.ok (some follower)) after)
    (expects : s.Expects event) : after.Expects follower := by
  cases move with
  | evaluated begins accepted run =>
    exact .evaluated rfl begins.evaluates accepted (begins.free expects) run rfl
  | proceeded state evaluates accepted =>
    cases expects with
    | evaluated _ _ _ free =>
      split
      · rename_i required
        exact .consentRequired rfl accepted free required
      · rename_i unneeded
        exact .consentNotRequired rfl accepted free (Bool.eq_false_iff.2 unneeded)
  | handedOver state evaluates accepted => exact .handedOver rfl accepted rfl
  | confirmed state accepted =>
    cases expects with
    | confirmed resting => exact .finished rfl accepted (resting.free (by rw [state]; rfl))
  | launched state accepted =>
    cases expects with
    | consentNotRequired _ _ free => exact .finished rfl accepted free

end leaving

end Session

end ProvisionGate
