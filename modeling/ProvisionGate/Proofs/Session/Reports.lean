import ProvisionGate.Proofs.Session.Progress

/-!
# What a session reports

A session tells others where its attempt stands in three ways: it answers calls, it reports the
states that it commits, and it reports an end without a launch.  Between two calls the three agree
with its state.  `EndReported` is what is kept of the reports of an end, and `Call.of_terminal`
shows that nothing happens any more once an attempt is at its end.
-/

namespace ProvisionGate

/-- An end without a launch is reported, by itself or as the state of the attempt. -/
def Moment.TellsAbort : Moment → Prop
  | .exchanged ⟨.reportAbort _ _, _⟩ | .exchanged ⟨.reportState _ (.aborted _), _⟩ => True
  | _ => False

/-- The answer to a call in a state in which an attempt is at its end. -/
def Operation.lastAnswer : Operation → AttemptState → Except SessionError AttemptOutcome
  | start _, state => .error (.alreadyStarted state)
  | remediated id _, _ => .error (.desk (.unknownTicket id))
  | _, state => .ok state.outcome

namespace Session

open SessionStep

/-- The state that was committed last, or the one before any request. -/
def lastCommitted (past : List Moment) : AttemptState :=
  (committed past).getLastD .init

/-- An end without a launch is reported once and at once: first its reason, then the state with the
same reason, and nothing of an end before or after. -/
inductive EndReported (past : List Moment) (s : Session) : Prop
  | none (state : ∀ reason, s.state ≠ .aborted reason) (silent : ∀ m ∈ past, ¬ m.TellsAbort)
  | once {reason : AbortReason} {before since : List Moment} (state : s.state = .aborted reason)
      (told : past = before ++ .exchanged ⟨.reportAbort s.attempt reason, ()⟩ ::
        .exchanged ⟨.reportState s.attempt (.aborted reason), ()⟩ :: since)
      (first : ∀ m ∈ before, ¬ m.TellsAbort) (last : ∀ m ∈ since, ¬ m.TellsAbort)

variable {s after : Session} {operation : Operation} {event : AttemptEvent}
  {log : SessionLog} {past later : List Moment} {attempt : AttemptId}
  {reached : Except SessionError (AttemptOutcome ⊕ AttemptEvent)}
  {moved : Except SessionError (Option AttemptEvent)} {start : Precondition}
  {reason : AbortReason}

/-! ## At the end of an attempt -/

theorem Begins.active {state : AttemptState} (begins : Begins state event start) :
    state.isTerminal = false := by
  cases begins with
  | accepted => rfl
  | retried => exact AttemptState.isTerminal_checking _
  | takenUp => exact AttemptState.isTerminal_awaiting _ _
  | resolved => exact AttemptState.isTerminal_awaiting _ _

theorem Ends.active {state : AttemptState} (ends : Ends state event reason) :
    state.isTerminal = false := by
  cases ends with
  | rejected => rfl
  | failed => exact AttemptState.isTerminal_checking _
  | resolved => exact AttemptState.isTerminal_awaiting _ _

theorem Prompts.active {state : AttemptState} (prompts : Prompts state event) :
    state.isTerminal = false := by
  cases prompts <;> rfl

/-- At the end of an attempt no event has an effect. -/
theorem Move.of_terminal (move : Move s event log moved after)
    (terminal : s.state.isTerminal = true) : log = [] ∧ moved = .ok none ∧ after = s := by
  have running {P : Prop} (active : s.state.isTerminal = false) : P := by
    rw [active] at terminal
    cases terminal
  cases move with
  | ended => exact ⟨rfl, rfl, rfl⟩
  | ignored active => exact running active
  | evaluated begins => exact running begins.active
  | notEvaluated begins => exact running begins.active
  | proceeded state => exact running (state ▸ AttemptState.isTerminal_checking _)
  | aborted ends => exact running ends.active
  | handedOver state => exact running (state ▸ AttemptState.isTerminal_checking _)
  | notHandedOver state => exact running (state ▸ AttemptState.isTerminal_checking _)
  | suspended state => exact running (state ▸ AttemptState.isTerminal_checking _)
  | prompted prompts => exact running prompts.active
  | notPrompted prompts => exact running prompts.active
  | confirmed state => exact running (state ▸ rfl)
  | notSaved state => exact running (state ▸ rfl)
  | launched state => exact running (state ▸ rfl)
  | finished state => exact running (state ▸ rfl)

theorem Chain.of_terminal {result : Except SessionError Unit}
    (chain : Chain s event log result after) (terminal : s.state.isTerminal = true) :
    log = [] ∧ result = .ok () ∧ after = s := by
  cases chain with
  | stopped move =>
    obtain ⟨rfl, -, rfl⟩ := move.of_terminal terminal
    exact ⟨rfl, rfl, rfl⟩
  | failed move =>
    obtain ⟨-, same, -⟩ := move.of_terminal terminal
    cases same
  | followed move rest =>
    obtain ⟨-, same, -⟩ := move.of_terminal terminal
    cases same

/-- At the end of an attempt a call has nothing to ask before its first event, and either ends with
its last answer or comes to an event, which has no effect. -/
theorem Opening.of_terminal (opening : Opening operation s log reached after)
    (resting : s.Resting) (terminal : s.state.isTerminal = true) :
    log = [] ∧ after = s ∧
      reached.map (Sum.elim id fun _ => s.state.outcome) = operation.lastAnswer s.state := by
  have fresh {P : Prop} (state : s.state = .init) : P := by
    rw [state] at terminal
    cases terminal
  cases opening with
  | rejected state => exact fresh state
  | callerUnknown state => exact fresh state
  | notCleared state => exact fresh state
  | notLoaded state => exact fresh state
  | acceptedAnew state => exact fresh state
  | acceptedAgain state => exact fresh state
  | resolved out =>
    obtain ⟨state, -⟩ := resting.desk _ out
    rw [state, AttemptState.isTerminal_awaiting] at terminal
    cases terminal
  | _ => exact ⟨rfl, rfl, rfl⟩

/-- At the end of an attempt a call asks and tells nothing, changes nothing and gives its last
answer. -/
theorem Call.of_terminal {result : Except SessionError AttemptOutcome}
    (call : Call operation s log result after) (resting : s.Resting)
    (terminal : s.state.isTerminal = true) :
    log = [] ∧ result = operation.lastAnswer s.state ∧ after = s := by
  cases call with
  | refused opening =>
    obtain ⟨rfl, rfl, answer⟩ := opening.of_terminal resting terminal
    exact ⟨rfl, answer, rfl⟩
  | answered opening =>
    obtain ⟨rfl, rfl, answer⟩ := opening.of_terminal resting terminal
    exact ⟨rfl, answer, rfl⟩
  | driven opening chain =>
    obtain ⟨rfl, rfl, answer⟩ := opening.of_terminal resting terminal
    obtain ⟨rfl, rfl, rfl⟩ := chain.of_terminal terminal
    exact ⟨rfl, answer, rfl⟩

/-- Every call comes to an end, whatever it is told. -/
theorem exists_runs (operation : Operation) (s : Session) :
    ∃ log result after, Runs operation.step s log result after :=
  ⟨_, _, _, Dialogue.runs_answered obliging (operation.step.run.run s)⟩

/-- At the end of an attempt there is one way in which a call can run. -/
theorem Resting.runs_iff_of_terminal {result : Except SessionError AttemptOutcome}
    (resting : s.Resting) (terminal : s.state.isTerminal = true) :
    Runs operation.step s log result after ↔
      log = [] ∧ result = operation.lastAnswer s.state ∧ after = s := by
  constructor
  · intro run
    exact (Call.of_runs resting run).of_terminal resting terminal
  · rintro ⟨rfl, rfl, rfl⟩
    obtain ⟨log, result, later, run⟩ := exists_runs operation after
    obtain ⟨rfl, rfl, rfl⟩ := (Call.of_runs resting run).of_terminal resting terminal
    exact run

/-! ## What is kept of the reports -/

theorem lastCommitted_append (quiet : committed later = []) :
    lastCommitted (past ++ later) = lastCommitted past := by
  rw [lastCommitted, committed_append, quiet, List.append_nil]
  rfl

theorem Move.lastCommitted_eq (move : Move s event log moved after)
    (agrees : lastCommitted past = s.state) :
    lastCommitted (past ++ moments log) = after.state := by
  rcases move.committed_cases with last | ⟨none, same⟩
  · rw [lastCommitted, committed_append, last]
    simp
  · rw [lastCommitted_append none, agrees, same]

theorem reported_silent {state : AttemptState} (active : state.isTerminal = false) :
    ¬ (Moment.exchanged (s.reported state)).TellsAbort := by
  cases state with
  | aborted reason => cases active
  | _ => exact id

/-- A move reports an end without a launch and leads there, or does neither. -/
theorem Move.abort_cases (move : Move s event log moved after) :
    (∃ reason, s.state.isTerminal = false ∧ after = { s with state := .aborted reason } ∧
        moments log = [.exchanged ⟨.reportAbort s.attempt reason, ()⟩,
          .exchanged ⟨.reportState s.attempt (.aborted reason), ()⟩]) ∨
      (∀ m ∈ moments log, ¬ m.TellsAbort) ∧
        ∀ reason, after.state = .aborted reason → s.state = .aborted reason := by
  have leads {state : AttemptState} (active : state.isTerminal = false) (reason : AbortReason) :
      state = .aborted reason → s.state = .aborted reason := by
    rintro rfl
    cases active
  cases move with
  | ended terminal => exact .inr ⟨by simp, fun _ => id⟩
  | ignored active => exact .inr ⟨by simpa using reported_silent active, fun _ => id⟩
  | evaluated begins accepted run =>
    refine .inr ⟨?_, leads (AttemptState.isTerminal_checking _)⟩
    rw [moments_append]
    refine List.forall_mem_append.2 ⟨forall_device run fun _ _ => id, ?_⟩
    simpa using reported_silent (AttemptState.isTerminal_checking _)
  | notEvaluated begins accepted run =>
    exact .inr ⟨forall_device run fun _ _ => id, fun _ => id⟩
  | aborted ends => exact .inl ⟨_, ends.active, rfl, rfl⟩
  | handedOver =>
    refine .inr ⟨?_, leads (AttemptState.isTerminal_checking _)⟩
    simpa [Moment.TellsAbort] using reported_silent (AttemptState.isTerminal_checking _)
  | suspended =>
    refine .inr ⟨?_, leads (AttemptState.isTerminal_awaiting _ _)⟩
    simpa using reported_silent (AttemptState.isTerminal_awaiting _ _)
  | proceeded => exact .inr ⟨by simp [Moment.TellsAbort, reported], leads rfl⟩
  | notHandedOver => exact .inr ⟨by simp [Moment.TellsAbort], fun _ => id⟩
  | prompted => exact .inr ⟨by simp [Moment.TellsAbort, reported], leads rfl⟩
  | notPrompted => exact .inr ⟨by simp [Moment.TellsAbort], fun _ => id⟩
  | confirmed => exact .inr ⟨by simp [Moment.TellsAbort, reported], leads rfl⟩
  | notSaved => exact .inr ⟨by simp [Moment.TellsAbort], fun _ => id⟩
  | launched => exact .inr ⟨by simp [Moment.TellsAbort, reported], leads rfl⟩
  | finished => exact .inr ⟨by simp [Moment.TellsAbort, reported], by simp⟩

theorem EndReported.append (ends : EndReported past s) (same : after.attempt = s.attempt)
    (state : after.state = s.state) (silent : ∀ m ∈ later, ¬ m.TellsAbort) :
    EndReported (past ++ later) after := by
  cases ends with
  | none active quiet =>
    exact .none (by rwa [state]) (List.forall_mem_append.2 ⟨quiet, silent⟩)
  | @once reason before since aborted told first last =>
    refine .once (state.trans aborted) ?_ first (List.forall_mem_append.2 ⟨last, silent⟩)
    rw [told, same, List.append_assoc, List.cons_append, List.cons_append]

theorem EndReported.move (ends : EndReported past s) (move : Move s event log moved after) :
    EndReported (past ++ moments log) after := by
  cases ends with
  | none active quiet =>
    rcases move.abort_cases with ⟨reason, -, rfl, told⟩ | ⟨silent, leads⟩
    · exact .once rfl (by rw [told]) quiet (by simp)
    · exact .none (fun reason aborted => active reason (leads reason aborted))
        (List.forall_mem_append.2 ⟨quiet, silent⟩)
  | once aborted told first last =>
    obtain ⟨rfl, -, rfl⟩ := move.of_terminal (by rw [aborted]; rfl)
    exact (EndReported.once aborted told first last).append rfl rfl (by simp)

theorem EndReported.opening (ends : EndReported past s) (resting : s.Resting)
    (opening : Opening operation s log reached after) :
    EndReported (past ++ .called operation s :: moments log) after := by
  have silent : ∀ m ∈ .called operation s :: moments log, ¬ m.TellsAbort :=
    opening.forall_moments id (fun _ => id) (fun _ => id) (fun _ => id) fun _ _ _ => id
  cases ends with
  | none active quiet =>
    refine .none ?_ (List.forall_mem_append.2 ⟨quiet, silent⟩)
    rwa [opening.same_state]
  | once aborted told first last =>
    obtain ⟨rfl, rfl, -⟩ := opening.of_terminal resting (by rw [aborted]; rfl)
    exact (EndReported.once aborted told first last).append rfl rfl silent

theorem reports_kept :
    Kept fun past s _ => lastCommitted past = s.state ∧ EndReported past s where
  opening := by
    rintro past s after operation log reached resting ⟨agrees, ends⟩ opening
    refine ⟨?_, ends.opening resting opening⟩
    rw [lastCommitted_append opening.not_committed, agrees, opening.same_state]
  move := by
    rintro past s after event log reached expects ⟨agrees, ends⟩ move
    exact ⟨move.lastCommitted_eq agrees, ends.move move⟩
  returned := by
    rintro past s result resting ⟨agrees, ends⟩
    refine ⟨?_, ends.append rfl rfl (by simp [Moment.TellsAbort])⟩
    rw [lastCommitted_append rfl, agrees]

theorem History.reports (history : History attempt past s) :
    lastCommitted past = s.state ∧ EndReported past s := by
  have ends : EndReported [.opened attempt] (Session.opened attempt) :=
    .none (by simp [Session.opened]) (by simp [Moment.TellsAbort])
  have first : lastCommitted ([] ++ [.opened attempt]) = (Session.opened attempt).state ∧
      EndReported ([] ++ [.opened attempt]) (Session.opened attempt) := ⟨rfl, ends⟩
  exact history.keeps reports_kept first

/-- A call that succeeds tells where it left the attempt. -/
theorem Call.outcome_eq {outcome : AttemptOutcome}
    (call : Call operation s log (.ok outcome) after) : outcome = after.state.outcome := by
  generalize returned : (Except.ok outcome : Except SessionError AttemptOutcome) = result at call
  cases call with
  | refused opening => cases returned
  | answered opening =>
    obtain rfl := Except.ok.inj returned
    cases opening with
    | stillOut => rfl
  | @driven _ _ _ _ _ _ _ result opening chain =>
    cases result with
    | error error => cases returned
    | ok done => exact Except.ok.inj returned

/-- Every outcome that was returned is the one of the state committed last before. -/
theorem History.outcomes (history : History attempt past s) :
    Throughout (fun before m => ∀ outcome, m = .returned (.ok outcome) →
      outcome = (lastCommitted before).outcome) past := by
  induction history with
  | opened => simp
  | @call past s after operation log result history run ih =>
    have call := Call.of_runs history.resting run
    obtain ⟨agrees, -⟩ := (History.call history run).reports
    rw [lastCommitted_append rfl] at agrees
    refine Throughout.append_iff.2 ⟨Throughout.append_iff.2 ⟨ih, ?_⟩, ?_⟩
    · refine Throughout.of_forall fun m member before outcome returned => ?_
      subst returned
      rcases List.mem_cons.1 member with same | exchanged
      · cases same
      · obtain ⟨x, -, same⟩ := List.mem_map.1 exchanged
        cases same
    · rw [Throughout.cons_iff, List.append_nil, agrees]
      refine ⟨?_, .nil⟩
      rintro outcome same
      cases same
      exact call.outcome_eq

/-- What a session told up to a time between two calls, and what it will tell once its attempt is
at its end. -/
structure ReportsAgree (past : List Moment) (s : Session) : Prop where
  state : s.state = lastCommitted past
  outcomes : Throughout (fun before m => ∀ outcome, m = .returned (.ok outcome) →
    outcome = (lastCommitted before).outcome) past
  ends : EndReported past s
  final : s.state.isTerminal = true → ∀ operation log result after,
    Runs (Operation.step operation) s log result after ↔
      log = [] ∧ result = operation.lastAnswer s.state ∧ after = s

/-- The states that are committed, the outcomes that are returned and the reports of an end agree,
and after an end nothing is asked, told or changed any more. -/
theorem reports_agree (history : History attempt past s) : ReportsAgree past s where
  state := history.reports.1.symm
  outcomes := history.outcomes
  ends := history.reports.2
  final terminal _ _ _ _ := history.resting.runs_iff_of_terminal terminal

/-- An attempt whose encryption the user cancels, and that is called again after it. -/
def cancelledAttempt : List Moment × Session :=
  driven obliging [.remediated ⟨"ticket"⟩ .cancelled, .confirmConsent, .start plainRequest]
    suspendedAttempt

theorem cancelledAttempt_reports :
    cancelledAttempt.2.state = .aborted .userCancelledEncryption ∧
      ReportsAgree cancelledAttempt.1 cancelledAttempt.2 :=
  ⟨rfl, reports_agree (suspendedAttempt_history.driven _)⟩

end Session

end ProvisionGate
