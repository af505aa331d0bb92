import ProvisionGate.Proofs.Session.Moves

/-!
# The calls of a session

A call opens with what comes before its first event, which can end it at once, and goes on with a
chain of moves, each handling the event that followed from the one before.  `Call.of_runs` shows
that every call of a resting session is of this form and that the session rests again after it.
-/

namespace ProvisionGate

/-- A call that is made to a session from outside. -/
inductive Operation where
  | start (request : Request)
  | remediated (ticket : TicketId) (outcome : RemediationOutcome)
  | retryEvaluation
  | confirmConsent
  | cancelConsent
  | requestProceed
  deriving DecidableEq

/-- The step that carries out a call. -/
def Operation.step : Operation → SessionStep AttemptOutcome
  | start request => Session.start request
  | remediated ticket outcome => Session.remediated ticket outcome
  | retryEvaluation => Session.retryEvaluation
  | confirmConsent => Session.confirmConsent
  | cancelConsent => Session.cancelConsent
  | requestProceed => Session.requestProceed

/-- The largest number of events that an event leads to, with itself. -/
def AttemptEvent.reach : AttemptEvent → Nat
  | requestAccepted | retryRequested | remediationResolved _ => 4
  | preconditionsEvaluated _ => 3
  | consentNotRequired | consentConfirmed => 2
  | _ => 1

theorem AttemptEvent.reach_pos (event : AttemptEvent) : 0 < event.reach := by
  cases event <;> exact Nat.succ_pos _

theorem AttemptEvent.reach_le (event : AttemptEvent) : event.reach ≤ Session.longestChain := by
  cases event <;> simp only [reach, Session.longestChain] <;> omega

namespace Session

open SessionStep

/-- An event is handled, and the events that follow from it one by one. -/
inductive Chain : Session → AttemptEvent → SessionLog → Except SessionError Unit → Session → Prop
  | stopped {s after : Session} {event : AttemptEvent} {log : SessionLog}
      (move : Move s event log (.ok none) after) : Chain s event log (.ok ()) after
  | failed {s after : Session} {event : AttemptEvent} {log : SessionLog} {error : SessionError}
      (move : Move s event log (.error error) after) : Chain s event log (.error error) after
  | followed {s middle after : Session} {event follower : AttemptEvent} {first second : SessionLog}
      {result : Except SessionError Unit}
      (move : Move s event first (.ok (some follower)) middle)
      (rest : Chain middle follower second result after) :
      Chain s event (first ++ second) result after

variable {s after : Session} {event follower : AttemptEvent} {log : SessionLog}

theorem Move.reach_lt (move : Move s event log (.ok (some follower)) after) :
    follower.reach < event.reach := by
  cases move with
  | evaluated begins accepted run =>
    generalize s.state = reached at begins
    cases begins <;> simp only [AttemptEvent.reach] <;> omega
  | proceeded state evaluates accepted => split <;> decide
  | handedOver state evaluates accepted => simp only [AttemptEvent.reach]; omega
  | confirmed state accepted => simp only [AttemptEvent.reach]; omega
  | launched state accepted => simp only [AttemptEvent.reach]; omega

/-- The bound on the number of events is never met: the chain ends before. -/
theorem handleAll_chain {bound : Nat} {result : Except SessionError Unit}
    (expects : s.Expects event) (enough : event.reach ≤ bound)
    (run : Runs (handleAll bound [event]) s log result after) :
    Chain s event log result after := by
  induction bound generalizing s event log with
  | zero =>
    have positive := event.reach_pos
    omega
  | succ bound ih =>
    rcases runs_bind_iff.1 run with
      ⟨error, failed, rfl⟩ | ⟨first, second, followUps, middle, rfl, handled, rest⟩
    · obtain ⟨reached, same, move⟩ := handle_move expects failed
      cases reached with
      | ok followUps => cases same
      | error other =>
        obtain rfl := Except.error.inj same
        exact .failed move
    · obtain ⟨reached, same, move⟩ := handle_move expects handled
      cases reached with
      | error error => cases same
      | ok pending =>
        obtain rfl := Except.ok.inj same
        cases pending with
        | none =>
          have ended : Runs (handleAll bound []) middle second result after := rest
          rw [handleAll.eq_def] at ended
          have done : second = [] ∧ result = .ok () ∧ after = middle := by
            cases bound <;> exact runs_pure_iff.1 ended
          obtain ⟨rfl, rfl, rfl⟩ := done
          rw [List.append_nil]
          exact .stopped move
        | some follower =>
          have shorter := move.reach_lt
          exact .followed move (ih (move.expects expects) (by omega) rest)

/-- A call drives its first event and all that follow from it, and tells where that led. -/
theorem dispatch_chain {result : Except SessionError AttemptOutcome} (expects : s.Expects event)
    (run : Runs (dispatch event) s log result after) :
    ∃ reached, Chain s event log reached after ∧
      result = reached.map fun _ => after.state.outcome := by
  rcases runs_bind_iff.1 run with
    ⟨error, failed, rfl⟩ | ⟨first, second, done, middle, rfl, handled, rest⟩
  · exact ⟨.error error, handleAll_chain expects event.reach_le failed, rfl⟩
  · rw [runs_get_bind_iff] at rest
    obtain ⟨rfl, rfl, rfl⟩ := runs_pure_iff.1 rest
    rw [List.append_nil]
    exact ⟨.ok (), handleAll_chain expects event.reach_le handled, rfl⟩

/-- After a chain the session rests. -/
theorem Chain.resting {result : Except SessionError Unit} (chain : Chain s event log result after)
    (expects : s.Expects event) : after.Resting := by
  induction chain with
  | stopped move => exact move.resting expects
  | failed move => exact move.resting_of_error expects
  | followed move rest ih => exact ih (move.expects expects)

/-! ## What comes before the first event -/

/-- The identity of a new attempt, or of one that is taken up again. -/
inductive Names (request : Request) : AttemptId → SessionLog → Prop
  | anew {attempt : AttemptId} (new : request.resumedAttempt = none) :
      Names request attempt [⟨.freshAttempt, attempt⟩]
  | again {attempt : AttemptId} (resumed : request.resumedAttempt = some attempt) :
      Names request attempt []

/-- What a call does before its first event: it ends with an error or an outcome, or comes to the
event. -/
inductive Opening : Operation → Session → SessionLog →
    Except SessionError (AttemptOutcome ⊕ AttemptEvent) → Session → Prop
  | alreadyStarted {s : Session} {request : Request} (begun : s.state ≠ .init) :
      Opening (.start request) s [] (.error (.alreadyStarted s.state)) s
  | rejected {s : Session} {request : Request} {attempt : AttemptId} {first : SessionLog}
      {fault : RequestFault} (state : s.state = .init) (names : Names request attempt first)
      (parsed : request.parse = .error fault) :
      Opening (.start request) s first (.ok (.inr (.requestRejected fault.rejection)))
        { s with attempt }
  | callerUnknown {s : Session} {request : Request} {attempt : AttemptId} {first : SessionLog}
      {params : Params} {cause : String} (state : s.state = .init)
      (names : Names request attempt first) (parsed : request.parse = .ok params) :
      Opening (.start request) s (first ++ [⟨.callerClass, .error cause⟩])
        (.error (.deviceState cause)) { s with attempt }
  | notCleared {s : Session} {request : Request} {attempt : AttemptId} {params : Params}
      {caller : Caller} {cause : String} (state : s.state = .init)
      (new : request.resumedAttempt = none) (parsed : request.parse = .ok params) :
      Opening (.start request) s
        [⟨.freshAttempt, attempt⟩, ⟨.callerClass, .ok caller⟩, ⟨.clearConsent, .error cause⟩]
        (.error (.consentStore cause)) { s with attempt }
  | notLoaded {s : Session} {request : Request} {attempt : AttemptId} {params : Params}
      {caller : Caller} {cause : String} (state : s.state = .init)
      (resumed : request.resumedAttempt = some attempt) (parsed : request.parse = .ok params) :
      Opening (.start request) s
        [⟨.callerClass, .ok caller⟩, ⟨.loadConsent attempt params.adminOrEmpty, .error cause⟩]
        (.error (.consentStore cause)) { s with attempt }
  | acceptedAnew {s : Session} {request : Request} {attempt : AttemptId} {params : Params}
      {caller : Caller} (state : s.state = .init) (new : request.resumedAttempt = none)
      (parsed : request.parse = .ok params) :
      Opening (.start request) s
        [⟨.freshAttempt, attempt⟩, ⟨.callerClass, .ok caller⟩, ⟨.clearConsent, .ok ()⟩]
        (.ok (.inr .requestAccepted))
        { s with attempt, gate := ⟨false⟩, desk := .empty, accepted := some ⟨params, caller⟩ }
  | acceptedAgain {s : Session} {request : Request} {attempt : AttemptId} {params : Params}
      {caller : Caller} {consented : Bool} (state : s.state = .init)
      (resumed : request.resumedAttempt = some attempt) (parsed : request.parse = .ok params) :
      Opening (.start request) s
        [⟨.callerClass, .ok caller⟩, ⟨.loadConsent attempt params.adminOrEmpty, .ok consented⟩]
        (.ok (.inr .requestAccepted))
        { s with attempt, gate := ⟨consented⟩, desk := .empty, accepted := some ⟨params, caller⟩ }
  | stillOut {s : Session} {id : TicketId} {ticket : Ticket}
      (waits : s.state.pendingTicket? = some id) (out : s.desk.outstanding = some ticket) :
      Opening .retryEvaluation s [] (.ok (.inl s.state.outcome)) s
  | retried {s : Session}
      (free : s.state.pendingTicket?.isSome = true → s.desk.outstanding = none) :
      Opening .retryEvaluation s [] (.ok (.inr .retryRequested)) s
  | unknownTicket {s : Session} {id : TicketId} {outcome : RemediationOutcome}
      (unknown : ∀ ticket, s.desk.outstanding = some ticket → ticket.id ≠ id) :
      Opening (.remediated id outcome) s [] (.error (.desk (.unknownTicket id))) s
  | resolved {s : Session} {ticket : Ticket} {outcome : RemediationOutcome}
      (out : s.desk.outstanding = some ticket) :
      Opening (.remediated ticket.id outcome) s []
        (.ok (.inr (.remediationResolved (ticket.kind.resumeSignal outcome))))
        { s with desk := .empty }
  | confirmed {s : Session} : Opening .confirmConsent s [] (.ok (.inr .consentConfirmed)) s
  | cancelled {s : Session} : Opening .cancelConsent s [] (.ok (.inr .consentCancelled)) s
  | proceeded {s : Session} : Opening .requestProceed s [] (.ok (.inr .proceedRequested)) s

/-- A call from its opening to its end. -/
inductive Call : Operation → Session → SessionLog → Except SessionError AttemptOutcome → Session →
    Prop
  | refused {s after : Session} {operation : Operation} {log : SessionLog} {error : SessionError}
      (opening : Opening operation s log (.error error) after) :
      Call operation s log (.error error) after
  | answered {s after : Session} {operation : Operation} {log : SessionLog}
      {outcome : AttemptOutcome} (opening : Opening operation s log (.ok (.inl outcome)) after) :
      Call operation s log (.ok outcome) after
  | driven {s middle after : Session} {operation : Operation} {first second : SessionLog}
      {event : AttemptEvent} {result : Except SessionError Unit}
      (opening : Opening operation s first (.ok (.inr event)) middle)
      (chain : Chain middle event second result after) :
      Call operation s (first ++ second) (result.map fun _ => after.state.outcome) after

/-! ## Every call is of this form -/

theorem runs_accept {attempt : AttemptId} {params : Params} {isResumed : Bool}
    {result : Except SessionError Unit}
    (run : Runs (accept attempt params isResumed) s log result after) :
    (∃ cause, log = [⟨.callerClass, .error cause⟩] ∧ result = .error (.deviceState cause) ∧
        after = s) ∨
    ∃ caller answer, log = [⟨.callerClass, .ok caller⟩, answer] ∧
      ((∃ cause, result = .error (.consentStore cause) ∧ after = s ∧
          answer = (if isResumed then ⟨.loadConsent attempt params.adminOrEmpty, .error cause⟩
            else ⟨.clearConsent, .error cause⟩)) ∨
        ∃ consented, result = .ok () ∧
          after = { s with
            gate := ⟨consented⟩
            desk := .empty
            accepted := some ⟨params, caller⟩ } ∧
          (if isResumed then answer = ⟨.loadConsent attempt params.adminOrEmpty, .ok consented⟩
            else answer = ⟨.clearConsent, .ok ()⟩ ∧ consented = false)) := by
  unfold accept at run
  obtain ⟨known, rest, rfl, asked⟩ := runs_ask_bind_iff.1 run
  rcases runs_orFail_bind_iff.1 asked with ⟨caller, rfl, taken⟩ | ⟨cause, rfl, rfl, rfl, rfl⟩
  · refine .inr ⟨caller, ?_⟩
    cases isResumed with
    | true =>
      simp only [if_true] at taken ⊢
      obtain ⟨answer, later, rfl, stored⟩ := runs_ask_bind_iff.1 taken
      refine ⟨⟨.loadConsent attempt params.adminOrEmpty, answer⟩, ?_⟩
      rcases runs_orFail_bind_iff.1 stored with ⟨consented, rfl, ended⟩ | ⟨cause, rfl, rfl, rfl, rfl⟩
      · obtain ⟨rfl, rfl, rfl⟩ := runs_modify_iff.1 ended
        exact ⟨rfl, .inr ⟨consented, rfl, rfl, rfl⟩⟩
      · exact ⟨rfl, .inl ⟨cause, rfl, rfl, rfl⟩⟩
    | false =>
      simp only [Bool.false_eq_true, if_false] at taken ⊢
      obtain ⟨answer, later, rfl, stored⟩ := runs_ask_bind_iff.1 taken
      refine ⟨⟨.clearConsent, answer⟩, ?_⟩
      rcases runs_orFail_bind_iff.1 stored with ⟨done, rfl, ended⟩ | ⟨cause, rfl, rfl, rfl, rfl⟩
      · obtain ⟨rfl, rfl, rfl⟩ := runs_modify_iff.1 ended
        exact ⟨rfl, .inr ⟨false, rfl, rfl, rfl, rfl⟩⟩
      · exact ⟨rfl, .inl ⟨cause, rfl, rfl, rfl⟩⟩
  · exact .inl ⟨cause, rfl, rfl, rfl⟩

/-- A step that comes to an event and drives it. -/
def Drives (operation : Operation) (s : Session) (log : SessionLog)
    (result : Except SessionError AttemptOutcome) (after : Session) : Prop :=
  ∃ first second middle event, log = first ++ second ∧
    Opening operation s first (.ok (.inr event)) middle ∧
    Runs (dispatch event) middle second result after

/-- What a start does once its attempt has a name. -/
theorem named_opening {request : Request} {attempt : AttemptId} {first second : SessionLog}
    {result : Except SessionError AttemptOutcome} (state : s.state = .init)
    (names : Names request attempt first)
    (run : Runs (match request.parse with
      | .ok params => do
        accept attempt params request.resumedAttempt.isSome
        dispatch .requestAccepted
      | .error fault => dispatch (.requestRejected fault.rejection))
      { s with attempt } second result after) :
    (∃ error, Opening (.start request) s (first ++ second) (.error error) after ∧
        result = .error error) ∨
      Drives (.start request) s (first ++ second) result after := by
  cases parsed : request.parse with
  | error fault =>
    rw [parsed] at run
    exact .inr ⟨first, second, _, _, rfl, .rejected state names parsed, run⟩
  | ok params =>
    rw [parsed] at run
    rcases runs_bind_iff.1 run with
      ⟨error, failed, rfl⟩ | ⟨third, fourth, done, middle, rfl, taken, driven⟩
    · left
      refine ⟨error, ?_, rfl⟩
      rcases runs_accept failed with
        ⟨cause, rfl, same, rfl⟩ | ⟨caller, answer, rfl, ⟨cause, same, rfl, kept⟩ | ⟨_, same, -⟩⟩
      · obtain rfl := Except.error.inj same
        exact .callerUnknown state names parsed
      · obtain rfl := Except.error.inj same
        cases names with
        | anew new =>
          simp only [new, Option.isSome_none, Bool.false_eq_true, if_false] at kept
          subst kept
          exact .notCleared state new parsed
        | again resumed =>
          simp only [resumed, Option.isSome_some, if_true] at kept
          subst kept
          exact .notLoaded state resumed parsed
      · cases same
    · right
      rcases runs_accept taken with
        ⟨cause, -, same, -⟩ | ⟨caller, answer, rfl, ⟨cause, same, -⟩ | ⟨consented, -, rfl, kept⟩⟩
      · cases same
      · cases same
      · rw [← List.append_assoc]
        refine ⟨_, fourth, _, .requestAccepted, rfl, ?_, driven⟩
        cases names with
        | anew new =>
          simp only [new, Option.isSome_none, Bool.false_eq_true, if_false] at kept
          obtain ⟨rfl, rfl⟩ := kept
          exact .acceptedAnew state new parsed
        | again resumed =>
          simp only [resumed, Option.isSome_some, if_true] at kept
          subst kept
          exact .acceptedAgain state resumed parsed

theorem start_opening {request : Request} {result : Except SessionError AttemptOutcome}
    (run : Runs (start request) s log result after) :
    (∃ error, Opening (.start request) s log (.error error) after ∧ result = .error error) ∨
      Drives (.start request) s log result after := by
  unfold start at run
  rw [runs_get_bind_iff] at run
  by_cases state : s.state = .init
  · simp only [state, ne_eq, not_true_eq_false, if_false] at run
    cases resumed : request.resumedAttempt with
    | some attempt =>
      simp only [resumed] at run
      rw [pure_bind, runs_modify_bind_iff] at run
      have names : Names request attempt [] := .again resumed
      exact named_opening state names (by rw [resumed]; exact run)
    | none =>
      simp only [resumed] at run
      obtain ⟨attempt, rest, rfl, named⟩ := runs_ask_bind_iff.1 run
      rw [runs_modify_bind_iff] at named
      have names : Names request attempt [⟨.freshAttempt, attempt⟩] := .anew resumed
      exact named_opening state names (by rw [resumed]; exact named)
  · simp only [state, ne_eq, not_false_eq_true, if_true] at run
    rcases runs_bind_iff.1 run with
      ⟨error, failed, rfl⟩ | ⟨first, second, done, middle, rfl, thrown, -⟩
    · obtain ⟨rfl, same, rfl⟩ := runs_throw_iff.1 failed
      obtain rfl := Except.error.inj same
      exact .inl ⟨_, .alreadyStarted state, rfl⟩
    · obtain ⟨-, same, -⟩ := runs_throw_iff.1 thrown
      cases same

/-- A resting session that was asked expects the event that its call comes to. -/
theorem Opening.expects {operation : Operation}
    (opening : Opening operation s log (.ok (.inr event)) after) (resting : s.Resting) :
    after.Expects event := by
  cases opening with
  | rejected state names parsed =>
    exact .requestRejected state (resting.free (by rw [state]; rfl))
  | acceptedAnew state new parsed => exact .requestAccepted state rfl rfl
  | acceptedAgain state resumed parsed => exact .requestAccepted state rfl rfl
  | retried free => exact .retried resting free
  | @resolved _ ticket outcome out =>
    obtain ⟨state, taken, accepted, -⟩ := resting.desk ticket out
    exact .resolved state accepted rfl rfl
  | confirmed => exact .confirmed resting
  | cancelled => exact .cancelled resting
  | proceeded => exact .proceeded resting

/-- A call that is over at once leaves a resting session. -/
theorem Opening.resting_of_error {operation : Operation} {error : SessionError}
    (opening : Opening operation s log (.error error) after) (resting : s.Resting) :
    after.Resting := by
  have renamed {attempt : AttemptId} (state : s.state = .init) :
      Resting { s with attempt } := by
    refine ⟨resting.state, resting.accepted, fun ticket out => ?_⟩
    have free := resting.free (by rw [state]; rfl)
    rw [show s.desk.outstanding = some ticket from out] at free
    cases free
  cases opening with
  | alreadyStarted begun => exact resting
  | callerUnknown state => exact renamed state
  | notCleared state => exact renamed state
  | notLoaded state => exact renamed state
  | unknownTicket unknown => exact resting

/-- A call of a resting session is an opening with a chain of moves behind it, if it comes to an
event. -/
theorem Call.of_runs {operation : Operation} {result : Except SessionError AttemptOutcome}
    (resting : s.Resting) (run : Runs operation.step s log result after) :
    Call operation s log result after := by
  have driven (drives : Drives operation s log result after) :
      Call operation s log result after := by
    obtain ⟨first, second, middle, event, rfl, opening, dispatched⟩ := drives
    obtain ⟨reached, chain, rfl⟩ := dispatch_chain (opening.expects resting) dispatched
    exact .driven opening chain
  cases operation with
  | start request =>
    rcases start_opening run with ⟨error, opening, rfl⟩ | drives
    · exact .refused opening
    · exact driven drives
  | remediated id outcome =>
    have run : Runs (remediated id outcome) s log result after := run
    unfold remediated at run
    rw [runs_get_bind_iff] at run
    by_cases known : ∃ ticket, s.desk.outstanding = some ticket ∧ ticket.id = id
    · obtain ⟨ticket, out, rfl⟩ := known
      rw [RemediationDesk.resolve?_of_out out] at run
      dsimp only at run
      rw [runs_set_bind_iff] at run
      exact driven ⟨[], log, _, _, rfl, .resolved out, run⟩
    · have unknown : ∀ ticket, s.desk.outstanding = some ticket → ticket.id ≠ id :=
        fun ticket out same => known ⟨ticket, out, same⟩
      rw [RemediationDesk.resolve?_of_unknown unknown] at run
      obtain ⟨rfl, rfl, rfl⟩ := runs_throw_iff.1 run
      exact .refused (.unknownTicket unknown)
  | retryEvaluation =>
    have run : Runs retryEvaluation s log result after := run
    unfold retryEvaluation at run
    rw [runs_get_bind_iff] at run
    cases waits : s.state.pendingTicket? with
    | none =>
      simp only [waits, Option.isSome_none, Bool.false_and, Bool.false_eq_true, if_false] at run
      exact driven ⟨[], log, _, _, rfl, .retried (by simp [waits]), run⟩
    | some id =>
      cases out : s.desk.outstanding with
      | none =>
        simp only [waits, out, Option.isSome_none, Bool.and_false, Bool.false_eq_true,
          if_false] at run
        exact driven ⟨[], log, _, _, rfl, .retried fun _ => out, run⟩
      | some ticket =>
        simp only [waits, out, Option.isSome_some, Bool.and_self, if_true] at run
        obtain ⟨rfl, rfl, rfl⟩ := runs_pure_iff.1 run
        exact .answered (.stillOut waits out)
  | confirmConsent => exact driven ⟨[], log, _, _, rfl, .confirmed, run⟩
  | cancelConsent =>
    have run : Runs cancelConsent s log result after := run
    unfold cancelConsent at run
    rw [runs_modify_bind_iff] at run
    -- A cancelled consent leaves the gate as it is.
    have same : (if s.state = .awaitingConsent then { s with gate := s.gate.cancel } else s) = s :=
      ite_self s
    rw [same] at run
    exact driven ⟨[], log, _, _, rfl, .cancelled, run⟩
  | requestProceed => exact driven ⟨[], log, _, _, rfl, .proceeded, run⟩

/-- A session that rests before a call rests after it. -/
theorem Call.resting {operation : Operation} {result : Except SessionError AttemptOutcome}
    (call : Call operation s log result after) (resting : s.Resting) : after.Resting := by
  cases call with
  | refused opening => exact opening.resting_of_error resting
  | answered opening =>
    cases opening with
    | stillOut waits out => exact resting
  | driven opening chain => exact chain.resting (opening.expects resting)

theorem opened_resting (attempt : AttemptId) : (opened attempt).Resting where
  state := rfl
  accepted := .inl rfl
  desk _ out := nomatch out

end Session

end ProvisionGate
