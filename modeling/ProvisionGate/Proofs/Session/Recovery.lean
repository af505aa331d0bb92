import ProvisionGate.Proofs.Session.Progress

/-!
# Going on after a failure

The surroundings can fail at any call.  A call of a session that ends with such a failure has
launched nothing and ended nothing, and it leaves no ticket out.  The session is then in a state
for which there is a call that goes on, and that call brings the attempt to a halt as soon as
nothing fails any more: `Move.halted` shows it of the last move of a chain, `Chain.halted` of all
chains that begin with an event that has an effect.
-/

namespace ProvisionGate

namespace Moment

/-- The surroundings fail.  A launch never does: one that fails outright is one that reports a
failure. -/
def Fails : Moment → Prop
  | .exchanged ⟨.callerClass, .error _⟩ | .exchanged ⟨.device _, .error _⟩
  | .exchanged ⟨.requestRemediation _, .error _⟩ | .exchanged ⟨.loadConsent _ _, .error _⟩
  | .exchanged ⟨.saveConsent _, .error _⟩ | .exchanged ⟨.clearConsent, .error _⟩
  | .exchanged ⟨.presentConsent _, .error _⟩ => True
  | _ => False

/-- Something is launched, or an attempt is reported to have ended early. -/
def Concludes : Moment → Prop
  | .exchanged ⟨.launch _, _⟩ | .exchanged ⟨.reportAbort _ _, _⟩ => True
  | _ => False

end Moment

/-- The call with which an attempt goes on in a state after a failure. -/
inductive Operation.Recovers : Operation → AttemptState → Prop
  | start {request : Request} : Recovers (.start request) .init
  | checking {p : Precondition} : Recovers .retryEvaluation (.checking p)
  | awaiting {kind : RemediationKind} {id : TicketId} :
      Recovers .retryEvaluation (.awaiting kind id)
  | consent : Recovers .confirmConsent .awaitingConsent

namespace Session

open SessionStep

/-- The attempt is at its end, or waits for somebody who was asked. -/
def Halted (s : Session) : Prop :=
  s.state.isTerminal = true ∨ s.state = .awaitingConsent ∨
    ∃ ticket, s.desk.outstanding = some ticket ∧ s.state = .awaiting ticket.kind ticket.id

/-- The session does not ignore an event. -/
def Heeds (s : Session) (event : AttemptEvent) : Prop :=
  s.state.isTerminal = false ∧ s.state.transition event ≠ (s.state, [])

variable {s middle after : Session} {operation : Operation} {event follower : AttemptEvent}
  {log : SessionLog} {past : List Moment} {attempt : AttemptId} {error : SessionError}
  {reached : Except SessionError (AttemptOutcome ⊕ AttemptEvent)}
  {moved : Except SessionError (Option AttemptEvent)} {taken : AcceptedRequest}
  {start : Precondition} {checks : List Precondition} {α β : Type}

/-! ## Programs that break off -/

/-- A program over the device breaks off only at a question that is not answered. -/
def BreaksOffAtFailure (d : ExceptT String (Dialogue SessionCall.Answer) α) : Prop :=
  ∀ log cause, Dialogue.Runs d.run log (.error cause) → ∃ m ∈ moments log, m.Fails

theorem BreaksOffAtFailure.pure {a : α} :
    BreaksOffAtFailure (pure a : ExceptT String (Dialogue SessionCall.Answer) α) := by
  intro log cause run
  obtain ⟨-, same⟩ := Dialogue.runs_done_iff.1 run
  cases same

theorem BreaksOffAtFailure.bind {d : ExceptT String (Dialogue SessionCall.Answer) α}
    {next : α → ExceptT String (Dialogue SessionCall.Answer) β} (first : BreaksOffAtFailure d)
    (rest : ∀ a, BreaksOffAtFailure (next a)) : BreaksOffAtFailure (d >>= next) := by
  intro log cause run
  rcases Dialogue.runs_exceptBind_iff.1 run with
    ⟨_, broken, same⟩ | ⟨before, later, a, rfl, -, broken⟩
  · exact first log _ broken
  · obtain ⟨m, member, fails⟩ := rest a later cause broken
    exact ⟨m, by simp [member], fails⟩

theorem askDevice_breaksOff (fact : Fact) : BreaksOffAtFailure (askDevice fact) := by
  intro log cause run
  obtain rfl := runs_askDevice_iff.1 run
  exact ⟨_, List.mem_cons_self, trivial⟩

theorem factsFor_breaksOff {p : Precondition} {caller : Caller} :
    BreaksOffAtFailure (p.factsFor askDevice caller) := by
  cases p with
  | notYetProvisioned => cases caller <;> exact (askDevice_breaksOff _).bind fun _ => .pure
  | factoryResetProtection =>
    cases caller with
    | primary => exact (askDevice_breaksOff _).bind fun _ => .pure
    | secondary => exact .pure
  | encryption =>
    refine (askDevice_breaksOff .deviceEncrypted).bind fun encrypted => ?_
    cases encrypted with
    | true => exact .pure
    | false => exact (askDevice_breaksOff .encryptionExempt).bind fun _ => .pure
  | network => exact (askDevice_breaksOff _).bind fun _ => .pure

theorem ofChecks_breaksOff :
    BreaksOffAtFailure (Evaluation.ofChecks (checkDevice taken) checks) := by
  induction checks with
  | nil => exact .pure
  | cons p rest ih =>
    refine (factsFor_breaksOff.bind fun _ => .pure).bind fun finding => ?_
    cases finding.decision? with
    | some decision => exact .pure
    | none => exact ih.bind fun _ => .pure

/-! ## Failures on the way -/

theorem Move.fails (move : Move s event log (.error error) after) :
    ∃ m ∈ moments log, m.Fails := by
  cases move with
  | notEvaluated begins accepted run => exact ofChecks_breaksOff _ _ run
  | notHandedOver => exact ⟨_, List.mem_cons_of_mem _ List.mem_cons_self, trivial⟩
  | notPrompted => exact ⟨_, List.mem_cons_self, trivial⟩
  | notSaved => exact ⟨_, List.mem_cons_of_mem _ List.mem_cons_self, trivial⟩

theorem Chain.fails {result : Except SessionError Unit} (chain : Chain s event log result after)
    (failed : result = .error error) : ∃ m ∈ moments log, m.Fails := by
  induction chain with
  | stopped move => cases failed
  | failed move => exact move.fails
  | followed move rest ih =>
    obtain ⟨m, member, fails⟩ := ih failed
    exact ⟨m, by simp [member], fails⟩

/-- A move that fails leaves no ticket out and the attempt in the state in which it was. -/
theorem Move.left_of_error (move : Move s event log (.error error) after)
    (expects : s.Expects event) :
    after.desk.outstanding = none ∧ after.state = s.state ∧ s.state.isTerminal = false := by
  cases move with
  | notEvaluated begins => exact ⟨begins.free expects, rfl, begins.transition.2⟩
  | notHandedOver state evaluates =>
    cases expects with
    | evaluated _ _ _ free =>
      refine ⟨free, rfl, ?_⟩
      rw [state]
      cases evaluates <;> rfl
  | notPrompted prompts => exact ⟨prompts.free expects, rfl, prompts.transition.2⟩
  | notSaved state =>
    cases expects with
    | confirmed resting => exact ⟨resting.free (by rw [state]; rfl), rfl, by rw [state]; rfl⟩

theorem Chain.left_of_error {result : Except SessionError Unit}
    (chain : Chain s event log result after) (expects : s.Expects event)
    (failed : result = .error error) :
    after.desk.outstanding = none ∧ after.state.isTerminal = false := by
  induction chain with
  | stopped move => cases failed
  | failed move =>
    obtain ⟨free, same, active⟩ := move.left_of_error expects
    exact ⟨free, by rw [same]; exact active⟩
  | followed move rest ih => exact ih (move.expects expects) failed

theorem Chain.rank_le {result : Except SessionError Unit}
    (chain : Chain s event log result after) (expects : s.Expects event) :
    s.state.rank ≤ after.state.rank := by
  induction chain with
  | stopped move => exact move.rank_le expects
  | failed move => exact move.rank_le expects
  | followed move rest ih =>
    exact Nat.le_trans (move.rank_le expects) (ih (move.expects expects))

/-- Another event follows only once an attempt has begun. -/
theorem Move.rank_pos_of_follower (move : Move s event log (.ok (some follower)) after) :
    0 < after.state.rank := by
  cases move with
  | evaluated => exact AttemptState.rank_checking_pos _
  | handedOver => exact AttemptState.rank_checking_pos _
  | _ => exact Nat.succ_pos _

/-- Only what follows from a start fails before the attempt has begun. -/
theorem Chain.accepted_of_init (chain : Chain s event log (.error error) after)
    (expects : s.Expects event) (fresh : after.state = .init) : event = .requestAccepted := by
  generalize ends : (Except.error error : Except SessionError Unit) = result at chain
  cases chain with
  | stopped move => cases ends
  | failed move =>
    rw [(move.left_of_error expects).2.1] at fresh
    have unranked {start : Precondition} (state : s.state = .checking start) : False := by
      have positive := AttemptState.rank_checking_pos start
      rw [← state, fresh] at positive
      exact Nat.lt_irrefl 0 positive
    cases move with
    | notEvaluated begins =>
      generalize state : s.state = held at begins
      cases begins with
      | accepted => rfl
      | retried => exact (unranked state).elim
      | @takenUp kind => cases kind <;> cases fresh.symm.trans state
      | @resolved kind => cases kind <;> cases fresh.symm.trans state
    | notHandedOver state => exact (unranked state).elim
    | notPrompted prompts =>
      generalize state : s.state = held at prompts
      cases prompts <;> cases fresh.symm.trans state
    | notSaved state => cases fresh.symm.trans state
  | followed move rest =>
    have begun := move.rank_pos_of_follower
    have forward := rest.rank_le (move.expects expects)
    rw [fresh] at forward
    exact absurd (Nat.lt_of_lt_of_le begun forward) (Nat.lt_irrefl 0)

/-- What a launch reports is taken note of, and nothing fails after it. -/
theorem Chain.ok_of_finished {launched : LaunchResult} {result : Except SessionError Unit}
    (chain : Chain s (.provisioningFinished launched) log result after) : result = .ok () := by
  cases chain with
  | stopped move => rfl
  | failed move =>
    cases move with
    | notEvaluated begins =>
      generalize s.state = held at begins
      cases begins
    | notPrompted prompts =>
      generalize s.state = held at prompts
      cases prompts
  | followed move rest =>
    cases move with
    | evaluated begins =>
      generalize s.state = held at begins
      cases begins

/-- Nothing is launched and nothing is ended on the way to a failure. -/
theorem Chain.not_concludes {result : Except SessionError Unit}
    (chain : Chain s event log result after) (failed : result = .error error) :
    ∀ m ∈ moments log, ¬ m.Concludes := by
  induction chain with
  | stopped move => cases failed
  | failed move =>
    cases move with
    | notEvaluated begins accepted run => exact forall_device run (by simp [Moment.Concludes])
    | _ => simp [Moment.Concludes]
  | followed move rest ih =>
    rw [moments_append]
    refine List.forall_mem_append.2 ⟨?_, ih failed⟩
    cases move with
    | evaluated begins accepted run =>
      rw [moments_append]
      refine List.forall_mem_append.2 ⟨forall_device run (by simp [Moment.Concludes]), ?_⟩
      simp [Moment.Concludes, reported]
    | confirmed =>
      rw [rest.ok_of_finished] at failed
      cases failed
    | launched =>
      rw [rest.ok_of_finished] at failed
      cases failed
    | _ => simp [Moment.Concludes, reported]

/-- A call fails before its first event only as a start. -/
theorem Opening.failure_cases (opening : Opening operation s log (.error error) after)
    (failure : error.IsFailure) :
    (∃ request, operation = .start request) ∧ s.state = .init ∧ after.state = .init ∧
      after.desk = s.desk ∧ ∃ m ∈ moments log, m.Fails := by
  cases opening with
  | alreadyStarted => cases failure
  | unknownTicket => cases failure
  | @callerUnknown _ _ _ first _ cause state =>
    exact ⟨⟨_, rfl⟩, state, state, rfl, .exchanged ⟨.callerClass, .error cause⟩, by simp, trivial⟩
  | @notCleared _ _ _ _ _ cause state =>
    exact ⟨⟨_, rfl⟩, state, state, rfl, .exchanged ⟨.clearConsent, .error cause⟩, by simp, trivial⟩
  | @notLoaded _ _ attempt params _ cause state =>
    exact ⟨⟨_, rfl⟩, state, state, rfl,
      .exchanged ⟨.loadConsent attempt params.adminOrEmpty, .error cause⟩, by simp, trivial⟩

/-- Nothing is launched and nothing is ended before the first event of a call. -/
theorem Opening.not_concludes (opening : Opening operation s log reached after) :
    ∀ m ∈ moments log, ¬ m.Concludes := by
  intro m member
  exact opening.forall_moments (P := fun m => ¬ m.Concludes) id (fun _ => id) (fun _ => id)
    (fun _ => id) (fun _ _ _ => id) m (List.mem_cons_of_mem _ member)

/-! ## Calls that fail -/

theorem Call.not_concludes (call : Call operation s log (.error error) after) :
    ∀ m ∈ moments log, ¬ m.Concludes := by
  generalize ends : (Except.error error : Except SessionError AttemptOutcome) = result at call
  cases call with
  | refused opening => exact opening.not_concludes
  | answered opening => cases ends
  | @driven _ middle _ _ first second event ended opening chain =>
    cases ended with
    | ok done => cases ends
    | error other =>
      rw [moments_append]
      exact List.forall_mem_append.2 ⟨opening.not_concludes, chain.not_concludes rfl⟩

/-- A call that fails leaves no ticket out and the attempt unfinished. -/
theorem Call.left_of_failure (call : Call operation s log (.error error) after)
    (resting : s.Resting) (failure : error.IsFailure) :
    after.desk.outstanding = none ∧ after.state.isTerminal = false := by
  generalize ends : (Except.error error : Except SessionError AttemptOutcome) = result at call
  cases call with
  | refused opening =>
    obtain rfl := Except.error.inj ends
    obtain ⟨-, fresh, same, desk, -⟩ := opening.failure_cases failure
    rw [desk, same]
    exact ⟨resting.free (by rw [fresh]; rfl), rfl⟩
  | answered opening => cases ends
  | @driven _ middle _ _ first second event ended opening chain =>
    cases ended with
    | ok done => cases ends
    | error other => exact chain.left_of_error (opening.expects resting) rfl

/-- Only a start fails before the attempt has begun. -/
theorem Call.start_of_init (call : Call operation s log (.error error) after) (resting : s.Resting)
    (failure : error.IsFailure) (fresh : after.state = .init) :
    ∃ request, operation = .start request := by
  generalize ends : (Except.error error : Except SessionError AttemptOutcome) = result at call
  cases call with
  | refused opening =>
    obtain rfl := Except.error.inj ends
    exact (opening.failure_cases failure).1
  | answered opening => cases ends
  | @driven _ middle _ _ first second event ended opening chain =>
    cases ended with
    | ok done => cases ends
    | error other =>
      obtain rfl := chain.accepted_of_init (opening.expects resting) fresh
      cases opening with
      | acceptedAnew => exact ⟨_, rfl⟩
      | acceptedAgain => exact ⟨_, rfl⟩

/-! ## Tickets that were taken back -/

/-- A ticket that the state waits for is out, or was taken back. -/
def WaitsKnown (past : List Moment) (s : Session) : Prop :=
  ∀ id, s.state.pendingTicket? = some id →
    (∃ ticket, s.desk.outstanding = some ticket ∧ ticket.id = id) ∨ id ∈ ticketsTakenBack past

theorem WaitsKnown.append {later : List Moment} (known : WaitsKnown past s)
    (state : after.state = s.state) (desk : after.desk = s.desk) :
    WaitsKnown (past ++ later) after := by
  intro id waits
  rw [state] at waits
  rw [desk, ticketsTakenBack_append]
  rcases known id waits with out | taken
  · exact .inl out
  · exact .inr (List.mem_append_left _ taken)

theorem WaitsKnown.settled (settled : s.state.pendingTicket? = none) : WaitsKnown past s := by
  intro id waits
  rw [settled] at waits
  cases waits

theorem waitsKnown_kept : Kept fun past s _ => WaitsKnown past s where
  opening := by
    intro past s after operation log reached resting known opening
    cases opening with
    | @resolved _ ticket outcome out =>
      intro id waits
      obtain ⟨state, -⟩ := resting.desk ticket out
      rw [state, AttemptState.pendingTicket?_awaiting] at waits
      obtain rfl := Option.some.inj waits
      right
      have back : (Moment.called (.remediated ticket.id outcome) s).takenBack? =
          some ticket.id := by
        simp only [Moment.takenBack?, RemediationDesk.resolve?_of_out out]
      rw [ticketsTakenBack_append]
      exact List.mem_append_right _ (List.mem_filterMap.2 ⟨_, List.mem_cons_self, back⟩)
    | acceptedAnew state => exact .settled (by rw [state]; rfl)
    | acceptedAgain state => exact .settled (by rw [state]; rfl)
    | _ => exact known.append rfl rfl
  move := by
    intro past s after event log reached expects known move
    have checking {start : Precondition} : (AttemptState.checking start).pendingTicket? = none := by
      cases start <;> rfl
    cases move with
    | evaluated => exact .settled checking
    | proceeded => exact .settled rfl
    | aborted => exact .settled rfl
    | handedOver => exact .settled checking
    | @suspended kind id state =>
      cases expects with
      | handedOver _ _ out =>
        intro other waits
        rw [AttemptState.pendingTicket?_awaiting] at waits
        obtain rfl := Option.some.inj waits
        exact .inl ⟨_, out, rfl⟩
    | prompted => exact .settled rfl
    | confirmed => exact .settled rfl
    | launched => exact .settled rfl
    | finished => exact .settled rfl
    | _ => exact known.append rfl rfl
  returned := by
    intro past s result resting known
    exact known.append rfl rfl

/-! ## Going on -/

/-- An event that orders something is heeded. -/
theorem heeds_of_commands {next : AttemptState} {command : AttemptCommand}
    {commands : List AttemptCommand} (active : s.state.isTerminal = false)
    (moves : s.state.transition event = (next, command :: commands)) : s.Heeds event := by
  refine ⟨active, fun ignored => ?_⟩
  rw [ignored] at moves
  cases moves

/-- The event of a call with which an attempt goes on is heeded. -/
theorem Opening.heeds (opening : Opening operation s log (.ok (.inr event)) after)
    (recovers : operation.Recovers s.state) : after.Heeds event := by
  generalize state : s.state = held at recovers
  cases opening with
  | rejected fresh => exact heeds_of_commands (by rw [fresh]; rfl) (by rw [fresh]; rfl)
  | acceptedAnew fresh => exact heeds_of_commands (by rw [fresh]; rfl) (by rw [fresh]; rfl)
  | acceptedAgain fresh => exact heeds_of_commands (by rw [fresh]; rfl) (by rw [fresh]; rfl)
  | retried free =>
    cases recovers with
    | @checking p => cases p <;> exact heeds_of_commands (by rw [state]; rfl) (by rw [state]; rfl)
    | @awaiting kind =>
      cases kind <;> exact heeds_of_commands (by rw [state]; rfl) (by rw [state]; rfl)
  | resolved out => cases recovers
  | confirmed =>
    cases recovers with
    | consent => exact heeds_of_commands (by rw [state]; rfl) (by rw [state]; rfl)
  | cancelled => cases recovers
  | proceeded => cases recovers

/-- The event that follows from a move is heeded. -/
theorem Move.heeds (move : Move s event log (.ok (some follower)) after) :
    after.Heeds follower := by
  cases move with
  | @evaluated _ _ _ _ e begins =>
    have evaluates := begins.evaluates
    cases e.decision <;> cases evaluates <;> exact heeds_of_commands rfl rfl
  | proceeded => split <;> exact heeds_of_commands rfl rfl
  | @handedOver _ _ kind id =>
    cases kind <;> exact ⟨rfl, fun same => by cases congrArg Prod.fst same⟩
  | confirmed => exact ⟨rfl, fun same => by cases congrArg Prod.fst same⟩
  | launched => exact ⟨rfl, fun same => by cases congrArg Prod.fst same⟩

/-- A move after which nothing follows brings the attempt to a halt. -/
theorem Move.halted (move : Move s event log (.ok none) after) (expects : s.Expects event)
    (heeds : s.Heeds event) : after.Halted := by
  cases move with
  | ended terminal =>
    rw [heeds.1] at terminal
    cases terminal
  | ignored active unexpected => exact absurd unexpected heeds.2
  | aborted => exact .inl rfl
  | suspended state =>
    cases expects with
    | handedOver _ _ out => exact .inr (.inr ⟨_, out, rfl⟩)
  | prompted => exact .inr (.inl rfl)
  | finished => exact .inl rfl

/-- A chain that does not fail brings the attempt to a halt. -/
theorem Chain.halted {result : Except SessionError Unit} (chain : Chain s event log result after)
    (expects : s.Expects event) (heeds : s.Heeds event) (succeeded : result = .ok ()) :
    after.Halted := by
  induction chain with
  | stopped move => exact move.halted expects heeds
  | failed move => cases succeeded
  | followed move rest ih => exact ih (move.expects expects) move.heeds succeeded

/-- The call with which an attempt goes on brings it to a halt, unless the surroundings fail. -/
theorem Call.halted {result : Except SessionError AttemptOutcome}
    (call : Call operation s log result after) (resting : s.Resting)
    (recovers : operation.Recovers s.state) (fine : ∀ m ∈ moments log, ¬ m.Fails) :
    (∃ outcome, result = .ok outcome) ∧ after.Halted := by
  cases call with
  | @refused _ _ _ _ error opening =>
    by_cases failure : error.IsFailure
    · obtain ⟨-, -, -, -, m, member, fails⟩ := opening.failure_cases failure
      exact absurd fails (fine m member)
    · -- A call that goes on is never out of place.
      generalize state : s.state = held at recovers
      cases opening with
      | alreadyStarted begun =>
        cases recovers with
        | start => exact absurd state begun
      | unknownTicket => cases recovers
      | callerUnknown => exact absurd trivial failure
      | notCleared => exact absurd trivial failure
      | notLoaded => exact absurd trivial failure
  | answered opening =>
    cases opening with
    | @stillOut _ id ticket waits out =>
      exact ⟨⟨_, rfl⟩, .inr (.inr ⟨ticket, out, (resting.desk ticket out).1⟩)⟩
  | @driven _ middle _ _ first second event ended opening chain =>
    have expects := opening.expects resting
    cases ended with
    | ok done => exact ⟨⟨_, rfl⟩, chain.halted expects (opening.heeds recovers) rfl⟩
    | error error =>
      obtain ⟨m, member, fails⟩ := chain.fails rfl
      exact absurd fails (fine m (by simp [member]))

/-- Nothing fails in surroundings in which all goes well. -/
theorem answered_obliging (d : SessionDialogue α) :
    ∀ m ∈ moments (d.answered obliging).1, ¬ m.Fails := by
  induction d with
  | done a => simp [Dialogue.answered]
  | ask call next ih =>
    refine List.forall_mem_cons.2 ⟨?_, ih _⟩
    cases call with
    | device fact => cases fact <;> exact id
    | _ => exact id

/-! ## After a failure -/

/-- Where a call that failed leaves an attempt. -/
inductive FailedIn (past : List Moment) : Operation → AttemptState → Prop
  | fresh {request : Request} : FailedIn past (.start request) .init
  | ownership {operation : Operation} : FailedIn past operation .checkingOwnershipProvisioned
  | network {operation : Operation} : FailedIn past operation .checkingNetwork
  | resolved {operation : Operation} {kind : RemediationKind} {id : TicketId}
      (taken : id ∈ ticketsTakenBack past) : FailedIn past operation (.awaiting kind id)
  | consent {operation : Operation} : FailedIn past operation .awaitingConsent

/-- The call goes on in a session: it can be made without a failure of the surroundings, and then
it succeeds and brings the attempt to a halt. -/
structure GoesOn (s : Session) (operation : Operation) : Prop where
  possible : ∃ log result after, Runs operation.step s log result after ∧
    ∀ m ∈ moments log, ¬ m.Fails
  halts : ∀ log result after, Runs operation.step s log result after →
    (∀ m ∈ moments log, ¬ m.Fails) → (∃ outcome, result = .ok outcome) ∧ after.Halted

/-- What a call that failed leaves behind, when its past ends with it. -/
structure LeftRecoverable (past : List Moment) (operation : Operation) (log : SessionLog)
    (after : Session) : Prop where
  quiet : ∀ m ∈ moments log, ¬ m.Concludes
  free : after.desk.outstanding = none
  state : FailedIn past operation after.state
  recovers : ∀ next, next.Recovers after.state → after.GoesOn next

/-- Whatever fails leaves an attempt that goes on as soon as nothing fails any more. -/
theorem failures_recoverable (history : History attempt past s)
    (run : Runs operation.step s log (.error error) after) (failure : error.IsFailure) :
    LeftRecoverable (past ++ .called operation s :: moments log ++ [.returned (.error error)])
      operation log after := by
  have resting := history.resting
  have call := Call.of_runs resting run
  have later := call.resting resting
  obtain ⟨free, active⟩ := call.left_of_failure resting failure
  have opening : WaitsKnown ([] ++ [.opened attempt]) (Session.opened attempt) := .settled rfl
  have known := (history.call run).keeps waitsKnown_kept opening
  refine ⟨call.not_concludes, free, ?_, ?_⟩
  · have rests := later.state
    have taken {id : TicketId} (waits : after.state.pendingTicket? = some id) :
        id ∈ ticketsTakenBack
          (past ++ .called operation s :: moments log ++ [.returned (.error error)]) := by
      rcases known id waits with ⟨ticket, out, -⟩ | taken
      · cases free.symm.trans out
      · exact taken
    have fresh := call.start_of_init resting failure
    generalize after.state = state at rests active taken fresh
    cases state with
    | init =>
      obtain ⟨request, rfl⟩ := fresh rfl
      exact .fresh
    | checkingOwnershipProvisioned => exact .ownership
    | checkingFactoryResetProtection => cases rests
    | checkingEncryption => cases rests
    | awaitingEncryptionRemediation id => exact @FailedIn.resolved _ _ .encryption _ (taken rfl)
    | checkingNetwork => exact .network
    | awaitingNetworkRemediation id => exact @FailedIn.resolved _ _ .network _ (taken rfl)
    | awaitingConsent => exact .consent
    | launching => cases rests
    | aborted reason => cases active
    | done result => cases active
  · intro next recovers
    refine ⟨⟨_, _, _, Dialogue.runs_answered obliging _, answered_obliging _⟩, ?_⟩
    intro log result final run fine
    exact (Call.of_runs later run).halted later recovers fine

/-- Surroundings in which the device does not tell whether it has a network. -/
def deaf : (c : SessionCall) → c.Answer
  | .device .networkConnected => .error "offline"
  | other => obliging other

/-- A resumption that fails, of an attempt that waited for its device to be encrypted. -/
theorem suspendedAttempt_recoverable :
    ∃ log after, Runs (Operation.remediated ⟨"ticket"⟩ .success).step suspendedAttempt.2 log
        (.error (.deviceState "offline")) after ∧
      after.state = .awaitingEncryptionRemediation ⟨"ticket"⟩ ∧
      LeftRecoverable (suspendedAttempt.1 ++ .called (.remediated ⟨"ticket"⟩ .success)
          suspendedAttempt.2 :: moments log ++ [.returned (.error (.deviceState "offline"))])
        (.remediated ⟨"ticket"⟩ .success) log after := by
  let reached := ((Operation.remediated ⟨"ticket"⟩ .success).step.run.run
    suspendedAttempt.2).answered deaf
  have run : Runs (Operation.remediated ⟨"ticket"⟩ .success).step suspendedAttempt.2 reached.1
      (.error (.deviceState "offline")) reached.2.2 := Dialogue.runs_answered deaf _
  exact ⟨reached.1, reached.2.2, run, rfl,
    failures_recoverable suspendedAttempt_history run trivial⟩

end Session

end ProvisionGate
