import ProvisionGate.Proofs.Request.Password
import ProvisionGate.Proofs.Session.History

/-!
# Sessions seen without their password

A session with its password masked, asked the same, does the same: `step.SeenAs f other` says that
`other` does to masked sessions what `step` does to sessions, and ends with what `f` makes of the
result.  There is one rule for each way of building a step, and with them every step of a session is
seen as itself.  Only a start is seen as another step, one that has masked parameters to work with.
-/

namespace ProvisionGate

/-- The ticket with its password masked. -/
def Ticket.masked (t : Ticket) : Ticket :=
  { t with resumeParams := t.resumeParams.masked }

/-- The accepted request with its password masked. -/
def AcceptedRequest.masked (accepted : AcceptedRequest) : AcceptedRequest :=
  { accepted with params := accepted.params.masked }

/-- The desk with the password of the ticket that is out masked. -/
def RemediationDesk.masked (desk : RemediationDesk) : RemediationDesk :=
  ⟨desk.outstanding.map Ticket.masked⟩

namespace Session

open SessionStep

/-- The session with its password masked. -/
def masked (s : Session) : Session :=
  { s with accepted := s.accepted.map AcceptedRequest.masked, desk := s.desk.masked }

/-- The exchange with its password masked: it is in the parameters of a launch and of a ticket. -/
def maskedExchange : Dialogue.Exchange SessionCall.Answer → Dialogue.Exchange SessionCall.Answer
  | ⟨.launch params, answer⟩ => ⟨.launch params.masked, answer⟩
  | ⟨.requestRemediation ticket, answer⟩ => ⟨.requestRemediation ticket.masked, answer⟩
  | x => x

end Session

namespace SessionStep

variable {α β γ δ : Type}

/-- A step, seen with its password masked, is another one. -/
def SeenAs (f : α → β) (step : SessionStep α) (other : SessionStep β) : Prop :=
  ∀ s log result after, Runs step s log result after →
    Runs other s.masked (log.map Session.maskedExchange) (result.map f) after.masked

/-- A step is seen as itself. -/
abbrev Blind (step : SessionStep α) : Prop :=
  SeenAs id step step

theorem seenAs_pure {f : α → β} {a : α} {b : β} (same : f a = b) :
    SeenAs f (pure a) (pure b) := by
  subst same
  intro s log result after run
  obtain ⟨rfl, rfl, rfl⟩ := runs_pure_iff.1 run
  exact runs_pure_iff.2 ⟨rfl, rfl, rfl⟩

theorem blind_pure (a : α) : Blind (pure a) :=
  seenAs_pure rfl

theorem seenAs_throw {f : α → β} (error : SessionError) :
    SeenAs f (throw error) (throw error) := by
  intro s log result after run
  obtain ⟨rfl, rfl, rfl⟩ := runs_throw_iff.1 run
  exact runs_throw_iff.2 ⟨rfl, rfl, rfl⟩

theorem SeenAs.bind {f : α → γ} {g : β → δ} {step : SessionStep α} {other : SessionStep γ}
    {next : α → SessionStep β} {otherNext : γ → SessionStep δ} (first : SeenAs f step other)
    (second : ∀ a, SeenAs g (next a) (otherNext (f a))) :
    SeenAs g (step >>= next) (other >>= otherNext) := by
  intro s log result after run
  rcases runs_bind_iff.1 run with
    ⟨error, failed, rfl⟩ | ⟨before, behind, a, middle, rfl, begun, ended⟩
  · exact runs_bind_iff.2 (.inl ⟨error, first _ _ _ _ failed, rfl⟩)
  · rw [List.map_append]
    exact runs_bind_iff.2
      (.inr ⟨_, _, f a, middle.masked, rfl, first _ _ _ _ begun, second a _ _ _ _ ended⟩)

theorem Blind.bind {g : β → δ} {step : SessionStep α} {next : α → SessionStep β}
    {otherNext : α → SessionStep δ} (first : Blind step)
    (second : ∀ a, SeenAs g (next a) (otherNext a)) :
    SeenAs g (step >>= next) (step >>= otherNext) :=
  SeenAs.bind first second

theorem seenAs_get_bind {g : β → δ} {next : Session → SessionStep β}
    {otherNext : Session → SessionStep δ}
    (rest : ∀ s, SeenAs g (next s) (otherNext s.masked)) :
    SeenAs g (get >>= next) (get >>= otherNext) := by
  intro s log result after run
  exact runs_get_bind_iff.2 (rest s _ _ _ _ (runs_get_bind_iff.1 run))

theorem seenAs_set_bind {g : β → δ} {s other : Session} {next : PUnit → SessionStep β}
    {otherNext : PUnit → SessionStep δ} (same : s.masked = other)
    (rest : SeenAs g (next ⟨⟩) (otherNext ⟨⟩)) :
    SeenAs g (set s >>= next) (set other >>= otherNext) := by
  subst same
  intro begun log result after run
  exact runs_set_bind_iff.2 (rest _ _ _ _ (runs_set_bind_iff.1 run))

theorem seenAs_modify (change other : Session → Session)
    (same : ∀ s, (change s).masked = other s.masked) :
    SeenAs id (modify change) (modify other) := by
  intro s log result after run
  obtain ⟨rfl, rfl, rfl⟩ := runs_modify_iff.1 run
  exact runs_modify_iff.2 ⟨rfl, rfl, same s⟩

theorem seenAs_ask {call other : SessionCall} {f : call.Answer → other.Answer}
    (same : ∀ answer, Session.maskedExchange ⟨call, answer⟩ = ⟨other, f answer⟩) :
    SeenAs f (Session.ask call) (Session.ask other) := by
  intro s log result after run
  obtain ⟨answer, rfl, rfl, rfl⟩ := runs_ask_iff.1 run
  exact runs_ask_iff.2 ⟨f answer, by rw [List.map_singleton, same], rfl, rfl⟩

/-- A call without parameters and without a ticket is seen as itself. -/
theorem blind_ask (call : SessionCall)
    (same : ∀ answer, Session.maskedExchange ⟨call, answer⟩ = ⟨call, answer⟩) :
    Blind (Session.ask call) :=
  seenAs_ask same

theorem seenAs_ask_launch (params : Params) :
    SeenAs (fun answer => answer) (Session.ask (.launch params))
      (Session.ask (.launch params.masked)) :=
  seenAs_ask fun _ => rfl

theorem seenAs_ask_requestRemediation (ticket : Ticket) :
    SeenAs (fun answer => answer) (Session.ask (.requestRemediation ticket))
      (Session.ask (.requestRemediation ticket.masked)) :=
  seenAs_ask fun _ => rfl

theorem blind_orFail (error : String → SessionError) (answer : Except String α) :
    Blind (Session.orFail error answer) := by
  cases answer with
  | ok a => exact blind_pure a
  | error cause => exact seenAs_throw (error cause)

/-- A program of the surroundings that neither launches nor asks for a remediation. -/
theorem seenAs_lift_bind {g : β → δ} {program : Dialogue SessionCall.Answer α}
    {next : α → SessionStep β} {otherNext : α → SessionStep δ}
    (same : ∀ log a, Dialogue.Runs program log a → ∀ x ∈ log, Session.maskedExchange x = x)
    (rest : ∀ a, SeenAs g (next a) (otherNext a)) :
    SeenAs g (liftM program >>= next) (liftM program >>= otherNext) := by
  intro s log result after run
  obtain ⟨first, second, a, rfl, begun, ended⟩ := runs_lift_bind_iff.1 run
  have kept : first.map Session.maskedExchange = first := by
    rw [List.map_congr_left (same first a begun), List.map_id']
  rw [List.map_append, kept]
  exact runs_lift_bind_iff.2 ⟨first, _, a, rfl, begun, rest a _ _ _ _ ended⟩

end SessionStep

namespace Session

open SessionStep

/-! ## Every step is seen as itself -/

theorem seenAs_requireAccepted (command : String) :
    SeenAs AcceptedRequest.masked (requireAccepted command) (requireAccepted command) := by
  refine seenAs_get_bind fun s => ?_
  cases held : s.accepted with
  | none =>
    simp only [masked, held, Option.map_none]
    exact seenAs_throw _
  | some accepted =>
    simp only [masked, held, Option.map_some]
    exact seenAs_pure rfl

theorem evaluateDevice_masked (accepted : AcceptedRequest) (start : Precondition) :
    evaluateDevice accepted.masked start = evaluateDevice accepted start := rfl

theorem blind_evaluate (start : Precondition) : Blind (evaluate start) := by
  refine (seenAs_requireAccepted _).bind fun accepted => ?_
  rw [evaluateDevice_masked]
  refine seenAs_lift_bind ?_ fun evaluation => ?_
  · intro log result run x member
    obtain ⟨fact, answer, rfl⟩ := evaluateDevice_asks_device run x member
    rfl
  · exact (blind_orFail _ _).bind fun evaluation => blind_pure _

theorem blind_beginRemediation (kind : RemediationKind) : Blind (beginRemediation kind) := by
  refine (seenAs_requireAccepted _).bind fun accepted => ?_
  refine (blind_ask .freshTicket fun _ => rfl).bind fun id => seenAs_get_bind fun s => ?_
  cases out : s.desk.outstanding with
  | some ticket =>
    simp only [RemediationDesk.begin?, masked, RemediationDesk.masked, out, Option.map_some]
    exact seenAs_throw _
  | none =>
    simp only [RemediationDesk.begin?, masked, RemediationDesk.masked, out, Option.map_none]
    refine seenAs_set_bind rfl ((seenAs_ask_requestRemediation _).bind fun answer => ?_)
    cases answer with
    | ok handed => exact blind_pure _
    | error cause =>
      exact Blind.bind (seenAs_modify _ _ fun _ => rfl) fun _ => seenAs_throw _

theorem blind_consultConsent : Blind consultConsent :=
  (seenAs_requireAccepted _).bind fun _ => seenAs_get_bind fun _ => blind_pure _

theorem blind_presentConsent : Blind presentConsent :=
  (seenAs_requireAccepted _).bind fun _ => seenAs_get_bind fun _ =>
    (blind_ask (.presentConsent _) fun _ => rfl).bind fun _ => blind_orFail _ _

theorem blind_persistConsent : Blind persistConsent := by
  refine (seenAs_requireAccepted _).bind fun accepted => ?_
  refine Blind.bind (seenAs_modify _ _ fun _ => rfl) fun _ => seenAs_get_bind fun s => ?_
  refine (blind_ask .currentTime fun _ => rfl).bind fun time => ?_
  exact (blind_ask (.saveConsent _) fun _ => rfl).bind fun _ => blind_orFail _ _

theorem blind_launch : Blind launch := by
  refine (seenAs_requireAccepted _).bind fun accepted => ?_
  refine (seenAs_ask_launch _).bind fun answer => ?_
  cases answer with
  | ok result => exact blind_pure _
  | error cause => exact blind_pure _

theorem blind_reportAbort (reason : AbortReason) : Blind (reportAbort reason) :=
  seenAs_get_bind fun s => blind_ask (.reportAbort s.attempt reason) fun _ => rfl

theorem blind_perform (command : AttemptCommand) : Blind (perform command) := by
  cases command with
  | evaluate start => exact (blind_evaluate start).bind fun _ => blind_pure _
  | beginRemediation kind => exact (blind_beginRemediation kind).bind fun _ => blind_pure _
  | consultConsent => exact blind_consultConsent.bind fun _ => blind_pure _
  | presentConsent => exact blind_presentConsent.bind fun _ => blind_pure _
  | persistConsent => exact blind_persistConsent.bind fun _ => blind_pure _
  | launchProvisioning => exact blind_launch.bind fun _ => blind_pure _
  | reportAbort reason => exact (blind_reportAbort reason).bind fun _ => blind_pure _

theorem blind_performAll (commands : List AttemptCommand) : Blind (performAll commands) := by
  induction commands with
  | nil => exact blind_pure _
  | cons command rest ih =>
    exact (blind_perform command).bind fun _ => ih.bind fun _ => blind_pure _

theorem blind_commit (state : AttemptState) : Blind (commit state) := by
  refine Blind.bind (seenAs_modify _ _ fun _ => rfl) fun _ => seenAs_get_bind fun s => ?_
  exact blind_ask (.reportState s.attempt state) fun _ => rfl

theorem blind_handle (event : AttemptEvent) : Blind (handle event) := by
  refine seenAs_get_bind fun s => ?_
  show SeenAs id (if s.state.isTerminal then _ else _) (if s.state.isTerminal then _ else _)
  split
  · exact blind_pure _
  · exact (blind_performAll _).bind fun _ => (blind_commit _).bind fun _ => blind_pure _

theorem blind_handleAll (bound : Nat) (events : List AttemptEvent) :
    Blind (handleAll bound events) := by
  induction bound generalizing events with
  | zero => exact blind_pure _
  | succ bound ih =>
    cases events with
    | nil => exact blind_pure _
    | cons event rest => exact (blind_handle event).bind fun _ => ih _

theorem blind_dispatch (event : AttemptEvent) : Blind (dispatch event) :=
  (blind_handleAll _ _).bind fun _ => seenAs_get_bind fun _ => blind_pure _

theorem blind_retryEvaluation : Blind retryEvaluation := by
  refine seenAs_get_bind fun s => ?_
  have out : s.masked.desk.outstanding.isSome = s.desk.outstanding.isSome := by
    rw [masked, RemediationDesk.masked, Option.isSome_map]
  rw [out]
  show SeenAs id (if s.state.pendingTicket?.isSome && s.desk.outstanding.isSome then _ else _)
    (if s.state.pendingTicket?.isSome && s.desk.outstanding.isSome then _ else _)
  split
  · exact blind_pure _
  · exact blind_dispatch _

theorem blind_remediated (id : TicketId) (outcome : RemediationOutcome) :
    Blind (remediated id outcome) := by
  refine seenAs_get_bind fun s => ?_
  cases out : s.desk.outstanding with
  | none =>
    simp only [RemediationDesk.resolve?, masked, RemediationDesk.masked, out, Option.map_none]
    exact seenAs_throw _
  | some ticket =>
    simp only [RemediationDesk.resolve?, masked, RemediationDesk.masked, out, Option.map_some]
    by_cases known : ticket.id = id
    · have also : ticket.masked.id = id := known
      simp only [if_pos known, if_pos also]
      exact seenAs_set_bind rfl (blind_dispatch _)
    · have neither : ¬ ticket.masked.id = id := known
      simp only [if_neg known, if_neg neither]
      exact seenAs_throw _

theorem blind_cancelConsent : Blind cancelConsent :=
  -- A cancelled consent leaves the gate as it is.
  Blind.bind (seenAs_modify _ _ fun s => (congrArg masked (ite_self s)).trans (ite_self _).symm)
    fun _ => blind_dispatch _

/-! ## A start -/

/-- The start of a request that is parsed already. -/
def startParsed (resumed : Option AttemptId) (parsed : Except RequestFault Params) :
    SessionStep AttemptOutcome := do
  let state := (← get).state
  if state ≠ .init then throw (.alreadyStarted state)
  let attempt ←
    match resumed with
    | some attempt => pure attempt
    | none => ask .freshAttempt
  modify fun session => { session with attempt }
  match parsed with
  | .ok params =>
    accept attempt params resumed.isSome
    dispatch .requestAccepted
  | .error fault => dispatch (.requestRejected fault.rejection)

theorem start_eq (request : Request) :
    start request = startParsed request.resumedAttempt request.parse := rfl

theorem seenAs_accept (attempt : AttemptId) (params : Params) (isResumed : Bool) :
    SeenAs id (accept attempt params isResumed) (accept attempt params.masked isResumed) := by
  refine (blind_ask .callerClass fun _ => rfl).bind fun answer => ?_
  refine (blind_orFail _ answer).bind fun caller => ?_
  cases isResumed with
  | true =>
    refine (blind_ask (.loadConsent attempt params.adminOrEmpty) fun _ => rfl).bind fun _ => ?_
    exact (blind_orFail _ _).bind fun _ => seenAs_modify _ _ fun _ => rfl
  | false =>
    refine (blind_ask .clearConsent fun _ => rfl).bind fun _ => ?_
    exact (blind_orFail _ _).bind fun _ => seenAs_modify _ _ fun _ => rfl

theorem seenAs_startParsed (resumed : Option AttemptId) (parsed : Except RequestFault Params) :
    SeenAs id (startParsed resumed parsed) (startParsed resumed (Params.masked <$> parsed)) := by
  have named (attempt : AttemptId) :
      SeenAs id
        (do
          modify fun session => { session with attempt }
          match parsed with
          | .ok params =>
            accept attempt params resumed.isSome
            dispatch .requestAccepted
          | .error fault => dispatch (.requestRejected fault.rejection))
        (do
          modify fun session => { session with attempt }
          match Params.masked <$> parsed with
          | .ok params =>
            accept attempt params resumed.isSome
            dispatch .requestAccepted
          | .error fault => dispatch (.requestRejected fault.rejection)) := by
    refine Blind.bind (seenAs_modify _ _ fun _ => rfl) fun _ => ?_
    cases parsed with
    | ok params => exact (seenAs_accept attempt params _).bind fun _ => blind_dispatch _
    | error fault => exact blind_dispatch _
  refine seenAs_get_bind fun s => ?_
  show SeenAs id (if s.state ≠ .init then _ else _) (if s.state ≠ .init then _ else _)
  split
  · exact seenAs_throw _
  · cases resumed with
    | some attempt => exact named attempt
    | none => exact (blind_ask .freshAttempt fun _ => rfl).bind fun attempt => named attempt

/-- A call is seen as itself, and the start of a request as one that has masked parameters. -/
def stepSeen : Operation → SessionStep AttemptOutcome
  | .start request => startParsed request.resumedAttempt (Params.masked <$> request.parse)
  | operation => operation.step

theorem seenAs_step (operation : Operation) : SeenAs id operation.step (stepSeen operation) := by
  cases operation with
  | start request =>
    show SeenAs id (start request) _
    rw [start_eq]
    exact seenAs_startParsed _ _
  | remediated id outcome => exact blind_remediated id outcome
  | retryEvaluation => exact blind_retryEvaluation
  | confirmConsent => exact blind_dispatch _
  | cancelConsent => exact blind_cancelConsent
  | requestProceed => exact blind_dispatch _

end Session

end ProvisionGate
