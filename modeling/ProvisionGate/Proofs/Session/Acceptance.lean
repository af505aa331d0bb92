import ProvisionGate.Proofs.Session.History

/-!
# The last request that was accepted

An active session works on the request that was accepted last.  What is shown about it is shown of
what happened since: `KeptSince.standing` turns a property that the moves of an active session keep
into one of all histories.
-/

namespace ProvisionGate

namespace Session

/-- What a start asks and is told if it accepts its request. -/
inductive Accepting (request : Request) : AttemptId → AcceptedRequest → SessionLog → Prop
  | anew {attempt : AttemptId} {params : Params} {caller : Caller}
      (new : request.resumedAttempt = none) (parsed : request.parse = .ok params) :
      Accepting request attempt ⟨params, caller⟩
        [⟨.freshAttempt, attempt⟩, ⟨.callerClass, .ok caller⟩, ⟨.clearConsent, .ok ()⟩]
  | again {attempt : AttemptId} {params : Params} {caller : Caller} {consented : Bool}
      (resumed : request.resumedAttempt = some attempt) (parsed : request.parse = .ok params) :
      Accepting request attempt ⟨params, caller⟩
        [⟨.callerClass, .ok caller⟩, ⟨.loadConsent attempt params.adminOrEmpty, .ok consented⟩]

end Session

/-- The exchange that completes an acceptance. -/
def Moment.Accepts : Moment → Prop
  | .exchanged ⟨.clearConsent, .ok _⟩ | .exchanged ⟨.loadConsent _ _, .ok _⟩ => True
  | _ => False

/-- At every moment of a past, something holds of that moment and what was before it. -/
def Throughout (P : List Moment → Moment → Prop) (past : List Moment) : Prop :=
  ∀ before m after, past = before ++ m :: after → P before m

namespace Throughout

variable {P : List Moment → Moment → Prop} {past later : List Moment} {m : Moment}

@[simp] theorem nil : Throughout P [] := by
  intro before m after split
  simp at split

theorem append_iff :
    Throughout P (past ++ later) ↔
      Throughout P past ∧ Throughout (fun before => P (past ++ before)) later := by
  constructor
  · intro all
    constructor
    · intro before m after split
      exact all before m (after ++ later) (by rw [split, List.append_assoc, List.cons_append])
    · intro before m after split
      exact all (past ++ before) m after (by rw [split, List.append_assoc])
  · rintro ⟨first, second⟩ before m after split
    rcases List.append_eq_append_iff.1 split with ⟨more, rfl, rest⟩ | ⟨more, rfl, rest⟩
    · exact second more m after rest
    · cases more with
      | nil =>
        rw [List.append_nil] at second
        exact (List.append_nil before).symm ▸ second [] m after rest.symm
      | cons n more =>
        obtain ⟨rfl, -⟩ := List.cons.inj rest
        exact first before m more rfl

@[simp] theorem cons_iff :
    Throughout P (m :: later) ↔ P [] m ∧ Throughout (fun before => P (m :: before)) later := by
  constructor
  · intro all
    refine ⟨all [] m later rfl, ?_⟩
    intro before n after split
    exact all (m :: before) n after (by rw [split, List.cons_append])
  · rintro ⟨first, second⟩ before n after split
    cases before with
    | nil =>
      obtain ⟨rfl, -⟩ := List.cons.inj split
      exact first
    | cons k before =>
      obtain ⟨rfl, rest⟩ := List.cons.inj split
      exact second before n after rest

/-- What holds of a moment whatever was before it. -/
theorem of_forall (all : ∀ m ∈ past, ∀ before, P before m) : Throughout P past := by
  rintro before m after rfl
  exact all m (by simp) before

end Throughout

namespace Session

open SessionStep

/-- The session works on a request, or is about to. -/
def Active (s : Session) (pending : Option AttemptEvent) : Prop :=
  pending = some .requestAccepted ∨ s.state.isUnderWay = true

/-- The last acceptance of a past, and what happened since. -/
def LastAccepted (past : List Moment) (attempt : AttemptId) (taken : AcceptedRequest)
    (since : List Moment) : Prop :=
  ∃ older request before log,
    past = older ++ .called (.start request) before :: moments log ++ since ∧
      Accepting request attempt taken log ∧ ∀ m ∈ since, ¬ m.Accepts

variable {s after : Session} {operation : Operation} {event : AttemptEvent} {log : SessionLog}
  {past since later : List Moment} {attempt : AttemptId} {taken : AcceptedRequest}
  {reached : Except SessionError (AttemptOutcome ⊕ AttemptEvent)}
  {moved : Except SessionError (Option AttemptEvent)}

theorem LastAccepted.append (last : LastAccepted past attempt taken since)
    (quiet : ∀ m ∈ later, ¬ m.Accepts) :
    LastAccepted (past ++ later) attempt taken (since ++ later) := by
  obtain ⟨older, request, before, log, rfl, accepting, since⟩ := last
  exact ⟨older, request, before, log, List.append_assoc _ _ _, accepting,
    List.forall_mem_append.2 ⟨since, quiet⟩⟩

/-! ## Moves and openings of an active session -/

theorem Move.same_request (move : Move s event log moved after) :
    after.attempt = s.attempt ∧ after.accepted = s.accepted := by
  cases move <;> exact ⟨rfl, rfl⟩

/-- A move never accepts a request. -/
theorem Move.not_accepts (move : Move s event log moved after) :
    ∀ m ∈ moments log, ¬ m.Accepts := by
  cases move with
  | evaluated begins accepted run =>
    rw [moments_append]
    refine List.forall_mem_append.2 ⟨forall_device run ?_, ?_⟩
    · simp [Moment.Accepts]
    · simp [Moment.Accepts, reported]
  | notEvaluated begins accepted run => exact forall_device run (by simp [Moment.Accepts])
  | _ => simp [Moment.Accepts, reported]

theorem not_active_of_terminal (terminal : s.state.isTerminal = true) : ¬ s.Active none := by
  rintro (same | running)
  · cases same
  · rw [AttemptState.isTerminal_of_isUnderWay running] at terminal
    cases terminal

/-- Only an active session makes a move that leaves it active. -/
theorem Move.active (move : Move s event log moved after) (expects : s.Expects event)
    (active : after.Active (pendingAfterMove moved)) : s.Active (some event) := by
  have begun {start : Precondition} (begins : Begins s.state event start) :
      s.Active (some event) := by
    generalize state : s.state = held at begins
    cases begins with
    | accepted => exact .inl rfl
    | retried evaluates => exact .inr (by rw [state]; exact AttemptState.isUnderWay_checking _)
    | takenUp => exact .inr (by rw [state]; exact AttemptState.isUnderWay_awaiting _ _)
    | resolved => exact .inr (by rw [state]; exact AttemptState.isUnderWay_awaiting _ _)
  have checked {start : Precondition} (state : s.state = .checking start) :
      s.Active (some event) :=
    .inr (by rw [state]; exact AttemptState.isUnderWay_checking _)
  have asked (prompts : Prompts s.state event) : s.Active (some event) := by
    generalize state : s.state = held at prompts
    cases prompts <;> exact .inr (by rw [state]; rfl)
  cases move with
  | ended terminal => exact absurd active (not_active_of_terminal terminal)
  | ignored running unexpected =>
    rcases active with same | underWay
    · cases same
    · exact .inr underWay
  | evaluated begins accepted run => exact begun begins
  | notEvaluated begins accepted run => exact begun begins
  | proceeded state evaluates accepted => exact checked state
  | aborted ends => exact absurd active (not_active_of_terminal rfl)
  | handedOver state evaluates accepted => exact checked state
  | notHandedOver state evaluates accepted => exact checked state
  | suspended state => exact checked state
  | prompted prompts accepted => exact asked prompts
  | notPrompted prompts accepted => exact asked prompts
  | confirmed state accepted => exact .inr (by rw [state]; rfl)
  | notSaved state accepted => exact .inr (by rw [state]; rfl)
  | launched state accepted => exact .inr (by rw [state]; rfl)
  | finished state => exact absurd active (not_active_of_terminal rfl)

/-- The events with which a call can begin that changed nothing yet, if it comes to any. -/
def openingEvents : List (Option AttemptEvent) :=
  [none, some .retryRequested, some .consentConfirmed, some .consentCancelled,
    some .proceedRequested]

/-- A call opens by taking back the ticket that is out, or leaves an attempt under way as it is. -/
theorem Opening.underWay_cases (opening : Opening operation s log reached after)
    (begun : s.state.isUnderWay = true) :
    log = [] ∧ (after = s ∧ pendingAfterOpening reached ∈ openingEvents ∨
      ∃ ticket outcome, operation = .remediated ticket.id outcome ∧
        s.desk.outstanding = some ticket ∧ after = { s with desk := .empty } ∧
        pendingAfterOpening reached =
          some (.remediationResolved (ticket.kind.resumeSignal outcome))) := by
  have fresh {P : Prop} (state : s.state = .init) : P := by
    rw [state] at begun
    cases begun
  cases opening with
  | rejected state => exact fresh state
  | callerUnknown state => exact fresh state
  | notCleared state => exact fresh state
  | notLoaded state => exact fresh state
  | acceptedAnew state => exact fresh state
  | acceptedAgain state => exact fresh state
  | resolved out => exact ⟨rfl, .inr ⟨_, _, rfl, out, rfl, rfl⟩⟩
  | _ => exact ⟨rfl, .inl ⟨rfl, by simp [openingEvents]⟩⟩

/-- A session is active after an opening that accepts a request, and otherwise only if it was. -/
theorem Opening.accepts_or (opening : Opening operation s log reached after)
    (active : after.Active (pendingAfterOpening reached)) :
    (∃ request taken, operation = .start request ∧ Accepting request after.attempt taken log ∧
      after.state = .init ∧ after.desk.outstanding = none ∧ after.accepted = some taken ∧
      reached = .ok (.inr .requestAccepted)) ∨ s.state.isUnderWay = true := by
  have underWay {after : Session} {pending : Option AttemptEvent} (active : after.Active pending)
      (same : after.state = s.state) (other : pending ≠ some .requestAccepted) :
      s.state.isUnderWay = true := by
    rcases active with accepts | running
    · exact absurd accepts other
    · rwa [same] at running
  cases opening with
  | acceptedAnew state new parsed =>
    exact .inl ⟨_, _, rfl, .anew new parsed, state, rfl, rfl, rfl⟩
  | acceptedAgain state resumed parsed =>
    exact .inl ⟨_, _, rfl, .again resumed parsed, state, rfl, rfl, rfl⟩
  | _ => exact .inr (underWay active rfl (by simp))

/-! ## What is known of an active session -/

/-- What is known of an active session since its request was accepted. -/
def Standing (Known : AcceptedRequest → List Moment → Session → Option AttemptEvent → Prop)
    (past : List Moment) (s : Session) (pending : Option AttemptEvent) : Prop :=
  s.Active pending → ∃ taken since, s.accepted = some taken ∧
    LastAccepted past s.attempt taken since ∧ Known taken since s pending

/-- What is known from the acceptance on and is kept by all that an active session does. -/
structure KeptSince
    (Known : AcceptedRequest → List Moment → Session → Option AttemptEvent → Prop) : Prop where
  accepted {taken : AcceptedRequest} {s : Session} (state : s.state = .init)
    (free : s.desk.outstanding = none) :
    Known taken [] s (some .requestAccepted)
  opening {taken : AcceptedRequest} {since : List Moment} {s after : Session}
    {operation : Operation} {log : SessionLog}
    {reached : Except SessionError (AttemptOutcome ⊕ AttemptEvent)} (resting : s.Resting)
    (begun : s.state.isUnderWay = true) (accepted : s.accepted = some taken)
    (known : Known taken since s none) (opening : Opening operation s log reached after) :
    Known taken (since ++ .called operation s :: moments log) after (pendingAfterOpening reached)
  move {taken : AcceptedRequest} {since : List Moment} {s after : Session} {event : AttemptEvent}
    {log : SessionLog} {reached : Except SessionError (Option AttemptEvent)}
    (expects : s.Expects event) (accepted : s.accepted = some taken)
    (known : Known taken since s (some event)) (move : Move s event log reached after)
    (active : after.Active (pendingAfterMove reached)) :
    Known taken (since ++ moments log) after (pendingAfterMove reached)
  returned {taken : AcceptedRequest} {since : List Moment} {s : Session}
    {result : Except SessionError AttemptOutcome} (known : Known taken since s none) :
    Known taken (since ++ [.returned result]) s none

theorem KeptSince.standing
    {Known : AcceptedRequest → List Moment → Session → Option AttemptEvent → Prop}
    (kept : KeptSince Known) : Kept (Standing Known) where
  opening := by
    intro past s after operation log reached resting holds opening active
    rcases opening.accepts_or active with
      ⟨request, taken, rfl, accepting, state, free, accepted, rfl⟩ | begun
    · refine ⟨taken, [], accepted, ⟨past, request, s, log, by simp, accepting, by simp⟩, ?_⟩
      exact kept.accepted state free
    · obtain ⟨taken, since, accepted, last, known⟩ := holds (.inr begun)
      have later := kept.opening resting begun accepted known opening
      obtain ⟨rfl, changes⟩ := opening.underWay_cases begun
      have same : after.attempt = s.attempt ∧ after.accepted = s.accepted := by
        rcases changes with ⟨rfl, -⟩ | ⟨ticket, outcome, -, -, rfl, -⟩ <;> exact ⟨rfl, rfl⟩
      have quiet : ∀ m ∈ [Moment.called operation s], ¬ m.Accepts := by simp [Moment.Accepts]
      rw [← same.1] at last
      rw [moments_nil] at later ⊢
      exact ⟨taken, since ++ [.called operation s], same.2.trans accepted, last.append quiet, later⟩
  move := by
    intro past s after event log reached expects holds move active
    obtain ⟨taken, since, accepted, last, known⟩ := holds (move.active expects active)
    obtain ⟨named, same⟩ := move.same_request
    refine ⟨taken, since ++ moments log, same.trans accepted, ?_,
      kept.move expects accepted known move active⟩
    rw [named]
    exact last.append move.not_accepts
  returned := by
    intro past s result resting holds active
    obtain ⟨taken, since, accepted, last, known⟩ := holds active
    exact ⟨taken, since ++ [.returned result], accepted, last.append (by simp [Moment.Accepts]),
      kept.returned known⟩

/-- Nothing is claimed of a session that was only opened. -/
theorem Standing.opened
    {Known : AcceptedRequest → List Moment → Session → Option AttemptEvent → Prop} :
    Standing Known past (Session.opened attempt) none := by
  rintro (same | begun)
  · cases same
  · cases begun

end Session

end ProvisionGate
