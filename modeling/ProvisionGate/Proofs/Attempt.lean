import ProvisionGate.Attempt.Transition

/-!
# An attempt under any events

Nothing is assumed of the events of an attempt: they come in any order and with any contents.  The
state alone tells what was ordered so far to conclude the attempt, a launch or the report of an
abort.  `AttemptState.Turn` says everything that one event can do, and `transition_turn` that a
transition does nothing else; whatever holds of all events is proved by cases on it.
-/

namespace ProvisionGate

/-- A command that concludes an attempt. -/
def AttemptCommand.concludes : AttemptCommand → Bool
  | launchProvisioning | reportAbort _ => true
  | _ => false

/-- A command that reports an abort. -/
def AttemptCommand.reports : AttemptCommand → Bool
  | reportAbort _ => true
  | _ => false

/-- An event of an attempt, with the states around it and the commands that it led to. -/
structure AttemptStep where
  before : AttemptState
  event : AttemptEvent
  commands : List AttemptCommand
  after : AttemptState

/-- The commands of some steps, in order. -/
def orderedBy (steps : List AttemptStep) : List AttemptCommand :=
  steps.flatMap AttemptStep.commands

namespace AttemptState

/-- The steps of an attempt through a list of events. -/
def steps (state : AttemptState) : List AttemptEvent → List AttemptStep
  | [] => []
  | event :: rest =>
    ⟨state, event, (state.transition event).2, (state.transition event).1⟩ ::
      (state.transition event).1.steps rest

/-- The state of an attempt after a list of events. -/
def afterAll (state : AttemptState) (events : List AttemptEvent) : AttemptState :=
  events.foldl (fun state event => (state.transition event).1) state

/-- What was ordered to conclude an attempt by the time it is in a state. -/
def conclusion : AttemptState → List AttemptCommand
  | launching | done _ => [.launchProvisioning]
  | aborted reason => [.reportAbort reason]
  | _ => []

/-- What an event does to a state: the state after it and the commands. -/
inductive Turn : AttemptState → AttemptEvent → AttemptState → List AttemptCommand → Prop
  | ignored {state : AttemptState} {event : AttemptEvent} : Turn state event state []
  | evaluates {state : AttemptState} {event : AttemptEvent} {start : Precondition}
      (undecided : state.conclusion = []) :
      Turn state event (checking start) [.evaluate start]
  | remedies {state : AttemptState} {kind : RemediationKind} (undecided : state.conclusion = []) :
      Turn state (.preconditionsEvaluated (.remediate kind)) (checking kind.precondition)
        [.beginRemediation kind]
  | suspends {state : AttemptState} {kind : RemediationKind} {ticket : TicketId}
      (undecided : state.conclusion = []) :
      Turn state (.remediationRequested kind ticket) (awaiting kind ticket) []
  | aborts {state : AttemptState} {event : AttemptEvent} {reason : AbortReason}
      (undecided : state.conclusion = []) :
      Turn state event (aborted reason) [.reportAbort reason]
  | consults {state : AttemptState} (undecided : state.conclusion = []) :
      Turn state (.preconditionsEvaluated .proceed) checkingNetwork [.consultConsent]
  | prompts {state : AttemptState} {event : AttemptEvent} (undecided : state.conclusion = []) :
      Turn state event awaitingConsent [.presentConsent]
  | launches : Turn checkingNetwork .consentNotRequired launching [.launchProvisioning]
  | confirmed :
      Turn awaitingConsent .consentConfirmed launching [.persistConsent, .launchProvisioning]
  | finished {result : LaunchResult} :
      Turn launching (.provisioningFinished result) (done result) []

variable {state next : AttemptState} {event : AttemptEvent} {commands : List AttemptCommand}

/-! ## One event -/

theorem conclusion_of_checked (checked : state.checkedPrecondition?.isSome = true) :
    state.conclusion = [] := by
  cases state <;> first | rfl | cases checked

theorem conclusion_of_pending (pending : state.pendingTicket?.isSome = true) :
    state.conclusion = [] := by
  cases state <;> first | rfl | cases pending

@[simp] theorem conclusion_checking (start : Precondition) : (checking start).conclusion = [] := by
  cases start <;> rfl

@[simp] theorem conclusion_awaiting (kind : RemediationKind) (ticket : TicketId) :
    (awaiting kind ticket).conclusion = [] := by
  cases kind <;> rfl

theorem conclusion_of_terminal (terminal : state.isTerminal = true) : state.conclusion ≠ [] := by
  cases state with
  | aborted reason => simp [conclusion]
  | done result => simp [conclusion]
  | _ => cases terminal

theorem checking_of_checked {start : Precondition}
    (checked : state.checkedPrecondition? = some start) : state = checking start := by
  cases state <;> cases checked <;> rfl

theorem retried_turn : Turn state .retryRequested state.retried.1 state.retried.2 := by
  unfold retried
  cases checked : state.checkedPrecondition? with
  | some start =>
    have undecided : state.conclusion = [] := by
      apply conclusion_of_checked
      rw [checked]
      rfl
    rw [checking_of_checked checked] at undecided ⊢
    exact .evaluates undecided
  | none =>
    by_cases pending : state.pendingTicket?.isSome = true
    · simp only [pending, if_true, evaluateFrom]
      exact .evaluates (conclusion_of_pending pending)
    · simp only [pending]
      exact .ignored

theorem transition_turn (state : AttemptState) (event : AttemptEvent) :
    Turn state event (state.transition event).1 (state.transition event).2 := by
  cases event with
  | requestAccepted =>
    by_cases fresh : state = init
    · subst fresh
      show Turn init .requestAccepted (checking .notYetProvisioned) [.evaluate .notYetProvisioned]
      exact .evaluates rfl
    · simp only [transition, fresh, if_false]
      exact .ignored
  | requestRejected rejection =>
    by_cases fresh : state = init
    · subst fresh
      exact .aborts rfl
    · simp only [transition, fresh, if_false]
      exact .ignored
  | preconditionsEvaluated decision =>
    by_cases checked : state.checkedPrecondition?.isSome = true
    · have undecided := conclusion_of_checked checked
      simp only [transition, checked, if_true]
      cases decision with
      | proceed => exact .consults undecided
      | abort reason => exact .aborts undecided
      | remediate kind => exact .remedies undecided
    · simp only [transition, checked]
      exact .ignored
  | remediationRequested kind ticket =>
    by_cases checked : state.checkedPrecondition? = some kind.precondition
    · have undecided : state.conclusion = [] := by
        apply conclusion_of_checked
        rw [checked]
        rfl
      simp only [transition, checked, if_true]
      exact .suspends undecided
    · simp only [transition, checked, if_false]
      exact .ignored
  | remediationResolved signal =>
    by_cases pending : state.pendingTicket?.isSome = true
    · have undecided := conclusion_of_pending pending
      simp only [transition, pending, if_true]
      cases signal with
      | reevaluate start => exact .evaluates undecided
      | abort reason => exact .aborts undecided
    · simp only [transition, pending]
      exact .ignored
  | consentRequired =>
    by_cases reached : state = checkingNetwork
    · subst reached
      exact .prompts rfl
    · simp only [transition, reached, if_false]
      exact .ignored
  | consentNotRequired =>
    by_cases reached : state = checkingNetwork
    · subst reached
      exact .launches
    · simp only [transition, reached, if_false]
      exact .ignored
  | consentConfirmed =>
    by_cases waits : state = awaitingConsent
    · subst waits
      exact .confirmed
    · simp only [transition, waits, if_false]
      exact .ignored
  | consentCancelled => exact .ignored
  | proceedRequested =>
    by_cases waits : state = awaitingConsent
    · subst waits
      exact .prompts rfl
    · simp only [transition, waits, if_false]
      exact .ignored
  | provisioningFinished result =>
    by_cases launched : state = launching
    · subst launched
      exact .finished
    · simp only [transition, launched, if_false]
      exact .ignored
  | retryRequested => exact retried_turn

/-- What an event orders to conclude an attempt is what the state after it tells more. -/
theorem Turn.conclusion_eq (turn : Turn state event next commands) :
    next.conclusion = state.conclusion ++ commands.filter AttemptCommand.concludes := by
  cases turn with
  | ignored => simp
  | evaluates undecided =>
    rw [undecided, conclusion_checking]
    rfl
  | remedies undecided =>
    rw [undecided, conclusion_checking]
    rfl
  | suspends undecided =>
    rw [undecided, conclusion_awaiting]
    rfl
  | aborts undecided | consults undecided | prompts undecided =>
    rw [undecided]
    rfl
  | launches | confirmed | finished => rfl

/-- The user is waited for only after being asked. -/
theorem Turn.awaitingConsent_cases (turn : Turn state event next commands)
    (waits : next = awaitingConsent) : state = awaitingConsent ∨ .presentConsent ∈ commands := by
  cases turn with
  | ignored => exact .inl waits
  | prompts undecided => exact .inr (List.mem_singleton_self _)
  | @evaluates _ _ start undecided => cases start <;> cases waits
  | @remedies _ kind undecided => cases kind <;> cases waits
  | @suspends _ kind ticket undecided => cases kind <;> cases waits
  | _ => cases waits

/-- An attempt at its end takes no event. -/
theorem Turn.of_terminal (turn : Turn state event next commands)
    (terminal : state.isTerminal = true) : next = state ∧ commands = [] := by
  have decided := conclusion_of_terminal terminal
  cases turn with
  | ignored => exact ⟨rfl, rfl⟩
  | launches | confirmed | finished => cases terminal
  | evaluates undecided | remedies undecided | suspends undecided | aborts undecided
  | consults undecided | prompts undecided => exact absurd undecided decided

end AttemptState

/-- A step orders nothing that does not belong to the state after it or to the commands before it. -/
structure AttemptStep.IsOrderly (past : List AttemptCommand) (step : AttemptStep) : Prop where
  evaluates : ∀ start, .evaluate start ∈ step.commands → step.after = .checking start
  remedies : ∀ kind, .beginRemediation kind ∈ step.commands →
    step.after = .checking kind.precondition
  persists : .persistConsent ∈ step.commands → step.event = .consentConfirmed ∧
    step.commands = [.persistConsent, .launchProvisioning] ∧ .presentConsent ∈ past
  ended : step.before.isTerminal = true → step.commands = [] ∧ step.after = step.before

namespace AttemptState

variable {state next : AttemptState} {event : AttemptEvent} {commands past : List AttemptCommand}

/-! ## Any events -/

/-- What the state of an attempt tells about the commands so far. -/
structure Tells (state : AttemptState) (past : List AttemptCommand) : Prop where
  concluded : past.filter AttemptCommand.concludes = state.conclusion
  asked : state = awaitingConsent → .presentConsent ∈ past

theorem Tells.turn (tells : state.Tells past) (turn : Turn state event next commands) :
    next.Tells (past ++ commands) where
  concluded := by rw [List.filter_append, tells.concluded, turn.conclusion_eq]
  asked waits := by
    rcases turn.awaitingConsent_cases waits with already | asked
    · exact List.mem_append_left _ (tells.asked already)
    · exact List.mem_append_right _ asked

theorem Tells.orderly (tells : state.Tells past) (turn : Turn state event next commands) :
    AttemptStep.IsOrderly past ⟨state, event, commands, next⟩ where
  evaluates start ordered := by
    cases turn with
    | evaluates undecided =>
      cases List.mem_singleton.1 ordered
      rfl
    | _ => simp at ordered
  remedies kind ordered := by
    cases turn with
    | remedies undecided =>
      cases List.mem_singleton.1 ordered
      rfl
    | _ => simp at ordered
  persists ordered := by
    cases turn with
    | confirmed => exact ⟨rfl, rfl, tells.asked rfl⟩
    | _ => simp at ordered
  ended terminal := (turn.of_terminal terminal).symm

theorem Tells.steps (tells : state.Tells past) (events : List AttemptEvent) :
    (state.afterAll events).Tells (past ++ orderedBy (state.steps events)) := by
  induction events generalizing state past with
  | nil =>
    have whole : past ++ orderedBy (state.steps []) = past := List.append_nil past
    rwa [whole]
  | cons event rest ih =>
    have later := ih (tells.turn (transition_turn state event))
    rw [List.append_assoc] at later
    exact later

theorem tells_afterAll (events : List AttemptEvent) :
    (init.afterAll events).Tells (orderedBy (init.steps events)) := by
  have begun : init.Tells [] := ⟨rfl, fun waits => by cases waits⟩
  exact begun.steps events

/-- A step of a run is one event, taken after those before it. -/
theorem of_steps_eq {events : List AttemptEvent} {earlier later : List AttemptStep}
    {step : AttemptStep} (split : state.steps events = earlier ++ step :: later) :
    ∃ before, earlier = state.steps before ∧
      step = ⟨state.afterAll before, step.event,
        ((state.afterAll before).transition step.event).2,
        ((state.afterAll before).transition step.event).1⟩ := by
  induction events generalizing state earlier with
  | nil => simp [steps] at split
  | cons event rest ih =>
    cases earlier with
    | nil =>
      obtain ⟨rfl, -⟩ := List.cons.inj split
      exact ⟨[], rfl, rfl⟩
    | cons first more =>
      obtain ⟨rfl, tail⟩ := List.cons.inj split
      obtain ⟨before, rfl, taken⟩ := ih tail
      exact ⟨event :: before, rfl, taken⟩

theorem length_conclusion_le (state : AttemptState) : state.conclusion.length ≤ 1 := by
  cases state <;> simp [conclusion]

theorem filter_reports_conclusion (reason : AbortReason) :
    (aborted reason).conclusion.filter AttemptCommand.reports = [.reportAbort reason] := rfl

/-- Whatever events an attempt takes, at most one command concludes it, and that once; the report
of an abort has the reason of the state; and every step is orderly. -/
theorem concludes_once (events : List AttemptEvent) :
    ((orderedBy (init.steps events)).filter AttemptCommand.concludes).length ≤ 1 ∧
    (∀ reason, init.afterAll events = aborted reason →
      (orderedBy (init.steps events)).filter AttemptCommand.reports = [.reportAbort reason]) ∧
    ∀ earlier step later, init.steps events = earlier ++ step :: later →
      step.IsOrderly (orderedBy earlier) := by
  have tells := tells_afterAll events
  refine ⟨?_, ?_, ?_⟩
  · rw [tells.concluded]
    exact length_conclusion_le _
  · intro reason ended
    have reported (commands : List AttemptCommand) : commands.filter AttemptCommand.reports =
        (commands.filter AttemptCommand.concludes).filter AttemptCommand.reports := by
      rw [List.filter_filter]
      congr 1
      funext command
      cases command <;> rfl
    rw [reported, tells.concluded, ended]
    exact filter_reports_conclusion reason
  · intro earlier step later split
    obtain ⟨before, rfl, taken⟩ := of_steps_eq split
    rw [taken]
    exact (tells_afterAll before).orderly (transition_turn _ _)

end AttemptState

end ProvisionGate
