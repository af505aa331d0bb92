import ProvisionGate.Proofs.Attempt
import ProvisionGate.Proofs.Session.Calls

/-!
# The loop over the events of a session

An event is handled, the events that follow from it become pending, the latest of them is handled
next, and so on until none is left.  `Rounds` says what this loop does without a bound, in any
session and whatever the surroundings answer.  It comes to its end within four events.  What makes
it end is not the state of the attempt, which can go back to an earlier check, but the event: one
that follows from another one reaches less far.
-/

namespace ProvisionGate

open SessionStep

/-! ## The events that commands bring -/

namespace AttemptCommand

/-- The events that can follow from a command that is carried out. -/
inductive Brings : AttemptCommand → List AttemptEvent → Prop
  | evaluated {start : Precondition} {decision : Decision} :
      Brings (.evaluate start) [.preconditionsEvaluated decision]
  | handedOver {kind : RemediationKind} {ticket : TicketId} :
      Brings (.beginRemediation kind) [.remediationRequested kind ticket]
  | required : Brings .consultConsent [.consentRequired]
  | unneeded : Brings .consultConsent [.consentNotRequired]
  | prompted : Brings .presentConsent []
  | persisted : Brings .persistConsent []
  | launched {result : LaunchResult} : Brings .launchProvisioning [.provisioningFinished result]
  | reported {reason : AbortReason} : Brings (.reportAbort reason) []

/-- The events that can follow from commands that are carried out one after the other. -/
inductive BringAll : List AttemptCommand → List AttemptEvent → Prop
  | nil : BringAll [] []
  | cons {command : AttemptCommand} {rest : List AttemptCommand} {first later : List AttemptEvent}
      (brings : command.Brings first) (more : BringAll rest later) :
      BringAll (command :: rest) (first ++ later)

theorem bringAll_one {command : AttemptCommand} {events : List AttemptEvent} :
    BringAll [command] events ↔ command.Brings events := by
  constructor
  · intro all
    cases all with
    | @cons _ _ first _ brings more =>
      cases more with
      | nil => rwa [List.append_nil]
  · intro brings
    rw [← List.append_nil events]
    exact .cons brings .nil

theorem bringAll_confirmed {events : List AttemptEvent}
    (all : BringAll [.persistConsent, .launchProvisioning] events) :
    ∃ result, events = [.provisioningFinished result] := by
  cases all with
  | cons persists more =>
    cases persists
    cases bringAll_one.1 more with
    | launched => exact ⟨_, rfl⟩

end AttemptCommand

namespace Session

theorem evaluate_yields (start : Precondition) :
    Yields (evaluate start) fun event => ∃ decision, event = .preconditionsEvaluated decision :=
  yields_after fun _ => yields_after fun _ => yields_after fun e => yields_pure ⟨e.decision, rfl⟩

theorem beginRemediation_yields (kind : RemediationKind) :
    Yields (beginRemediation kind) fun event =>
      ∃ ticket, event = .remediationRequested kind ticket := by
  refine yields_after fun accepted => yields_after fun id => yields_after fun session => ?_
  cases session.desk.begin? id kind session.attempt accepted.params with
  | error error => exact yields_throw
  | ok given =>
    refine yields_after fun _ => yields_after fun answer => ?_
    cases answer with
    | ok done => exact yields_pure ⟨given.1.id, rfl⟩
    | error cause => exact yields_after fun _ => yields_throw

theorem consultConsent_yields :
    Yields consultConsent fun event => event = .consentRequired ∨ event = .consentNotRequired := by
  refine yields_after fun accepted => yields_after fun session => yields_pure ?_
  cases session.gate.isRequired accepted.params accepted.caller with
  | true => exact .inl rfl
  | false => exact .inr rfl

theorem launch_yields :
    Yields launch fun event => ∃ result, event = .provisioningFinished result := by
  refine yields_after fun accepted => yields_after fun answer => ?_
  cases answer with
  | ok result => exact yields_pure ⟨result, rfl⟩
  | error cause => exact yields_pure ⟨.failed cause, rfl⟩

theorem perform_brings (command : AttemptCommand) : Yields (perform command) command.Brings := by
  cases command with
  | evaluate start =>
    refine yields_bind (evaluate_yields start) ?_
    rintro _ ⟨decision, rfl⟩
    exact yields_pure .evaluated
  | beginRemediation kind =>
    refine yields_bind (beginRemediation_yields kind) ?_
    rintro _ ⟨ticket, rfl⟩
    exact yields_pure .handedOver
  | consultConsent =>
    refine yields_bind consultConsent_yields ?_
    rintro _ (rfl | rfl)
    · exact yields_pure .required
    · exact yields_pure .unneeded
  | presentConsent => exact yields_after fun _ => yields_pure .prompted
  | persistConsent => exact yields_after fun _ => yields_pure .persisted
  | launchProvisioning =>
    refine yields_bind launch_yields ?_
    rintro _ ⟨result, rfl⟩
    exact yields_pure .launched
  | reportAbort reason => exact yields_after fun _ => yields_pure .reported

theorem performAll_brings (commands : List AttemptCommand) :
    Yields (performAll commands) (AttemptCommand.BringAll commands) := by
  induction commands with
  | nil => exact yields_pure .nil
  | cons command rest ih =>
    exact yields_bind (perform_brings command) fun first brings =>
      yields_bind ih fun later more => yields_pure (.cons brings more)

/-! ## One event -/

section handling

variable {s after : Session} {event : AttemptEvent} {followUps : List AttemptEvent}
  {log : SessionLog} {kind : RemediationKind} {id : TicketId} {decision : Decision}

/-- An event moves the attempt, and those that follow from it come from the commands it ordered. -/
theorem handle_brings (run : Runs (handle event) s log (.ok followUps) after) :
    after.state = (s.state.transition event).1 ∧
      AttemptCommand.BringAll (s.state.transition event).2 followUps := by
  by_cases terminal : s.state.isTerminal = true
  · obtain ⟨state, commands⟩ := (AttemptState.transition_turn s.state event).of_terminal terminal
    unfold handle at run
    rw [runs_get_bind_iff] at run
    simp only [terminal] at run
    obtain ⟨rfl, same, rfl⟩ := runs_pure_iff.1 run
    obtain rfl := Except.ok.inj same
    rw [state, commands]
    exact ⟨rfl, .nil⟩
  · rcases runs_handle rfl (Bool.eq_false_iff.2 terminal) run with
      ⟨error, -, same⟩ | ⟨first, events, middle, rfl, done, same, rfl⟩
    · cases same
    · obtain rfl := Except.ok.inj same
      exact ⟨rfl, performAll_brings _ _ _ _ _ done⟩

/-- Only the events that reach farthest have the checks run. -/
theorem reach_of_evaluates {state : AttemptState} {start : Precondition}
    (ordered : .evaluate start ∈ (state.transition event).2) : event.reach = longestChain := by
  cases event with
  | requestAccepted | remediationResolved signal | retryRequested => rfl
  | preconditionsEvaluated decision =>
    simp only [AttemptState.transition] at ordered
    split at ordered
    · cases decision <;> simp [AttemptState.decided, AttemptState.abort] at ordered
    · simp at ordered
  | consentCancelled => simp [AttemptState.transition] at ordered
  | _ =>
    simp only [AttemptState.transition] at ordered
    split at ordered <;> simp [AttemptState.abort] at ordered

/-- At most one event follows from an event, and it reaches less far. -/
theorem handle_follows (run : Runs (handle event) s log (.ok followUps) after) :
    followUps = [] ∨ ∃ follower, followUps = [follower] ∧ follower.reach < event.reach := by
  obtain ⟨-, brings⟩ := handle_brings run
  have turn := AttemptState.transition_turn s.state event
  -- A turn does not tell which events have the checks run, so that is taken from the transition.
  have farthest {start : Precondition} := @reach_of_evaluates event s.state start
  generalize (s.state.transition event).2 = commands at brings turn farthest
  generalize (s.state.transition event).1 = next at turn
  generalize s.state = state at turn
  cases turn with
  | ignored | suspends undecided | finished =>
    cases brings
    exact .inl rfl
  | evaluates undecided =>
    cases AttemptCommand.bringAll_one.1 brings
    refine .inr ⟨_, rfl, ?_⟩
    rw [farthest (List.mem_singleton_self _)]
    exact Nat.lt_succ_self 3
  | remedies undecided =>
    cases AttemptCommand.bringAll_one.1 brings
    refine .inr ⟨_, rfl, ?_⟩
    simp only [AttemptEvent.reach]
    omega
  | aborts undecided | prompts undecided =>
    cases AttemptCommand.bringAll_one.1 brings
    exact .inl rfl
  | consults undecided =>
    refine .inr ?_
    cases AttemptCommand.bringAll_one.1 brings with
    | required => exact ⟨_, rfl, by decide⟩
    | unneeded => exact ⟨_, rfl, by decide⟩
  | launches =>
    cases AttemptCommand.bringAll_one.1 brings
    refine .inr ⟨_, rfl, ?_⟩
    simp only [AttemptEvent.reach]
    omega
  | confirmed =>
    obtain ⟨result, rfl⟩ := AttemptCommand.bringAll_confirmed brings
    refine .inr ⟨_, rfl, ?_⟩
    simp only [AttemptEvent.reach]
    omega

/-- After an evaluation a check runs. -/
theorem handle_evaluates
    (run : Runs (handle event) s log (.ok [.preconditionsEvaluated decision]) after) :
    ∃ start, after.state = .checking start := by
  obtain ⟨state, brings⟩ := handle_brings run
  have turn := AttemptState.transition_turn s.state event
  generalize (s.state.transition event).2 = commands at brings turn
  generalize (s.state.transition event).1 = next at state turn
  generalize s.state = before at turn
  generalize follower : [AttemptEvent.preconditionsEvaluated decision] = followUps at brings
  cases turn with
  | @evaluates _ _ start undecided => exact ⟨start, state⟩
  | @remedies _ kind undecided => exact ⟨kind.precondition, state⟩
  | ignored | suspends undecided | finished =>
    cases brings
    cases follower
  | aborts undecided | consults undecided | prompts undecided | launches =>
    cases AttemptCommand.bringAll_one.1 brings <;> cases follower
  | confirmed =>
    obtain ⟨result, rfl⟩ := AttemptCommand.bringAll_confirmed brings
    cases follower

/-- A decision to remedy leaves the check running that fell short, until a ticket is handed over. -/
theorem handle_remediate {start : Precondition} (state : s.state = .checking start)
    (run : Runs (handle (.preconditionsEvaluated (.remediate kind))) s log (.ok followUps) after) :
    after.state = .checking kind.precondition ∧
      ∃ id, followUps = [.remediationRequested kind id] := by
  obtain ⟨moved, brings⟩ := handle_brings run
  simp only [AttemptState.transition, state, AttemptState.checkedPrecondition?_checking,
    Option.isSome_some, if_true, AttemptState.decided] at moved brings
  cases AttemptCommand.bringAll_one.1 brings with
  | @handedOver _ id => exact ⟨moved, id, rfl⟩

/-- A ticket that was handed over suspends the attempt. -/
theorem handle_requested (state : s.state = .checking kind.precondition)
    (run : Runs (handle (.remediationRequested kind id)) s log (.ok followUps) after) :
    after.state = .awaiting kind id ∧ followUps = [] := by
  obtain ⟨moved, brings⟩ := handle_brings run
  simp only [AttemptState.transition, state, AttemptState.checkedPrecondition?_checking,
    if_true] at moved brings
  cases brings
  exact ⟨moved, rfl⟩

end handling

/-! ## The loop -/

/-- An event that was handled, with the events that followed from it. -/
structure Round where
  event : AttemptEvent
  followUps : List AttemptEvent

/-- The loop without a bound: some rounds of it, begun in a session with some pending events, lead
to another session in which the rest are pending. -/
inductive Rounds : Session → List AttemptEvent → List Round → SessionLog → Session →
    List AttemptEvent → Prop
  | none {s : Session} {pending : List AttemptEvent} : Rounds s pending [] [] s pending
  | next {s middle after : Session} {event : AttemptEvent} {followUps rest left : List AttemptEvent}
      {rounds : List Round} {first second : SessionLog}
      (handled : Runs (handle event) s first (.ok followUps) middle)
      (later : Rounds middle (followUps.reverse ++ rest) rounds second after left) :
      Rounds s (event :: rest) (⟨event, followUps⟩ :: rounds) (first ++ second) after left

/-- The loop without a bound comes to its end: nothing is pending, or an event failed. -/
inductive Finishes (s : Session) (pending : List AttemptEvent) : SessionLog →
    Except SessionError Unit → Session → Prop
  | dry {rounds : List Round} {log : SessionLog} {after : Session}
      (run : Rounds s pending rounds log after []) : Finishes s pending log (.ok ()) after
  | failed {rounds : List Round} {first second : SessionLog} {middle after : Session}
      {last : AttemptEvent} {rest : List AttemptEvent} {error : SessionError}
      (run : Rounds s pending rounds first middle (last :: rest))
      (broken : Runs (handle last) middle second (.error error) after) :
      Finishes s pending (first ++ second) (.error error) after

/-- An event that is handled in one session brings another event to the session after it. -/
def Follows (x y : Session × AttemptEvent) : Prop :=
  ∃ log followUps, Runs (handle x.2) x.1 log (.ok followUps) y.1 ∧ y.2 ∈ followUps

/-- How many events some pending events lead to at most, with themselves. -/
def reachOf : List AttemptEvent → Nat
  | [] => 0
  | event :: rest => event.reach + reachOf rest

section loop

variable {s after : Session} {event : AttemptEvent}
  {pending left rest followUps : List AttemptEvent} {rounds : List Round} {log : SessionLog}
  {kind : RemediationKind}

theorem length_le_reachOf (pending : List AttemptEvent) : pending.length ≤ reachOf pending := by
  induction pending with
  | nil => exact Nat.le_refl 0
  | cons event rest ih =>
    have positive := event.reach_pos
    rw [List.length_cons, reachOf]
    omega

/-- A round takes one event more than it brings. -/
theorem reachOf_lt (run : Runs (handle event) s log (.ok followUps) after) :
    reachOf (followUps.reverse ++ rest) < reachOf (event :: rest) := by
  have positive := event.reach_pos
  rcases handle_follows run with rfl | ⟨follower, rfl, less⟩
  · rw [List.reverse_nil, List.nil_append, reachOf]
    omega
  · rw [List.reverse_singleton, List.singleton_append, reachOf, reachOf]
    omega

theorem Rounds.length_add_reachOf_le (run : Rounds s pending rounds log after left) :
    rounds.length + reachOf left ≤ reachOf pending := by
  induction run with
  | none => simp
  | @next _ _ _ event followUps rest _ _ _ _ handled later ih =>
    have less : reachOf (followUps.reverse ++ rest) < reachOf (event :: rest) := reachOf_lt handled
    rw [List.length_cons]
    omega

theorem Rounds.length_le (run : Rounds s [event] rounds log after left) :
    rounds.length + left.length ≤ 4 :=
  calc rounds.length + left.length
    _ ≤ rounds.length + reachOf left := Nat.add_le_add_left (length_le_reachOf left) _
    _ ≤ reachOf [event] := run.length_add_reachOf_le
    _ ≤ 4 := event.reach_le

/-! ## One pending event -/

/-- What is pending after the only pending event was handled. -/
theorem pending_of_single (single : (event :: rest).length ≤ 1)
    (run : Runs (handle event) s log (.ok followUps) after) :
    followUps.reverse ++ rest = followUps ∧ followUps.length ≤ 1 ∧ rest = [] := by
  obtain rfl : rest = [] := by
    rw [List.length_cons] at single
    exact List.eq_nil_of_length_eq_zero (by omega)
  rcases handle_follows run with rfl | ⟨follower, rfl, -⟩
  · exact ⟨rfl, Nat.zero_le 1, rfl⟩
  · exact ⟨rfl, Nat.le_refl 1, rfl⟩

theorem Rounds.single (run : Rounds s pending rounds log after left)
    (single : pending.length ≤ 1) :
    left.length ≤ 1 ∧ ∀ round ∈ rounds, round.followUps.length ≤ 1 := by
  induction run with
  | none => exact ⟨single, by simp⟩
  | next handled later ih =>
    obtain ⟨same, few, rfl⟩ := pending_of_single single handled
    rw [same] at ih
    obtain ⟨ended, others⟩ := ih few
    exact ⟨ended, List.forall_mem_cons.2 ⟨few, others⟩⟩

theorem Rounds.ordered (run : Rounds s pending rounds log after left)
    (single : pending.length ≤ 1) :
    rounds.map Round.event ++ left = pending ++ rounds.flatMap Round.followUps := by
  induction run with
  | none => simp
  | next handled later ih =>
    obtain ⟨same, few, rfl⟩ := pending_of_single single handled
    rw [same] at ih
    simp [ih few]

/-- After a remediation is decided on, the loop hands a ticket over and ends. -/
theorem Rounds.suspends_next {start : Precondition} (state : s.state = .checking start)
    (run : Rounds s [.preconditionsEvaluated (.remediate kind)] rounds log after []) :
    ∃ ticket, after.state = .awaiting kind ticket := by
  cases run with
  | next remedied later =>
    obtain ⟨checks, id, rfl⟩ := handle_remediate state remedied
    have later : Rounds _ [.remediationRequested kind id] _ _ after [] := later
    cases later with
    | next requested ended =>
      obtain ⟨waits, rfl⟩ := handle_requested checks requested
      have ended : Rounds _ [] _ _ after [] := ended
      cases ended
      exact ⟨id, waits⟩

theorem Rounds.suspends (run : Rounds s pending rounds log after left)
    (single : pending.length ≤ 1) (ended : left = [])
    (asked : ∃ round ∈ rounds, .preconditionsEvaluated (.remediate kind) ∈ round.followUps) :
    ∃ ticket, after.state = .awaiting kind ticket := by
  induction run with
  | none => simp at asked
  | next handled later ih =>
    obtain ⟨same, few, rfl⟩ := pending_of_single single handled
    rw [same] at ih later
    obtain ⟨round, member, asks⟩ := asked
    rcases List.mem_cons.1 member with rfl | behind
    · -- The evaluation that asks is all that is pending now, and two rounds are left.
      rcases handle_follows handled with rfl | ⟨follower, rfl, -⟩
      · cases asks
      · obtain rfl := List.mem_singleton.1 asks
        obtain ⟨start, state⟩ := handle_evaluates handled
        subst ended
        exact later.suspends_next state
    · exact ih few ended ⟨round, behind, asks⟩

/-- An event that comes of another one, at whatever remove, reaches less far. -/
theorem reach_lt_of_follows {x y : Session × AttemptEvent}
    (follows : Relation.TransGen Follows x y) : y.2.reach < x.2.reach := by
  have step {x y : Session × AttemptEvent} (follows : Follows x y) : y.2.reach < x.2.reach := by
    obtain ⟨log, followUps, run, member⟩ := follows
    rcases handle_follows run with rfl | ⟨follower, rfl, less⟩
    · cases member
    · rwa [List.mem_singleton.1 member]
  induction follows with
  | single follows => exact step follows
  | tail _ follows ih => exact Nat.lt_trans (step follows) ih

/-! ## The loop with its bound -/

theorem finishes_nil_iff {result : Except SessionError Unit} :
    Finishes s [] log result after ↔ log = [] ∧ result = .ok () ∧ after = s := by
  constructor
  · intro finishes
    cases finishes with
    | dry run =>
      cases run
      exact ⟨rfl, rfl, rfl⟩
    | failed run broken => cases run
  · rintro ⟨rfl, rfl, rfl⟩
    exact .dry .none

/-- The loop ends with its first event if that fails, and otherwise as it does from there on. -/
theorem finishes_cons_iff {result : Except SessionError Unit} :
    Finishes s (event :: rest) log result after ↔
      (∃ error, Runs (handle event) s log (.error error) after ∧ result = .error error) ∨
      ∃ first second followUps middle, log = first ++ second ∧
        Runs (handle event) s first (.ok followUps) middle ∧
        Finishes middle (followUps.reverse ++ rest) second result after := by
  constructor
  · intro finishes
    cases finishes with
    | dry run =>
      cases run with
      | next handled later => exact .inr ⟨_, _, _, _, rfl, handled, .dry later⟩
    | failed run broken =>
      cases run with
      | none => exact .inl ⟨_, broken, rfl⟩
      | next handled later =>
        exact .inr ⟨_, _, _, _, List.append_assoc _ _ _, handled, .failed later broken⟩
  · rintro (⟨error, broken, rfl⟩ | ⟨first, second, followUps, middle, rfl, handled, finishes⟩)
    · exact .failed .none broken
    · cases finishes with
      | dry later => exact .dry (.next handled later)
      | failed later broken =>
        rw [← List.append_assoc]
        exact .failed (.next handled later) broken

/-- A bound that is as large as what is pending reaches is never met. -/
theorem runs_handleAll_iff {bound : Nat} {result : Except SessionError Unit}
    (enough : reachOf pending ≤ bound) :
    Runs (handleAll bound pending) s log result after ↔ Finishes s pending log result after := by
  induction bound generalizing s pending log with
  | zero =>
    have none : pending.length ≤ 0 := Nat.le_trans (length_le_reachOf pending) enough
    obtain rfl := List.eq_nil_of_length_eq_zero (Nat.le_zero.1 none)
    rw [finishes_nil_iff]
    exact runs_pure_iff
  | succ bound ih =>
    cases pending with
    | nil =>
      rw [finishes_nil_iff]
      exact runs_pure_iff
    | cons event rest =>
      -- A round takes one off what is pending, so what is left of the bound is enough for the rest.
      have room {first : SessionLog} {followUps : List AttemptEvent} {middle : Session}
          (handled : Runs (handle event) s first (.ok followUps) middle) :
          reachOf (followUps.reverse ++ rest) ≤ bound :=
        Nat.le_of_lt_succ (Nat.lt_of_lt_of_le (reachOf_lt handled) enough)
      rw [finishes_cons_iff, handleAll, runs_bind_iff]
      constructor
      · rintro (failed | ⟨first, second, followUps, middle, rfl, handled, later⟩)
        · exact .inl failed
        · exact .inr ⟨first, second, followUps, middle, rfl, handled, (ih (room handled)).1 later⟩
      · rintro (failed | ⟨first, second, followUps, middle, rfl, handled, later⟩)
        · exact .inl failed
        · exact .inr ⟨first, second, followUps, middle, rfl, handled, (ih (room handled)).2 later⟩

theorem runs_dispatch_iff {result : Except SessionError AttemptOutcome} :
    Runs (dispatch event) s log result after ↔
      ∃ reached, Finishes s [event] log reached after ∧
        result = reached.map fun _ => after.state.outcome := by
  have enough : reachOf [event] ≤ longestChain := event.reach_le
  unfold dispatch
  rw [runs_bind_iff]
  constructor
  · rintro (⟨error, failed, rfl⟩ | ⟨first, second, done, middle, rfl, handled, rest⟩)
    · exact ⟨.error error, (runs_handleAll_iff enough).1 failed, rfl⟩
    · rw [runs_get_bind_iff] at rest
      obtain ⟨rfl, rfl, rfl⟩ := runs_pure_iff.1 rest
      rw [List.append_nil]
      exact ⟨.ok (), (runs_handleAll_iff enough).1 handled, rfl⟩
  · rintro ⟨reached, finishes, rfl⟩
    have handled := (runs_handleAll_iff enough).2 finishes
    cases reached with
    | error error => exact .inl ⟨error, handled, rfl⟩
    | ok done =>
      refine .inr ⟨log, [], (), after, (List.append_nil log).symm, handled, ?_⟩
      rw [runs_get_bind_iff]
      exact runs_pure_iff.2 ⟨rfl, rfl, rfl⟩

/-- What the surroundings answer, by all that was asked and told before. -/
abbrev Surroundings := SessionLog → (call : SessionCall) → call.Answer

/-- The surroundings gave every answer of a log. -/
def Surroundings.Told (answer : Surroundings) (log : SessionLog) : Prop :=
  ∀ before x later, log = before ++ x :: later → x.2 = answer before x.1

end loop

/-- The loop that an event sets off in a session, whatever the surroundings answer. -/
structure RunsDry (s : Session) (event : AttemptEvent) : Prop where
  /-- At most four events are taken up, those that are still pending included. -/
  bounded : ∀ {rounds log after left}, Rounds s [event] rounds log after left →
    rounds.length + left.length ≤ 4
  /-- At most one event follows from each, and at most one is pending at any time. -/
  single : ∀ {rounds log after left}, Rounds s [event] rounds log after left →
    left.length ≤ 1 ∧ ∀ round ∈ rounds, round.followUps.length ≤ 1
  /-- The events are handled in the order in which they came up. -/
  ordered : ∀ {rounds log after left}, Rounds s [event] rounds log after left →
    rounds.map Round.event ++ left = event :: rounds.flatMap Round.followUps
  /-- No event comes of itself, nor does one that reaches as far. -/
  acyclic : ∀ {other later}, Relation.TransGen Follows (s, event) (other, later) →
    later.reach < event.reach
  /-- An evaluation that asks for a remediation ends with the attempt suspended. -/
  suspends : ∀ {rounds log after kind}, Rounds s [event] rounds log after [] →
    (∃ round ∈ rounds, .preconditionsEvaluated (.remediate kind) ∈ round.followUps) →
    ∃ ticket, after.state = .awaiting kind ticket
  /-- The bound has no effect: a dispatch does what the loop does without one. -/
  ends : ∀ {log result after}, Runs (dispatch event) s log result after ↔
    ∃ reached, Finishes s [event] log reached after ∧
      result = reached.map fun _ => after.state.outcome
  /-- In any surroundings the dispatch returns. -/
  returns : ∀ answer : Surroundings, ∃ log result after,
    Runs (dispatch event) s log result after ∧ answer.Told log

/-- The loop ends within four events, in every session and for every event. -/
theorem dispatch_runs_dry (s : Session) (event : AttemptEvent) : RunsDry s event where
  bounded run := run.length_le
  single run := run.single (Nat.le_refl 1)
  ordered run := run.ordered (Nat.le_refl 1)
  acyclic follows := reach_lt_of_follows follows
  suspends run asked := run.suspends (Nat.le_refl 1) rfl asked
  ends := runs_dispatch_iff
  returns answer := by
    obtain ⟨log, ⟨result, after⟩, run, told⟩ :=
      Dialogue.exists_runs_told answer ((dispatch event).run.run s)
    exact ⟨log, result, after, run, told⟩

end Session

end ProvisionGate
