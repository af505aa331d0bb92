import ProvisionGate.Proofs.Session.Launch

/-!
# Where a consent comes from

A session opens its gate only for a consent that was loaded when its request was accepted, or as the
user confirms, and it does not get past the gate before the confirmation is saved.  So whatever is
saved was confirmed after a prompt of the same session, and a launch that needs a consent comes
right after the save or has a loaded consent behind it.
-/

namespace ProvisionGate

namespace Moment

/-- A session is opened. -/
def Opens : Moment → Prop
  | .opened _ => True
  | _ => False

/-- The record that is saved, with success. -/
def saved? : Moment → Option ConsentRecord
  | .exchanged ⟨.saveConsent record, .ok _⟩ => some record
  | _ => none

/-- Nothing is saved or launched. -/
def IsIdle (m : Moment) : Prop :=
  m.saved? = none ∧ m.launched? = none

/-- The store is cleared, with success. -/
def Clears : Moment → Prop
  | .exchanged ⟨.clearConsent, .ok _⟩ => True
  | _ => False

theorem eq_of_clears {m : Moment} (clears : m.Clears) :
    m = .exchanged ⟨.clearConsent, .ok ()⟩ := by
  unfold Clears at clears
  split at clears
  · rfl
  · cases clears

theorem accepts_of_clears {m : Moment} (clears : m.Clears) : m.Accepts := by
  rw [eq_of_clears clears]
  trivial

end Moment

namespace Session

open SessionStep

/-- The user was asked in this session and now confirms, in a call in which so far nothing but the
exchanges of the log happened. -/
def Confirming (past : List Moment) (attempt : AttemptId) (admin : String) : Prop :=
  ∃ older prompt between s log,
    past = older ++ .exchanged ⟨.presentConsent prompt, .ok ()⟩ :: between ++
      .called .confirmConsent s :: moments log ∧
    (∀ m ∈ between, ¬ m.Opens) ∧ s.state = .awaitingConsent ∧
    prompt.attempt = attempt ∧ prompt.adminPackage = admin

/-- A record is saved for the attempt and the admin that the user confirms. -/
def SaveConfirmed (past : List Moment) (record : ConsentRecord) : Prop :=
  record.userConsented = true ∧ Confirming past record.attempt record.adminPackage

/-- A consent for the attempt and the admin was loaded when the last request was accepted. -/
def Loaded (past : List Moment) (attempt : AttemptId) (admin : String) : Prop :=
  ∃ older since, past = older ++ .exchanged ⟨.loadConsent attempt admin, .ok true⟩ :: since ∧
    ∀ m ∈ since, ¬ m.Accepts

/-- A consent for the attempt and the admin was saved just now. -/
def JustSaved (past : List Moment) (attempt : AttemptId) (admin : String) : Prop :=
  ∃ older record, past = older ++ [.exchanged ⟨.saveConsent record, .ok ()⟩] ∧
    record.attempt = attempt ∧ record.adminPackage = admin

/-- A launch of parameters is due: they are those of the request that this session accepted last,
and a consent was saved or loaded if one is needed. -/
def LaunchBacked (past : List Moment) (params : Params) : Prop :=
  ∃ attempt taken since, LastAccepted past attempt taken since ∧ taken.params = params ∧
    (∀ m ∈ since, ¬ m.Opens) ∧
    (taken.caller = .primary → params.startedByDiscovery = false →
      JustSaved past attempt params.adminOrEmpty ∨ Loaded past attempt params.adminOrEmpty)

/-- What is saved was confirmed, and what is launched has its consent. -/
def ConsentKnown (past : List Moment) (m : Moment) : Prop :=
  (∀ record, m.saved? = some record → SaveConfirmed past record) ∧
    ∀ params, m.launched? = some params → LaunchBacked past params

/-- The user was asked for the attempt and the admin of a session. -/
def Prompted (taken : AcceptedRequest) (since : List Moment) (s : Session) : Prop :=
  ∃ older between,
    since = older ++ .exchanged ⟨.presentConsent (s.prompt taken), .ok ()⟩ :: between

/-- What is known of an active session about the question to the user. -/
structure Asked (taken : AcceptedRequest) (since : List Moment) (s : Session)
    (pending : Option AttemptEvent) : Prop where
  same : ∀ m ∈ since, ¬ m.Opens
  prompted : s.state = .awaitingConsent → Prompted taken since s
  confirming : pending = some .consentConfirmed → s.state = .awaitingConsent →
    ∃ before, since = before ++ [.called .confirmConsent s] ∧ Prompted taken before s

section asked

variable {s after : Session} {operation : Operation} {event : AttemptEvent} {log : SessionLog}
  {past since later : List Moment} {attempt : AttemptId} {taken : AcceptedRequest}
  {reached : Except SessionError (AttemptOutcome ⊕ AttemptEvent)}
  {moved : Except SessionError (Option AttemptEvent)}

theorem Prompted.append (prompted : Prompted taken since s) (later : List Moment) :
    Prompted taken (since ++ later) s := by
  obtain ⟨older, between, rfl⟩ := prompted
  exact ⟨older, between ++ later, by simp⟩

theorem moments_not_opens (log : SessionLog) : ∀ m ∈ moments log, ¬ m.Opens := by
  intro m member
  obtain ⟨x, -, rfl⟩ := List.mem_map.1 member
  exact id

theorem Opening.asked (opening : Opening operation s log reached after)
    (begun : s.state.isUnderWay = true) (asked : Asked taken since s none) :
    Asked taken (since ++ .called operation s :: moments log) after
      (pendingAfterOpening reached) := by
  have confirming : pendingAfterOpening reached = some .consentConfirmed →
      operation = .confirmConsent ∧ after = s := by
    intro pending
    cases opening with
    | confirmed => exact ⟨rfl, rfl⟩
    | _ => simp at pending
  obtain ⟨rfl, changes⟩ := opening.underWay_cases begun
  have kept : after.state = s.state ∧ after.prompt taken = s.prompt taken := by
    rcases changes with ⟨rfl, -⟩ | ⟨ticket, outcome, -, -, rfl, -⟩ <;> exact ⟨rfl, rfl⟩
  constructor
  · exact List.forall_mem_append.2 ⟨asked.same, by simp [Moment.Opens]⟩
  · intro state
    have prompted := (asked.prompted (kept.1.symm.trans state)).append
      (.called operation s :: moments [])
    unfold Prompted
    rw [kept.2]
    exact prompted
  · intro pending state
    obtain ⟨rfl, rfl⟩ := confirming pending
    exact ⟨since, rfl, asked.prompted state⟩

/-- No move comes to wait for the user but by asking. -/
theorem Move.awaiting_cases (move : Move s event log moved after)
    (state : after.state = .awaitingConsent) (accepted : s.accepted = some taken) :
    Prompted taken (moments log) after ∨
      s.state = .awaitingConsent ∧ after.prompt taken = s.prompt taken := by
  have beyond : after.state.isBeyondGate = true := by
    rw [state]
    rfl
  cases move with
  | evaluated => simp at beyond
  | handedOver => simp at beyond
  | suspended => simp at beyond
  | prompted prompts own =>
    obtain rfl := Option.some.inj (own.symm.trans accepted)
    exact .inl ⟨[], [.exchanged (s.reported .awaitingConsent)], rfl⟩
  | proceeded => cases state
  | aborted => cases state
  | confirmed => cases state
  | launched => cases state
  | finished => cases state
  | _ => exact .inr ⟨state, rfl⟩

theorem Move.asked (move : Move s event log moved after) (accepted : s.accepted = some taken)
    (asked : Asked taken since s (some event)) :
    Asked taken (since ++ moments log) after (pendingAfterMove moved) := by
  constructor
  · exact List.forall_mem_append.2 ⟨asked.same, moments_not_opens log⟩
  · intro state
    rcases move.awaiting_cases state accepted with ⟨older, between, split⟩ | ⟨before, kept⟩
    · exact ⟨since ++ older, between, by rw [split, List.append_assoc]⟩
    · have prompted := (asked.prompted before).append (moments log)
      unfold Prompted
      rw [kept]
      exact prompted
  · intro pending state
    cases move with
    | proceeded =>
      simp only [pendingAfterMove, Option.some.injEq] at pending
      split at pending <;> cases pending
    | _ => simp at pending

theorem asked_keptSince : KeptSince Asked where
  accepted state free := by
    constructor
    · simp
    · intro waits
      rw [state] at waits
      cases waits
    · simp
  opening resting begun accepted asked opening := opening.asked begun asked
  move expects accepted asked move active := move.asked accepted asked
  returned asked := by
    constructor
    · exact List.forall_mem_append.2 ⟨asked.same, by simp [Moment.Opens]⟩
    · intro state
      exact (asked.prompted state).append _
    · simp

/-! ## The gate -/

/-- An active session whose gate is open and that did not ask yet has a consent that was loaded. -/
def GateBacked (past : List Moment) (s : Session) (pending : Option AttemptEvent) : Prop :=
  s.Active pending → s.gate.consented = true → s.state.isBeyondGate = false →
    ∃ taken, s.accepted = some taken ∧ Loaded past s.attempt taken.params.adminOrEmpty

theorem Loaded.append {admin : String} (loaded : Loaded past attempt admin)
    (quiet : ∀ m ∈ later, ¬ m.Accepts) : Loaded (past ++ later) attempt admin := by
  obtain ⟨older, since, rfl, before⟩ := loaded
  exact ⟨older, since ++ later, by simp, List.forall_mem_append.2 ⟨before, quiet⟩⟩

/-- The gate is opened by nothing but a confirmation, after which the session is beyond it. -/
theorem Move.gate (move : Move s event log moved after)
    (closer : after.state.isBeyondGate = false) (active : after.Active (pendingAfterMove moved)) :
    after.gate = s.gate ∧ s.state.isBeyondGate = false := by
  cases move with
  | evaluated begins => exact ⟨rfl, begins.not_isBeyondGate⟩
  | notEvaluated begins => exact ⟨rfl, begins.not_isBeyondGate⟩
  | proceeded state => exact ⟨rfl, by rw [state, AttemptState.isBeyondGate_checking]⟩
  | handedOver state => exact ⟨rfl, by rw [state, AttemptState.isBeyondGate_checking]⟩
  | notHandedOver state => exact ⟨rfl, closer⟩
  | suspended state => exact ⟨rfl, by rw [state, AttemptState.isBeyondGate_checking]⟩
  | aborted => exact absurd active (not_active_of_terminal rfl)
  | prompted => cases closer
  | confirmed => cases closer
  | notSaved state =>
    rw [show ({ s with gate := ⟨true⟩ } : Session).state = s.state from rfl, state] at closer
    cases closer
  | launched => cases closer
  | finished => cases closer
  | _ => exact ⟨rfl, closer⟩

theorem gateBacked_kept : Kept GateBacked where
  opening := by
    intro past s after operation log reached resting holds opening active consented closer
    rcases opening.accepts_or active with
      ⟨request, taken, rfl, accepting, state, free, accepted, rfl⟩ | begun
    · cases opening with
      | acceptedAnew => cases consented
      | @acceptedAgain _ _ _ _ caller =>
        obtain rfl : _ = true := consented
        refine ⟨_, rfl, past ++ [.called (.start request) s, .exchanged ⟨.callerClass, .ok caller⟩],
          [], by simp, by simp⟩
    · obtain ⟨rfl, changes⟩ := opening.underWay_cases begun
      have kept : after.gate = s.gate ∧ after.state = s.state ∧ after.accepted = s.accepted ∧
          after.attempt = s.attempt := by
        rcases changes with ⟨rfl, -⟩ | ⟨ticket, outcome, -, -, rfl, -⟩ <;>
          exact ⟨rfl, rfl, rfl, rfl⟩
      obtain ⟨gate, state, accepted, named⟩ := kept
      rw [gate] at consented
      rw [state] at closer
      obtain ⟨taken, own, loaded⟩ := holds (.inr begun) consented closer
      rw [named]
      exact ⟨taken, accepted.trans own, loaded.append (by simp [Moment.Accepts])⟩
  move := by
    intro past s after event log reached expects holds move active consented closer
    obtain ⟨gate, before⟩ := move.gate closer active
    rw [gate] at consented
    obtain ⟨taken, own, loaded⟩ := holds (move.active expects active) consented before
    obtain ⟨named, accepted⟩ := move.same_request
    rw [named]
    exact ⟨taken, accepted.trans own, loaded.append move.not_accepts⟩
  returned := by
    intro past s result resting holds active consented closer
    obtain ⟨taken, own, loaded⟩ := holds active consented closer
    exact ⟨taken, own, loaded.append (by simp [Moment.Accepts])⟩

/-! ## Saves and launches -/

theorem consentKnown_of_idle {m : Moment} (idle : m.IsIdle) : ConsentKnown past m := by
  obtain ⟨unsaved, unlaunched⟩ := idle
  constructor
  · intro record saved
    rw [unsaved] at saved
    cases saved
  · intro params launched
    rw [unlaunched] at launched
    cases launched

theorem throughout_idle (idle : ∀ m ∈ later, m.IsIdle) :
    Throughout (fun before => ConsentKnown (past ++ before)) later :=
  .of_forall fun m member _ => consentKnown_of_idle (idle m member)

theorem device_idle {start : Precondition} {result : Except String Evaluation}
    (run : Dialogue.Runs (evaluateDevice taken start).run log result) :
    ∀ m ∈ moments log, m.IsIdle :=
  forall_device run fun _ _ => ⟨rfl, rfl⟩

theorem Opening.idle (opening : Opening operation s log reached after) :
    ∀ m ∈ .called operation s :: moments log, m.IsIdle :=
  opening.forall_moments ⟨rfl, rfl⟩ (fun _ => ⟨rfl, rfl⟩) (fun _ => ⟨rfl, rfl⟩)
    (fun _ => ⟨rfl, rfl⟩) fun _ _ _ => ⟨rfl, rfl⟩

/-- A confirmation is saved and launched right away. -/
theorem consentKnown_confirmed {time : Instant} {answer : Except String LaunchResult}
    (standing : Standing Asked past s (some .consentConfirmed))
    (state : s.state = .awaitingConsent) (accepted : s.accepted = some taken) :
    Throughout (fun before => ConsentKnown (past ++ before)) (moments
      [⟨.currentTime, time⟩, ⟨.saveConsent (s.consentRecord taken time), .ok ()⟩,
        ⟨.launch taken.params, answer⟩, s.reported .launching]) := by
  obtain ⟨found, since, own, last, asked⟩ := standing (.inr (by rw [state]; rfl))
  obtain rfl := Option.some.inj (own.symm.trans accepted)
  let timed : Moment := .exchanged ⟨.currentTime, time⟩
  let saved : Moment := .exchanged ⟨.saveConsent (s.consentRecord found time), .ok ()⟩
  have confirmed : SaveConfirmed (past ++ [timed]) (s.consentRecord found time) := by
    refine ⟨rfl, ?_⟩
    obtain ⟨before, rfl, older, between, rfl⟩ := asked.confirming rfl state
    obtain ⟨first, request, held, log, split, -⟩ := last
    refine ⟨first ++ .called (.start request) held :: moments log ++ older, s.prompt found, between,
      s, [⟨.currentTime, time⟩], ?_, ?_, state, rfl, rfl⟩
    · rw [split]
      simp [timed]
    · intro m member
      exact asked.same m (by simp [member])
  have due : LaunchBacked (past ++ [timed, saved]) found.params := by
    refine ⟨s.attempt, found, since ++ [timed, saved], ?_, rfl, ?_, ?_⟩
    · exact last.append (by simp [Moment.Accepts, timed, saved])
    · exact List.forall_mem_append.2 ⟨asked.same, by simp [Moment.Opens, timed, saved]⟩
    · intro primary direct
      exact .inl ⟨past ++ [timed], s.consentRecord found time, by simp [timed, saved], rfl, rfl⟩
  simp only [moments_cons, moments_nil, Throughout.cons_iff, Throughout.nil, and_true]
  refine ⟨consentKnown_of_idle ⟨rfl, rfl⟩, ⟨?_, by simp [Moment.launched?]⟩,
    ⟨by simp [Moment.saved?], ?_⟩, consentKnown_of_idle ⟨rfl, rfl⟩⟩
  · rintro _ ⟨⟩
    exact confirmed
  · rintro _ ⟨⟩
    exact due

/-- What is launched without a question has its consent already, if one is needed. -/
theorem consentKnown_launched {answer : Except String LaunchResult}
    (standing : Standing Asked past s (some .consentNotRequired))
    (backed : GateBacked past s (some .consentNotRequired))
    (expects : s.Expects .consentNotRequired) (state : s.state = .checkingNetwork)
    (accepted : s.accepted = some taken) :
    Throughout (fun before => ConsentKnown (past ++ before))
      (moments [⟨.launch taken.params, answer⟩, s.reported .launching]) := by
  have begun : s.state.isUnderWay = true := by
    rw [state]
    rfl
  obtain ⟨found, since, own, last, asked⟩ := standing (.inr begun)
  obtain rfl := Option.some.inj (own.symm.trans accepted)
  have due : LaunchBacked past found.params := by
    refine ⟨s.attempt, found, since, last, rfl, asked.same, ?_⟩
    intro primary direct
    have consented : s.gate.consented = true := by
      cases expects with
      | consentNotRequired _ held free unneeded =>
        obtain rfl := Option.some.inj (held.symm.trans own)
        simpa [ConsentGate.isRequired, primary, direct] using unneeded
    have closer : s.state.isBeyondGate = false := by
      rw [state]
      rfl
    obtain ⟨other, held, loaded⟩ := backed (.inr begun) consented closer
    obtain rfl := Option.some.inj (held.symm.trans own)
    exact .inr loaded
  simp only [moments_cons, moments_nil, Throughout.cons_iff, Throughout.nil, and_true,
    List.append_nil]
  refine ⟨⟨by simp [Moment.saved?], ?_⟩, consentKnown_of_idle ⟨rfl, rfl⟩⟩
  rintro _ ⟨⟩
  exact due

theorem Move.consentKnown (expects : s.Expects event) (standing : Standing Asked past s (some event))
    (backed : GateBacked past s (some event)) (move : Move s event log moved after) :
    Throughout (fun before => ConsentKnown (past ++ before)) (moments log) := by
  cases move with
  | evaluated begins own run =>
    apply throughout_idle
    rw [moments_append]
    refine List.forall_mem_append.2 ⟨device_idle run, ?_⟩
    simp [Moment.IsIdle, Moment.saved?, Moment.launched?, reported]
  | notEvaluated begins own run => exact throughout_idle (device_idle run)
  | confirmed state own => exact consentKnown_confirmed standing state own
  | launched state own => exact consentKnown_launched standing backed expects state own
  | _ =>
    apply throughout_idle
    simp [Moment.IsIdle, Moment.saved?, Moment.launched?, reported]

/-- What is known of all that was saved and launched. -/
structure ConsentTraced (past : List Moment) (s : Session) (pending : Option AttemptEvent) : Prop where
  known : Throughout ConsentKnown past
  asked : Standing Asked past s pending
  backed : GateBacked past s pending

theorem consentTraced_kept : Kept ConsentTraced where
  opening resting traced opening := {
    known := Throughout.append_iff.2 ⟨traced.known, throughout_idle opening.idle⟩
    asked := asked_keptSince.standing.opening resting traced.asked opening
    backed := gateBacked_kept.opening resting traced.backed opening }
  move expects traced move := {
    known := Throughout.append_iff.2
      ⟨traced.known, move.consentKnown expects traced.asked traced.backed⟩
    asked := asked_keptSince.standing.move expects traced.asked move
    backed := gateBacked_kept.move expects traced.backed move }
  returned resting traced := {
    known := Throughout.append_iff.2
      ⟨traced.known, throughout_idle (by simp [Moment.IsIdle, Moment.saved?, Moment.launched?])⟩
    asked := asked_keptSince.standing.returned resting traced.asked
    backed := gateBacked_kept.returned resting traced.backed }

end asked

/-- Sessions one after the other, each from its opening on up to where it was lost, which may be
within a call. -/
inductive Lifetime : List Moment → Prop
  | empty : Lifetime []
  | session {past later lost : List Moment} {attempt : AttemptId} {s : Session}
      (earlier : Lifetime past) (history : History attempt (later ++ lost) s) :
      Lifetime (past ++ later)

/-- A session that was not lost within a call. -/
theorem Lifetime.whole {past later : List Moment} {attempt : AttemptId} {s : Session}
    (earlier : Lifetime past) (history : History attempt later s) : Lifetime (past ++ later) := by
  rw [← List.append_nil later] at history
  exact .session earlier history

/-- Whatever sessions came before, what is saved was confirmed, and what is launched has its
consent. -/
theorem Lifetime.consentKnown {past : List Moment} (lifetime : Lifetime past) :
    Throughout ConsentKnown past := by
  induction lifetime with
  | empty => exact .nil
  | @session past later lost attempt s earlier history ih =>
    have first : ConsentTraced (past ++ [.opened attempt]) (Session.opened attempt) none := {
      known := Throughout.append_iff.2
        ⟨ih, throughout_idle (by simp [Moment.IsIdle, Moment.saved?, Moment.launched?])⟩
      asked := .opened
      backed := by
        intro active consented
        cases consented }
    have known := (history.keeps consentTraced_kept first).known
    rw [← List.append_assoc] at known
    exact (Throughout.append_iff.1 known).1

end Session

end ProvisionGate
