import ProvisionGate.Proofs.Session.Acceptance

/-!
# What a launch rests on

Nothing is launched twice, and nothing before the checks were met.  The checks before the one of the
network run once and are not repeated when a session goes on after a remediation or a failure, so
what they found is carried along: `Checked` says what is known of an active session of the checks it
has behind it, and `checked_keptSince` that every move keeps it.
-/

namespace ProvisionGate

/-- The device is asked. -/
def Moment.AsksDevice : Moment → Prop
  | .exchanged ⟨.device _, _⟩ => True
  | _ => False

/-- The device is asked whether it has an owner, as the first check does. -/
def Moment.AsksOwnership : Moment → Prop
  | .exchanged ⟨.device .deviceProvisioned, _⟩ => True
  | .exchanged ⟨.device .userSetupComplete, _⟩ => True
  | _ => False

/-- The parameters that are launched. -/
def Moment.launched? : Moment → Option Params
  | .exchanged ⟨.launch params, _⟩ => some params
  | _ => none

/-- The user is asked, or everything after that. -/
def AttemptState.isBeyondGate : AttemptState → Bool
  | awaitingConsent | launching | done _ => true
  | _ => false

@[simp] theorem AttemptState.isBeyondGate_checking (start : Precondition) :
    (checking start).isBeyondGate = false := by
  cases start <;> rfl

@[simp] theorem AttemptState.isBeyondGate_awaiting (kind : RemediationKind) (id : TicketId) :
    (awaiting kind id).isBeyondGate = false := by
  cases kind <;> rfl

namespace Session

open SessionStep

/-- An evaluation ended in the call that is made, and nothing was asked of the device after it. -/
def Evaluated (taken : AcceptedRequest) (since : List Moment) (start : Precondition)
    (e : Evaluation) : Prop :=
  ∃ earlier log between, since = earlier ++ moments log ++ moments between ∧
    Dialogue.Runs (evaluateDevice taken start).run log (.ok e) ∧
      ∀ m ∈ moments between, ¬ m.AsksDevice

/-- The last evaluation of all checks ended, before the rest of what happened. -/
def EvaluatedAll (taken : AcceptedRequest) (since : List Moment) (e : Evaluation)
    (rest : List Moment) : Prop :=
  ∃ earlier log, since = earlier ++ moments log ++ rest ∧
    Dialogue.Runs (evaluateDevice taken .notYetProvisioned).run log (.ok e) ∧
      ∀ m ∈ rest, ¬ m.AsksOwnership

/-- At the end of a call an encryption was asked for with a ticket. -/
def EncryptionAsked (rest : List Moment) (ticket : Ticket) (behind : List Moment) : Prop :=
  ∃ between, rest = moments between ++ .exchanged ⟨.requestRemediation ticket, .ok ()⟩ :: behind ∧
    ticket.kind = .encryption

/-- The ticket with which an encryption was asked for was taken back, and not as cancelled. -/
def EncryptionResolved (rest : List Moment) : Prop :=
  ∃ ticket behind outcome before earlier later, EncryptionAsked rest ticket behind ∧
    behind = earlier ++ .called (.remediated ticket.id outcome) before :: later ∧
      before.desk.outstanding = some ticket ∧ outcome ≠ .cancelled

/-- The last evaluation of all checks found the device free to be owned, and it was encrypted or
its encryption asked for and done with. -/
def OwnerCleared (taken : AcceptedRequest) (since : List Moment) : Prop :=
  ∃ e rest, EvaluatedAll taken since e rest ∧
    (∀ q ∈ [.notYetProvisioned, .factoryResetProtection],
      Precondition.passedRecord taken.caller q ∈ e.trace) ∧
    (⟨.encryption, .passed⟩ ∈ e.trace ∨
      e.decision = .remediate .encryption ∧ EncryptionResolved rest)

/-- The last evaluation passed the network check: the request names a network, or the device said
last that it is connected. -/
def NetworkCleared (taken : AcceptedRequest) (since : List Moment) : Prop :=
  ∃ start e earlier before connected rest,
    since = earlier ++ moments (before ++ [⟨.device .networkConnected, .ok connected⟩]) ++ rest ∧
    Dialogue.Runs (evaluateDevice taken start).run
      (before ++ [⟨.device .networkConnected, .ok connected⟩]) (.ok e) ∧
    (∀ m ∈ rest, ¬ m.AsksDevice) ∧ ⟨.network, .passed⟩ ∈ e.trace ∧
    (taken.params.wifi.hasSsid = true ∨ connected = true)

/-- The launch of parameters is due: they are those of the request accepted last, and all checks
were met since. -/
def LaunchCleared (past : List Moment) (params : Params) : Prop :=
  ∃ attempt taken since, LastAccepted past attempt taken since ∧ taken.params = params ∧
    OwnerCleared taken since ∧ NetworkCleared taken since

/-! ## What happens later changes nothing -/

section later

variable {taken : AcceptedRequest} {since later rest behind : List Moment} {e : Evaluation}
  {ticket : Ticket} {start : Precondition}

theorem EvaluatedAll.append (evaluated : EvaluatedAll taken since e rest)
    (quiet : ∀ m ∈ later, ¬ m.AsksOwnership) :
    EvaluatedAll taken (since ++ later) e (rest ++ later) := by
  obtain ⟨earlier, log, rfl, run, last⟩ := evaluated
  exact ⟨earlier, log, List.append_assoc _ _ _, run, List.forall_mem_append.2 ⟨last, quiet⟩⟩

theorem EncryptionAsked.append (asked : EncryptionAsked rest ticket behind) :
    EncryptionAsked (rest ++ later) ticket (behind ++ later) := by
  obtain ⟨between, rfl, kind⟩ := asked
  exact ⟨between, by simp, kind⟩

theorem OwnerCleared.append (cleared : OwnerCleared taken since)
    (quiet : ∀ m ∈ later, ¬ m.AsksOwnership) : OwnerCleared taken (since ++ later) := by
  obtain ⟨e, rest, evaluated, records, encryption⟩ := cleared
  refine ⟨e, rest ++ later, evaluated.append quiet, records, ?_⟩
  rcases encryption with passed | ⟨decision, resolved⟩
  · exact .inl passed
  · obtain ⟨ticket, behind, outcome, before, earlier, more, asked, rfl, out, reported⟩ := resolved
    refine .inr ⟨decision, ticket, _, outcome, before, earlier, more ++ later, asked.append, ?_, out,
      reported⟩
    rw [List.append_assoc, List.cons_append]

theorem NetworkCleared.append (cleared : NetworkCleared taken since)
    (quiet : ∀ m ∈ later, ¬ m.AsksDevice) : NetworkCleared taken (since ++ later) := by
  obtain ⟨start, e, earlier, before, connected, rest, rfl, run, last, passed, met⟩ := cleared
  exact ⟨start, e, earlier, before, connected, rest ++ later, List.append_assoc _ _ _, run,
    List.forall_mem_append.2 ⟨last, quiet⟩, passed, met⟩

theorem Moment.asksDevice_of_asksOwnership {m : Moment} (asks : m.AsksOwnership) :
    m.AsksDevice := by
  unfold Moment.AsksOwnership at asks
  split at asks <;> trivial

end later

/-! ## What an evaluation clears -/

section evaluated

variable {taken : AcceptedRequest} {since : List Moment} {e : Evaluation} {start : Precondition}

theorem Evaluated.all (evaluated : Evaluated taken since .notYetProvisioned e) :
    ∃ between, EvaluatedAll taken since e (moments between) := by
  obtain ⟨earlier, log, between, rfl, run, last⟩ := evaluated
  refine ⟨between, earlier, log, rfl, run, ?_⟩
  intro m member asks
  exact last m member (Moment.asksDevice_of_asksOwnership asks)

/-- An evaluation that comes to the network check has cleared the others. -/
theorem Evaluated.owner_of_all (evaluated : Evaluated taken since .notYetProvisioned e)
    (decides : e.decision = .remediate .network ∨ e.decision = .proceed) :
    OwnerCleared taken since := by
  obtain ⟨between, all⟩ := evaluated.all
  obtain ⟨earlier, log, -, run, -⟩ := id all
  rcases evaluateDevice_first_cases run with ⟨reason, aborts⟩ | ⟨records, remediates | ⟨passed, -⟩⟩
  · rw [aborts] at decides
    rcases decides with same | same <;> cases same
  · rw [remediates] at decides
    rcases decides with same | same <;> cases same
  · exact ⟨e, moments between, all, records, .inl passed⟩

theorem Evaluated.network (evaluated : Evaluated taken since start e)
    (proceeds : e.decision = .proceed) : NetworkCleared taken since := by
  obtain ⟨earlier, log, between, rfl, run, last⟩ := evaluated
  obtain ⟨passed, before, connected, rfl, met⟩ := evaluateDevice_network_passed run proceeds
  exact ⟨start, e, earlier, before, connected, moments between, rfl, run, last, passed, met⟩

/-- Only an evaluation of all checks asks for an encryption. -/
theorem Evaluated.start_of_encryption (evaluated : Evaluated taken since start e)
    (evaluates : Evaluates start) (decides : e.decision = .remediate .encryption) :
    start = .notYetProvisioned := by
  cases evaluates with
  | ownership => rfl
  | network =>
    obtain ⟨earlier, log, rest, rfl, run, last⟩ := evaluated
    obtain ⟨answer, -, decision⟩ := runs_evaluateDevice_network run
    cases answer with
    | error cause => cases decision
    | ok connected =>
      have decided := Except.ok.inj decision
      dsimp only at decided
      rw [decides] at decided
      split at decided <;> cases decided

theorem EncryptionAsked.cleared {rest behind later : List Moment} {ticket : Ticket}
    {outcome : RemediationOutcome} {before : Session} (all : EvaluatedAll taken since e rest)
    (decides : e.decision = .remediate .encryption) (asked : EncryptionAsked rest ticket behind)
    (resolved : behind = later ++ [.called (.remediated ticket.id outcome) before])
    (out : before.desk.outstanding = some ticket) (reported : outcome ≠ .cancelled) :
    OwnerCleared taken since := by
  obtain ⟨earlier, log, -, run, -⟩ := id all
  refine ⟨e, rest, all, ?_, .inr ⟨decides, ticket, behind, outcome, before, later, [], asked,
    resolved, out, reported⟩⟩
  rcases evaluateDevice_first_cases run with ⟨reason, aborts⟩ | ⟨records, -⟩
  · rw [decides] at aborts
    cases aborts
  · exact records

end evaluated

/-! ## What is known of the checks -/

/-- The session has the checks before the one of the network behind it. -/
def BeyondEncryption (s : Session) (pending : Option AttemptEvent) : Prop :=
  s.state = .checkingNetwork ∨ (∃ id, s.state = .awaitingNetworkRemediation id) ∨
    s.state = .awaitingConsent ∨
    (∃ id, s.state = .awaitingEncryptionRemediation id) ∧ s.desk.outstanding = none ∧
      ∀ reason, pending ≠ some (.remediationResolved (.abort reason))

/-- The session has all checks behind it. -/
def BeyondNetwork (s : Session) (pending : Option AttemptEvent) : Prop :=
  s.state = .awaitingConsent ∨ pending = some .consentRequired ∨
    pending = some .consentNotRequired

/-- What is known of the checks of an active session. -/
structure Checked (taken : AcceptedRequest) (since : List Moment) (s : Session)
    (pending : Option AttemptEvent) : Prop where
  decided : ∀ decision, pending = some (.preconditionsEvaluated decision) →
    ∃ start e, s.state = .checking start ∧ e.decision = decision ∧ Evaluated taken since start e
  asked : ∀ ticket, s.desk.outstanding = some ticket → ticket.kind = .encryption →
    ∃ e rest behind, EvaluatedAll taken since e rest ∧ e.decision = .remediate .encryption ∧
      EncryptionAsked rest ticket behind
  owner : s.BeyondEncryption pending → OwnerCleared taken since
  network : s.BeyondNetwork pending → NetworkCleared taken since

section kept

variable {s after : Session} {taken : AcceptedRequest} {since later : List Moment}
  {pending next : Option AttemptEvent} {event : AttemptEvent} {start : Precondition}
  {log : SessionLog}

/-- What is known stays known in a session that is no further. -/
theorem Checked.carried (checked : Checked taken since s pending)
    (quiet : ∀ m ∈ later, ¬ m.AsksDevice)
    (undecided : ∀ decision, next ≠ some (.preconditionsEvaluated decision))
    (desk : ∀ ticket, after.desk.outstanding = some ticket → s.desk.outstanding = some ticket)
    (owner : after.BeyondEncryption next → s.BeyondEncryption pending)
    (network : after.BeyondNetwork next → s.BeyondNetwork pending) :
    Checked taken (since ++ later) after next := by
  have owned : ∀ m ∈ later, ¬ m.AsksOwnership :=
    fun m member asks => quiet m member (Moment.asksDevice_of_asksOwnership asks)
  refine ⟨fun decision same => absurd same (undecided decision), ?_, ?_, ?_⟩
  · intro ticket out kind
    obtain ⟨e, rest, behind, all, decides, asked⟩ := checked.asked ticket (desk ticket out) kind
    exact ⟨e, rest ++ later, behind ++ later, all.append owned, decides, asked.append⟩
  · intro beyond
    exact (checked.owner (owner beyond)).append owned
  · intro beyond
    exact (checked.network (network beyond)).append quiet

/-- An evaluation that begins with the network check has the others behind it. -/
theorem Begins.beyondEncryption (begins : Begins s.state event .network)
    (expects : s.Expects event) : s.BeyondEncryption (some event) := by
  have free := begins.free expects
  generalize state : s.state = held at begins
  cases begins with
  | retried => exact .inl state
  | @takenUp kind id =>
    cases kind with
    | encryption => exact .inr (.inr (.inr ⟨⟨id, state⟩, free, by simp⟩))
    | network => exact .inr (.inl ⟨id, state⟩)
  | @resolved kind id =>
    cases kind with
    | encryption => exact .inr (.inr (.inr ⟨⟨id, state⟩, free, by simp⟩))
    | network => exact .inr (.inl ⟨id, state⟩)

/-- The network check asks for nothing that the first check asks for. -/
theorem network_not_asksOwnership {result : Except String Evaluation}
    (run : Dialogue.Runs (evaluateDevice taken .network).run log result) :
    ∀ m ∈ moments log, ¬ m.AsksOwnership := by
  obtain ⟨answer, rfl, -⟩ := runs_evaluateDevice_network run
  simp [Moment.AsksOwnership]

/-- The device has been asked, and what is known of the other checks stays. -/
theorem Checked.after_evaluation {result : Except String Evaluation}
    (checked : Checked taken since s (some event)) (begins : Begins s.state event start)
    (expects : s.Expects event)
    (run : Dialogue.Runs (evaluateDevice taken start).run log result)
    (reported : ∀ m ∈ later, ¬ m.AsksDevice) (same : start = .network) :
    OwnerCleared taken (since ++ (moments log ++ later)) := by
  subst same
  refine (checked.owner (begins.beyondEncryption expects)).append ?_
  refine List.forall_mem_append.2 ⟨network_not_asksOwnership run, ?_⟩
  intro m member asks
  exact reported m member (Moment.asksDevice_of_asksOwnership asks)

/-- A call that takes an encryption ticket back has the device checked from the network on. -/
theorem Checked.resolved {ticket : Ticket} {outcome : RemediationOutcome}
    (checked : Checked taken since s none) (resting : s.Resting)
    (out : s.desk.outstanding = some ticket) :
    Checked taken (since ++ [.called (.remediated ticket.id outcome) s]) { s with desk := .empty }
      (some (.remediationResolved (ticket.kind.resumeSignal outcome))) := by
  obtain ⟨state, -⟩ := resting.desk ticket out
  have owned : ∀ m ∈ [Moment.called (.remediated ticket.id outcome) s], ¬ m.AsksOwnership := by
    simp [Moment.AsksOwnership]
  refine ⟨by simp, ?_, ?_, ?_⟩
  · intro other same
    cases same
  · intro further
    cases kind : ticket.kind with
    | network =>
      rw [kind] at state
      exact (checked.owner (.inr (.inl ⟨_, state⟩))).append owned
    | encryption =>
      obtain ⟨e, rest, behind, all, decides, asked⟩ := checked.asked ticket out kind
      have reported : outcome ≠ .cancelled := by
        rintro rfl
        rw [kind] at state
        rcases further with same | ⟨_, same⟩ | same | ⟨-, -, going⟩
        · cases state.symm.trans same
        · cases state.symm.trans same
        · cases state.symm.trans same
        · exact going .userCancelledEncryption (by rw [kind]; rfl)
      exact (asked.append).cleared (all.append owned) decides rfl out reported
  · rintro (same | same | same)
    · cases kind : ticket.kind <;> rw [kind] at state <;> cases state.symm.trans same
    · cases same
    · cases same

theorem Opening.checked {operation : Operation}
    {reached : Except SessionError (AttemptOutcome ⊕ AttemptEvent)} (resting : s.Resting)
    (begun : s.state.isUnderWay = true) (checked : Checked taken since s none)
    (opening : Opening operation s log reached after) :
    Checked taken (since ++ .called operation s :: moments log) after
      (pendingAfterOpening reached) := by
  obtain ⟨rfl, ⟨rfl, idle⟩ | ⟨ticket, outcome, rfl, out, rfl, resolves⟩⟩ :=
    opening.underWay_cases begun
  · generalize pendingAfterOpening reached = next at idle
    refine checked.carried (by simp [Moment.AsksDevice]) ?_ (fun _ => id) ?_ ?_
    · rintro decision rfl
      simp [openingEvents] at idle
    · rintro (network | network | consent | ⟨encryption, free, -⟩)
      · exact .inl network
      · exact .inr (.inl network)
      · exact .inr (.inr (.inl consent))
      · exact .inr (.inr (.inr ⟨encryption, free, by simp⟩))
    · rintro (consent | rfl | rfl)
      · exact .inl consent
      · simp [openingEvents] at idle
      · simp [openingEvents] at idle
  · rw [resolves, moments_nil]
    exact checked.resolved resting out

theorem BeyondEncryption.network_of_checking (beyond : s.BeyondEncryption pending)
    (state : s.state = .checking start) : start = .network := by
  rcases beyond with same | ⟨_, same⟩ | same | ⟨⟨_, same⟩, -⟩ <;> rw [state] at same <;>
    cases start <;> first | rfl | cases same

theorem BeyondEncryption.network_of_begins (beyond : s.BeyondEncryption pending)
    (begins : Begins s.state event start) : start = .network := by
  generalize state : s.state = held at begins
  cases begins with
  | accepted =>
    rcases beyond with same | ⟨_, same⟩ | same | ⟨⟨_, same⟩, -⟩ <;> cases state.symm.trans same
  | retried => exact beyond.network_of_checking state
  | takenUp => rfl
  | resolved => rfl

/-- A session before the gate has the network check behind it only as it comes to the gate. -/
theorem not_beyondNetwork (before : s.state.isBeyondGate = false)
    (other : pending ≠ some .consentRequired ∧ pending ≠ some .consentNotRequired) :
    ¬ s.BeyondNetwork pending := by
  rintro (same | same | same)
  · rw [same] at before
    cases before
  · exact other.1 same
  · exact other.2 same

theorem Begins.not_isBeyondGate (begins : Begins s.state event start) :
    s.state.isBeyondGate = false := by
  generalize s.state = held at begins
  cases begins with
  | accepted => rfl
  | retried => exact AttemptState.isBeyondGate_checking _
  | takenUp => exact AttemptState.isBeyondGate_awaiting _ _
  | resolved => exact AttemptState.isBeyondGate_awaiting _ _

theorem Ends.not_isBeyondGate {reason : AbortReason} (ends : Ends s.state event reason) :
    s.state.isBeyondGate = false := by
  generalize s.state = held at ends
  cases ends with
  | rejected => rfl
  | failed => exact AttemptState.isBeyondGate_checking _
  | resolved => exact AttemptState.isBeyondGate_awaiting _ _

/-- A decision that was reached clears the checks before the one of the network, unless it asks for
an encryption. -/
theorem Checked.owner_of_decided {decision : Decision}
    (checked : Checked taken since s (some (.preconditionsEvaluated decision)))
    (state : s.state = .checking start) (evaluates : Evaluates start)
    (decides : decision = .remediate .network ∨ decision = .proceed) :
    OwnerCleared taken since := by
  obtain ⟨other, e, same, rfl, evaluated⟩ := checked.decided decision rfl
  cases evaluates with
  | network => exact checked.owner (.inl state)
  | ownership =>
    rw [state] at same
    cases other with
    | notYetProvisioned => exact evaluated.owner_of_all decides
    | factoryResetProtection => cases same
    | encryption => cases same
    | network => cases same

theorem Checked.evaluated {e : Evaluation} (checked : Checked taken since s (some event))
    (begins : Begins s.state event start) (expects : s.Expects event)
    (run : Dialogue.Runs (evaluateDevice taken start).run log (.ok e)) :
    Checked taken (since ++ moments (log ++ [s.reported (.checking start)]))
      { s with state := .checking start } (some (.preconditionsEvaluated e.decision)) := by
  have quiet : ∀ m ∈ moments [s.reported (.checking start)], ¬ m.AsksDevice := by
    simp [Moment.AsksDevice, reported]
  have free := begins.free expects
  rw [moments_append]
  refine ⟨?_, ?_, ?_, ?_⟩
  · intro decision same
    have decides := AttemptEvent.preconditionsEvaluated.inj (Option.some.inj same)
    exact ⟨start, e, rfl, decides, since, log, [s.reported (.checking start)],
      (List.append_assoc _ _ _).symm, run, quiet⟩
  · intro ticket out
    rw [show s.desk.outstanding = some ticket from out] at free
    cases free
  · intro beyond
    exact checked.after_evaluation begins expects run quiet (beyond.network_of_checking rfl)
  · intro beyond
    exact absurd beyond (not_beyondNetwork (AttemptState.isBeyondGate_checking _) (by simp))

theorem Checked.notEvaluated {cause : String} (checked : Checked taken since s (some event))
    (begins : Begins s.state event start) (expects : s.Expects event)
    (run : Dialogue.Runs (evaluateDevice taken start).run log (.error cause)) :
    Checked taken (since ++ moments log) s none := by
  have free := begins.free expects
  refine ⟨by simp, ?_, ?_, ?_⟩
  · intro ticket out
    rw [out] at free
    cases free
  · intro beyond
    have silent : ∀ m ∈ ([] : List Moment), ¬ m.AsksDevice := by simp
    have kept := checked.after_evaluation begins expects run silent (beyond.network_of_begins begins)
    rwa [List.append_nil] at kept
  · intro beyond
    exact absurd beyond (not_beyondNetwork begins.not_isBeyondGate (by simp))

theorem Checked.proceeded
    (checked : Checked taken since s (some (.preconditionsEvaluated .proceed)))
    (expects : s.Expects (.preconditionsEvaluated .proceed)) (state : s.state = .checking start)
    (evaluates : Evaluates start) (decision : ∀ d, next ≠ some (.preconditionsEvaluated d)) :
    Checked taken (since ++ moments [s.reported .checkingNetwork])
      { s with state := .checkingNetwork } next := by
  have quiet : ∀ m ∈ moments [s.reported .checkingNetwork], ¬ m.AsksDevice := by
    simp [Moment.AsksDevice, reported]
  have owned : ∀ m ∈ moments [s.reported .checkingNetwork], ¬ m.AsksOwnership := by
    simp [Moment.AsksOwnership, reported]
  refine ⟨fun d same => absurd same (decision d), ?_, ?_, ?_⟩
  · intro ticket out
    cases expects with
    | evaluated _ _ _ free =>
      rw [show s.desk.outstanding = some ticket from out] at free
      cases free
  · intro beyond
    exact (checked.owner_of_decided state evaluates (.inr rfl)).append owned
  · intro beyond
    obtain ⟨other, e, same, decides, evaluated⟩ := checked.decided .proceed rfl
    exact (evaluated.network decides).append quiet

theorem Checked.handedOver {kind : RemediationKind} {id : TicketId}
    (checked : Checked taken since s (some (.preconditionsEvaluated (.remediate kind))))
    (state : s.state = .checking start) (evaluates : Evaluates start) :
    Checked taken
      (since ++ moments [⟨.freshTicket, id⟩, ⟨.requestRemediation (s.ticket id kind taken), .ok ()⟩,
        s.reported (.checking kind.precondition)])
      { s with
        state := .checking kind.precondition
        desk := ⟨some (s.ticket id kind taken)⟩ }
      (some (.remediationRequested kind id)) := by
  refine ⟨by simp, ?_, ?_, ?_⟩
  · intro ticket out encryption
    obtain rfl := Option.some.inj out
    obtain rfl : kind = .encryption := encryption
    obtain ⟨other, e, same, decides, evaluated⟩ := checked.decided _ rfl
    have all : other = .notYetProvisioned := by
      refine evaluated.start_of_encryption ?_ decides
      rw [state] at same
      cases evaluates <;> cases other <;> first | exact .ownership | exact .network | cases same
    subst all
    obtain ⟨between, all⟩ := evaluated.all
    refine ⟨e, _, [.exchanged (s.reported .checkingEncryption)], all.append ?_, decides,
      between ++ [⟨.freshTicket, id⟩], by simp; rfl, rfl⟩
    simp [Moment.AsksOwnership, reported]
  · intro beyond
    have network := beyond.network_of_checking rfl
    cases kind with
    | encryption => cases network
    | network =>
      refine (checked.owner_of_decided state evaluates (.inl rfl)).append ?_
      simp [Moment.AsksOwnership, reported]
  · intro beyond
    exact absurd beyond (not_beyondNetwork (AttemptState.isBeyondGate_checking _) (by simp))

theorem Move.checked {reached : Except SessionError (Option AttemptEvent)}
    (expects : s.Expects event) (accepted : s.accepted = some taken)
    (checked : Checked taken since s (some event)) (move : Move s event log reached after)
    (active : after.Active (pendingAfterMove reached)) :
    Checked taken (since ++ moments log) after (pendingAfterMove reached) := by
  have asked (prompts : Prompts s.state event) : s.BeyondNetwork (some event) := by
    generalize state : s.state = held at prompts
    cases prompts with
    | required => exact .inr (.inl rfl)
    | again => exact .inl state
  have shown {next : Option AttemptEvent} (prompts : Prompts s.state event) :
      s.BeyondEncryption next := by
    generalize state : s.state = held at prompts
    cases prompts with
    | required => exact .inl state
    | again => exact .inr (.inr (.inl state))
  cases move with
  | ended terminal => exact absurd active (not_active_of_terminal terminal)
  | ignored running unexpected =>
    refine checked.carried (by simp [Moment.AsksDevice, reported]) (by simp) (fun _ => id) ?_ ?_
    · rintro (network | network | consent | ⟨⟨id, encryption⟩, free, -⟩)
      · exact .inl network
      · exact .inr (.inl network)
      · exact .inr (.inr (.inl consent))
      · refine .inr (.inr (.inr ⟨⟨id, encryption⟩, free, ?_⟩))
        -- A remediation that ends the attempt is not ignored.
        rintro reason same
        obtain rfl := Option.some.inj same
        have commands := congrArg Prod.snd unexpected
        rw [encryption] at commands
        cases commands
    · rintro (consent | same | same)
      · exact .inl consent
      · cases same
      · cases same
  | evaluated begins own run =>
    obtain rfl := Option.some.inj (accepted.symm.trans own)
    exact checked.evaluated begins expects run
  | notEvaluated begins own run =>
    obtain rfl := Option.some.inj (accepted.symm.trans own)
    exact checked.notEvaluated begins expects run
  | proceeded state evaluates own =>
    refine checked.proceeded expects state evaluates ?_
    intro decision
    simp only [pendingAfterMove]
    split <;> simp
  | aborted ends => exact absurd active (not_active_of_terminal rfl)
  | handedOver state evaluates own =>
    obtain rfl := Option.some.inj (accepted.symm.trans own)
    exact checked.handedOver state evaluates
  | notHandedOver state evaluates own =>
    refine checked.carried (by simp [Moment.AsksDevice]) (by simp) (fun _ => id) ?_ ?_
    · intro beyond
      obtain rfl := beyond.network_of_checking state
      exact .inl state
    · intro beyond
      exact absurd beyond
        (not_beyondNetwork (by rw [state, AttemptState.isBeyondGate_checking]) (by simp))
  | @suspended kind ticket state =>
    refine checked.carried (by simp [Moment.AsksDevice, reported]) (by simp) (fun _ => id) ?_ ?_
    · intro beyond
      cases kind with
      | network => exact .inl state
      | encryption =>
        cases expects with
        | handedOver _ _ out =>
          rcases beyond with same | ⟨_, same⟩ | same | ⟨-, free, -⟩
          · cases same
          · cases same
          · cases same
          · cases out.symm.trans free
    · intro beyond
      exact absurd beyond (not_beyondNetwork (AttemptState.isBeyondGate_awaiting _ _) (by simp))
  | prompted prompts own =>
    exact checked.carried (by simp [Moment.AsksDevice, reported]) (by simp) (fun _ => id)
      (fun _ => shown prompts) (fun _ => asked prompts)
  | notPrompted prompts own =>
    exact checked.carried (by simp [Moment.AsksDevice]) (by simp) (fun _ => id)
      (fun _ => shown prompts) (fun _ => asked prompts)
  | confirmed state own =>
    exact checked.carried (by simp [Moment.AsksDevice, reported]) (by simp) (fun _ => id)
      (fun _ => .inr (.inr (.inl state))) (fun _ => .inl state)
  | notSaved state own =>
    exact checked.carried (by simp [Moment.AsksDevice]) (by simp) (fun _ => id)
      (fun _ => .inr (.inr (.inl state))) (fun _ => .inl state)
  | launched state own =>
    exact checked.carried (by simp [Moment.AsksDevice, reported]) (by simp) (fun _ => id)
      (fun _ => .inl state) (fun _ => .inr (.inr rfl))
  | finished state => exact absurd active (not_active_of_terminal rfl)

theorem checked_keptSince : KeptSince Checked where
  accepted := by
    intro taken s state free
    refine ⟨by simp, ?_, ?_, ?_⟩
    · intro ticket out
      rw [free] at out
      cases out
    · rintro (same | ⟨_, same⟩ | same | ⟨⟨_, same⟩, -⟩) <;> cases state.symm.trans same
    · rintro (same | same | same)
      · cases state.symm.trans same
      · cases same
      · cases same
  opening resting begun _ checked opening := opening.checked resting begun checked
  move expects accepted checked move active := move.checked expects accepted checked active
  returned checked :=
    checked.carried (by simp [Moment.AsksDevice]) (by simp) (fun _ => id) id id

end kept

/-! ## Launches -/

/-- The number of launches behind a state. -/
def launches : AttemptState → Nat
  | .launching | .done _ => 1
  | _ => 0

section launches

variable {s after : Session} {event : AttemptEvent} {log : SessionLog} {past : List Moment}
  {attempt : AttemptId}

theorem launched_device {taken : AcceptedRequest} {start : Precondition}
    {result : Except String Evaluation}
    (run : Dialogue.Runs (evaluateDevice taken start).run log result) :
    (moments log).filterMap Moment.launched? = [] :=
  List.filterMap_eq_nil_iff.2 (forall_device run fun _ _ => rfl)

theorem launches_eq_zero {state : AttemptState} (before : state.isBeyondGate = false) :
    launches state = 0 := by
  cases state <;> first | rfl | cases before

theorem launches_checking {start : Precondition} : launches (.checking start) = 0 :=
  launches_eq_zero (AttemptState.isBeyondGate_checking start)

theorem launches_awaiting {kind : RemediationKind} {id : TicketId} :
    launches (.awaiting kind id) = 0 :=
  launches_eq_zero (AttemptState.isBeyondGate_awaiting kind id)

/-- A session launches as it goes into the state in which a launch is behind it. -/
theorem Move.launches {reached : Except SessionError (Option AttemptEvent)}
    (expects : s.Expects event) (move : Move s event log reached after) :
    Session.launches after.state =
      Session.launches s.state + ((moments log).filterMap Moment.launched?).length := by
  have asked (prompts : Prompts s.state event) : Session.launches s.state = 0 := by
    generalize s.state = held at prompts
    cases prompts <;> rfl
  cases move with
  | ended terminal => rfl
  | ignored running unexpected => rfl
  | evaluated begins own run =>
    rw [launches_eq_zero begins.not_isBeyondGate, moments_append, List.filterMap_append,
      launched_device run]
    exact launches_checking
  | notEvaluated begins own run =>
    rw [launched_device run]
    rfl
  | proceeded state =>
    rw [state, launches_checking]
    rfl
  | aborted ends =>
    rw [launches_eq_zero ends.not_isBeyondGate]
    rfl
  | handedOver state =>
    rw [state, launches_checking, launches_checking]
    rfl
  | notHandedOver state => rfl
  | suspended state =>
    rw [state, launches_checking]
    exact launches_awaiting
  | prompted prompts =>
    rw [asked prompts]
    rfl
  | notPrompted prompts => rfl
  | confirmed state =>
    rw [state]
    rfl
  | notSaved state => rfl
  | launched state =>
    rw [state]
    rfl
  | finished state =>
    rw [state]
    rfl

/-- What is known of all that was launched and of the checks since. -/
def LaunchesCleared (past : List Moment) (s : Session) (pending : Option AttemptEvent) : Prop :=
  (past.filterMap Moment.launched?).length = Session.launches s.state ∧
    Throughout (fun before m => ∀ params, m.launched? = some params → LaunchCleared before params)
      past ∧
    Standing Checked past s pending

/-- A past in which nothing was launched says nothing about launches. -/
theorem throughout_unlaunched {P : List Moment → Params → Prop} {later : List Moment}
    (none : ∀ m ∈ later, m.launched? = Option.none) :
    Throughout (fun before m => ∀ params, m.launched? = some params → P before params) later := by
  refine .of_forall fun m member before params same => ?_
  rw [none m member] at same
  cases same

/-- A session launches only what is cleared. -/
theorem Move.launchesCleared {reached : Except SessionError (Option AttemptEvent)}
    (standing : Standing Checked past s (some event)) (move : Move s event log reached after) :
    Throughout (fun before m => ∀ params, m.launched? = some params →
      LaunchCleared (past ++ before) params) (moments log) := by
  cases move with
  | evaluated begins own run =>
    refine throughout_unlaunched (P := fun before => LaunchCleared (past ++ before)) ?_
    rw [moments_append]
    refine List.forall_mem_append.2 ⟨forall_device run fun _ _ => rfl, ?_⟩
    simp [Moment.launched?, reported]
  | notEvaluated begins own run =>
    exact throughout_unlaunched (P := fun before => LaunchCleared (past ++ before))
      (forall_device run fun _ _ => rfl)
  | confirmed state own =>
    obtain ⟨taken, since, accepted, last, checked⟩ :=
      standing (.inr (by rw [state]; rfl))
    obtain rfl := Option.some.inj (own.symm.trans accepted)
    have owner := checked.owner (.inr (.inr (.inl state)))
    have network := checked.network (.inl state)
    simp only [moments_cons, moments_nil, Throughout.cons_iff, Throughout.nil, Moment.launched?,
      Option.some.injEq, reduceCtorEq, false_implies, implies_true, true_and, and_true, reported,
      forall_eq']
    exact ⟨s.attempt, _, _, last.append (by simp [Moment.Accepts]), rfl,
      owner.append (by simp [Moment.AsksOwnership]), network.append (by simp [Moment.AsksDevice])⟩
  | launched state own =>
    obtain ⟨taken, since, accepted, last, checked⟩ :=
      standing (.inr (by rw [state]; rfl))
    obtain rfl := Option.some.inj (own.symm.trans accepted)
    have owner := checked.owner (.inl state)
    have network := checked.network (.inr (.inr rfl))
    simp only [moments_cons, moments_nil, Throughout.cons_iff, Throughout.nil, Moment.launched?,
      Option.some.injEq, reduceCtorEq, false_implies, implies_true, and_true, reported,
      forall_eq', List.append_nil]
    exact ⟨s.attempt, _, since, last, rfl, owner, network⟩
  | _ => simp [Moment.launched?, reported]

/-- Nothing is launched before the first event of a call. -/
theorem Opening.not_launched {operation : Operation}
    {reached : Except SessionError (AttemptOutcome ⊕ AttemptEvent)}
    (opening : Opening operation s log reached after) :
    ∀ m ∈ .called operation s :: moments log, m.launched? = none :=
  opening.forall_moments rfl (fun _ => rfl) (fun _ => rfl) (fun _ => rfl) fun _ _ _ => rfl

theorem Opening.same_state {operation : Operation}
    {reached : Except SessionError (AttemptOutcome ⊕ AttemptEvent)}
    (opening : Opening operation s log reached after) : after.state = s.state := by
  cases opening <;> rfl

theorem launchesCleared_kept : Kept LaunchesCleared where
  opening := by
    rintro past s after operation log reached resting ⟨count, cleared, standing⟩ opening
    have none := opening.not_launched
    refine ⟨?_, ?_, checked_keptSince.standing.opening resting standing opening⟩
    · rw [List.filterMap_append, List.filterMap_eq_nil_iff.2 none, List.append_nil, count,
        opening.same_state]
    · refine Throughout.append_iff.2 ⟨cleared, ?_⟩
      exact throughout_unlaunched (P := fun before => LaunchCleared (past ++ before)) none
  move := by
    rintro past s after event log reached expects ⟨count, cleared, standing⟩ move
    refine ⟨?_, ?_, checked_keptSince.standing.move expects standing move⟩
    · rw [List.filterMap_append, List.length_append, count, move.launches expects]
    · exact Throughout.append_iff.2 ⟨cleared, move.launchesCleared standing⟩
  returned := by
    rintro past s result resting ⟨count, cleared, standing⟩
    refine ⟨?_, ?_, checked_keptSince.standing.returned resting standing⟩
    · rw [List.filterMap_append, List.length_append, count]
      rfl
    · exact Throughout.append_iff.2 ⟨cleared, by simp [Moment.launched?]⟩

end launches

/-- A session launches at most once, and only the parameters of the request it accepted last, with
all checks met since. -/
theorem launches_once_cleared {attempt : AttemptId} {past : List Moment} {s : Session}
    (history : History attempt past s) :
    (past.filterMap Moment.launched?).length ≤ 1 ∧
      Throughout (fun before m => ∀ params, m.launched? = some params →
        LaunchCleared before params) past := by
  have first : LaunchesCleared ([] ++ [.opened attempt]) (Session.opened attempt) none :=
    ⟨rfl, by simp [Moment.launched?], .opened⟩
  obtain ⟨count, cleared, -⟩ := history.keeps launchesCleared_kept first
  rw [List.nil_append] at count cleared
  refine ⟨?_, cleared⟩
  rw [count]
  unfold launches
  split <;> omega

theorem plainAttempt_launches :
    plainAttempt.2.state = .done .succeeded ∧
      plainAttempt.1.filterMap Moment.launched? =
        [{ Params.empty with adminPackage := some "org.example.admin" }] ∧
      Throughout (fun before m => ∀ params, m.launched? = some params →
        LaunchCleared before params) plainAttempt.1 :=
  ⟨rfl, rfl, (launches_once_cleared plainAttempt_history).2⟩

end Session

end ProvisionGate
