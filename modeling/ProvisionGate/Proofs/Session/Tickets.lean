import ProvisionGate.Proofs.Session.History

/-!
# Tickets

The ticket that is out is known to the desk and to the state, which change at different times of a
call.  Between two calls they are in step.  With sources that never give one identity twice, a
ticket is handed over once and taken back at most once.
-/

namespace ProvisionGate

/-- The identity that is given for a ticket. -/
def Moment.freshTicket? : Moment → Option TicketId
  | .exchanged ⟨.freshTicket, id⟩ => some id
  | _ => none

/-- The ticket that is handed over, and not in vain. -/
def Moment.handedOver? : Moment → Option Ticket
  | .exchanged ⟨.requestRemediation ticket, .ok _⟩ => some ticket
  | _ => none

/-- The identity of the ticket that the desk takes back. -/
def Moment.takenBack? : Moment → Option TicketId
  | .called (.remediated id outcome) before =>
    match before.desk.resolve? id outcome with
    | .ok _ => some id
    | .error _ => none
  | _ => none

/-- The surroundings failed. -/
def SessionError.IsFailure : SessionError → Prop
  | .deviceState _ | .remediation _ | .consentStore _ | .consentPrompt _ => True
  | _ => False

namespace Session

open SessionStep

variable {s after : Session} {operation : Operation} {event : AttemptEvent} {log : SessionLog}
  {past : List Moment} {attempt : AttemptId} {error : SessionError}
  {reached : Except SessionError (AttemptOutcome ⊕ AttemptEvent)}
  {moved : Except SessionError (Option AttemptEvent)}

/-! ## The errors of a call -/

/-- Once an event is handled, only the surroundings fail. -/
theorem Chain.failure {result : Except SessionError Unit}
    (chain : Chain s event log result after) (failed : result = .error error) :
    error.IsFailure := by
  induction chain with
  | stopped move => cases failed
  | failed move =>
    obtain rfl := Except.error.inj failed
    cases move <;> trivial
  | followed move rest ih => exact ih failed

/-- A call fails with its surroundings, is refused as a second start, or names an unknown ticket. -/
theorem Call.error_cases (call : Call operation s log (.error error) after) :
    error.IsFailure ∨ error = .alreadyStarted s.state ∨
      ∃ id outcome, operation = .remediated id outcome ∧ error = .desk (.unknownTicket id) ∧
        log = [] ∧ after = s ∧ ∀ ticket, s.desk.outstanding = some ticket → ticket.id ≠ id := by
  generalize ends : (Except.error error : Except SessionError AttemptOutcome) = result at call
  cases call with
  | refused opening =>
    obtain rfl := Except.error.inj ends
    cases opening with
    | alreadyStarted begun => exact .inr (.inl rfl)
    | callerUnknown => exact .inl trivial
    | notCleared => exact .inl trivial
    | notLoaded => exact .inl trivial
    | unknownTicket unknown => exact .inr (.inr ⟨_, _, rfl, rfl, rfl, rfl, unknown⟩)
  | answered opening => cases ends
  | @driven _ middle _ _ first second event result opening chain =>
    cases result with
    | ok done => cases ends
    | error other =>
      obtain rfl := Except.error.inj ends
      exact .inl (chain.failure rfl)

/-- A ticket that is out is taken back. -/
theorem Call.of_remediated {ticket : Ticket} {outcome : RemediationOutcome}
    {result : Except SessionError AttemptOutcome}
    (call : Call (.remediated ticket.id outcome) s log result after)
    (out : s.desk.outstanding = some ticket) :
    result ≠ .error (.desk (.unknownTicket ticket.id)) := by
  rintro rfl
  rcases call.error_cases with failure | same | ⟨id, _, same, error, -, -, unknown⟩
  · cases failure
  · cases same
  · cases same
    exact unknown ticket out rfl

/-- An outcome for any other ticket changes nothing. -/
theorem Call.of_unknown {id : TicketId} {outcome : RemediationOutcome}
    {result : Except SessionError AttemptOutcome}
    (call : Call (.remediated id outcome) s log result after)
    (unknown : ∀ ticket, s.desk.outstanding = some ticket → ticket.id ≠ id) :
    result = .error (.desk (.unknownTicket id)) ∧ log = [] ∧ after = s := by
  cases call with
  | refused opening =>
    cases opening with
    | unknownTicket => exact ⟨rfl, rfl, rfl⟩
  | answered opening => cases opening
  | driven opening chain =>
    cases opening with
    | resolved out => exact absurd rfl (unknown _ out)

/-! ## What is known of tickets -/

/-- The identities that were given for tickets. -/
def ticketsGiven (past : List Moment) : List TicketId :=
  past.filterMap Moment.freshTicket?

/-- The tickets that were handed over. -/
def ticketsHandedOver (past : List Moment) : List Ticket :=
  past.filterMap Moment.handedOver?

/-- The identities of the tickets that were taken back. -/
def ticketsTakenBack (past : List Moment) : List TicketId :=
  past.filterMap Moment.takenBack?

/-- What the past tells about the tickets, if no identity was given twice. -/
structure Ledger (past : List Moment) (s : Session) : Prop where
  handed : ∀ ticket ∈ ticketsHandedOver past, ticket.id ∈ ticketsGiven past
  taken : ∀ id ∈ ticketsTakenBack past, id ∈ ticketsGiven past
  once : (ticketsTakenBack past).Nodup
  out : ∀ ticket, s.desk.outstanding = some ticket → ticket.id ∉ ticketsTakenBack past ∧
    (ticketsHandedOver past).filter (·.id = ticket.id) = [ticket]

section ledger

variable {later : List Moment} {ticket : Ticket}

theorem ticketsGiven_append :
    ticketsGiven (past ++ later) = ticketsGiven past ++ ticketsGiven later :=
  List.filterMap_append

theorem ticketsHandedOver_append :
    ticketsHandedOver (past ++ later) = ticketsHandedOver past ++ ticketsHandedOver later :=
  List.filterMap_append

theorem ticketsTakenBack_append :
    ticketsTakenBack (past ++ later) = ticketsTakenBack past ++ ticketsTakenBack later :=
  List.filterMap_append

/-- Nothing of what happens is about a ticket, but for identities that are given. -/
theorem Ledger.append (ledger : Ledger past s) (handed : ticketsHandedOver later = [])
    (taken : ticketsTakenBack later = [])
    (desk : ∀ ticket, after.desk.outstanding = some ticket → s.desk.outstanding = some ticket) :
    Ledger (past ++ later) after := by
  have same : ticketsHandedOver (past ++ later) = ticketsHandedOver past := by
    rw [ticketsHandedOver_append, handed, List.append_nil]
  have back : ticketsTakenBack (past ++ later) = ticketsTakenBack past := by
    rw [ticketsTakenBack_append, taken, List.append_nil]
  constructor
  · intro ticket member
    rw [same] at member
    rw [ticketsGiven_append]
    exact List.mem_append_left _ (ledger.handed ticket member)
  · intro id member
    rw [back] at member
    rw [ticketsGiven_append]
    exact List.mem_append_left _ (ledger.taken id member)
  · rw [back]
    exact ledger.once
  · intro ticket out
    rw [same, back]
    exact ledger.out ticket (desk ticket out)

/-- A new ticket is handed over. -/
theorem Ledger.handOver (ledger : Ledger past s) (new : ticket.id ∉ ticketsGiven past)
    (given : ticketsGiven later = [ticket.id]) (handed : ticketsHandedOver later = [ticket])
    (taken : ticketsTakenBack later = []) (desk : after.desk.outstanding = some ticket) :
    Ledger (past ++ later) after := by
  have back : ticketsTakenBack (past ++ later) = ticketsTakenBack past := by
    rw [ticketsTakenBack_append, taken, List.append_nil]
  constructor
  · intro other member
    rw [ticketsHandedOver_append, handed] at member
    rw [ticketsGiven_append, given]
    rcases List.mem_append.1 member with earlier | same
    · exact List.mem_append_left _ (ledger.handed other earlier)
    · obtain rfl := List.mem_singleton.1 same
      simp
  · intro id member
    rw [back] at member
    rw [ticketsGiven_append]
    exact List.mem_append_left _ (ledger.taken id member)
  · rw [back]
    exact ledger.once
  · intro other out
    obtain rfl := Option.some.inj (desk.symm.trans out)
    have none : (ticketsHandedOver past).filter (·.id = ticket.id) = [] := by
      rw [List.filter_eq_nil_iff]
      intro other member same
      have earlier := ledger.handed other member
      rw [of_decide_eq_true same] at earlier
      exact new earlier
    rw [back, ticketsHandedOver_append, handed, List.filter_append, none]
    exact ⟨fun member => new (ledger.taken _ member), by simp⟩

/-- The ticket that is out is taken back. -/
theorem Ledger.takeBack (ledger : Ledger past s) (out : s.desk.outstanding = some ticket)
    (handed : ticketsHandedOver later = []) (taken : ticketsTakenBack later = [ticket.id])
    (free : after.desk.outstanding = none) : Ledger (past ++ later) after := by
  obtain ⟨unused, only⟩ := ledger.out ticket out
  have member : ticket ∈ (ticketsHandedOver past).filter (·.id = ticket.id) := by
    rw [only]
    exact List.mem_singleton_self ticket
  constructor
  · intro other member
    rw [ticketsHandedOver_append, handed, List.append_nil] at member
    rw [ticketsGiven_append]
    exact List.mem_append_left _ (ledger.handed other member)
  · intro id back
    rw [ticketsTakenBack_append, taken] at back
    rw [ticketsGiven_append]
    apply List.mem_append_left
    rcases List.mem_append.1 back with earlier | last
    · exact ledger.taken id earlier
    · obtain rfl := List.mem_singleton.1 last
      exact ledger.handed ticket (List.mem_filter.1 member).1
  · rw [ticketsTakenBack_append, taken, List.nodup_append]
    refine ⟨ledger.once, by simp, ?_⟩
    intro id earlier other last
    obtain rfl := List.mem_singleton.1 last
    rintro rfl
    exact unused earlier
  · intro other kept
    rw [free] at kept
    cases kept

end ledger

/-- A move hands over a new ticket, or leaves the one that is out. -/
theorem Move.ticket_cases (move : Move s event log moved after) :
    (∃ ticket, ticketsGiven (moments log) = [ticket.id] ∧
        ticketsHandedOver (moments log) = [ticket] ∧ after.desk.outstanding = some ticket) ∨
      ticketsHandedOver (moments log) = [] ∧ after.desk.outstanding = s.desk.outstanding := by
  have device {taken : AcceptedRequest} {start : Precondition} {log : SessionLog}
      {result : Except String Evaluation}
      (run : Dialogue.Runs (evaluateDevice taken start).run log result) :
      ticketsHandedOver (moments log) = [] :=
    List.filterMap_eq_nil_iff.2 (forall_device run fun _ _ => rfl)
  cases move with
  | evaluated begins accepted run =>
    right
    rw [moments_append, ticketsHandedOver_append, device run]
    exact ⟨rfl, rfl⟩
  | notEvaluated begins accepted run => exact .inr ⟨device run, rfl⟩
  | handedOver state evaluates accepted => exact .inl ⟨_, rfl, rfl, rfl⟩
  | _ => exact .inr ⟨rfl, rfl⟩

theorem ticketsTakenBack_moments : ticketsTakenBack (moments log) = [] := by
  refine List.filterMap_eq_nil_iff.2 fun m member => ?_
  obtain ⟨x, -, rfl⟩ := List.mem_map.1 member
  rfl

/-- Nothing is handed over before the first event of a call. -/
theorem Opening.not_handedOver (opening : Opening operation s log reached after) :
    ticketsHandedOver (.called operation s :: moments log) = [] :=
  List.filterMap_eq_nil_iff.2
    (opening.forall_moments rfl (fun _ => rfl) (fun _ => rfl) (fun _ => rfl) fun _ _ _ => rfl)

/-- An opening takes back the ticket that is out, or does nothing about tickets. -/
theorem Opening.ticket_cases (opening : Opening operation s log reached after) :
    (∃ ticket, s.desk.outstanding = some ticket ∧
        ticketsTakenBack (.called operation s :: moments log) = [ticket.id] ∧
        after.desk.outstanding = none) ∨
      ticketsTakenBack (.called operation s :: moments log) = [] ∧
        ∀ ticket, after.desk.outstanding = some ticket → s.desk.outstanding = some ticket := by
  have quiet {operation : Operation} (silent : (Moment.called operation s).takenBack? = none) :
      ticketsTakenBack (.called operation s :: moments log) = [] := by
    unfold ticketsTakenBack
    rw [List.filterMap_cons_none silent]
    exact ticketsTakenBack_moments
  cases opening with
  | @resolved _ ticket outcome out =>
    refine .inl ⟨ticket, out, ?_, rfl⟩
    have back : (Moment.called (.remediated ticket.id outcome) s).takenBack? = some ticket.id := by
      simp only [Moment.takenBack?, RemediationDesk.resolve?_of_out out]
    exact List.filterMap_cons_some back
  | @unknownTicket _ other outcome unknown =>
    refine .inr ⟨quiet ?_, fun _ => id⟩
    simp only [Moment.takenBack?, RemediationDesk.resolve?_of_unknown unknown]
  | acceptedAnew => exact .inr ⟨quiet rfl, fun ticket out => by cases out⟩
  | acceptedAgain => exact .inr ⟨quiet rfl, fun ticket out => by cases out⟩
  | _ => exact .inr ⟨quiet rfl, fun _ => id⟩

/-- The ledger is kept as long as no identity is given twice. -/
theorem ledger_kept : Kept fun past s _ => (ticketsGiven past).Nodup → Ledger past s where
  opening := by
    intro past s after operation log reached resting holds opening fresh
    rw [ticketsGiven_append, List.nodup_append] at fresh
    have ledger := holds fresh.1
    rcases opening.ticket_cases with ⟨ticket, out, taken, free⟩ | ⟨taken, desk⟩
    · exact ledger.takeBack out opening.not_handedOver taken free
    · exact ledger.append opening.not_handedOver taken desk
  move := by
    intro past s after event log reached expects holds move fresh
    rw [ticketsGiven_append, List.nodup_append] at fresh
    have ledger := holds fresh.1
    rcases move.ticket_cases with ⟨ticket, given, handed, desk⟩ | ⟨handed, desk⟩
    · refine ledger.handOver ?_ given handed ticketsTakenBack_moments desk
      intro member
      exact fresh.2.2 _ member ticket.id (by rw [given]; simp) rfl
    · exact ledger.append handed ticketsTakenBack_moments fun ticket out => desk.symm.trans out
  returned := by
    intro past s result resting holds fresh
    rw [ticketsGiven_append, List.nodup_append] at fresh
    exact (holds fresh.1).append rfl rfl fun _ => id

/-- Between two calls, desk and state agree about tickets, and will go on to. -/
structure TicketsInStep (past : List Moment) (s : Session) : Prop where
  waits : ∀ ticket, s.desk.outstanding = some ticket →
    s.state = .awaiting ticket.kind ticket.id ∧ ticket.attempt = s.attempt ∧
      (∃ taken, s.accepted = some taken ∧ ticket.resumeParams = taken.params) ∧
      (ticketsHandedOver past).filter (·.id = ticket.id) = [ticket]
  free : s.state.pendingTicket? = none → s.desk.outstanding = none
  errors : ∀ error, .returned (.error error) ∈ past →
    (∀ kind id, error ≠ .desk (.ticketOutstanding kind id)) ∧
      ∀ command, error ≠ .noAcceptedRequest command
  once : (ticketsTakenBack past).Nodup
  known : ∀ ticket outcome log result after, s.desk.outstanding = some ticket →
    Runs (Operation.remediated ticket.id outcome).step s log result after →
      result ≠ .error (.desk (.unknownTicket ticket.id))
  unknown : ∀ id outcome log result after,
    (∀ ticket, s.desk.outstanding = some ticket → ticket.id ≠ id) →
    Runs (Operation.remediated id outcome).step s log result after →
      result = .error (.desk (.unknownTicket id)) ∧ log = [] ∧ after = s

theorem tickets_in_step (history : History attempt past s)
    (fresh : (past.filterMap Moment.freshTicket?).Nodup) : TicketsInStep past s := by
  have resting := history.resting
  have first : Ledger ([] ++ [.opened attempt]) (Session.opened attempt) := by
    refine ⟨?_, ?_, .nil, ?_⟩
    · simp [ticketsHandedOver, Moment.handedOver?]
    · simp [ticketsTakenBack, Moment.takenBack?]
    · intro ticket out
      cases out
  have ledger := history.keeps ledger_kept fun _ => first
  rw [List.nil_append] at ledger
  constructor
  · intro ticket out
    obtain ⟨state, taken, accepted, same⟩ := resting.desk ticket out
    obtain ⟨-, handed⟩ := (ledger fresh).out ticket out
    exact ⟨state, by rw [same]; rfl, ⟨taken, accepted, by rw [same]; rfl⟩, handed⟩
  · exact resting.free
  · intro error member
    obtain ⟨operation, before, log, after, -, call⟩ := history.call_of_returned member
    rcases call.error_cases with failure | rfl | ⟨id, -, -, rfl, -⟩
    · constructor
      · rintro kind id rfl
        cases failure
      · rintro command rfl
        cases failure
    · simp
    · simp
  · exact (ledger fresh).once
  · intro ticket outcome log result after out run
    exact (Call.of_runs resting run).of_remediated out
  · intro id outcome log result after unknown run
    exact (Call.of_runs resting run).of_unknown unknown

theorem suspendedAttempt_tickets :
    suspendedAttempt.2.desk.outstanding.map Ticket.id = some ⟨"ticket"⟩ ∧
      (suspendedAttempt.1.filterMap Moment.freshTicket?).Nodup ∧
      TicketsInStep suspendedAttempt.1 suspendedAttempt.2 := by
  have given : suspendedAttempt.1.filterMap Moment.freshTicket? = [⟨"ticket"⟩] := rfl
  have fresh : (suspendedAttempt.1.filterMap Moment.freshTicket?).Nodup := by
    rw [given]
    decide
  exact ⟨rfl, fresh, tickets_in_step suspendedAttempt_history fresh⟩

end Session

end ProvisionGate
