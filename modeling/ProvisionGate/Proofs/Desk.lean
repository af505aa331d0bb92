import ProvisionGate.Remediation.Desk

/-!
# The desk under any calls

Nothing is assumed of the calls of a desk but that no identity is given to two tickets.  A ticket is
out if it was issued and not closed since, which the calls and their answers tell without a look at
the desk.  The law behind every answer is `RemediationDesk.AccountsFor`: the tickets that were issued
are, in order, those that were closed and the one that the desk holds.
-/

namespace ProvisionGate

/-- A call of the desk.  `begin` comes with the identity that a new ticket would have. -/
inductive DeskCall where
  | begin (id : TicketId) (kind : RemediationKind) (attempt : AttemptId) (params : Params)
  | resolve (id : TicketId) (outcome : RemediationOutcome)
  | abandon

/-- What the desk answers. -/
inductive DeskAnswer where
  | begun (ticket : Except DeskError Ticket)
  | resolved (signal : Except DeskError ResumeSignal)
  | abandoned (ticket : Option Ticket)

/-- A call of the desk with its answer, and the desk before and after it. -/
structure DeskStep where
  before : RemediationDesk
  call : DeskCall
  answer : DeskAnswer
  after : RemediationDesk

namespace DeskStep

/-- The ticket that a step issues. -/
def issued? : DeskStep → Option Ticket
  | ⟨_, _, .begun (.ok ticket), _⟩ => some ticket
  | _ => none

/-- The identity of the ticket that a step closes. -/
def closed? : DeskStep → Option TicketId
  | ⟨_, .resolve id _, .resolved (.ok _), _⟩ => some id
  | ⟨_, _, .abandoned (some ticket), _⟩ => some ticket.id
  | _ => none

end DeskStep

/-- The tickets that were issued, in order. -/
def ticketsIssued (past : List DeskStep) : List Ticket :=
  past.filterMap DeskStep.issued?

/-- The identities of the tickets that were closed, in order. -/
def ticketsClosed (past : List DeskStep) : List TicketId :=
  past.filterMap DeskStep.closed?

/-- The ticket was issued and not closed since. -/
def IsOut (past : List DeskStep) (ticket : Ticket) : Prop :=
  ticket ∈ ticketsIssued past ∧ ticket.id ∉ ticketsClosed past

/-- How a call is answered, by what happened before it. -/
inductive Answered (past : List DeskStep) : DeskStep → Prop
  | begun {before after : RemediationDesk} {id : TicketId} {kind : RemediationKind}
      {attempt : AttemptId} {params : Params} (free : ∀ ticket, ¬ IsOut past ticket) :
      Answered past
        ⟨before, .begin id kind attempt params, .begun (.ok ⟨id, kind, attempt, params⟩), after⟩
  | occupied {before : RemediationDesk} {id : TicketId} {kind : RemediationKind}
      {attempt : AttemptId} {params : Params} {ticket : Ticket} (out : IsOut past ticket) :
      Answered past
        ⟨before, .begin id kind attempt params,
          .begun (.error (.ticketOutstanding ticket.kind ticket.id)), before⟩
  | resolved {before after : RemediationDesk} {outcome : RemediationOutcome} {ticket : Ticket}
      (out : IsOut past ticket) :
      Answered past
        ⟨before, .resolve ticket.id outcome, .resolved (.ok (ticket.kind.resumeSignal outcome)),
          after⟩
  | unknown {before : RemediationDesk} {id : TicketId} {outcome : RemediationOutcome}
      (foreign : ∀ ticket, IsOut past ticket → ticket.id ≠ id) :
      Answered past ⟨before, .resolve id outcome, .resolved (.error (.unknownTicket id)), before⟩
  | abandoned {before after : RemediationDesk} {ticket : Ticket} (out : IsOut past ticket) :
      Answered past ⟨before, .abandon, .abandoned (some ticket), after⟩
  | nothing {before : RemediationDesk} (free : ∀ ticket, ¬ IsOut past ticket) :
      Answered past ⟨before, .abandon, .abandoned none, before⟩

namespace RemediationDesk

/-- The desk serves a call. -/
def serve (desk : RemediationDesk) : DeskCall → DeskAnswer × RemediationDesk
  | .begin id kind attempt params =>
    match desk.begin? id kind attempt params with
    | .ok (ticket, after) => (.begun (.ok ticket), after)
    | .error refusal => (.begun (.error refusal), desk)
  | .resolve id outcome =>
    match desk.resolve? id outcome with
    | .ok (signal, after) => (.resolved (.ok signal), after)
    | .error refusal => (.resolved (.error refusal), desk)
  | .abandon => (.abandoned desk.abandon.1, desk.abandon.2)

/-- The steps of a desk through a list of calls. -/
def steps (desk : RemediationDesk) : List DeskCall → List DeskStep
  | [] => []
  | call :: rest => ⟨desk, call, (desk.serve call).1, (desk.serve call).2⟩ ::
      (desk.serve call).2.steps rest

/-- What a desk does with a call: it issues a ticket, closes the one that it holds, or stays as it
is. -/
inductive Serves : RemediationDesk → DeskCall → DeskAnswer → RemediationDesk → Prop
  | begun {id : TicketId} {kind : RemediationKind} {attempt : AttemptId} {params : Params} :
      Serves empty (.begin id kind attempt params) (.begun (.ok ⟨id, kind, attempt, params⟩))
        ⟨some ⟨id, kind, attempt, params⟩⟩
  | occupied {ticket : Ticket} {id : TicketId} {kind : RemediationKind} {attempt : AttemptId}
      {params : Params} :
      Serves ⟨some ticket⟩ (.begin id kind attempt params)
        (.begun (.error (.ticketOutstanding ticket.kind ticket.id))) ⟨some ticket⟩
  | resolved {ticket : Ticket} {outcome : RemediationOutcome} :
      Serves ⟨some ticket⟩ (.resolve ticket.id outcome)
        (.resolved (.ok (ticket.kind.resumeSignal outcome))) empty
  | unknown {desk : RemediationDesk} {id : TicketId} {outcome : RemediationOutcome}
      (foreign : ∀ ticket, desk.outstanding = some ticket → ticket.id ≠ id) :
      Serves desk (.resolve id outcome) (.resolved (.error (.unknownTicket id))) desk
  | abandoned {ticket : Ticket} : Serves ⟨some ticket⟩ .abandon (.abandoned (some ticket)) empty
  | nothing : Serves empty .abandon (.abandoned none) empty

variable {desk after : RemediationDesk} {call : DeskCall} {answer : DeskAnswer}
  {past : List DeskStep}

/-! ## One call -/

theorem serve_serves (desk : RemediationDesk) (call : DeskCall) :
    Serves desk call (desk.serve call).1 (desk.serve call).2 := by
  obtain ⟨outstanding⟩ := desk
  cases call with
  | begin id kind attempt params =>
    cases outstanding with
    | none => exact .begun
    | some ticket => exact .occupied
  | resolve id outcome =>
    by_cases known : ∃ ticket, outstanding = some ticket ∧ ticket.id = id
    · obtain ⟨ticket, rfl, rfl⟩ := known
      have taken : resolve? ⟨some ticket⟩ ticket.id outcome =
          .ok (ticket.kind.resumeSignal outcome, empty) := resolve?_of_out rfl
      simp only [serve, taken]
      exact .resolved
    · have foreign : ∀ ticket, outstanding = some ticket → ticket.id ≠ id := by
        intro ticket out same
        exact known ⟨ticket, out, same⟩
      have refused : resolve? ⟨outstanding⟩ id outcome = .error (.unknownTicket id) :=
        resolve?_of_unknown foreign
      simp only [serve, refused]
      exact .unknown foreign
  | abandon =>
    cases outstanding with
    | none => exact .nothing
    | some ticket => exact .abandoned

/-! ## Any calls -/

/-- What happened accounts for the ticket that a desk holds: the tickets issued are those that were
closed, in the same order, and this one. -/
def AccountsFor (past : List DeskStep) (desk : RemediationDesk) : Prop :=
  ∃ gone, ticketsIssued past = gone ++ desk.outstanding.toList ∧
    gone.map Ticket.id = ticketsClosed past

theorem AccountsFor.serves (accounts : AccountsFor past desk)
    (serves : Serves desk call answer after) :
    AccountsFor (past ++ [⟨desk, call, answer, after⟩]) after := by
  obtain ⟨gone, issued, closed⟩ := accounts
  unfold AccountsFor ticketsIssued ticketsClosed at *
  rw [List.filterMap_append, List.filterMap_append, issued, ← closed]
  cases serves with
  | begun => exact ⟨gone, by simp [empty, DeskStep.issued?], by simp [DeskStep.closed?]⟩
  | @resolved ticket outcome =>
    exact ⟨gone ++ [ticket], by simp [empty, DeskStep.issued?], by simp [DeskStep.closed?]⟩
  | @abandoned ticket =>
    exact ⟨gone ++ [ticket], by simp [empty, DeskStep.issued?], by simp [DeskStep.closed?]⟩
  | occupied | unknown | nothing =>
    exact ⟨gone, by simp [DeskStep.issued?], by simp [DeskStep.closed?]⟩

/-- The ticket that is out is the one that the desk holds. -/
theorem AccountsFor.isOut_iff (accounts : AccountsFor past desk)
    (fresh : ((ticketsIssued past).map Ticket.id).Nodup) (ticket : Ticket) :
    IsOut past ticket ↔ desk.outstanding = some ticket := by
  obtain ⟨gone, issued, closed⟩ := accounts
  rw [issued, List.map_append, List.nodup_append, closed] at fresh
  unfold IsOut
  rw [issued]
  constructor
  · rintro ⟨member, kept⟩
    rcases List.mem_append.1 member with earlier | out
    · apply absurd _ kept
      rw [← closed]
      exact List.mem_map_of_mem earlier
    · exact Option.mem_toList.1 out
  · intro out
    rw [out] at fresh ⊢
    refine ⟨by simp, fun back => ?_⟩
    exact fresh.2.2 _ back ticket.id (by simp) rfl

theorem AccountsFor.answered (accounts : AccountsFor past desk)
    (fresh : ((ticketsIssued past).map Ticket.id).Nodup) (serves : Serves desk call answer after) :
    Answered past ⟨desk, call, answer, after⟩ := by
  have isOut := accounts.isOut_iff fresh
  cases serves with
  | begun => exact .begun fun ticket out => by cases (isOut ticket).1 out
  | occupied => exact .occupied ((isOut _).2 rfl)
  | resolved => exact .resolved ((isOut _).2 rfl)
  | unknown foreign => exact .unknown fun ticket out => foreign ticket ((isOut ticket).1 out)
  | abandoned => exact .abandoned ((isOut _).2 rfl)
  | nothing => exact .nothing fun ticket out => by cases (isOut ticket).1 out

/-- The first steps of a run account for the desk that the next one finds. -/
theorem AccountsFor.steps (accounts : AccountsFor past desk) {calls : List DeskCall}
    {earlier later : List DeskStep} (split : desk.steps calls = earlier ++ later) :
    ∃ reached, AccountsFor (past ++ earlier) reached ∧
      ∀ step rest, later = step :: rest → ∃ call,
        step = ⟨reached, call, (reached.serve call).1, (reached.serve call).2⟩ := by
  induction calls generalizing past desk earlier with
  | nil =>
    obtain ⟨rfl, rfl⟩ := List.append_eq_nil_iff.1 split.symm
    refine ⟨desk, by rwa [List.append_nil], fun step rest same => ?_⟩
    cases same
  | cons call more ih =>
    cases earlier with
    | nil =>
      refine ⟨desk, by rwa [List.append_nil], fun step rest same => ⟨call, ?_⟩⟩
      rw [same] at split
      exact (List.cons.inj split).1.symm
    | cons first others =>
      obtain ⟨rfl, tail⟩ := List.cons.inj split
      have next := ih (accounts.serves (serve_serves desk call)) tail
      rwa [List.append_assoc] at next

end RemediationDesk

/-- At most one ticket is out at any time, every call is answered by what happened before it, and no
ticket is closed twice. -/
structure ServedInTurn (all : List DeskStep) : Prop where
  single : ∀ past later, all = past ++ later →
    ∀ ticket other, IsOut past ticket → IsOut past other → ticket = other
  answered : ∀ past step later, all = past ++ step :: later → Answered past step
  once : (ticketsClosed all).Nodup
  issued : ∀ id ∈ ticketsClosed all, ∃ ticket ∈ ticketsIssued all, ticket.id = id

namespace RemediationDesk

/-- Whatever calls a desk serves, it serves them in turn. -/
theorem serves_in_turn (calls : List DeskCall)
    (fresh : ((ticketsIssued (empty.steps calls)).map Ticket.id).Nodup) :
    ServedInTurn (empty.steps calls) := by
  have begun : AccountsFor [] empty := ⟨[], rfl, rfl⟩
  have freshBefore {past later : List DeskStep} (split : empty.steps calls = past ++ later) :
      ((ticketsIssued past).map Ticket.id).Nodup := by
    rw [split, ticketsIssued, List.filterMap_append, List.map_append] at fresh
    exact (List.nodup_append.1 fresh).1
  obtain ⟨reached, ⟨gone, issued, closed⟩, -⟩ := begun.steps (List.append_nil _).symm
  rw [List.nil_append] at issued closed
  constructor
  · intro past later split ticket other out too
    obtain ⟨desk, accounts, -⟩ := begun.steps split
    have isOut := accounts.isOut_iff (freshBefore split)
    exact Option.some.inj (((isOut ticket).1 out).symm.trans ((isOut other).1 too))
  · intro past step later split
    obtain ⟨desk, accounts, taken⟩ := begun.steps split
    obtain ⟨call, rfl⟩ := taken step later rfl
    exact accounts.answered (freshBefore split) (serve_serves desk call)
  · rw [issued, List.map_append, List.nodup_append, closed] at fresh
    exact fresh.1
  · intro id member
    rw [← closed] at member
    obtain ⟨ticket, earlier, same⟩ := List.mem_map.1 member
    refine ⟨ticket, ?_, same⟩
    rw [issued]
    exact List.mem_append_left _ earlier

/-- Calls with a ticket asked for too early, outcomes for tickets that are not out, and a ticket
given up. -/
def strayCalls : List DeskCall := [
  .resolve ⟨"foreign"⟩ .success,
  .begin ⟨"first"⟩ .encryption ⟨"attempt"⟩ Params.empty,
  .begin ⟨"second"⟩ .network ⟨"attempt"⟩ Params.empty,
  .resolve ⟨"second"⟩ .success,
  .resolve ⟨"first"⟩ .failed,
  .resolve ⟨"first"⟩ .failed,
  .begin ⟨"third"⟩ .network ⟨"attempt"⟩ Params.empty,
  .abandon,
  .abandon]

theorem strayCalls_in_turn :
    ((ticketsIssued (empty.steps strayCalls)).map Ticket.id).Nodup ∧
      ServedInTurn (empty.steps strayCalls) := by
  have given : (ticketsIssued (empty.steps strayCalls)).map Ticket.id =
      [⟨"first"⟩, ⟨"third"⟩] := rfl
  have fresh : ((ticketsIssued (empty.steps strayCalls)).map Ticket.id).Nodup := by
    rw [given]
    decide
  exact ⟨fresh, serves_in_turn strayCalls fresh⟩

end RemediationDesk

end ProvisionGate
