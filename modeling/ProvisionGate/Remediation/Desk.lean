import ProvisionGate.Remediation.Ticket

/-!
# The remediation desk

The desk gives out one ticket at a time and takes it back once.
-/

namespace ProvisionGate

/-- The desk, with the ticket that is out. -/
structure RemediationDesk where
  outstanding : Option Ticket
  deriving DecidableEq

/-- The desk refuses. -/
inductive DeskError where
  | ticketOutstanding (kind : RemediationKind) (ticket : TicketId)
  | unknownTicket (ticket : TicketId)
  deriving DecidableEq

/-- The refusal in words. -/
def DeskError.message : DeskError → String
  | ticketOutstanding kind ticket =>
    "a " ++ kind.word ++ " remediation is already outstanding (ticket " ++ ticket.text ++ ")"
  | unknownTicket ticket => "no outstanding remediation matches ticket " ++ ticket.text

namespace RemediationDesk

/-- The desk with no ticket out. -/
def empty : RemediationDesk := ⟨none⟩

/-- Gives out a ticket with a fresh identity, if none is out. -/
def begin? (desk : RemediationDesk) (id : TicketId) (kind : RemediationKind)
    (attempt : AttemptId) (params : Params) : Except DeskError (Ticket × RemediationDesk) :=
  match desk.outstanding with
  | some ticket => .error (.ticketOutstanding ticket.kind ticket.id)
  | none =>
    let ticket : Ticket := ⟨id, kind, attempt, params⟩
    .ok (ticket, ⟨some ticket⟩)

/-- Takes back the ticket that is out, with its outcome. -/
def resolve? (desk : RemediationDesk) (id : TicketId) (outcome : RemediationOutcome) :
    Except DeskError (ResumeSignal × RemediationDesk) :=
  match desk.outstanding with
  | some ticket =>
    if ticket.id = id then .ok (ticket.kind.resumeSignal outcome, empty)
    else .error (.unknownTicket id)
  | none => .error (.unknownTicket id)

theorem resolve?_of_out {desk : RemediationDesk} {ticket : Ticket} {outcome : RemediationOutcome}
    (out : desk.outstanding = some ticket) :
    desk.resolve? ticket.id outcome = .ok (ticket.kind.resumeSignal outcome, empty) := by
  simp only [resolve?, out, if_true]

theorem resolve?_of_unknown {desk : RemediationDesk} {id : TicketId}
    {outcome : RemediationOutcome}
    (unknown : ∀ ticket, desk.outstanding = some ticket → ticket.id ≠ id) :
    desk.resolve? id outcome = .error (.unknownTicket id) := by
  unfold resolve?
  cases out : desk.outstanding with
  | none => rfl
  | some ticket => simp only [if_neg (unknown ticket out)]

/-- Gives up the ticket that is out. -/
def abandon (desk : RemediationDesk) : Option Ticket × RemediationDesk :=
  (desk.outstanding, empty)

end RemediationDesk

end ProvisionGate
