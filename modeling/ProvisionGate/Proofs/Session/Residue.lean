import ProvisionGate.Proofs.Session.History

/-!
# What a failed start leaves behind

A start that fails may have named the attempt, accepted the request and set the gate.  None of this
can be found out: a session whose attempt has not begun holds the next conversation word for word as
a session does that was just opened.  `Indistinct` relates the two as long as what they hold
differs, and `Indistinct.step` shows that no call tells them apart.
-/

namespace ProvisionGate

namespace Session

/-- What can be seen of a session from outside. -/
structure Appearance where
  state : AttemptState
  attempt : AttemptId
  outstanding : Option Ticket
  deriving DecidableEq

/-- The session as it looks from outside. -/
def appearance (s : Session) : Appearance where
  state := s.state
  attempt := s.attempt
  outstanding := s.desk.outstanding

/-- Calls that are made to a session one after the other: what each returns, and how the session
looks then. -/
def converse : List Operation → Session →
    SessionDialogue (List (Except SessionError AttemptOutcome × Appearance))
  | [], _ => return []
  | operation :: rest, s => do
    let (result, after) ← operation.step.run.run s
    return (result, after.appearance) :: (← converse rest after)

/-- Two sessions that no call tells apart: they are the same, or look the same and have not begun an
attempt or are at its end, where what they hold is not used. -/
inductive Indistinct : Session → Session → Prop
  | same (s : Session) : Indistinct s s
  | idle {s t : Session} (state : t.state = s.state) (attempt : t.attempt = s.attempt)
      (idle : s.state = .init ∨ s.state.isTerminal = true) (free : s.desk.outstanding = none)
      (otherFree : t.desk.outstanding = none) : Indistinct s t

/-- Two calls end with the same result, in sessions that are not told apart. -/
def EndAlike {α : Type} (first second : Except SessionError α × Session) : Prop :=
  second.1 = first.1 ∧ Indistinct first.2 second.2

/-- Run in two sessions, a step asks the same and ends alike. -/
abbrev RunsAlike {α : Type} (step : SessionStep α) (s t : Session) : Prop :=
  Dialogue.Alike EndAlike (step.run.run s) (step.run.run t)

variable {s t : Session}

theorem Indistinct.appearance_eq (indistinct : Indistinct s t) : t.appearance = s.appearance := by
  cases indistinct with
  | same => rfl
  | idle state attempt idle free otherFree =>
    rw [appearance, appearance, state, attempt, free, otherFree]

theorem runsAlike_self {α : Type} (step : SessionStep α) (s : Session) : RunsAlike step s s :=
  .refl (fun reached => ⟨rfl, .same reached.2⟩) _

/-! ## At the end of an attempt and before its beginning -/

/-- At the end of an attempt a call asks nothing. -/
theorem runsAlike_of_terminal (state : t.state = s.state) (attempt : t.attempt = s.attempt)
    (terminal : s.state.isTerminal = true) (free : s.desk.outstanding = none)
    (otherFree : t.desk.outstanding = none) (operation : Operation) :
    RunsAlike operation.step s t := by
  have ends : Indistinct s t := .idle state attempt (.inr terminal) free otherFree
  obtain ⟨reached, name, accepted, gate, ⟨outstanding⟩⟩ := s
  obtain ⟨otherReached, otherName, otherAccepted, otherGate, ⟨otherOutstanding⟩⟩ := t
  obtain rfl : reached = otherReached := state.symm
  obtain rfl : name = otherName := attempt.symm
  obtain rfl : outstanding = none := free
  obtain rfl : otherOutstanding = none := otherFree
  cases reached with
  | aborted reason => cases operation <;> exact .done ⟨rfl, ends⟩
  | done result => cases operation <;> exact .done ⟨rfl, ends⟩
  | _ => cases terminal

/-- A session that has not begun its attempt. -/
def unbegun (attempt : AttemptId) (accepted : Option AcceptedRequest) (gate : ConsentGate) :
    Session where
  state := .init
  attempt
  accepted
  gate
  desk := .empty

variable {attempt : AttemptId} {accepted otherAccepted : Option AcceptedRequest}
  {gate otherGate : ConsentGate}

theorem unbegun_indistinct :
    Indistinct (unbegun attempt accepted gate) (unbegun attempt otherAccepted otherGate) :=
  .idle rfl rfl (.inl rfl) rfl rfl

/-- A rejection ends the attempt. -/
theorem runsAlike_rejected (rejection : Rejection) :
    RunsAlike (dispatch (.requestRejected rejection)) (unbegun attempt accepted gate)
      (unbegun attempt otherAccepted otherGate) :=
  .ask fun _ => .ask fun _ => .done ⟨rfl, .idle rfl rfl (.inr rfl) rfl rfl⟩

/-- An acceptance that fails leaves a session that has not begun, and one that succeeds replaces all
that was held. -/
theorem runsAlike_accepted (params : Params) (isResumed : Bool) :
    RunsAlike
      (do
        accept attempt params isResumed
        dispatch .requestAccepted)
      (unbegun attempt accepted gate) (unbegun attempt otherAccepted otherGate) := by
  have failed (error : SessionError) : EndAlike (α := AttemptOutcome)
      (.error error, unbegun attempt accepted gate)
      (.error error, unbegun attempt otherAccepted otherGate) := ⟨rfl, unbegun_indistinct⟩
  refine .ask fun known => ?_
  cases known with
  | error cause => exact .done (failed _)
  | ok caller =>
    cases isResumed with
    | true =>
      refine .ask fun loaded => ?_
      cases loaded with
      | error cause => exact .done (failed _)
      | ok consented => exact runsAlike_self (dispatch .requestAccepted) _
    | false =>
      refine .ask fun cleared => ?_
      cases cleared with
      | error cause => exact .done (failed _)
      | ok done => exact runsAlike_self (dispatch .requestAccepted) _

/-- What a start goes on with once its attempt is named. -/
theorem runsAlike_named (request : Request) (attempt : AttemptId) :
    RunsAlike
      (match request.parse with
        | .ok params => do
          accept attempt params request.resumedAttempt.isSome
          dispatch .requestAccepted
        | .error fault => dispatch (.requestRejected fault.rejection))
      (unbegun attempt accepted gate) (unbegun attempt otherAccepted otherGate) := by
  cases request.parse with
  | ok params => exact runsAlike_accepted params _
  | error fault => exact runsAlike_rejected _

/-- A start asks and answers the same whatever the session held, and even if it had another name. -/
theorem runsAlike_start (request : Request) (name otherName : AttemptId) :
    RunsAlike (start request) (unbegun name accepted gate)
      (unbegun otherName otherAccepted otherGate) := by
  obtain ⟨action, payload, principal, resumed⟩ := request
  cases resumed with
  | some attempt => exact runsAlike_named ⟨action, payload, principal, some attempt⟩ attempt
  | none => exact .ask (runsAlike_named ⟨action, payload, principal, none⟩)

theorem runsAlike_unbegun (operation : Operation) :
    RunsAlike operation.step (unbegun attempt accepted gate)
      (unbegun attempt otherAccepted otherGate) := by
  cases operation with
  | start request => exact runsAlike_start request attempt attempt
  | remediated id outcome => exact .done ⟨rfl, unbegun_indistinct⟩
  | _ => exact .ask fun _ => .done ⟨rfl, unbegun_indistinct⟩

/-! ## Every call and every conversation -/

/-- A session that rests before its attempt has begun. -/
theorem Resting.eq_unbegun (resting : s.Resting) (fresh : s.state = .init) :
    s = unbegun s.attempt s.accepted s.gate := by
  have free := resting.free (by rw [fresh]; rfl)
  obtain ⟨state, attempt, accepted, gate, ⟨outstanding⟩⟩ := s
  obtain rfl : state = .init := fresh
  obtain rfl : outstanding = none := free
  rfl

theorem Indistinct.step (indistinct : Indistinct s t) (operation : Operation) :
    RunsAlike operation.step s t := by
  cases indistinct with
  | same => exact runsAlike_self operation.step s
  | idle state attempt idle free otherFree =>
    rcases idle with fresh | terminal
    · obtain ⟨reached, name, accepted, gate, ⟨outstanding⟩⟩ := s
      obtain ⟨otherReached, otherName, otherAccepted, otherGate, ⟨otherOutstanding⟩⟩ := t
      obtain rfl : reached = .init := fresh
      obtain rfl : otherReached = .init := state
      obtain rfl : name = otherName := attempt.symm
      obtain rfl : outstanding = none := free
      obtain rfl : otherOutstanding = none := otherFree
      exact runsAlike_unbegun operation
    · exact runsAlike_of_terminal state attempt terminal free otherFree operation

/-- What goes on after calls that end alike is the same, if it is the same for sessions that are not
told apart. -/
theorem converse_cons {operation : Operation} {rest : List Operation}
    (alike : RunsAlike operation.step s t)
    (same : ∀ s t, Indistinct s t → converse rest s = converse rest t) :
    converse (operation :: rest) s = converse (operation :: rest) t := by
  apply Dialogue.Alike.eq
  refine alike.bind ?_
  rintro ⟨result, after⟩ ⟨other, later⟩ ⟨rfl, indistinct⟩
  dsimp only at indistinct ⊢
  rw [indistinct.appearance_eq, same _ _ indistinct]
  exact .refl (fun _ => rfl) _

/-- Sessions that no call tells apart hold every conversation word for word alike. -/
theorem Indistinct.converse_eq (indistinct : Indistinct s t) (calls : List Operation) :
    converse calls s = converse calls t := by
  induction calls generalizing s t with
  | nil => rfl
  | cons operation rest ih =>
    exact converse_cons (indistinct.step operation) fun _ _ related => ih related

variable {past : List Moment}

/-- A session whose attempt has not begun, whatever was tried with it, holds every conversation that
begins with a start as a session does that was just opened: it asks the same in the same order,
whatever it is told, and every call returns the same and leaves it looking the same. -/
theorem begins_anew (history : History attempt past s) (fresh : s.state = .init)
    (other : AttemptId) (request : Request) (calls : List Operation) :
    converse (.start request :: calls) s = converse (.start request :: calls) (opened other) := by
  rw [history.resting.eq_unbegun fresh]
  exact converse_cons (runsAlike_start request s.attempt other)
    fun _ _ indistinct => indistinct.converse_eq calls

/-- Surroundings that remember a consent, but cannot tell anything about the device. -/
def unreachable : (c : SessionCall) → c.Answer
  | .loadConsent _ _ => .ok true
  | .device _ => .error "unreachable"
  | other => obliging other

/-- A session that took up an earlier attempt, but failed to check its device. -/
def failedAttempt : List Moment × Session :=
  driven unreachable [.start { plainRequest with resumedAttempt := some ⟨"earlier"⟩ }]
    ([.opened ⟨"opened"⟩], opened ⟨"opened"⟩)

theorem failedAttempt_history : History ⟨"opened"⟩ failedAttempt.1 failedAttempt.2 :=
  History.opened.driven _

/-- The consent of the earlier attempt is still held, but the next attempt asks for its own. -/
theorem failedAttempt_forgotten :
    failedAttempt.2.accepted.isSome = true ∧ failedAttempt.2.gate.consented = true ∧
      failedAttempt.2.state = .init ∧
      converse [.start plainRequest, .remediated ⟨"ticket"⟩ .success] failedAttempt.2 =
        converse [.start plainRequest, .remediated ⟨"ticket"⟩ .success] (opened ⟨"other"⟩) ∧
      ((converse [.start plainRequest, .remediated ⟨"ticket"⟩ .success]
          failedAttempt.2).answered obliging).2.map (fun seen => seen.2.state) =
        [.awaitingEncryptionRemediation ⟨"ticket"⟩, .awaitingConsent] := by
  have same := begins_anew failedAttempt_history rfl ⟨"other"⟩ plainRequest
    [.remediated ⟨"ticket"⟩ .success]
  refine ⟨rfl, rfl, rfl, same, ?_⟩
  rw [same]
  rfl

end Session

end ProvisionGate
