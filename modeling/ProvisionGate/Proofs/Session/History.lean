import ProvisionGate.Proofs.Session.Calls

/-!
# Histories

A history is all that happened to a session since it was opened: the calls made to it, its exchanges
with the surroundings and what the calls returned, in order.  `History.keeps` is the one induction
over histories: what holds of an opened session, and is kept by the opening of a call, by a move and
by a return, holds after every history.
-/

namespace ProvisionGate

/-- One thing that happens to a session. -/
inductive Moment where
  | opened (attempt : AttemptId)
  /-- A call is made; the session is as it is before the call. -/
  | called (operation : Operation) (before : Session)
  | exchanged (x : Dialogue.Exchange SessionCall.Answer)
  | returned (result : Except SessionError AttemptOutcome)

namespace Session

open SessionStep

/-- The exchanges of a log, as moments. -/
def moments (log : SessionLog) : List Moment :=
  log.map .exchanged

@[simp] theorem moments_nil : moments [] = [] := rfl

@[simp] theorem moments_cons (x : Dialogue.Exchange SessionCall.Answer) (log : SessionLog) :
    moments (x :: log) = .exchanged x :: moments log := rfl

@[simp] theorem moments_append (first second : SessionLog) :
    moments (first ++ second) = moments first ++ moments second :=
  List.map_append

/-- What holds of every question to the device holds all through an evaluation. -/
theorem forall_device {P : Moment → Prop} {taken : AcceptedRequest} {start : Precondition}
    {log : SessionLog} {result : Except String Evaluation}
    (run : Dialogue.Runs (evaluateDevice taken start).run log result)
    (asks : ∀ fact answer, P (.exchanged ⟨.device fact, answer⟩)) : ∀ m ∈ moments log, P m := by
  intro m member
  obtain ⟨x, inside, rfl⟩ := List.mem_map.1 member
  obtain ⟨fact, answer, rfl⟩ := evaluateDevice_asks_device run x inside
  exact asks fact answer

/-- What holds of a call and of what it can ask before its first event holds all through its
opening. -/
theorem Opening.forall_moments {P : Moment → Prop} {operation : Operation} {s after : Session}
    {log : SessionLog} {reached : Except SessionError (AttemptOutcome ⊕ AttemptEvent)}
    (opening : Opening operation s log reached after) (called : P (.called operation s))
    (fresh : ∀ id, P (.exchanged ⟨.freshAttempt, id⟩))
    (caller : ∀ answer, P (.exchanged ⟨.callerClass, answer⟩))
    (cleared : ∀ answer, P (.exchanged ⟨.clearConsent, answer⟩))
    (loaded : ∀ id admin answer, P (.exchanged ⟨.loadConsent id admin, answer⟩)) :
    ∀ m ∈ .called operation s :: moments log, P m := by
  have named {request : Request} {id : AttemptId} {first : SessionLog}
      (names : Names request id first) : ∀ m ∈ moments first, P m := by
    cases names with
    | anew => simp [fresh]
    | again => simp
  cases opening with
  | rejected state names => exact List.forall_mem_cons.2 ⟨called, named names⟩
  | callerUnknown state names =>
    rw [moments_append]
    refine List.forall_mem_cons.2 ⟨called, List.forall_mem_append.2 ⟨named names, ?_⟩⟩
    simp [caller]
  | _ => simp [called, fresh, caller, cleared, loaded]

/-- A session comes to be what it is from its opening on, by calls one after the other. -/
inductive History (attempt : AttemptId) : List Moment → Session → Prop
  | opened : History attempt [.opened attempt] (Session.opened attempt)
  | call {past : List Moment} {s after : Session} {operation : Operation} {log : SessionLog}
      {result : Except SessionError AttemptOutcome} (history : History attempt past s)
      (run : Runs operation.step s log result after) :
      History attempt (past ++ .called operation s :: moments log ++ [.returned result]) after

/-- The history of a session that is called one operation after the other, in surroundings that
answer a call the same way every time. -/
def driven (answer : (c : SessionCall) → c.Answer) :
    List Operation → List Moment × Session → List Moment × Session
  | [], reached => reached
  | operation :: rest, (past, s) =>
    let run := (operation.step.run.run s).answered answer
    driven answer rest
      (past ++ .called operation s :: moments run.1 ++ [.returned run.2.1], run.2.2)

theorem History.driven {answer : (c : SessionCall) → c.Answer} {attempt : AttemptId}
    {past : List Moment} {s : Session} (history : History attempt past s)
    (operations : List Operation) :
    History attempt (Session.driven answer operations (past, s)).1
      (Session.driven answer operations (past, s)).2 := by
  induction operations generalizing past s with
  | nil => exact history
  | cons operation rest ih => exact ih (.call history (Dialogue.runs_answered answer _))

/-- Surroundings in which all goes well, of a device that is still to be encrypted. -/
def obliging : (c : SessionCall) → c.Answer
  | .callerClass => .ok .primary
  | .device .deviceProvisioned | .device .userSetupComplete => .ok false
  | .device .frpBlockSize => .ok none
  | .device .deviceEncrypted | .device .encryptionExempt => .ok false
  | .device .networkConnected => .ok true
  | .loadConsent _ _ => .ok false
  | .requestRemediation _ | .saveConsent _ | .clearConsent | .presentConsent _ => .ok ()
  | .launch _ => .ok .succeeded
  | .reportState _ _ | .reportAbort _ _ => ()
  | .freshAttempt => ⟨"attempt"⟩
  | .freshTicket => ⟨"ticket"⟩
  | .currentTime => ⟨0, 0, 0⟩

/-- A request that names its admin and nothing else. -/
def plainRequest : Request where
  action := .legacyProvision
  payload := .extras (TextMap.ofPairs [(Key.adminPackage, .text "org.example.admin")])
  callingPrincipal := none
  resumedAttempt := none

/-- An attempt that waits for its device to be encrypted. -/
def suspendedAttempt : List Moment × Session :=
  driven obliging [.start plainRequest] ([.opened ⟨"opened"⟩], opened ⟨"opened"⟩)

theorem suspendedAttempt_history : History ⟨"opened"⟩ suspendedAttempt.1 suspendedAttempt.2 :=
  History.opened.driven _

/-- The attempt up to its launch. -/
def plainAttempt : List Moment × Session :=
  driven obliging [.remediated ⟨"ticket"⟩ .success, .confirmConsent] suspendedAttempt

theorem plainAttempt_history : History ⟨"opened"⟩ plainAttempt.1 plainAttempt.2 :=
  suspendedAttempt_history.driven _

/-- The event that is pending after the opening of a call. -/
@[simp]
def pendingAfterOpening : Except SessionError (AttemptOutcome ⊕ AttemptEvent) →
    Option AttemptEvent
  | .ok (.inr event) => some event
  | _ => none

/-- The event that is pending after a move. -/
@[simp]
def pendingAfterMove : Except SessionError (Option AttemptEvent) → Option AttemptEvent
  | .ok pending => pending
  | .error _ => none

/-- A property of sessions with what happened to them and the event that is pending is kept by all
that a session does. -/
structure Kept (Holds : List Moment → Session → Option AttemptEvent → Prop) : Prop where
  opening {past : List Moment} {s after : Session} {operation : Operation} {log : SessionLog}
    {reached : Except SessionError (AttemptOutcome ⊕ AttemptEvent)} (resting : s.Resting)
    (holds : Holds past s none) (opening : Opening operation s log reached after) :
    Holds (past ++ .called operation s :: moments log) after (pendingAfterOpening reached)
  move {past : List Moment} {s after : Session} {event : AttemptEvent} {log : SessionLog}
    {reached : Except SessionError (Option AttemptEvent)} (expects : s.Expects event)
    (holds : Holds past s (some event)) (move : Move s event log reached after) :
    Holds (past ++ moments log) after (pendingAfterMove reached)
  returned {past : List Moment} {s : Session} {result : Except SessionError AttemptOutcome}
    (resting : s.Resting) (holds : Holds past s none) :
    Holds (past ++ [.returned result]) s none

variable {attempt : AttemptId} {past earlier : List Moment} {s after : Session}
  {event : AttemptEvent} {log : SessionLog}
  {Holds : List Moment → Session → Option AttemptEvent → Prop}

/-- Between two calls a session rests. -/
theorem History.resting (history : History attempt past s) : s.Resting := by
  induction history with
  | opened => exact opened_resting attempt
  | call history run ih => exact (Call.of_runs ih run).resting ih

theorem Chain.keeps {result : Except SessionError Unit} (kept : Kept Holds)
    (chain : Chain s event log result after) (expects : s.Expects event)
    (holds : Holds past s (some event)) : Holds (past ++ moments log) after none := by
  induction chain generalizing past with
  | stopped move => exact kept.move expects holds move
  | failed move => exact kept.move expects holds move
  | followed move rest ih =>
    rw [moments_append, ← List.append_assoc]
    exact ih (move.expects expects) (kept.move expects holds move)

theorem Call.keeps {operation : Operation} {result : Except SessionError AttemptOutcome}
    (kept : Kept Holds) (call : Call operation s log result after) (resting : s.Resting)
    (holds : Holds past s none) : Holds (past ++ .called operation s :: moments log) after none := by
  cases call with
  | refused opening => exact kept.opening resting holds opening
  | answered opening => exact kept.opening resting holds opening
  | driven opening chain =>
    have begun := kept.opening resting holds opening
    have ended := chain.keeps kept (opening.expects resting) begun
    rwa [List.append_assoc, List.cons_append, ← moments_append] at ended

/-- What holds when a session is opened, whatever happened earlier, and is kept by all that it
does, holds after every history of it. -/
theorem History.keeps (kept : Kept Holds) (history : History attempt past s)
    (first : Holds (earlier ++ [.opened attempt]) (Session.opened attempt) none) :
    Holds (earlier ++ past) s none := by
  induction history with
  | opened => exact first
  | call history run ih =>
    have call := Call.of_runs history.resting run
    rw [← List.append_assoc, ← List.append_assoc]
    exact kept.returned (call.resting history.resting) (call.keeps kept history.resting ih)

/-- Every result that was returned is the one of a call of a resting session. -/
theorem History.call_of_returned {result : Except SessionError AttemptOutcome}
    (history : History attempt past s) (member : .returned result ∈ past) :
    ∃ operation before log after, before.Resting ∧ Call operation before log result after := by
  induction history with
  | opened => simp at member
  | @call past s after operation log other history run ih =>
    simp only [List.mem_append, List.mem_cons, List.mem_nil_iff, or_false] at member
    rcases member with (earlier | called | exchanged) | returned
    · exact ih earlier
    · cases called
    · obtain ⟨x, -, same⟩ := List.mem_map.1 exchanged
      cases same
    · cases returned
      exact ⟨operation, s, log, after, history.resting, Call.of_runs history.resting run⟩

end Session

end ProvisionGate
