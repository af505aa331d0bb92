import ProvisionGate.Proofs.Session.Consent
import ProvisionGate.Proofs.Session.Masked
import ProvisionGate.Proofs.Session.Tickets

/-!
# Sessions that differ in a password

Two sessions that are called alike and answered alike, with requests that differ in nothing but the
password of the wireless network, do the same.  Seen with the password masked they are runs of the
same steps, and a step that is told the same does the same.  The password shows nowhere but in the
parameters that are handed on.
-/

namespace ProvisionGate

/-- Two calls are the same, or they start requests that differ in the password at most. -/
inductive Operation.Alike : Operation → Operation → Prop
  | start {r other : Request} (alike : r.Alike other) : Alike (.start r) (.start other)
  | same (operation : Operation) : Alike operation operation

/-- The call with the secrets of its request masked. -/
def Operation.masked : Operation → Operation
  | start request => start request.redacted
  | operation => operation

namespace Moment

/-- The call that is made. -/
def operation? : Moment → Option Operation
  | .called operation _ => some operation
  | _ => none

/-- The exchange with the surroundings. -/
def exchange? : Moment → Option (Dialogue.Exchange SessionCall.Answer)
  | .exchanged x => some x
  | _ => none

/-- The result that is returned. -/
def result? : Moment → Option (Except SessionError AttemptOutcome)
  | .returned result => some result
  | _ => none

/-- The ticket that is shown to the one who remedies, also if in vain. -/
def ticket? : Moment → Option Ticket
  | .exchanged ⟨.requestRemediation ticket, _⟩ => some ticket
  | _ => none

/-- The request that takes the attempt of a ticket up again, as it is shown. -/
def resume? (m : Moment) : Option Request :=
  m.ticket?.map fun ticket => ticket.resumeRequest.redacted

/-- The moment with its passwords masked. -/
def masked : Moment → Moment
  | .opened attempt => .opened attempt
  | .called operation before => .called operation.masked before.masked
  | .exchanged x => .exchanged (Session.maskedExchange x)
  | .returned result => .returned result

end Moment

namespace Session

open SessionStep

/-- The calls that were made. -/
def operations (past : List Moment) : List Operation :=
  past.filterMap Moment.operation?

/-- The exchanges with the surroundings. -/
def exchanges (past : List Moment) : SessionLog :=
  past.filterMap Moment.exchange?

/-- As long as two logs ask the same, they are told the same. -/
def AnsweredAlike : SessionLog → SessionLog → Prop
  | x :: log, y :: other => x.1 = y.1 → x = y ∧ AnsweredAlike log other
  | _, _ => True

variable {s t after : Session} {past others : List Moment} {attempt : AttemptId}
  {operation : Operation} {log other : SessionLog} {result : Except SessionError AttemptOutcome}

/-! ## What is told alike -/

theorem AnsweredAlike.of_append {more different : SessionLog}
    (alike : AnsweredAlike (log ++ more) (other ++ different)) : AnsweredAlike log other := by
  induction log generalizing other with
  | nil => cases other <;> trivial
  | cons x log ih =>
    cases other with
    | nil => trivial
    | cons y other =>
      intro asked
      obtain ⟨same, rest⟩ := alike asked
      exact ⟨same, ih rest⟩

theorem AnsweredAlike.drop {more different : SessionLog}
    (alike : AnsweredAlike (log ++ more) (log ++ different)) : AnsweredAlike more different := by
  induction log with
  | nil => exact alike
  | cons x log ih => exact ih (alike rfl).2

/-- A program that is told the same asks the same and ends the same. -/
theorem runs_unique {α : Type} {d : Dialogue SessionCall.Answer α} {a b : α}
    (run : Dialogue.Runs d log a) (again : Dialogue.Runs d other b)
    (alike : AnsweredAlike log other) : log = other ∧ a = b := by
  induction run generalizing other with
  | done result =>
    obtain ⟨rfl, rfl⟩ := Dialogue.runs_done_iff.1 again
    exact ⟨rfl, rfl⟩
  | ask rest ih =>
    obtain ⟨answer, more, rfl, next⟩ := Dialogue.runs_ask_iff.1 again
    obtain ⟨same, later⟩ := alike rfl
    cases same
    obtain ⟨rfl, rfl⟩ := ih next later
    exact ⟨rfl, rfl⟩

/-- Two logs are answered alike if the answers are all of the same surroundings. -/
theorem AnsweredAlike.of_told {answer : (c : SessionCall) → c.Answer}
    (told : ∀ x ∈ log, x.2 = answer x.1) (alsoTold : ∀ x ∈ other, x.2 = answer x.1) :
    AnsweredAlike log other := by
  induction log generalizing other with
  | nil => cases other <;> trivial
  | cons x log ih =>
    cases other with
    | nil => trivial
    | cons y other =>
      obtain ⟨first, told⟩ := List.forall_mem_cons.1 told
      obtain ⟨second, alsoTold⟩ := List.forall_mem_cons.1 alsoTold
      intro asked
      refine ⟨Sigma.ext asked ?_, ih told alsoTold⟩
      rw [first, second, asked]

/-! ## One call -/

theorem stepSeen_alike {different : Operation} (alike : operation.Alike different) :
    stepSeen operation = stepSeen different := by
  cases alike with
  | same operation => rfl
  | start alike => simp only [stepSeen, alike.resumedAttempt, alike.parse]

theorem masked_alike {different : Operation} (alike : operation.Alike different) :
    operation.masked = different.masked := by
  cases alike with
  | same operation => rfl
  | start alike => rw [Operation.masked, Operation.masked, alike.redacted]

/-- Calls that are alike, of sessions that differ in the password, do the same. -/
theorem runs_alike {different : Operation} {reached : Except SessionError AttemptOutcome}
    {later : Session} (alike : operation.Alike different) (sessions : s.masked = t.masked)
    (run : Runs operation.step s log result after) (again : Runs different.step t other reached later)
    (answers : AnsweredAlike (log.map maskedExchange) (other.map maskedExchange)) :
    log.map maskedExchange = other.map maskedExchange ∧ result = reached ∧
      after.masked = later.masked := by
  have seen := seenAs_step operation _ _ _ _ run
  have alsoSeen := seenAs_step different _ _ _ _ again
  rw [← stepSeen_alike alike, ← sessions] at alsoSeen
  obtain ⟨logs, ends⟩ := runs_unique seen alsoSeen answers
  obtain ⟨results, sessions⟩ := Prod.mk.inj ends
  rw [Except.map_id] at results
  exact ⟨logs, results, sessions⟩

/-! ## All calls -/

theorem exchanges_call :
    exchanges (past ++ .called operation s :: moments log ++ [.returned result]) =
      exchanges past ++ log := by
  have all : (moments log).filterMap Moment.exchange? = log := by
    rw [moments, List.filterMap_map]
    exact List.filterMap_some
  rw [exchanges, List.filterMap_append, List.filterMap_append, List.filterMap_cons_none rfl, all]
  exact List.append_nil _

theorem operations_call :
    operations (past ++ .called operation s :: moments log ++ [.returned result]) =
      operations past ++ [operation] := by
  have none : (moments log).filterMap Moment.operation? = [] := by
    rw [moments, List.filterMap_map, List.filterMap_eq_nil_iff]
    exact fun _ _ => rfl
  have called : Moment.operation? (.called operation s) = some operation := rfl
  rw [operations, List.filterMap_append, List.filterMap_append, List.filterMap_cons_some called, none]
  exact List.append_nil _

theorem operations_opened : operations [.opened attempt] = [] := rfl

theorem moments_masked (log : SessionLog) :
    (moments log).map Moment.masked = moments (log.map maskedExchange) := by
  rw [moments, moments, List.map_map, List.map_map]
  rfl

/-- Lists that are related one by one begin alike and end alike. -/
theorem forall₂_append_singleton {α β : Type} {R : α → β → Prop} {a : α} {b : β} {items : List α}
    {more : List β} (related : List.Forall₂ R (items ++ [a]) (more ++ [b])) :
    List.Forall₂ R items more ∧ R a b := by
  rw [← List.forall₂_reverse_iff, List.reverse_append, List.reverse_append,
    List.reverse_singleton, List.reverse_singleton] at related
  obtain ⟨last, first⟩ := List.forall₂_cons.1 related
  exact ⟨List.forall₂_reverse_iff.1 first, last⟩

/-- What is seen of moments that differ in the password is the same, if it does not show. -/
theorem filterMap_alike {α : Type} {view seen : Moment → Option α}
    (hidden : ∀ m, view m = seen m.masked)
    (pasts : past.map Moment.masked = others.map Moment.masked) :
    past.filterMap view = others.filterMap view := by
  have masked (past : List Moment) :
      past.filterMap view = (past.map Moment.masked).filterMap seen := by
    rw [List.filterMap_map]
    exact List.filterMap_congr fun m _ => hidden m
  rw [masked past, pasts, masked others]

theorem map_filterMap_alike {α β : Type} {view : Moment → Option α} {shown : α → β}
    {seen : Moment → Option β} (hidden : ∀ m, (view m).map shown = seen m.masked)
    (pasts : past.map Moment.masked = others.map Moment.masked) :
    (past.filterMap view).map shown = (others.filterMap view).map shown := by
  rw [List.map_filterMap, List.map_filterMap]
  exact filterMap_alike hidden pasts

theorem exchange?_masked (m : Moment) : m.exchange?.map maskedExchange = m.masked.exchange? := by
  cases m <;> rfl

theorem operation?_masked (m : Moment) :
    m.operation?.map Operation.masked = m.masked.operation? := by
  cases m <;> rfl

theorem result?_masked (m : Moment) : m.result? = m.masked.result? := by
  cases m <;> rfl

theorem saved?_masked (m : Moment) : m.saved? = m.masked.saved? := by
  cases m with
  | exchanged x =>
    obtain ⟨call, answer⟩ := x
    cases call <;> rfl
  | _ => rfl

theorem resume?_masked (m : Moment) : m.resume? = m.masked.resume? := by
  cases m with
  | exchanged x =>
    obtain ⟨call, answer⟩ := x
    cases call with
    | requestRemediation ticket =>
      have masked := ticket.resumeParams.masked_masked
      exact congrArg some (Params.resumeRequest_redacted masked.symm ticket.attempt)
    | _ => rfl
  | _ => rfl

/-- Two histories that are called and answered alike differ in the password alone. -/
theorem History.masked_eq (history : History attempt past s) (second : History attempt others t)
    (calls : List.Forall₂ Operation.Alike (operations past) (operations others))
    (answers : AnsweredAlike ((exchanges past).map maskedExchange)
      ((exchanges others).map maskedExchange)) :
    past.map Moment.masked = others.map Moment.masked ∧ s.masked = t.masked := by
  induction history generalizing others t with
  | opened =>
    cases second with
    | opened => exact ⟨rfl, rfl⟩
    | call =>
      rw [operations_call, operations_opened] at calls
      simpa using calls.length_eq
  | call history run ih =>
    cases second with
    | opened =>
      rw [operations_call, operations_opened] at calls
      simpa using calls.length_eq
    | call second again =>
      rw [operations_call, operations_call] at calls
      obtain ⟨calls, alike⟩ := forall₂_append_singleton calls
      rw [exchanges_call, exchanges_call, List.map_append, List.map_append] at answers
      obtain ⟨pasts, sessions⟩ := ih second calls answers.of_append
      have told := map_filterMap_alike exchange?_masked pasts
      rw [exchanges, exchanges, told] at answers
      obtain ⟨logs, rfl, sessionsAfter⟩ := runs_alike alike sessions run again answers.drop
      refine ⟨?_, sessionsAfter⟩
      simp only [List.map_append, List.map_cons, moments_masked, pasts, logs, Moment.masked,
        masked_alike alike, sessions]

/-- What two histories show that differ in the password: everything but the password in the
parameters of a launch and of a ticket. -/
structure HidesPassword (past others : List Moment) : Prop where
  exchanges : (exchanges past).map maskedExchange = (exchanges others).map maskedExchange
  results : past.filterMap Moment.result? = others.filterMap Moment.result?
  records : past.filterMap Moment.saved? = others.filterMap Moment.saved?
  requests : (operations past).map Operation.masked = (operations others).map Operation.masked
  tickets : past.filterMap Moment.resume? = others.filterMap Moment.resume?

theorem password_hidden (history : History attempt past s) (second : History attempt others t)
    (calls : List.Forall₂ Operation.Alike (operations past) (operations others))
    (answers : AnsweredAlike ((exchanges past).map maskedExchange)
      ((exchanges others).map maskedExchange)) : HidesPassword past others := by
  obtain ⟨pasts, -⟩ := history.masked_eq second calls answers
  exact {
    exchanges := map_filterMap_alike exchange?_masked pasts
    results := filterMap_alike result?_masked pasts
    records := filterMap_alike saved?_masked pasts
    requests := map_filterMap_alike operation?_masked pasts
    tickets := filterMap_alike resume?_masked pasts }

/-- A request that names its admin and a password. -/
def passwordRequest (password : String) : Request where
  action := .legacyProvision
  payload := .extras (TextMap.ofPairs
    [(Key.adminPackage, .text "org.example.admin"), (Key.wifiPassword, .text password)])
  callingPrincipal := none
  resumedAttempt := none

/-- The attempt of such a request up to its launch. -/
def passwordAttempt (password : String) : List Moment × Session :=
  driven obliging
    [.start (passwordRequest password), .remediated ⟨"ticket"⟩ .success, .confirmConsent]
    ([.opened ⟨"opened"⟩], opened ⟨"opened"⟩)

theorem passwordAttempt_history (password : String) :
    History ⟨"opened"⟩ (passwordAttempt password).1 (passwordAttempt password).2 :=
  History.opened.driven _

theorem operations_driven (answer : (c : SessionCall) → c.Answer) (calls : List Operation)
    (past : List Moment) (s : Session) :
    operations (driven answer calls (past, s)).1 = operations past ++ calls := by
  induction calls generalizing past s with
  | nil => exact (List.append_nil _).symm
  | cons operation rest ih =>
    rw [driven, ih, operations_call, List.append_assoc, List.singleton_append]

theorem exchanges_driven_told (answer : (c : SessionCall) → c.Answer) (calls : List Operation)
    {past : List Moment} (s : Session) (told : ∀ x ∈ exchanges past, x.2 = answer x.1) :
    ∀ x ∈ exchanges (driven answer calls (past, s)).1, x.2 = answer x.1 := by
  induction calls generalizing past s with
  | nil => exact told
  | cons operation rest ih =>
    refine ih _ ?_
    rw [exchanges_call]
    exact List.forall_mem_append.2 ⟨told, Dialogue.answered_told answer _⟩

theorem passwordRequest_alike {password different : String} (full : password ≠ "")
    (otherFull : different ≠ "") :
    (passwordRequest password).Alike (passwordRequest different) where
  action := rfl
  payload := .extras (TextMap.alike_ofPairs
    (.cons (entriesAlike_refl _) (.cons ⟨rfl, .inr ⟨rfl, full, otherFull⟩⟩ .nil)))
  callingPrincipal := rfl
  resumedAttempt := rfl

theorem passwordAttempt_hidden :
    List.Forall₂ Operation.Alike (operations (passwordAttempt "red").1)
        (operations (passwordAttempt "green").1) ∧
      AnsweredAlike ((exchanges (passwordAttempt "red").1).map maskedExchange)
        ((exchanges (passwordAttempt "green").1).map maskedExchange) ∧
      HidesPassword (passwordAttempt "red").1 (passwordAttempt "green").1 := by
  have calls : List.Forall₂ Operation.Alike (operations (passwordAttempt "red").1)
      (operations (passwordAttempt "green").1) := by
    rw [passwordAttempt, passwordAttempt, operations_driven, operations_driven]
    exact .cons (.start (passwordRequest_alike (by decide) (by decide)))
      (.cons (.same _) (.cons (.same _) .nil))
  have told (password : String) : ∀ x ∈ (exchanges (passwordAttempt password).1).map maskedExchange,
      x.2 = obliging x.1 := by
    intro x member
    obtain ⟨y, inside, rfl⟩ := List.mem_map.1 member
    have answer := exchanges_driven_told obliging _ _ (by simp [exchanges, Moment.exchange?]) y inside
    obtain ⟨call, answered⟩ := y
    cases call <;> exact answer
  have answers := AnsweredAlike.of_told (told "red") (told "green")
  exact ⟨calls, answers, password_hidden (passwordAttempt_history _) (passwordAttempt_history _)
    calls answers⟩

end Session

end ProvisionGate
