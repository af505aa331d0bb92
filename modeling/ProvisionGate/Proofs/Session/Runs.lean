import ProvisionGate.Proofs.Dialogue
import ProvisionGate.Session

/-!
# Runs of session steps

`step.Runs s log result after` says what one step of a session can do: begun in `s`, it has the
exchanges of `log` with its surroundings and ends with `result` in the session `after`.  There is
one rule for each way of building a step, and later modules take steps apart by these rules alone.
-/

namespace ProvisionGate

/-- The exchanges of a session with its surroundings, in order. -/
abbrev SessionLog := List (Dialogue.Exchange SessionCall.Answer)

namespace SessionStep

variable {α β : Type} {s after : Session} {log : SessionLog}

/-- A step begun in a session ends with a result in another one after the exchanges of a log. -/
def Runs (step : SessionStep α) (s : Session) (log : SessionLog) (result : Except SessionError α)
    (after : Session) : Prop :=
  Dialogue.Runs (step.run.run s) log (result, after)

theorem runs_pure_iff {a : α} {result : Except SessionError α} :
    Runs (pure a) s log result after ↔ log = [] ∧ result = .ok a ∧ after = s := by
  show Dialogue.Runs (.done (Except.ok a, s)) log (result, after) ↔ _
  rw [Dialogue.runs_done_iff, Prod.mk.injEq]

theorem runs_throw_iff {error : SessionError} {result : Except SessionError α} :
    Runs (throw error) s log result after ↔ log = [] ∧ result = .error error ∧ after = s := by
  show Dialogue.Runs (.done (Except.error error, s)) log (result, after) ↔ _
  rw [Dialogue.runs_done_iff, Prod.mk.injEq]

/-- Two steps one after the other: the second one is not begun if the first one fails. -/
theorem runs_bind_iff {step : SessionStep α} {next : α → SessionStep β}
    {result : Except SessionError β} :
    Runs (step >>= next) s log result after ↔
      (∃ error, Runs step s log (.error error) after ∧ result = .error error) ∨
      ∃ first second a middle, log = first ++ second ∧ Runs step s first (.ok a) middle ∧
        Runs (next a) middle second result after := by
  have split : ((step >>= next).run.run s : Dialogue SessionCall.Answer _) =
      step.run.run s >>= fun reached =>
        match reached.1 with
        | .ok a => (next a).run.run reached.2
        | .error error => .done (.error error, reached.2) := by
    rw [ExceptT.run_bind, StateT.run_bind]
    congr 1
    funext ⟨reached, middle⟩
    cases reached <;> rfl
  unfold Runs
  rw [split, Dialogue.runs_bind_iff]
  constructor
  · rintro ⟨first, second, ⟨reached, middle⟩, rfl, begun, ended⟩
    cases reached with
    | ok a => exact .inr ⟨first, second, a, middle, rfl, begun, ended⟩
    | error error =>
      obtain ⟨rfl, same⟩ := Dialogue.runs_done_iff.1 ended
      obtain ⟨rfl, rfl⟩ := Prod.mk.inj same
      exact .inl ⟨error, by simpa using begun, rfl⟩
  · rintro (⟨error, begun, rfl⟩ | ⟨first, second, a, middle, rfl, begun, ended⟩)
    · exact ⟨log, [], (.error error, after), by simp, begun, .done _⟩
    · exact ⟨first, second, (.ok a, middle), rfl, begun, ended⟩

/-- A step whose result is only put into another form. -/
theorem runs_map_iff {step : SessionStep α} {f : α → β} {result : Except SessionError β} :
    Runs (step >>= fun a => pure (f a)) s log result after ↔
      ∃ reached, Runs step s log reached after ∧ result = reached.map f := by
  rw [runs_bind_iff]
  constructor
  · rintro (⟨error, begun, rfl⟩ | ⟨first, second, a, middle, rfl, begun, ended⟩)
    · exact ⟨.error error, begun, rfl⟩
    · obtain ⟨rfl, rfl, rfl⟩ := runs_pure_iff.1 ended
      exact ⟨.ok a, by simpa using begun, rfl⟩
  · rintro ⟨reached, begun, rfl⟩
    cases reached with
    | error error => exact .inl ⟨error, begun, rfl⟩
    | ok a => exact .inr ⟨log, [], a, after, by simp, begun, runs_pure_iff.2 ⟨rfl, rfl, rfl⟩⟩

theorem runs_get_bind_iff {next : Session → SessionStep β} {result : Except SessionError β} :
    Runs (get >>= next) s log result after ↔ Runs (next s) s log result after := Iff.rfl

theorem runs_set_bind_iff {other : Session} {next : PUnit → SessionStep β}
    {result : Except SessionError β} :
    Runs (set other >>= next) s log result after ↔ Runs (next ⟨⟩) other log result after := Iff.rfl

theorem runs_modify_bind_iff {change : Session → Session} {next : PUnit → SessionStep β}
    {result : Except SessionError β} :
    Runs (modify change >>= next) s log result after ↔
      Runs (next ⟨⟩) (change s) log result after := Iff.rfl

theorem runs_modify_iff {change : Session → Session} {result : Except SessionError PUnit} :
    Runs (modify change) s log result after ↔ log = [] ∧ result = .ok ⟨⟩ ∧ after = change s := by
  show Dialogue.Runs (.done (Except.ok PUnit.unit, change s)) log (result, after) ↔ _
  rw [Dialogue.runs_done_iff, Prod.mk.injEq]

theorem runs_ask_iff {call : SessionCall} {result : Except SessionError call.Answer} :
    Runs (Session.ask call) s log result after ↔
      ∃ answer, log = [⟨call, answer⟩] ∧ result = .ok answer ∧ after = s := by
  show Dialogue.Runs (.ask call fun answer => .done (Except.ok answer, s)) log (result, after) ↔ _
  rw [Dialogue.runs_ask_iff]
  constructor
  · rintro ⟨answer, rest, rfl, ended⟩
    obtain ⟨rfl, same⟩ := Dialogue.runs_done_iff.1 ended
    exact ⟨answer, rfl, Prod.mk.inj same⟩
  · rintro ⟨answer, rfl, rfl, rfl⟩
    exact ⟨answer, [], rfl, .done _⟩

/-- A program of the surroundings, run as part of a step, leaves the session as it is. -/
theorem runs_lift_bind_iff {program : Dialogue SessionCall.Answer α} {next : α → SessionStep β}
    {result : Except SessionError β} :
    Runs (liftM program >>= next) s log result after ↔
      ∃ first second a, log = first ++ second ∧ Dialogue.Runs program first a ∧
        Runs (next a) s second result after := by
  have split : ((liftM program >>= next : SessionStep β).run.run s : Dialogue _ _) =
      program >>= fun a => (next a).run.run s := by
    induction program with
    | done a => rfl
    | ask call rest ih => exact congrArg (Dialogue.ask call) (funext ih)
  unfold Runs
  rw [split, Dialogue.runs_bind_iff]

theorem runs_ask_bind_iff {call : SessionCall} {next : call.Answer → SessionStep β}
    {result : Except SessionError β} :
    Runs (Session.ask call >>= next) s log result after ↔
      ∃ answer rest, log = ⟨call, answer⟩ :: rest ∧ Runs (next answer) s rest result after :=
  Dialogue.runs_ask_iff

/-- A failing call ends a step that cannot go on without it. -/
theorem runs_orFail_bind_iff {error : String → SessionError} {answer : Except String α}
    {next : α → SessionStep β} {result : Except SessionError β} :
    Runs (Session.orFail error answer >>= next) s log result after ↔
      (∃ a, answer = .ok a ∧ Runs (next a) s log result after) ∨
      ∃ cause, answer = .error cause ∧ log = [] ∧ result = .error (error cause) ∧ after = s := by
  cases answer with
  | ok a =>
    constructor
    · intro runs
      exact .inl ⟨a, rfl, runs⟩
    · rintro (⟨b, same, runs⟩ | ⟨cause, same, -⟩)
      · obtain rfl := Except.ok.inj same
        exact runs
      · cases same
  | error cause =>
    have ends : Runs (Session.orFail error (.error cause) >>= next) s log result after ↔
        Runs (throw (error cause)) s log result after := Iff.rfl
    rw [ends, runs_throw_iff]
    constructor
    · intro runs
      exact .inr ⟨cause, rfl, runs⟩
    · rintro (⟨a, same, -⟩ | ⟨other, same, runs⟩)
      · cases same
      · obtain rfl := Except.error.inj same
        exact runs

/-! ## What a step can succeed with -/

/-- Whatever a step succeeds with, in whatever session it is begun, has a property. -/
def Yields (step : SessionStep α) (property : α → Prop) : Prop :=
  ∀ s log a after, Runs step s log (.ok a) after → property a

theorem yields_pure {property : α → Prop} {a : α} (holds : property a) :
    Yields (pure a) property := by
  intro s log b after run
  obtain ⟨-, same, -⟩ := runs_pure_iff.1 run
  obtain rfl := Except.ok.inj same
  exact holds

theorem yields_throw {property : α → Prop} {error : SessionError} :
    Yields (throw error : SessionStep α) property := by
  intro s log a after run
  obtain ⟨-, same, -⟩ := runs_throw_iff.1 run
  cases same

theorem yields_bind {step : SessionStep α} {next : α → SessionStep β} {first : α → Prop}
    {property : β → Prop} (begun : Yields step first)
    (rest : ∀ a, first a → Yields (next a) property) : Yields (step >>= next) property := by
  intro s log b after run
  rcases runs_bind_iff.1 run with ⟨error, -, same⟩ | ⟨_, _, a, middle, rfl, taken, ended⟩
  · cases same
  · exact rest a (begun _ _ _ _ taken) _ _ _ _ ended

/-- Two steps of which the first one may succeed with anything. -/
theorem yields_after {step : SessionStep α} {next : α → SessionStep β} {property : β → Prop}
    (rest : ∀ a, Yields (next a) property) : Yields (step >>= next) property :=
  yields_bind (fun _ _ _ _ _ => trivial) fun a (_ : True) => rest a

end SessionStep

end ProvisionGate
