/-!
# Dialogues

A program that talks to its surroundings is a tree of calls: after each call it goes on with the
answer.  `Runs d log a` says that `d` ends with `a` when the exchanges of `log` are what it asked
and was told, in order.
-/

namespace ProvisionGate

/-- A program that asks calls, each answered by a value of a type of its own, and ends with a
result. -/
inductive Dialogue {Call : Type} (Answer : Call → Type) (α : Type) where
  | done (result : α)
  | ask (call : Call) (next : Answer call → Dialogue Answer α)

namespace Dialogue

variable {Call : Type} {Answer : Call → Type} {α β : Type}

/-- Goes on with the result of a dialogue. -/
def bind (d : Dialogue Answer α) (next : α → Dialogue Answer β) : Dialogue Answer β :=
  match d with
  | done result => next result
  | ask call rest => ask call fun answer => (rest answer).bind next

instance : Monad (Dialogue Answer) where
  pure := done
  bind := bind

/-- Asks one call and ends with its answer. -/
def call (c : Call) : Dialogue Answer (Answer c) :=
  ask c done

@[simp] theorem pure_eq (result : α) : (pure result : Dialogue Answer α) = done result := rfl

@[simp] theorem done_bind (result : α) (next : α → Dialogue Answer β) :
    (done result >>= next) = next result := rfl

@[simp] theorem ask_bind (c : Call) (rest : Answer c → Dialogue Answer α)
    (next : α → Dialogue Answer β) :
    (ask c rest >>= next) = ask c fun answer => rest answer >>= next := rfl

private theorem bind_done (d : Dialogue Answer α) : d.bind done = d := by
  induction d with
  | done result => rfl
  | ask c rest ih => simp only [bind, ih]

private theorem bind_bind {γ : Type} (d : Dialogue Answer α) (f : α → Dialogue Answer β)
    (g : β → Dialogue Answer γ) : (d.bind f).bind g = d.bind fun a => (f a).bind g := by
  induction d with
  | done result => rfl
  | ask c rest ih => simp only [bind, ih]

instance : LawfulMonad (Dialogue Answer) :=
  LawfulMonad.mk' _ (fun d => bind_done d) (fun _ _ => rfl) (fun d f g => bind_bind d f g)

/-- Holds a dialogue with surroundings that answer in another monad. -/
def perform {m : Type → Type} [Monad m] (answer : (c : Call) → m (Answer c)) :
    Dialogue Answer α → m α
  | done result => pure result
  | ask c next => do (next (← answer c)).perform answer

/-- A call with the answer it got. -/
abbrev Exchange (Answer : Call → Type) :=
  (c : Call) × Answer c

/-- A dialogue ends with a result after the exchanges of a log. -/
inductive Runs : Dialogue Answer α → List (Exchange Answer) → α → Prop where
  | done (result : α) : Runs (.done result) [] result
  | ask {c : Call} {next : Answer c → Dialogue Answer α} {answer : Answer c}
      {log : List (Exchange Answer)} {result : α} (rest : Runs (next answer) log result) :
      Runs (.ask c next) (⟨c, answer⟩ :: log) result

theorem runs_done_iff {result other : α} {log : List (Exchange Answer)} :
    Runs (.done result) log other ↔ log = [] ∧ other = result := by
  constructor
  · rintro ⟨⟩
    exact ⟨rfl, rfl⟩
  · rintro ⟨rfl, rfl⟩
    exact .done _

theorem runs_ask_iff {c : Call} {next : Answer c → Dialogue Answer α}
    {log : List (Exchange Answer)} {result : α} :
    Runs (.ask c next) log result ↔
      ∃ answer rest, log = ⟨c, answer⟩ :: rest ∧ Runs (next answer) rest result := by
  constructor
  · rintro ⟨⟩
    rename_i rest
    exact ⟨_, _, rfl, rest⟩
  · rintro ⟨answer, rest, rfl, runs⟩
    exact .ask runs

/-- A dialogue that goes on with another one runs as the two, one after the other. -/
theorem runs_bind_iff {d : Dialogue Answer α} {next : α → Dialogue Answer β}
    {log : List (Exchange Answer)} {result : β} :
    Runs (d >>= next) log result ↔
      ∃ first second a, log = first ++ second ∧ Runs d first a ∧ Runs (next a) second result := by
  induction d generalizing log with
  | done a =>
    simp only [done_bind, runs_done_iff]
    constructor
    · intro runs
      exact ⟨[], log, a, rfl, ⟨rfl, rfl⟩, runs⟩
    · rintro ⟨first, second, b, rfl, ⟨rfl, rfl⟩, runs⟩
      exact runs
  | ask c rest ih =>
    simp only [ask_bind, runs_ask_iff]
    constructor
    · rintro ⟨answer, later, rfl, runs⟩
      obtain ⟨first, second, a, rfl, before, after⟩ := (ih answer).1 runs
      exact ⟨⟨c, answer⟩ :: first, second, a, rfl, ⟨answer, first, rfl, before⟩, after⟩
    · rintro ⟨first, second, a, rfl, ⟨answer, later, rfl, before⟩, after⟩
      exact ⟨answer, later ++ second, rfl, (ih answer).2 ⟨later, second, a, rfl, before, after⟩⟩

/-- The same for dialogues that may fail: the second one is not begun if the first one fails. -/
theorem runs_exceptBind_iff {ε : Type} {d : ExceptT ε (Dialogue Answer) α}
    {next : α → ExceptT ε (Dialogue Answer) β} {log : List (Exchange Answer)}
    {result : Except ε β} :
    Runs (d >>= next).run log result ↔
      (∃ error, Runs d.run log (.error error) ∧ result = .error error) ∨
      ∃ first second a, log = first ++ second ∧ Runs d.run first (.ok a) ∧
        Runs (next a).run second result := by
  rw [ExceptT.run_bind, runs_bind_iff]
  constructor
  · rintro ⟨first, second, reached, rfl, begun, ended⟩
    cases reached with
    | ok a => exact .inr ⟨first, second, a, rfl, begun, ended⟩
    | error error =>
      obtain ⟨rfl, rfl⟩ := runs_done_iff.1 ended
      exact .inl ⟨error, by simpa using begun, rfl⟩
  · rintro (⟨error, begun, rfl⟩ | ⟨first, second, a, rfl, begun, ended⟩)
    · exact ⟨log, [], .error error, by simp, begun, .done _⟩
    · exact ⟨first, second, .ok a, rfl, begun, ended⟩

end Dialogue

/-- A step that succeeds succeeds in both its parts. -/
theorem bind_eq_ok_iff {ε α β : Type} {x : Except ε α} {f : α → Except ε β} {b : β} :
    (x >>= f) = .ok b ↔ ∃ a, x = .ok a ∧ f a = .ok b := by
  cases x with
  | error e => simp [bind, Except.bind]
  | ok a => simp [bind, Except.bind]

end ProvisionGate
