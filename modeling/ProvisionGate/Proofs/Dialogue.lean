import ProvisionGate.Dialogue

/-!
# Dialogues with others

What a dialogue does in surroundings that answer by all that went before, that answer a call the
same way every time, on a machine with a state, and where its calls are carried out by dialogues of
another kind, and when two dialogues do the same wherever they are held.
-/

namespace ProvisionGate

namespace Dialogue

variable {Call Other : Type} {Answer : Call → Type} {Reply : Other → Type} {α β σ : Type}

theorem runs_map_iff {d : Dialogue Answer α} {f : α → β} {log : List (Exchange Answer)} {b : β} :
    Runs (f <$> d) log b ↔ ∃ a, Runs d log a ∧ b = f a := by
  rw [map_eq_pure_bind, runs_bind_iff]
  constructor
  · rintro ⟨first, second, a, rfl, run, ended⟩
    obtain ⟨rfl, rfl⟩ := runs_done_iff.1 ended
    exact ⟨a, by simpa using run, rfl⟩
  · rintro ⟨a, run, rfl⟩
    exact ⟨log, [], a, by simp, run, .done _⟩

/-- A dialogue that goes on with another one is performed as the two, one after the other. -/
theorem perform_bind {m : Type → Type} [Monad m] [LawfulMonad m]
    (answer : (c : Call) → m (Answer c)) (d : Dialogue Answer α) (next : α → Dialogue Answer β) :
    (d >>= next).perform answer = d.perform answer >>= fun a => (next a).perform answer := by
  induction d with
  | done a => simp [perform]
  | ask c rest ih => simp [perform, ih]

/-- A dialogue that is told the same asks the same and ends the same. -/
theorem Runs.unique {d : Dialogue Answer α} {log other : List (Exchange Answer)} {a b : α}
    (run : Runs d log a) (again : Runs d other b)
    (alike : ∀ c answer reply, ⟨c, answer⟩ ∈ log → ⟨c, reply⟩ ∈ other → answer = reply) :
    log = other ∧ a = b := by
  induction run generalizing other with
  | done result =>
    obtain ⟨rfl, rfl⟩ := runs_done_iff.1 again
    exact ⟨rfl, rfl⟩
  | ask rest ih =>
    obtain ⟨reply, more, rfl, next⟩ := runs_ask_iff.1 again
    obtain rfl := alike _ _ reply List.mem_cons_self List.mem_cons_self
    obtain ⟨rfl, rfl⟩ := ih next fun c answer other first second =>
      alike c answer other (List.mem_cons_of_mem _ first) (List.mem_cons_of_mem _ second)
    exact ⟨rfl, rfl⟩

/-! ## Surroundings that answer by all that went before -/

/-- In any surroundings, whatever they go by, a dialogue comes to its end. -/
theorem exists_runs_told (answer : List (Exchange Answer) → (c : Call) → Answer c)
    (d : Dialogue Answer α) :
    ∃ log result, Runs d log result ∧
      ∀ before x later, log = before ++ x :: later → x.2 = answer before x.1 := by
  induction d generalizing answer with
  | done a => exact ⟨[], a, .done a, by simp⟩
  | ask c next ih =>
    let first : Exchange Answer := ⟨c, answer [] c⟩
    obtain ⟨log, result, run, told⟩ := ih (answer [] c) fun before => answer (first :: before)
    refine ⟨first :: log, result, .ask run, fun before x later split => ?_⟩
    cases before with
    | nil =>
      obtain ⟨rfl, -⟩ := List.cons.inj split
      rfl
    | cons y before =>
      obtain ⟨rfl, rest⟩ := List.cons.inj split
      exact told before x later rest

/-! ## Surroundings without a state -/

/-- A dialogue in surroundings that answer a call the same way every time. -/
def answered (answer : (c : Call) → Answer c) : Dialogue Answer α → List (Exchange Answer) × α
  | done result => ([], result)
  | ask c next =>
    let rest := (next (answer c)).answered answer
    (⟨c, answer c⟩ :: rest.1, rest.2)

theorem runs_answered (answer : (c : Call) → Answer c) (d : Dialogue Answer α) :
    Runs d (d.answered answer).1 (d.answered answer).2 := by
  induction d with
  | done result => exact .done result
  | ask c next ih => exact .ask (ih (answer c))

theorem answered_told (answer : (c : Call) → Answer c) (d : Dialogue Answer α) :
    ∀ x ∈ (d.answered answer).1, x.2 = answer x.1 := by
  induction d with
  | done result => simp [answered]
  | ask c next ih => exact List.forall_mem_cons.2 ⟨rfl, ih _⟩

theorem Runs.result_of_told {answer : (c : Call) → Answer c} {d : Dialogue Answer α}
    {log : List (Exchange Answer)} {result : α} (run : Runs d log result)
    (told : ∀ x ∈ log, x.2 = answer x.1) : result = (d.answered answer).2 := by
  induction d generalizing log with
  | done a => exact (runs_done_iff.1 run).2
  | ask c next ih =>
    obtain ⟨reply, rest, rfl, runs⟩ := runs_ask_iff.1 run
    obtain ⟨first, later⟩ := List.forall_mem_cons.1 told
    obtain rfl : reply = answer c := first
    exact ih (answer c) runs later

/-! ## Machines with a state -/

/-- What a dialogue asks a machine and is told, from a state of the machine on. -/
def transcript (machine : (c : Call) → StateM σ (Answer c)) :
    Dialogue Answer α → σ → List (Exchange Answer)
  | done _, _ => []
  | ask c next, state =>
    let told := (machine c).run state
    ⟨c, told.1⟩ :: (next told.1).transcript machine told.2

/-- What a dialogue does on a machine is one of its runs. -/
theorem runs_transcript (machine : (c : Call) → StateM σ (Answer c)) (d : Dialogue Answer α)
    (state : σ) : Runs d (d.transcript machine state) ((d.perform machine).run state).1 := by
  induction d generalizing state with
  | done a => exact .done a
  | ask c next ih => exact .ask (ih _ _)

theorem transcript_bind (machine : (c : Call) → StateM σ (Answer c)) (d : Dialogue Answer α)
    (next : α → Dialogue Answer β) (state : σ) :
    (d >>= next).transcript machine state = d.transcript machine state ++
      (next ((d.perform machine).run state).1).transcript machine ((d.perform machine).run state).2 := by
  induction d generalizing state with
  | done a => rfl
  | ask c rest ih => exact congrArg (List.cons _) (ih _ _)

/-- A machine that answers the same way every time tells every dialogue the same. -/
theorem transcript_told (answer : (c : Call) → Answer c) (d : Dialogue Answer α) (state : σ) :
    ∀ x ∈ d.transcript (fun c => pure (answer c)) state, x.2 = answer x.1 := by
  induction d generalizing state with
  | done a => simp [transcript]
  | ask c next ih => exact List.forall_mem_cons.2 ⟨rfl, ih _ _⟩

/-! ## Dialogues that carry out the calls of another one -/

/-- The exchanges of a dialogue, each carried out by a dialogue of another kind. -/
inductive Carried (carry : (c : Call) → Dialogue Reply (Answer c)) :
    List (Exchange Answer) → List (Exchange Reply) → Prop
  | nil : Carried carry [] []
  | cons {x : Exchange Answer} {asked : List (Exchange Answer)} {part rest : List (Exchange Reply)}
      (carried : Runs (carry x.1) part x.2) (later : Carried carry asked rest) :
      Carried carry (x :: asked) (part ++ rest)

variable {carry : (c : Call) → Dialogue Reply (Answer c)}

theorem Carried.part {asked : List (Exchange Answer)} {log : List (Exchange Reply)}
    (carried : Carried carry asked log) :
    ∀ x ∈ asked, ∃ part, part <:+: log ∧ Runs (carry x.1) part x.2 := by
  induction carried with
  | nil => simp
  | @cons x asked part rest first later ih =>
    intro y member
    rcases List.mem_cons.1 member with rfl | behind
    · exact ⟨part, List.infix_append' [] part rest, first⟩
    · obtain ⟨other, within, run⟩ := ih y behind
      exact ⟨other, within.trans (List.suffix_append part rest).isInfix, run⟩

/-- A dialogue whose calls are carried out by others runs as it would by itself. -/
theorem runs_of_perform {d : Dialogue Answer α} {log : List (Exchange Reply)} {result : α}
    (run : Runs (d.perform carry) log result) :
    ∃ asked, Carried carry asked log ∧ Runs d asked result := by
  induction d generalizing log with
  | done a =>
    obtain ⟨rfl, rfl⟩ := runs_done_iff.1 run
    exact ⟨[], .nil, .done _⟩
  | ask c next ih =>
    obtain ⟨first, second, answer, rfl, carried, rest⟩ := runs_bind_iff.1 run
    obtain ⟨asked, later, runs⟩ := ih answer rest
    exact ⟨⟨c, answer⟩ :: asked, .cons carried later, .ask runs⟩

/-! ## Dialogues that ask the same -/

/-- Two dialogues ask the same, whatever they are told, and end with related results. -/
inductive Alike (R : α → β → Prop) : Dialogue Answer α → Dialogue Answer β → Prop
  | done {a : α} {b : β} (related : R a b) : Alike R (.done a) (.done b)
  | ask {c : Call} {next : Answer c → Dialogue Answer α} {other : Answer c → Dialogue Answer β}
      (rest : ∀ answer, Alike R (next answer) (other answer)) :
      Alike R (.ask c next) (.ask c other)

theorem Alike.refl {R : α → α → Prop} (related : ∀ a, R a a) (d : Dialogue Answer α) :
    Alike R d d := by
  induction d with
  | done a => exact .done (related a)
  | ask c next ih => exact .ask ih

theorem Alike.bind {γ δ : Type} {R : α → β → Prop} {S : γ → δ → Prop} {d : Dialogue Answer α}
    {other : Dialogue Answer β} {next : α → Dialogue Answer γ} {otherNext : β → Dialogue Answer δ}
    (first : Alike R d other) (second : ∀ a b, R a b → Alike S (next a) (otherNext b)) :
    Alike S (d >>= next) (other >>= otherNext) := by
  induction first with
  | done related => exact second _ _ related
  | ask rest ih => exact .ask ih

/-- Dialogues that ask the same and end with the same result are one dialogue. -/
theorem Alike.eq {d other : Dialogue Answer α} (alike : Alike Eq d other) : d = other := by
  induction alike with
  | done same => rw [same]
  | ask rest ih => rw [funext ih]

end Dialogue

end ProvisionGate
