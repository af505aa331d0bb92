import ProvisionGate.Proofs.Session.History

/-!
# Evaluations on a device that may fail

A device answers each query with a value or with the cause of a failure.  An evaluation asks it
check by check and stops at the first query that fails or the first check that fails.  If no query
failed, it finds what the evaluation on known facts finds, whatever the facts are that were not
asked for.

The order of the checks, the queries of each and the answers on which it fails are all given here
anew (`checksFrom`, `queries`, `Fails`), apart from the evaluation.
-/

namespace ProvisionGate

/-- What a device answers to each query. -/
abbrev DeviceAnswers := (fact : Fact) → Except String fact.Value

/-- The facts that a device tells, with a default for each one that it does not. -/
def DeviceAnswers.known (device : DeviceAnswers) : Facts where
  deviceProvisioned := (device .deviceProvisioned).toOption.getD false
  userSetupComplete := (device .userSetupComplete).toOption.getD false
  frpBlockSize := (device .frpBlockSize).toOption.getD none
  deviceEncrypted := (device .deviceEncrypted).toOption.getD false
  encryptionExempt := (device .encryptionExempt).toOption.getD false
  networkConnected := (device .networkConnected).toOption.getD false

/-- The exchange about a fact with a device. -/
def DeviceAnswers.told (device : DeviceAnswers) (fact : Fact) :
    Dialogue.Exchange SessionCall.Answer :=
  ⟨.device fact, device fact⟩

/-- An exchange about a fact has the answer of a device. -/
def Dialogue.Exchange.IsOf (device : DeviceAnswers) :
    Dialogue.Exchange SessionCall.Answer → Prop
  | ⟨.device fact, answer⟩ => answer = device fact
  | _ => True

/-- The facts are what a device answers to some queries. -/
def Facts.AgreesWith (facts : Facts) (device : DeviceAnswers) (asked : List Fact) : Prop :=
  ∀ fact ∈ asked, device fact = .ok (facts.value fact)

theorem DeviceAnswers.known_agreesWith {device : DeviceAnswers} {asked : List Fact}
    (answered : ∀ fact ∈ asked, ∃ value, device fact = .ok value) :
    device.known.AgreesWith device asked := by
  intro fact member
  obtain ⟨value, answer⟩ := answered fact member
  cases fact <;> simp [Facts.value, known, answer, Except.toOption]

namespace Precondition

/-- The checks from one on, in order. -/
def checksFrom : Precondition → List Precondition
  | notYetProvisioned => [notYetProvisioned, factoryResetProtection, encryption, network]
  | factoryResetProtection => [factoryResetProtection, encryption, network]
  | encryption => [encryption, network]
  | network => [network]

theorem andFollowing_eq_checksFrom (p : Precondition) : p.andFollowing = p.checksFrom := by
  cases p <;> rfl

/-- The queries of a check, in order.  The exemption matters only once the device is known not to
be encrypted. -/
def queries (caller : Caller) (device : DeviceAnswers) : Precondition → List Fact
  | notYetProvisioned =>
    match caller with
    | .primary => [.deviceProvisioned]
    | .secondary => [.userSetupComplete]
  | factoryResetProtection =>
    match caller with
    | .primary => [.frpBlockSize]
    | .secondary => []
  | encryption =>
    match device .deviceEncrypted with
    | .ok false => [.deviceEncrypted, .encryptionExempt]
    | _ => [.deviceEncrypted]
  | network => [.networkConnected]

variable (device : DeviceAnswers) (accepted : AcceptedRequest)

/-- The last query of a check fails, after all its others were answered. -/
def Unanswered (caller : Caller) (cause : String) (p : Precondition) : Prop :=
  ∃ before fact, p.queries caller device = before ++ [fact] ∧
    (∀ other ∈ before, ∃ value, device other = .ok value) ∧ device fact = .error cause

/-- The queries of a check are answered. -/
def Answered (p : Precondition) : Prop :=
  ∀ fact ∈ p.queries accepted.caller device, ∃ value, device fact = .ok value

/-- The answers on which a check fails. -/
def Fails : Precondition → Prop
  | notYetProvisioned =>
    match accepted.caller with
    | .primary => device .deviceProvisioned = .ok true
    | .secondary => device .userSetupComplete = .ok true
  | factoryResetProtection =>
    accepted.caller = .primary ∧
      ∃ size : UInt64, device .frpBlockSize = .ok (some size) ∧ 0 < size
  | encryption =>
    accepted.params.skipEncryption = false ∧ device .deviceEncrypted = .ok false ∧
      device .encryptionExempt = .ok false
  | network =>
    accepted.params.wifi.ssid.getD "" = "" ∧ device .networkConnected = .ok false

/-- The queries of a check are answered, and it does not fail on the answers. -/
def Passes (p : Precondition) : Prop :=
  p.Answered device accepted ∧ ¬ p.Fails device accepted

variable {device accepted} {caller : Caller} {params : Params} {facts : Facts} {p : Precondition}

theorem answered_of_agreesWith
    (agrees : facts.AgreesWith device (p.queries accepted.caller device)) :
    p.Answered device accepted :=
  fun fact asked => ⟨facts.value fact, agrees fact asked⟩

/-- On facts that agree with the answers to its queries, a check fails exactly if it fails on the
answers. -/
theorem fails_iff (agrees : facts.AgreesWith device (p.queries accepted.caller device)) :
    p.Fails device accepted ↔
      p.check accepted.params accepted.caller facts = .failed (p.failure accepted.caller) := by
  obtain ⟨params, caller⟩ := accepted
  cases p with
  | notYetProvisioned =>
    rw [check_notYetProvisioned]
    cases caller with
    | primary =>
      have answer : device .deviceProvisioned = .ok facts.deviceProvisioned :=
        agrees .deviceProvisioned (by simp [queries])
      simp [Fails, answer, failure]
    | secondary =>
      have answer : device .userSetupComplete = .ok facts.userSetupComplete :=
        agrees .userSetupComplete (by simp [queries])
      simp [Fails, answer, failure]
  | factoryResetProtection =>
    rw [check_factoryResetProtection]
    cases caller with
    | primary =>
      have answer : device .frpBlockSize = .ok facts.frpBlockSize :=
        agrees .frpBlockSize (by simp [queries])
      simp [Fails, answer, failure, Option.any_eq_true, UInt64.pos_iff_ne_zero]
    | secondary => simp [Fails]
  | encryption =>
    rw [check_encryption]
    have answer : device .deviceEncrypted = .ok facts.deviceEncrypted := by
      apply agrees .deviceEncrypted
      simp only [queries]
      split <;> simp
    cases encrypted : facts.deviceEncrypted with
    | true => simp [Fails, answer, encrypted]
    | false =>
      rw [encrypted] at answer
      -- Only here the facts and the device agree on the exemption, and only here it matters.
      have exempt : device .encryptionExempt = .ok facts.encryptionExempt :=
        agrees .encryptionExempt (by simp [queries, answer])
      simp [Fails, answer, exempt, failure]
  | network =>
    rw [check_network]
    have answer : device .networkConnected = .ok facts.networkConnected :=
      agrees .networkConnected (by simp [queries])
    simp [Fails, answer, failure, ← Wifi.hasSsid_eq_false_iff]

/-- On such facts a check decides nothing exactly if it does not fail on the answers. -/
theorem decision?_eq_none_iff
    (agrees : facts.AgreesWith device (p.queries accepted.caller device)) :
    (p.check accepted.params accepted.caller facts).decision? = none ↔
      ¬ p.Fails device accepted := by
  rw [fails_iff agrees]
  rcases p.check_cases accepted.params accepted.caller facts with failed | ⟨undecided, -⟩
  · simp [failed, Finding.decision?]
  · refine iff_of_true undecided fun failed => ?_
    rw [failed] at undecided
    cases undecided

/-- The first check that fails ends the evaluation. -/
theorem ofChecks_cons {check : Precondition → Id Finding} {checks : List Precondition} :
    Id.run (Evaluation.ofChecks check (p :: checks)) =
      match (Id.run (check p)).decision? with
      | some decision => ⟨decision, [⟨p, (Id.run (check p)).verdict⟩]⟩
      | none => (Id.run (Evaluation.ofChecks check checks)).after ⟨p, (Id.run (check p)).verdict⟩ := by
  cases decided : (Id.run (check p)).decision? <;>
    simp only [Evaluation.ofChecks, Id.run_bind, decided] <;> rfl

/-- Checks that do not fail put their records before what the others find. -/
theorem ofChecks_append {passed rest : List Precondition}
    (passes : ∀ p ∈ passed, (p.check params caller facts).decision? = none) :
    Id.run (Evaluation.ofChecks (checkReading facts.value params caller) (passed ++ rest)) =
      let e := Id.run (Evaluation.ofChecks (checkReading facts.value params caller) rest)
      ⟨e.decision, passed.map (passedRecord caller) ++ e.trace⟩ := by
  induction passed with
  | nil => rfl
  | cons p passed ih =>
    obtain ⟨first, later⟩ := List.forall_mem_cons.1 passes
    have found : Id.run (checkReading facts.value params caller p) = p.check params caller facts :=
      rfl
    rcases p.check_cases params caller facts with failed | ⟨-, record⟩
    · rw [failed] at first
      cases first
    · rw [List.cons_append, ofChecks_cons, found, first, record, ih later]
      rfl

end Precondition

namespace Session

open Dialogue

/-- What stops an evaluation on a device that has passed some checks, before others: which checks
it has run by then, and what it ends with. -/
inductive StopsAt (device : DeviceAnswers) (accepted : AcceptedRequest)
    (passed : List Precondition) :
    List Precondition → List Precondition → Except String Evaluation → Prop
  | through : StopsAt device accepted passed [] passed
      (.ok ⟨.proceed, passed.map (Precondition.passedRecord accepted.caller)⟩)
  | unanswered {p : Precondition} {rest : List Precondition} {cause : String}
      (unanswered : p.Unanswered device accepted.caller cause) :
      StopsAt device accepted passed (p :: rest) (passed ++ [p]) (.error cause)
  | failed {p : Precondition} {rest : List Precondition} (answered : p.Answered device accepted)
      (fails : p.Fails device accepted) :
      StopsAt device accepted passed (p :: rest) (passed ++ [p])
        (.ok ⟨p.failure accepted.caller,
          passed.map (Precondition.passedRecord accepted.caller) ++ [⟨p, .failed⟩]⟩)

variable {device : DeviceAnswers} {accepted : AcceptedRequest} {caller : Caller}
  {p start : Precondition} {checks passed rest ran : List Precondition}
  {log : List (Exchange SessionCall.Answer)}

/-! ## One check -/

/-- A query is asked once, and the others only if it is answered. -/
theorem runs_askDevice_bind {α : Type} {fact : Fact}
    {next : fact.Value → ExceptT String (Dialogue SessionCall.Answer) α}
    {result : Except String α} (run : Runs (askDevice fact >>= next).run log result)
    (told : ∀ x ∈ log, x.IsOf device) :
    (∃ cause, device fact = .error cause ∧ log = [device.told fact] ∧ result = .error cause) ∨
    ∃ value later, device fact = .ok value ∧ log = device.told fact :: later ∧
      (∀ x ∈ later, x.IsOf device) ∧ Runs (next value).run later result := by
  have first {answer : Except String fact.Value} {later : List (Exchange SessionCall.Answer)}
      (split : log = ⟨.device fact, answer⟩ :: later) :
      answer = device fact ∧ ∀ x ∈ later, x.IsOf device := by
    rw [split] at told
    exact List.forall_mem_cons.1 told
  rcases runs_exceptBind_iff.1 run with ⟨cause, asked, rfl⟩ | ⟨_, later, value, rfl, asked, ended⟩
  · obtain rfl := runs_askDevice_iff.1 asked
    obtain ⟨answer, -⟩ := first rfl
    exact .inl ⟨cause, answer.symm, by rw [DeviceAnswers.told, answer], rfl⟩
  · obtain rfl := runs_askDevice_iff.1 asked
    obtain ⟨answer, behind⟩ := first rfl
    exact .inr ⟨value, later, answer.symm, by rw [DeviceAnswers.told, ← answer]; rfl, behind, ended⟩

/-- The facts for a check are asked for by its queries, up to the first that fails. -/
theorem runs_factsFor {result : Except String Facts}
    (run : Runs (p.factsFor askDevice caller).run log result) (told : ∀ x ∈ log, x.IsOf device) :
    log = (p.queries caller device).map device.told ∧
      ((∃ cause, p.Unanswered device caller cause ∧ result = .error cause) ∨
        ∃ facts : Facts, facts.AgreesWith device (p.queries caller device) ∧
          result = .ok facts) := by
  have ends {facts : Facts} {log : List (Exchange SessionCall.Answer)}
      {result : Except String Facts}
      (run : Runs (pure facts : ExceptT String (Dialogue SessionCall.Answer) Facts).run log result) :
      log = [] ∧ result = .ok facts :=
    runs_done_iff.1 run
  have one {fact : Fact} {facts : fact.Value → Facts}
      (queries : p.queries caller device = [fact])
      (holds : ∀ value, (facts value).value fact = value)
      (run : Runs (askDevice fact >>= fun value => pure (facts value)).run log result) :
      log = (p.queries caller device).map device.told ∧
        ((∃ cause, p.Unanswered device caller cause ∧ result = .error cause) ∨
          ∃ facts : Facts, facts.AgreesWith device (p.queries caller device) ∧
            result = .ok facts) := by
    rw [queries]
    rcases runs_askDevice_bind run told with
      ⟨cause, fails, rfl, rfl⟩ | ⟨value, later, answer, rfl, -, ended⟩
    · exact ⟨rfl, .inl ⟨cause, ⟨[], fact, queries, by simp, fails⟩, rfl⟩⟩
    · obtain ⟨rfl, rfl⟩ := ends ended
      refine ⟨rfl, .inr ⟨facts value, ?_, rfl⟩⟩
      intro other member
      obtain rfl := List.mem_singleton.1 member
      rw [answer, holds]
  cases p with
  | notYetProvisioned => cases caller <;> exact one rfl (fun _ => rfl) run
  | factoryResetProtection =>
    cases caller with
    | primary => exact one rfl (fun _ => rfl) run
    | secondary =>
      obtain ⟨rfl, rfl⟩ := ends run
      exact ⟨rfl, .inr ⟨_, by simp [Facts.AgreesWith, Precondition.queries], rfl⟩⟩
  | encryption =>
    rcases runs_askDevice_bind run told with
      ⟨cause, fails, rfl, rfl⟩ | ⟨encrypted, later, answer, rfl, behind, ended⟩
    · have queries : Precondition.encryption.queries caller device = [.deviceEncrypted] := by
        simp only [Precondition.queries, fails]
      rw [queries]
      exact ⟨rfl, .inl ⟨cause, ⟨[], _, queries, by simp, fails⟩, rfl⟩⟩
    · cases encrypted with
      | true =>
        have queries : Precondition.encryption.queries caller device = [.deviceEncrypted] := by
          simp only [Precondition.queries, answer]
        rw [queries]
        obtain ⟨rfl, rfl⟩ := ends ended
        exact ⟨rfl, .inr ⟨_, by simp [Facts.AgreesWith, answer, Facts.value], rfl⟩⟩
      | false =>
        have queries : Precondition.encryption.queries caller device =
            [.deviceEncrypted, .encryptionExempt] := by
          simp only [Precondition.queries, answer]
        rw [queries]
        rcases runs_askDevice_bind ended behind with
          ⟨cause, fails, rfl, rfl⟩ | ⟨exempt, later, waived, rfl, -, ended⟩
        · exact ⟨rfl, .inl ⟨cause, ⟨[.deviceEncrypted], _, queries, by simp [answer], fails⟩, rfl⟩⟩
        · obtain ⟨rfl, rfl⟩ := ends ended
          exact ⟨rfl, .inr ⟨_, by simp [Facts.AgreesWith, answer, waived, Facts.value, Facts.none],
            rfl⟩⟩
  | network => exact one rfl (fun _ => rfl) run

/-- A check on a device asks its queries, and passes or fails on their answers. -/
theorem runs_checkDevice {result : Except String Finding}
    (run : Runs (checkDevice accepted p).run log result) (told : ∀ x ∈ log, x.IsOf device) :
    log = (p.queries accepted.caller device).map device.told ∧
      ((∃ cause, p.Unanswered device accepted.caller cause ∧ result = .error cause) ∨
        ∃ facts : Facts, facts.AgreesWith device (p.queries accepted.caller device) ∧
          result = .ok (p.check accepted.params accepted.caller facts)) := by
  obtain ⟨known, read, rfl⟩ := runs_checkDevice_iff.1 run
  obtain ⟨queries, ⟨cause, unanswered, rfl⟩ | ⟨facts, agrees, rfl⟩⟩ := runs_factsFor read told
  · exact ⟨queries, .inl ⟨cause, unanswered, rfl⟩⟩
  · exact ⟨queries, .inr ⟨facts, agrees, rfl⟩⟩

/-! ## All checks -/

theorem StopsAt.cons {result : Except String Evaluation}
    (stops : StopsAt device accepted passed rest ran result) (p : Precondition) :
    StopsAt device accepted (p :: passed) rest (p :: ran)
      (result.map (·.after (p.passedRecord accepted.caller))) := by
  cases stops with
  | through => exact .through
  | unanswered unanswered => exact .unanswered unanswered
  | failed answered fails => exact .failed answered fails

/-- The checks are run in order, up to the one that stops the evaluation. -/
theorem ofChecks_stopsAt {result : Except String Evaluation}
    (run : Runs (Evaluation.ofChecks (checkDevice accepted) checks).run log result)
    (told : ∀ x ∈ log, x.IsOf device) :
    ∃ passed rest ran, checks = passed ++ rest ∧ (∀ p ∈ passed, p.Passes device accepted) ∧
      StopsAt device accepted passed rest ran result ∧
      log = (ran.flatMap (Precondition.queries accepted.caller device)).map device.told := by
  induction checks generalizing log result with
  | nil =>
    obtain ⟨rfl, rfl⟩ := runs_done_iff.1 run
    exact ⟨[], [], [], rfl, by simp, .through, rfl⟩
  | cons p checks ih =>
    rcases runs_ofChecks_cons run with
      ⟨cause, checked, rfl⟩ | ⟨checked, rfl⟩ | ⟨finding, first, second, others, rfl, passes, checked, more, rfl⟩
    · obtain ⟨queries, ⟨other, unanswered, same⟩ | ⟨facts, -, same⟩⟩ := runs_checkDevice checked told
      · obtain rfl := Except.error.inj same
        exact ⟨[], p :: checks, [p], rfl, by simp, .unanswered unanswered, by simpa using queries⟩
      · cases same
    · obtain ⟨queries, ⟨cause, -, same⟩ | ⟨facts, agrees, same⟩⟩ := runs_checkDevice checked told
      · cases same
      · have fails := (Precondition.fails_iff agrees).2 (Except.ok.inj same).symm
        have answered := Precondition.answered_of_agreesWith agrees
        exact ⟨[], p :: checks, [p], rfl, by simp, .failed answered fails, by simpa using queries⟩
    · obtain ⟨before, behind⟩ := List.forall_mem_append.1 told
      obtain ⟨queries, ⟨cause, -, same⟩ | ⟨facts, agrees, same⟩⟩ := runs_checkDevice checked before
      · cases same
      · obtain rfl := Except.ok.inj same
        obtain ⟨passed, rest, ran, rfl, pass, stops, asked⟩ := ih more behind
        refine ⟨p :: passed, rest, p :: ran, rfl, ?_, stops.cons p, ?_⟩
        · have first : p.Passes device accepted :=
            ⟨Precondition.answered_of_agreesWith agrees,
              (Precondition.decision?_eq_none_iff agrees).1 passes⟩
          exact List.forall_mem_cons.2 ⟨first, pass⟩
        · rw [List.flatMap_cons, List.map_append, queries, asked]

theorem StopsAt.answered {e : Evaluation} (stops : StopsAt device accepted passed rest ran (.ok e))
    (passes : ∀ p ∈ passed, p.Passes device accepted) : ∀ p ∈ ran, p.Answered device accepted := by
  intro p member
  cases stops with
  | through => exact (passes p member).1
  | failed answered fails =>
    rcases List.mem_append.1 member with before | last
    · exact (passes p before).1
    · obtain rfl := List.mem_singleton.1 last
      exact answered

/-- An evaluation in which no query failed finds what is found on any facts that agree with the
answers. -/
theorem StopsAt.ofChecks_eq {e : Evaluation} {facts : Facts}
    (stops : StopsAt device accepted passed rest ran (.ok e))
    (passes : ∀ p ∈ passed, p.Passes device accepted)
    (agrees : facts.AgreesWith device (ran.flatMap (Precondition.queries accepted.caller device))) :
    Id.run (Evaluation.ofChecks
      (Precondition.checkReading facts.value accepted.params accepted.caller) (passed ++ rest)) =
        e := by
  have agreesAt {p : Precondition} (inside : p ∈ ran) :
      facts.AgreesWith device (p.queries accepted.caller device) :=
    fun fact asked => agrees fact (List.mem_flatMap.2 ⟨p, inside, asked⟩)
  have met (within : passed ⊆ ran) :
      ∀ p ∈ passed, (p.check accepted.params accepted.caller facts).decision? = none :=
    fun p member =>
      (Precondition.decision?_eq_none_iff (agreesAt (within member))).2 (passes p member).2
  cases stops with
  | through =>
    rw [Precondition.ofChecks_append (met (List.Subset.refl _))]
    simp [Evaluation.ofChecks]
  | @failed p rest answered fails =>
    have found : Id.run (Precondition.checkReading facts.value accepted.params accepted.caller p) =
        .failed (p.failure accepted.caller) :=
      (Precondition.fails_iff (agreesAt (by simp))).1 fails
    rw [Precondition.ofChecks_append (met (List.subset_append_left _ _)),
      Precondition.ofChecks_cons, found]
    rfl

/-! ## On a device -/

/-- Surroundings with a device. -/
def withDevice (device : DeviceAnswers) : (c : SessionCall) → c.Answer
  | .device fact => device fact
  | other => obliging other

theorem isOf_of_told {x : Exchange SessionCall.Answer} (told : x.2 = withDevice device x.1) :
    x.IsOf device := by
  obtain ⟨call, answer⟩ := x
  cases call with
  | device fact => exact told
  | _ => trivial

/-- A dialogue that asked some queries of a device does the same with every device that answers them
alike. -/
theorem runs_unasked {α : Type} {d : Dialogue SessionCall.Answer α} {asked : List Fact}
    {result ended : α} {other : DeviceAnswers} (run : Runs d (asked.map device.told) result)
    (same : ∀ fact ∈ asked, other fact = device fact) (again : Runs d log ended)
    (told : ∀ x ∈ log, x.IsOf other) : log = asked.map device.told ∧ ended = result := by
  have alike : ∀ c answer reply, ⟨c, answer⟩ ∈ asked.map device.told → ⟨c, reply⟩ ∈ log →
      answer = reply := by
    intro c answer reply member behind
    obtain ⟨fact, inside, exchange⟩ := List.mem_map.1 member
    cases exchange
    have replied : reply = other fact := told _ behind
    rw [replied, same fact inside]
  obtain ⟨rfl, rfl⟩ := run.unique again alike
  exact ⟨rfl, rfl⟩

/-- A session whose request was accepted reports what an evaluation ends with. -/
theorem runs_evaluate_of_runs {result : Except String Evaluation}
    (run : Runs (evaluateDevice accepted start).run log result) (s : Session) :
    SessionStep.Runs (evaluate start) { s with accepted := some accepted } log
      ((result.mapError SessionError.deviceState).map fun e => .preconditionsEvaluated e.decision)
      { s with accepted := some accepted } := by
  unfold evaluate
  rw [runs_requireAccepted rfl, SessionStep.runs_lift_bind_iff]
  refine ⟨log, [], result, (List.append_nil log).symm, run, ?_⟩
  rw [SessionStep.runs_orFail_bind_iff]
  cases result with
  | ok e => exact .inl ⟨e, rfl, SessionStep.runs_pure_iff.2 ⟨rfl, rfl, rfl⟩⟩
  | error cause => exact .inr ⟨cause, rfl, rfl, rfl, rfl⟩

/-- An evaluation on a device asks some queries and ends with a result as it should. -/
structure Refines (device : DeviceAnswers) (accepted : AcceptedRequest) (start : Precondition)
    (asked : List Fact) (result : Except String Evaluation) : Prop where
  /-- The checks are run in order and ask their queries, up to the first query that fails or the
  first check that fails. -/
  stops : ∃ passed rest ran, start.checksFrom = passed ++ rest ∧
    (∀ p ∈ passed, p.Passes device accepted) ∧ StopsAt device accepted passed rest ran result ∧
    asked = ran.flatMap (Precondition.queries accepted.caller device)
  runs : Runs (evaluateDevice accepted start).run (asked.map device.told) result
  /-- A session whose request was accepted reports the failure of a query as one of the device. -/
  reports : ∀ s : Session, SessionStep.Runs (evaluate start) { s with accepted := some accepted }
    (asked.map device.told)
    ((result.mapError SessionError.deviceState).map fun e => .preconditionsEvaluated e.decision)
    { s with accepted := some accepted }
  /-- What a device would answer to other queries makes no difference. -/
  unasked : ∀ other : DeviceAnswers, (∀ fact ∈ asked, other fact = device fact) →
    ∀ log ended, Runs (evaluateDevice accepted start).run log ended →
      (∀ x ∈ log, x.IsOf other) → log = asked.map device.told ∧ ended = result
  /-- If no query failed, the evaluation on known facts finds the same, whatever the facts are that
  were not asked for. -/
  found : ∀ e, result = .ok e → (∃ facts : Facts, facts.AgreesWith device asked) ∧
    ∀ facts : Facts, facts.AgreesWith device asked →
      start.evaluate accepted.params accepted.caller facts = e

/-- On every device, an evaluation goes as it should. -/
theorem evaluateDevice_refines (device : DeviceAnswers) (accepted : AcceptedRequest)
    (start : Precondition) : ∃ asked result, Refines device accepted start asked result := by
  let reached := (evaluateDevice accepted start).run.answered (withDevice device)
  have run : Runs (evaluateDevice accepted start).run reached.1 reached.2 := runs_answered _ _
  have told : ∀ x ∈ reached.1, x.IsOf device := fun x member =>
    isOf_of_told (answered_told _ _ x member)
  obtain ⟨passed, rest, ran, split, passes, stops, log⟩ := ofChecks_stopsAt run told
  have order : start.checksFrom = passed ++ rest :=
    start.andFollowing_eq_checksFrom.symm.trans split
  rw [log] at run
  refine ⟨_, reached.2, ⟨passed, rest, ran, order, passes, stops, rfl⟩, run,
    runs_evaluate_of_runs run, ?_, ?_⟩
  · intro other same log ended again told
    exact runs_unasked run same again told
  · intro e same
    rw [same] at stops
    have answered : ∀ fact ∈ ran.flatMap (Precondition.queries accepted.caller device),
        ∃ value, device fact = .ok value := by
      intro fact member
      obtain ⟨p, inside, asked⟩ := List.mem_flatMap.1 member
      exact stops.answered passes p inside fact asked
    refine ⟨⟨device.known, DeviceAnswers.known_agreesWith answered⟩, ?_⟩
    intro facts agrees
    have found := stops.ofChecks_eq passes agrees
    rw [← split] at found
    exact found

-- A failed check of the owner ends the evaluation, though every later query would fail.
example (params : Params) :
    (evaluateDevice ⟨params, .primary⟩ .notYetProvisioned).run.answered
        (withDevice fun
          | .deviceProvisioned => .ok true
          | _ => .error "no answer") =
      ([⟨.device .deviceProvisioned, .ok true⟩],
        .ok ⟨.abort (.alreadyProvisioned .primary), [⟨.notYetProvisioned, .failed⟩]⟩) := rfl

end Session

end ProvisionGate
