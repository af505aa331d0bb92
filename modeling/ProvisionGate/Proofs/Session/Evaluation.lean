import ProvisionGate.Session

/-!
# What an evaluation over a device finds

An evaluation stops at the first check that fails, and what a failed check decides depends on the
check and the caller alone.  So its trace is known from its decision, whatever the device answered.
-/

namespace ProvisionGate

/-- What a check decides if it fails. -/
def Precondition.failure (caller : Caller) : Precondition → Decision
  | notYetProvisioned => .abort (.alreadyProvisioned caller)
  | factoryResetProtection => .abort .factoryResetProtected
  | encryption => .remediate .encryption
  | network => .remediate .network

/-- The record of a check that does not fail.  Only the protection from a reset is ever skipped. -/
def Precondition.passedRecord (caller : Caller) (p : Precondition) : CheckRecord :=
  ⟨p, if p = .factoryResetProtection ∧ caller = .secondary then .skipped else .passed⟩

/-- A check fails with the one decision it can fail with, or it does not fail. -/
theorem Precondition.check_cases (p : Precondition) (params : Params) (caller : Caller)
    (facts : Facts) :
    p.check params caller facts = .failed (p.failure caller) ∨
      (p.check params caller facts).decision? = none ∧
        ⟨p, (p.check params caller facts).verdict⟩ = p.passedRecord caller := by
  cases p with
  | notYetProvisioned =>
    rw [check_notYetProvisioned]
    cases caller <;> simp only
    all_goals
      split
      · exact .inl rfl
      · exact .inr ⟨rfl, rfl⟩
  | factoryResetProtection =>
    rw [check_factoryResetProtection]
    cases caller with
    | secondary => exact .inr ⟨rfl, rfl⟩
    | primary =>
      simp only
      split
      · exact .inl rfl
      · exact .inr ⟨rfl, rfl⟩
  | encryption =>
    rw [check_encryption]
    split
    · exact .inr ⟨rfl, rfl⟩
    · exact .inl rfl
  | network =>
    rw [check_network]
    split
    · exact .inr ⟨rfl, rfl⟩
    · exact .inl rfl

/-- An exchange about a fact of the device. -/
def Dialogue.Exchange.IsDevice (x : Dialogue.Exchange SessionCall.Answer) : Prop :=
  ∃ fact answer, x = ⟨.device fact, answer⟩

namespace Session

open Dialogue

variable {accepted : AcceptedRequest} {p start : Precondition} {checks : List Precondition}
  {log : List (Exchange SessionCall.Answer)}

theorem runs_askDevice_iff {fact : Fact} {result : Except String fact.Value} :
    Runs (askDevice fact).run log result ↔ log = [⟨.device fact, result⟩] := by
  show Runs (.ask (SessionCall.device fact) .done) log result ↔ _
  rw [runs_ask_iff]
  constructor
  · rintro ⟨answer, rest, rfl, ended⟩
    obtain ⟨rfl, rfl⟩ := runs_done_iff.1 ended
    rfl
  · rintro rfl
    exact ⟨result, [], rfl, .done _⟩

/-- A check over a device reads its facts and then looks at them. -/
theorem runs_checkDevice_iff {result : Except String Finding} :
    Runs (checkDevice accepted p).run log result ↔
      ∃ facts, Runs (p.factsFor askDevice accepted.caller).run log facts ∧
        result = facts.map (p.check accepted.params accepted.caller) := by
  unfold checkDevice
  rw [runs_exceptBind_iff]
  constructor
  · rintro (⟨cause, read, rfl⟩ | ⟨first, second, facts, rfl, read, ended⟩)
    · exact ⟨.error cause, read, rfl⟩
    · obtain ⟨rfl, rfl⟩ := runs_done_iff.1 ended
      exact ⟨.ok facts, by simpa using read, rfl⟩
  · rintro ⟨facts, read, rfl⟩
    cases facts with
    | error cause => exact .inl ⟨cause, read, rfl⟩
    | ok facts => exact .inr ⟨log, [], facts, by simp, read, .done _⟩

/-- What a check finds. -/
theorem checkDevice_finding {finding : Finding}
    (run : Runs (checkDevice accepted p).run log (.ok finding)) :
    finding = .failed (p.failure accepted.caller) ∨
      finding.decision? = none ∧ ⟨p, finding.verdict⟩ = p.passedRecord accepted.caller := by
  obtain ⟨facts, -, found⟩ := runs_checkDevice_iff.1 run
  cases facts with
  | error cause => cases found
  | ok facts =>
    obtain rfl := Except.ok.inj found
    exact p.check_cases accepted.params accepted.caller facts

/-- The network check asks one question, also if the request names a network. -/
theorem runs_checkDevice_network_iff {result : Except String Finding} :
    Runs (checkDevice accepted .network).run log result ↔
      ∃ answer : Except String Bool, log = [⟨.device .networkConnected, answer⟩] ∧
        result = answer.map fun connected =>
          if accepted.params.wifi.hasSsid || connected then .passed
          else .failed (.remediate .network) := by
  rw [runs_checkDevice_iff]
  unfold Precondition.factsFor
  simp only [runs_exceptBind_iff]
  constructor
  · rintro ⟨facts, ⟨cause, read, rfl⟩ | ⟨first, second, connected, rfl, read, ended⟩, rfl⟩
    · exact ⟨.error cause, runs_askDevice_iff.1 read, rfl⟩
    · obtain rfl := runs_askDevice_iff.1 read
      obtain ⟨rfl, rfl⟩ := runs_done_iff.1 ended
      refine ⟨.ok connected, rfl, ?_⟩
      simp only [Except.map, Precondition.check_network]
  · rintro ⟨answer, rfl, rfl⟩
    cases answer with
    | error cause => exact ⟨.error cause, .inl ⟨cause, runs_askDevice_iff.2 rfl, rfl⟩, rfl⟩
    | ok connected =>
      refine ⟨.ok { Facts.none with networkConnected := connected },
        .inr ⟨_, [], connected, (List.append_nil _).symm, runs_askDevice_iff.2 rfl, .done _⟩, ?_⟩
      simp only [Except.map, Precondition.check_network]

/-- Facts are read from the device and nowhere else. -/
theorem factsFor_asks_device {caller : Caller} {result : Except String Facts}
    (run : Runs (p.factsFor askDevice caller).run log result) : ∀ x ∈ log, x.IsDevice := by
  have one {fact : Fact} {next : fact.Value → ExceptT String (Dialogue SessionCall.Answer) Facts}
      {log : List (Exchange SessionCall.Answer)} {result : Except String Facts}
      (rest : ∀ answer log, Runs (next answer).run log result → ∀ x ∈ log, x.IsDevice)
      (run : Runs (askDevice fact >>= next).run log result) : ∀ x ∈ log, x.IsDevice := by
    rcases runs_exceptBind_iff.1 run with
      ⟨cause, read, rfl⟩ | ⟨first, second, answer, rfl, read, ended⟩
    · obtain rfl := runs_askDevice_iff.1 read
      simp [Exchange.IsDevice]
    · obtain rfl := runs_askDevice_iff.1 read
      intro x member
      rcases List.mem_append.1 member with here | later
      · exact ⟨fact, .ok answer, by simpa using here⟩
      · exact rest answer second ended x later
  have none {facts : Facts} {log : List (Exchange SessionCall.Answer)}
      {result : Except String Facts}
      (run : Runs (pure facts : ExceptT String (Dialogue SessionCall.Answer) Facts).run log result) :
      ∀ x ∈ log, x.IsDevice := by
    obtain ⟨rfl, -⟩ := runs_done_iff.1 run
    simp
  cases p with
  | notYetProvisioned => cases caller <;> exact one (fun _ _ => none) run
  | factoryResetProtection =>
    cases caller with
    | primary => exact one (fun _ _ => none) run
    | secondary => exact none run
  | encryption =>
    refine one (fun encrypted log ended => ?_) run
    cases encrypted with
    | true => exact none ended
    | false => exact one (fun _ _ => none) ended
  | network => exact one (fun _ _ => none) run

/-- Checks one after the other: the first check first, and the others only if it does not fail. -/
theorem runs_ofChecks_cons {result : Except String Evaluation}
    (run : Runs (Evaluation.ofChecks (checkDevice accepted) (p :: checks)).run log result) :
    (∃ cause, Runs (checkDevice accepted p).run log (.error cause) ∧ result = .error cause) ∨
    (Runs (checkDevice accepted p).run log (.ok (.failed (p.failure accepted.caller))) ∧
      result = .ok ⟨p.failure accepted.caller, [⟨p, .failed⟩]⟩) ∨
    ∃ finding first second others, log = first ++ second ∧ finding.decision? = none ∧
      Runs (checkDevice accepted p).run first (.ok finding) ∧
      Runs (Evaluation.ofChecks (checkDevice accepted) checks).run second others ∧
      result = others.map (·.after (p.passedRecord accepted.caller)) := by
  unfold Evaluation.ofChecks at run
  rcases runs_exceptBind_iff.1 run with
    ⟨cause, checked, rfl⟩ | ⟨first, second, finding, rfl, checked, rest⟩
  · exact .inl ⟨cause, checked, rfl⟩
  · rcases checkDevice_finding checked with rfl | ⟨passes, record⟩
    · obtain ⟨rfl, rfl⟩ := runs_done_iff.1 rest
      exact .inr (.inl ⟨by simpa using checked, rfl⟩)
    · rw [passes] at rest
      refine .inr (.inr ⟨finding, first, second, ?_⟩)
      rcases runs_exceptBind_iff.1 rest with
        ⟨cause, evaluated, rfl⟩ | ⟨third, fourth, e, rfl, evaluated, ended⟩
      · exact ⟨.error cause, rfl, passes, checked, evaluated, rfl⟩
      · obtain ⟨rfl, rfl⟩ := runs_done_iff.1 ended
        refine ⟨.ok e, by simp, passes, checked, by simpa using evaluated, ?_⟩
        rw [record]
        rfl

/-- An evaluation passes every check and proceeds, or it passes the checks before one that fails
and decides. -/
theorem ofChecks_cases {e : Evaluation}
    (run : Runs (Evaluation.ofChecks (checkDevice accepted) checks).run log (.ok e)) :
    e = ⟨.proceed, checks.map (Precondition.passedRecord accepted.caller)⟩ ∨
      ∃ before q behind, checks = before ++ q :: behind ∧
        e = ⟨q.failure accepted.caller,
          before.map (Precondition.passedRecord accepted.caller) ++ [⟨q, .failed⟩]⟩ := by
  induction checks generalizing log e with
  | nil =>
    obtain ⟨-, same⟩ := runs_done_iff.1 run
    exact .inl (Except.ok.inj same)
  | cons p checks ih =>
    rcases runs_ofChecks_cons run with
      ⟨cause, -, same⟩ | ⟨-, same⟩ | ⟨finding, first, second, others, -, -, -, rest, same⟩
    · cases same
    · obtain rfl := Except.ok.inj same
      exact .inr ⟨[], p, checks, rfl, rfl⟩
    · cases others with
      | error cause => cases same
      | ok inner =>
        obtain rfl := Except.ok.inj same
        rcases ih rest with rfl | ⟨before, q, behind, rfl, rfl⟩
        · exact .inl rfl
        · exact .inr ⟨p :: before, q, behind, rfl, rfl⟩

/-- An evaluation asks about the device and nothing else. -/
theorem ofChecks_asks_device {result : Except String Evaluation}
    (run : Runs (Evaluation.ofChecks (checkDevice accepted) checks).run log result) :
    ∀ x ∈ log, x.IsDevice := by
  have checked {p : Precondition} {log : List (Exchange SessionCall.Answer)}
      {result : Except String Finding} (run : Runs (checkDevice accepted p).run log result) :
      ∀ x ∈ log, x.IsDevice := by
    obtain ⟨facts, read, -⟩ := runs_checkDevice_iff.1 run
    exact factsFor_asks_device read
  induction checks generalizing log result with
  | nil =>
    obtain ⟨rfl, -⟩ := runs_done_iff.1 run
    simp
  | cons p checks ih =>
    rcases runs_ofChecks_cons run with
      ⟨cause, only, -⟩ | ⟨only, -⟩ | ⟨finding, first, second, others, rfl, -, head, rest, -⟩
    · exact checked only
    · exact checked only
    · intro x member
      rcases List.mem_append.1 member with here | later
      · exact checked head x here
      · exact ih rest x later

/-- An evaluation that ends with the network check and proceeds asked about the network last, and
was told that there is one unless the request names one. -/
theorem ofChecks_network_passed {e : Evaluation}
    (run : Runs (Evaluation.ofChecks (checkDevice accepted) (checks ++ [.network])).run log
      (.ok e))
    (proceeds : e.decision = .proceed) :
    ∃ before connected, log = before ++ [⟨.device .networkConnected, .ok connected⟩] ∧
      (accepted.params.wifi.hasSsid = true ∨ connected = true) := by
  induction checks generalizing log e with
  | nil =>
    rcases runs_ofChecks_cons run with
      ⟨cause, -, same⟩ | ⟨-, same⟩ | ⟨finding, first, second, others, rfl, passes, head, rest, -⟩
    · cases same
    · obtain rfl := Except.ok.inj same
      cases proceeds
    · obtain ⟨rfl, -⟩ := runs_done_iff.1 rest
      obtain ⟨answer, rfl, found⟩ := runs_checkDevice_network_iff.1 head
      cases answer with
      | error cause => cases found
      | ok connected =>
        refine ⟨[], connected, rfl, ?_⟩
        obtain rfl := Except.ok.inj found
        by_cases met : (accepted.params.wifi.hasSsid || connected) = true
        · exact Bool.or_eq_true_iff.1 met
        · dsimp only at passes
          rw [if_neg met] at passes
          cases passes
  | cons p checks ih =>
    rcases runs_ofChecks_cons run with
      ⟨cause, -, same⟩ | ⟨-, same⟩ | ⟨finding, first, second, others, rfl, -, -, rest, same⟩
    · cases same
    · obtain rfl := Except.ok.inj same
      cases p <;> cases proceeds
    · cases others with
      | error cause => cases same
      | ok inner =>
        obtain rfl := Except.ok.inj same
        obtain ⟨before, connected, rfl, met⟩ := ih rest proceeds
        exact ⟨first ++ before, connected, by simp, met⟩

theorem evaluateDevice_asks_device {result : Except String Evaluation}
    (run : Runs (evaluateDevice accepted start).run log result) : ∀ x ∈ log, x.IsDevice :=
  ofChecks_asks_device run

/-- The network check is the last one whichever check an evaluation begins with. -/
theorem evaluateDevice_network_passed {e : Evaluation}
    (run : Runs (evaluateDevice accepted start).run log (.ok e))
    (proceeds : e.decision = .proceed) :
    ⟨.network, .passed⟩ ∈ e.trace ∧
    ∃ before connected, log = before ++ [⟨.device .networkConnected, .ok connected⟩] ∧
      (accepted.params.wifi.hasSsid = true ∨ connected = true) := by
  obtain ⟨others, last⟩ : ∃ others, start.andFollowing = others ++ [.network] := by
    cases start with
    | notYetProvisioned => exact ⟨[.notYetProvisioned, .factoryResetProtection, .encryption], rfl⟩
    | factoryResetProtection => exact ⟨[.factoryResetProtection, .encryption], rfl⟩
    | encryption => exact ⟨[.encryption], rfl⟩
    | network => exact ⟨[], rfl⟩
  unfold evaluateDevice at run
  rw [last] at run
  refine ⟨?_, ofChecks_network_passed run proceeds⟩
  rcases ofChecks_cases run with rfl | ⟨before, q, behind, -, rfl⟩
  · simp [Precondition.passedRecord]
  · cases q <;> cases proceeds

/-- The evaluation of the network check alone. -/
theorem runs_evaluateDevice_network {result : Except String Evaluation}
    (run : Runs (evaluateDevice accepted .network).run log result) :
    ∃ answer : Except String Bool, log = [⟨.device .networkConnected, answer⟩] ∧
      result.map Evaluation.decision = answer.map fun connected =>
        if accepted.params.wifi.hasSsid || connected then .proceed else .remediate .network := by
  have run : Runs (Evaluation.ofChecks (checkDevice accepted) [.network]).run log result := run
  rcases runs_ofChecks_cons run with
    ⟨cause, only, rfl⟩ | ⟨only, rfl⟩ | ⟨finding, first, second, others, rfl, passes, head, rest, rfl⟩
  · obtain ⟨answer, rfl, found⟩ := runs_checkDevice_network_iff.1 only
    cases answer with
    | error other => exact ⟨.error other, rfl, by cases found; rfl⟩
    | ok connected => cases found
  · obtain ⟨answer, rfl, found⟩ := runs_checkDevice_network_iff.1 only
    cases answer with
    | error other => cases found
    | ok connected =>
      refine ⟨.ok connected, rfl, ?_⟩
      by_cases met : (accepted.params.wifi.hasSsid || connected) = true
      · simp [Except.map, met] at found
      · simp [Except.map, met, Precondition.failure]
  · obtain ⟨rfl, rfl⟩ := runs_done_iff.1 rest
    obtain ⟨answer, rfl, found⟩ := runs_checkDevice_network_iff.1 head
    cases answer with
    | error other => cases found
    | ok connected =>
      refine ⟨.ok connected, rfl, ?_⟩
      obtain rfl := Except.ok.inj found
      by_cases met : (accepted.params.wifi.hasSsid || connected) = true
      · simp [Except.map, met, Evaluation.after]
      · simp [met, Finding.decision?] at passes

/-- The decisions of an evaluation of all checks. -/
theorem evaluateDevice_first_cases {e : Evaluation}
    (run : Runs (evaluateDevice accepted .notYetProvisioned).run log (.ok e)) :
    (∃ reason, e.decision = .abort reason) ∨
    ((∀ q ∈ [.notYetProvisioned, .factoryResetProtection],
        Precondition.passedRecord accepted.caller q ∈ e.trace) ∧
      (e.decision = .remediate .encryption ∨
        ⟨.encryption, .passed⟩ ∈ e.trace ∧
          (e.decision = .remediate .network ∨ e.decision = .proceed))) := by
  have checks : Precondition.notYetProvisioned.andFollowing =
      [.notYetProvisioned, .factoryResetProtection, .encryption, .network] := rfl
  rcases ofChecks_cases run with rfl | ⟨before, q, behind, split, rfl⟩
  · refine .inr ⟨?_, .inr ⟨?_, .inr rfl⟩⟩
    · simp [checks]
    · simp [checks, Precondition.passedRecord]
  · rw [checks] at split
    cases q with
    | notYetProvisioned => exact .inl ⟨_, rfl⟩
    | factoryResetProtection => exact .inl ⟨_, rfl⟩
    | encryption =>
      have known : before = [.notYetProvisioned, .factoryResetProtection] := by
        rcases before with _ | ⟨a, _ | ⟨b, _ | ⟨c, _ | ⟨d, rest⟩⟩⟩⟩ <;> simp_all
      subst known
      exact .inr ⟨by simp, .inl rfl⟩
    | network =>
      have known : before = [.notYetProvisioned, .factoryResetProtection, .encryption] := by
        rcases before with _ | ⟨a, _ | ⟨b, _ | ⟨c, _ | ⟨d, rest⟩⟩⟩⟩ <;> simp_all
      subst known
      exact .inr ⟨by simp, .inr ⟨by simp [Precondition.passedRecord], .inl rfl⟩⟩

end Session

end ProvisionGate
