import ProvisionGate.Abort
import ProvisionGate.Params
import ProvisionGate.Precondition.Facts

/-!
# Evaluating the preconditions

The checks run in order from a given one on.  The first that fails decides, and the checks after it
neither run nor read anything.
-/

namespace ProvisionGate

/-- What has to happen next. -/
inductive Decision where
  | proceed
  | abort (reason : AbortReason)
  | remediate (kind : RemediationKind)
  deriving DecidableEq

/-- What a check reports. -/
inductive Verdict where
  | passed
  | skipped
  | failed
  deriving DecidableEq

/-- What a check finds. -/
inductive Finding where
  | passed
  | skipped
  | failed (decision : Decision)
  deriving DecidableEq

namespace Finding

/-- The verdict of a finding. -/
def verdict : Finding → Verdict
  | passed => .passed
  | skipped => .skipped
  | failed _ => .failed

/-- What a failed check decides. -/
def decision? : Finding → Option Decision
  | failed decision => some decision
  | _ => none

end Finding

/-- A check that ran, with its verdict. -/
structure CheckRecord where
  precondition : Precondition
  verdict : Verdict
  deriving DecidableEq

/-- A decision and the checks that led to it. -/
structure Evaluation where
  decision : Decision
  trace : List CheckRecord
  deriving DecidableEq

/-- The evaluation with a check put before the others. -/
def Evaluation.after (record : CheckRecord) (e : Evaluation) : Evaluation :=
  { e with trace := record :: e.trace }

/-- Runs checks one after the other up to the first that fails. -/
def Evaluation.ofChecks {m : Type → Type} [Monad m] (check : Precondition → m Finding) :
    List Precondition → m Evaluation
  | [] => return ⟨.proceed, []⟩
  | p :: rest => do
    let finding ← check p
    match finding.decision? with
    | some decision => return ⟨decision, [⟨p, finding.verdict⟩]⟩
    | none => return (← ofChecks check rest).after ⟨p, finding.verdict⟩

namespace Precondition

/-- Runs a check, reading facts only when it needs them. -/
def checkReading {m : Type → Type} [Monad m] (read : (fact : Fact) → m fact.Value)
    (params : Params) (caller : Caller) : Precondition → m Finding
  | notYetProvisioned => do
    let provisioned : Bool ←
      match caller with
      | .primary => read .deviceProvisioned
      | .secondary => read .userSetupComplete
    return if provisioned then .failed (.abort (.alreadyProvisioned caller)) else .passed
  | factoryResetProtection =>
    match caller with
    | .secondary => return .skipped
    | .primary => do
      let size : Option UInt64 ← read .frpBlockSize
      return if size.any (0 < ·) then .failed (.abort .factoryResetProtected) else .passed
  | encryption => do
    if params.skipEncryption then return .passed
    let encrypted : Bool ← read .deviceEncrypted
    if encrypted then return .passed
    let exempt : Bool ← read .encryptionExempt
    return if exempt then .passed else .failed (.remediate .encryption)
  | network => do
    if params.wifi.hasSsid then return .passed
    let connected : Bool ← read .networkConnected
    return if connected then .passed else .failed (.remediate .network)

/-- Runs a check on known facts. -/
def check (p : Precondition) (params : Params) (caller : Caller) (facts : Facts) : Finding :=
  Id.run (p.checkReading facts.value params caller)

/-- Evaluates the checks from one on, reading facts when they are needed. -/
def evaluateReading {m : Type → Type} [Monad m] (read : (fact : Fact) → m fact.Value)
    (start : Precondition) (params : Params) (caller : Caller) : m Evaluation :=
  Evaluation.ofChecks (checkReading read params caller) start.andFollowing

/-- Evaluates the checks from one on, on known facts. -/
def evaluate (start : Precondition) (params : Params) (caller : Caller) (facts : Facts) :
    Evaluation :=
  Id.run (start.evaluateReading facts.value params caller)

/-- Reads a known fact and notes that it was read. -/
def noting (facts : Facts) (fact : Fact) : StateM (List Fact) fact.Value := do
  modify (· ++ [fact])
  return facts.value fact

/-- The facts that an evaluation reads, in order. -/
def factsRead (start : Precondition) (params : Params) (caller : Caller) (facts : Facts) :
    List Fact :=
  ((start.evaluateReading (noting facts) params caller).run []).2

/-- The facts that one check reads, in order. -/
def factsChecked (p : Precondition) (params : Params) (caller : Caller) (facts : Facts) :
    List Fact :=
  ((p.checkReading (noting facts) params caller).run []).2

theorem check_notYetProvisioned (params : Params) (caller : Caller) (facts : Facts) :
    check notYetProvisioned params caller facts =
      if (match caller with
        | .primary => facts.deviceProvisioned
        | .secondary => facts.userSetupComplete) then
        .failed (.abort (.alreadyProvisioned caller))
      else .passed := by
  cases caller <;> rfl

theorem check_factoryResetProtection (params : Params) (caller : Caller) (facts : Facts) :
    check factoryResetProtection params caller facts =
      match caller with
      | .secondary => .skipped
      | .primary =>
        if facts.frpBlockSize.any (0 < ·) then .failed (.abort .factoryResetProtected)
        else .passed := by
  cases caller <;> rfl

theorem check_encryption (params : Params) (caller : Caller) (facts : Facts) :
    check encryption params caller facts =
      if params.skipEncryption || facts.deviceEncrypted || facts.encryptionExempt then .passed
      else .failed (.remediate .encryption) := by
  simp only [check, checkReading, Facts.value]
  cases params.skipEncryption <;> cases facts.deviceEncrypted <;>
    cases facts.encryptionExempt <;> rfl

theorem check_network (params : Params) (caller : Caller) (facts : Facts) :
    check network params caller facts =
      if params.wifi.hasSsid || facts.networkConnected then .passed
      else .failed (.remediate .network) := by
  simp only [check, checkReading, Facts.value]
  cases params.wifi.hasSsid <;> cases facts.networkConnected <;> rfl

end Precondition

end ProvisionGate
