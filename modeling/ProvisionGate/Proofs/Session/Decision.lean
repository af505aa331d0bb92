import ProvisionGate.Proofs.Session.Device
import ProvisionGate.Proofs.Session.Recovery

/-!
# Sessions whose surroundings are known

When the surroundings tell known facts about the device, let every launch succeed and never fail,
where a chain of moves comes to a halt is known from its first event: each move hands the halt on to
the event that follows, and the last one reaches it.
-/

namespace ProvisionGate

/-- The caller's provisioning was completed before. -/
def Facts.provisioned (facts : Facts) : Caller → Bool
  | .primary => facts.deviceProvisioned
  | .secondary => facts.userSetupComplete

/-! ## What the checks decide -/

namespace Precondition

variable {params : Params} {caller : Caller} {facts : Facts}

theorem decision_ofChecks_cons {check : Precondition → Id Finding} {p : Precondition}
    {checks : List Precondition} :
    (Id.run (Evaluation.ofChecks check (p :: checks))).decision =
      ((Id.run (check p)).decision?).getD (Id.run (Evaluation.ofChecks check checks)).decision := by
  rw [ofChecks_cons]
  cases (Id.run (check p)).decision? <;> rfl

/-- The network check decides alone. -/
theorem decision_evaluate_network :
    (network.evaluate params caller facts).decision =
      if facts.networkConnected = false ∧ params.wifi.ssid.getD "" = "" then .remediate .network
      else .proceed := by
  have one : (network.evaluate params caller facts).decision =
      (network.check params caller facts).decision?.getD .proceed := decision_ofChecks_cons
  rw [one, check_network]
  simp only [← Wifi.hasSsid_eq_false_iff]
  cases params.wifi.hasSsid <;> cases facts.networkConnected <;> rfl

/-- The four checks decide one after the other. -/
theorem decision_evaluate_first :
    (notYetProvisioned.evaluate params caller facts).decision =
      if facts.provisioned caller then .abort (.alreadyProvisioned caller)
      else if caller = .primary ∧ facts.frpBlockSize.any (0 < ·) then .abort .factoryResetProtected
      else if facts.deviceEncrypted = false ∧ facts.encryptionExempt = false ∧
          params.skipEncryption = false then .remediate .encryption
      else (network.evaluate params caller facts).decision := by
  have all : (notYetProvisioned.evaluate params caller facts).decision =
      (notYetProvisioned.check params caller facts).decision?.getD
        ((factoryResetProtection.check params caller facts).decision?.getD
          ((encryption.check params caller facts).decision?.getD
            (network.evaluate params caller facts).decision)) :=
    decision_ofChecks_cons.trans (congrArg _ (decision_ofChecks_cons.trans
      (congrArg _ decision_ofChecks_cons)))
  have encrypts (rest : Decision) : (encryption.check params caller facts).decision?.getD rest =
      if facts.deviceEncrypted = false ∧ facts.encryptionExempt = false ∧
          params.skipEncryption = false then .remediate .encryption
      else rest := by
    rw [check_encryption]
    cases params.skipEncryption <;> cases facts.deviceEncrypted <;>
      cases facts.encryptionExempt <;> rfl
  rw [all, encrypts, check_notYetProvisioned, check_factoryResetProtection]
  cases caller with
  | primary =>
    simp only [Facts.provisioned, true_and]
    cases facts.deviceProvisioned <;> cases facts.frpBlockSize.any (0 < ·) <;> rfl
  | secondary =>
    simp only [Facts.provisioned, reduceCtorEq, false_and, if_false]
    cases facts.userSetupComplete <;> rfl

end Precondition

namespace Session

open SessionStep

/-- The surroundings tell who calls and the facts about the device, a launch succeeds, and nothing
fails. -/
def Told (facts : Facts) (caller : Caller) : Dialogue.Exchange SessionCall.Answer → Prop
  | ⟨.callerClass, answer⟩ => answer = .ok caller
  | ⟨.device fact, answer⟩ => answer = .ok (facts.value fact)
  | ⟨.launch _, answer⟩ => answer = .ok .succeeded
  | x => ¬ (Moment.exchanged x).Fails

variable {facts : Facts} {caller : Caller} {s middle after : Session} {operation : Operation}
  {event follower : AttemptEvent} {log : SessionLog} {taken : AcceptedRequest}
  {start : Precondition}

theorem Told.not_fails {x : Dialogue.Exchange SessionCall.Answer} (told : Told facts caller x) :
    ¬ (Moment.exchanged x).Fails := by
  obtain ⟨call, answer⟩ := x
  cases call with
  | callerClass =>
    obtain rfl : answer = .ok caller := told
    exact id
  | device fact =>
    obtain rfl : answer = .ok (facts.value fact) := told
    exact id
  | launch params => exact id
  | _ => exact told

theorem not_fails_of_told (told : ∀ x ∈ log, Told facts caller x) : ∀ m ∈ moments log, ¬ m.Fails := by
  intro m member
  obtain ⟨x, inside, rfl⟩ := List.mem_map.1 member
  exact (told x inside).not_fails

/-! ## What a session finds out -/

/-- An evaluation over a device is the one on the facts. -/
theorem evaluateDevice_told {e : Evaluation}
    (run : Dialogue.Runs (evaluateDevice taken start).run log (.ok e))
    (told : ∀ x ∈ log, Told facts caller x) : e = start.evaluate taken.params taken.caller facts := by
  let device : DeviceAnswers := fun fact => .ok (facts.value fact)
  have answers : ∀ x ∈ log, x.IsOf device := by
    intro x member
    obtain ⟨fact, answer, rfl⟩ := evaluateDevice_asks_device run x member
    exact told _ member
  obtain ⟨passed, rest, ran, split, passes, stops, -⟩ := ofChecks_stopsAt run answers
  have agrees (asked : List Fact) : facts.AgreesWith device asked := fun _ _ => rfl
  have found := stops.ofChecks_eq passes (agrees _)
  rw [← split] at found
  exact found.symm

/-! ## Where a chain comes to a halt -/

/-- Where an attempt comes to a halt. -/
inductive Halt where
  | aborted (reason : AbortReason)
  | waits (kind : RemediationKind)
  | asks
  | launched

/-- The attempt came to a halt there. -/
def Halt.Reached : Halt → Session → Prop
  | aborted reason, s => s.state = .aborted reason
  | waits kind, s =>
    ∃ ticket, s.desk.outstanding = some ticket ∧ ticket.kind = kind ∧
      s.state = .awaiting kind ticket.id
  | asks, s => s.state = .awaitingConsent
  | launched, s => s.state = .done .succeeded

/-- The halt after the consent step. -/
def Halt.beyondChecks (taken : AcceptedRequest) (gate : ConsentGate) : Halt :=
  if gate.isRequired taken.params taken.caller then asks else launched

/-- The halt after a decision. -/
def Halt.decided (taken : AcceptedRequest) (gate : ConsentGate) : Decision → Halt
  | .proceed => beyondChecks taken gate
  | .abort reason => aborted reason
  | .remediate kind => waits kind

/-- An event leads to a halt, for an accepted request and a gate. -/
inductive Leads (facts : Facts) (taken : AcceptedRequest) (gate : ConsentGate) :
    AttemptEvent → Halt → Prop
  | accepted : Leads facts taken gate .requestAccepted
      (.decided taken gate
        (Precondition.notYetProvisioned.evaluate taken.params taken.caller facts).decision)
  | rejected {rejection : Rejection} :
      Leads facts taken gate (.requestRejected rejection) (.aborted (.invalidRequest rejection))
  | resumed : Leads facts taken gate (.remediationResolved (.reevaluate .network))
      (.decided taken gate (Precondition.network.evaluate taken.params taken.caller facts).decision)
  | givenUp {reason : AbortReason} :
      Leads facts taken gate (.remediationResolved (.abort reason)) (.aborted reason)
  | evaluated {decision : Decision} :
      Leads facts taken gate (.preconditionsEvaluated decision) (.decided taken gate decision)
  | handedOver {kind : RemediationKind} {id : TicketId} :
      Leads facts taken gate (.remediationRequested kind id) (.waits kind)
  | required : Leads facts taken gate .consentRequired .asks
  | unneeded : Leads facts taken gate .consentNotRequired .launched
  | confirmed : Leads facts taken gate .consentConfirmed .launched
  | finished : Leads facts taken gate (.provisioningFinished .succeeded) .launched

variable {halt : Halt}

theorem launchEnd_told {params : Params} {answer : Except String LaunchResult}
    (told : Told facts caller ⟨.launch params, answer⟩) : launchEnd answer = .succeeded := by
  obtain rfl : answer = .ok .succeeded := told
  rfl

/-- The event that follows from a move leads where the one before it led. -/
theorem Move.leads (move : Move s event log (.ok (some follower)) after)
    (leads : Leads facts taken s.gate event halt) (accepted : ∀ other ∈ s.accepted, other = taken)
    (told : ∀ x ∈ log, Told facts caller x) : Leads facts taken after.gate follower halt := by
  cases move with
  | @evaluated _ other start log e begins held run =>
    obtain rfl := accepted other held
    obtain ⟨asked, -⟩ := List.forall_mem_append.1 told
    obtain rfl := evaluateDevice_told run asked
    generalize s.state = state at begins
    cases begins with
    | accepted =>
      cases leads with
      | accepted => exact .evaluated
    | retried => cases leads
    | takenUp => cases leads
    | resolved =>
      cases leads with
      | resumed => exact .evaluated
  | @proceeded other start state evaluates held =>
    obtain rfl := accepted other held
    cases leads with
    | evaluated =>
      show Leads _ _ s.gate _ (Halt.beyondChecks _ _)
      unfold Halt.beyondChecks
      split
      · exact .required
      · exact .unneeded
  | handedOver =>
    cases leads with
    | evaluated => exact .handedOver
  | confirmed =>
    cases leads with
    | confirmed =>
      have launched := told _ (List.mem_cons_of_mem _ (List.mem_cons_of_mem _ List.mem_cons_self))
      have succeeded := launchEnd_told launched
      rw [succeeded]
      exact .finished
  | launched =>
    cases leads with
    | unneeded =>
      have succeeded := launchEnd_told (told _ List.mem_cons_self)
      rw [succeeded]
      exact .finished

/-- A move after which nothing follows comes to the halt to which its event led. -/
theorem Move.reached (move : Move s event log (.ok none) after) (expects : s.Expects event)
    (heeds : s.Heeds event) (leads : Leads facts taken s.gate event halt) : halt.Reached after := by
  cases move with
  | ended terminal =>
    rw [heeds.1] at terminal
    cases terminal
  | ignored active unexpected => exact absurd unexpected heeds.2
  | aborted ends =>
    generalize s.state = state at ends
    cases ends with
    | rejected =>
      cases leads with
      | rejected => rfl
    | failed =>
      cases leads with
      | evaluated => rfl
    | resolved =>
      cases leads with
      | givenUp => rfl
  | suspended =>
    cases leads with
    | handedOver =>
      cases expects with
      | handedOver _ _ out => exact ⟨_, out, rfl, rfl⟩
  | prompted prompts =>
    generalize s.state = state at prompts
    cases prompts with
    | required =>
      cases leads with
      | required => rfl
    | again => cases leads
  | finished =>
    cases leads with
    | finished => rfl

/-- The gate is as it was unless the user confirms. -/
theorem Move.gate_of_ne (move : Move s event log (.ok (some follower)) after)
    (unconfirmed : event ≠ .consentConfirmed) : after.gate = s.gate ∧ follower ≠ .consentConfirmed := by
  cases move with
  | proceeded =>
    refine ⟨rfl, ?_⟩
    split <;> simp
  | confirmed => exact absurd rfl unconfirmed
  | _ => exact ⟨rfl, by simp⟩

theorem Move.gate_of_stopped (move : Move s event log (.ok none) after) : after.gate = s.gate := by
  cases move <;> rfl

/-- A chain comes to the halt to which its first event leads. -/
theorem Chain.reached {result : Except SessionError Unit} (chain : Chain s event log result after)
    (expects : s.Expects event) (heeds : s.Heeds event)
    (leads : Leads facts taken s.gate event halt) (accepted : ∀ other ∈ s.accepted, other = taken)
    (told : ∀ x ∈ log, Told facts caller x) :
    result = .ok () ∧ halt.Reached after ∧ after.accepted = s.accepted ∧
      (event ≠ .consentConfirmed → after.gate = s.gate) := by
  induction chain with
  | stopped move =>
    exact ⟨rfl, move.reached expects heeds leads, move.same_request.2, fun _ => move.gate_of_stopped⟩
  | failed move =>
    obtain ⟨m, member, fails⟩ := move.fails
    exact absurd fails (not_fails_of_told told m member)
  | followed move rest ih =>
    obtain ⟨before, behind⟩ := List.forall_mem_append.1 told
    have same := move.same_request.2
    obtain ⟨succeeded, reached, kept, gate⟩ := ih (move.expects expects) move.heeds
      (move.leads leads accepted before) (by rwa [same]) behind
    refine ⟨succeeded, reached, kept.trans same, fun unconfirmed => ?_⟩
    obtain ⟨first, later⟩ := move.gate_of_ne unconfirmed
    rw [gate later, first]

/-! ## Calls -/

/-- The consent that counts for a request that is accepted: the one that was loaded if its attempt
is taken up again, else none. -/
inductive Recalls (request : Request) (params : Params) (log : SessionLog) : Bool → Prop
  | anew (new : request.resumedAttempt = none) : Recalls request params log false
  | again {attempt : AttemptId} {recorded : Bool} (resumed : request.resumedAttempt = some attempt)
      (loaded : ⟨.loadConsent attempt params.adminOrEmpty, .ok recorded⟩ ∈ log) :
      Recalls request params log recorded

/-- Where a start leads in a session that was just opened. -/
inductive Started (facts : Facts) (caller : Caller) (request : Request) (log : SessionLog)
    (after : Session) : Prop
  | rejected {fault : RequestFault} (parsed : request.parse = .error fault)
      (state : after.state = .aborted (.invalidRequest fault.rejection))
  | accepted {params : Params} {recorded : Bool} (parsed : request.parse = .ok params)
      (recalls : Recalls request params log recorded)
      (accepted : after.accepted = some ⟨params, caller⟩) (gate : after.gate = ⟨recorded⟩)
      (reached : Halt.Reached (.decided ⟨params, caller⟩ ⟨recorded⟩
        (Precondition.notYetProvisioned.evaluate params caller facts).decision) after)

variable {attempt : AttemptId} {result : Except SessionError AttemptOutcome}

/-- A start is never refused. -/
theorem Opening.not_refused {request : Request} {error : SessionError}
    (opening : Opening (.start request) s log (.error error) after) (state : s.state = .init)
    (told : ∀ x ∈ log, Told facts caller x) : False := by
  have failure : error.IsFailure := by
    cases opening with
    | alreadyStarted begun => exact absurd state begun
    | _ => trivial
  obtain ⟨-, -, -, -, m, member, fails⟩ := opening.failure_cases failure
  exact not_fails_of_told told m member fails

theorem caller_told {known : Caller} (asked : ⟨.callerClass, .ok known⟩ ∈ log)
    (told : ∀ x ∈ log, Told facts caller x) : known = caller :=
  Except.ok.inj (told ⟨.callerClass, .ok known⟩ asked : Except.ok known = Except.ok caller)

theorem start_told {request : Request}
    (run : Runs (Session.start request) (opened attempt) log result after)
    (told : ∀ x ∈ log, Told facts caller x) :
    result = .ok after.state.outcome ∧ after.Resting ∧ Started facts caller request log after := by
  have resting := opened_resting attempt
  have call : Call (.start request) (opened attempt) log result after := Call.of_runs resting run
  have rests := call.resting resting
  cases call with
  | refused opening => exact (opening.not_refused rfl told).elim
  | answered opening => cases opening
  | driven opening chain =>
    have expects := opening.expects resting
    have heeds := opening.heeds .start
    obtain ⟨before, behind⟩ := List.forall_mem_append.1 told
    cases opening with
    | @rejected _ _ _ _ fault state names parsed =>
      have leads : Leads facts ⟨Params.empty, caller⟩ ConsentGate.closed
          (.requestRejected fault.rejection) (.aborted (.invalidRequest fault.rejection)) := .rejected
      obtain ⟨rfl, reached, -⟩ := chain.reached expects heeds leads (by simp [opened]) behind
      exact ⟨rfl, rests, .rejected parsed reached⟩
    | @acceptedAnew _ _ _ params known state new parsed =>
      obtain rfl : known = caller := caller_told (by simp) before
      obtain ⟨rfl, reached, accepted, gate⟩ :=
        chain.reached expects heeds .accepted (fun _ same => (Option.some.inj same).symm) behind
      exact ⟨rfl, rests, .accepted parsed (.anew new) accepted (gate (by simp)) reached⟩
    | @acceptedAgain _ _ _ params known recorded state resumed parsed =>
      obtain rfl : known = caller := caller_told (by simp) before
      obtain ⟨rfl, reached, accepted, gate⟩ :=
        chain.reached expects heeds .accepted (fun _ same => (Option.some.inj same).symm) behind
      exact ⟨rfl, rests,
        .accepted parsed (.again resumed (by simp)) accepted (gate (by simp)) reached⟩

/-- The halt after a remediation. -/
def Halt.resolved (facts : Facts) (taken : AcceptedRequest) (gate : ConsentGate) :
    ResumeSignal → Halt
  | .reevaluate start => decided taken gate (start.evaluate taken.params taken.caller facts).decision
  | .abort reason => aborted reason

theorem leads_resolved {gate : ConsentGate} (kind : RemediationKind) (outcome : RemediationOutcome) :
    Leads facts taken gate (.remediationResolved (kind.resumeSignal outcome))
      (.resolved facts taken gate (kind.resumeSignal outcome)) := by
  cases signal : kind.resumeSignal outcome with
  | reevaluate start =>
    obtain rfl := RemediationKind.reevaluate_network signal
    exact .resumed
  | abort reason => exact .givenUp

/-- A session whose ticket comes back heeds the outcome. -/
theorem resolved_heeds {ticket : Ticket} (resting : s.Resting)
    (out : s.desk.outstanding = some ticket) (outcome : RemediationOutcome) :
    Heeds { s with desk := .empty } (.remediationResolved (ticket.kind.resumeSignal outcome)) := by
  obtain ⟨state, -⟩ := resting.desk ticket out
  generalize ticket.kind = kind at state ⊢
  have active : s.state.isTerminal = false := by
    rw [state]
    cases kind <;> rfl
  have resumes : s.state.transition (.remediationResolved (kind.resumeSignal outcome)) =
      AttemptState.resumed (kind.resumeSignal outcome) := by
    rw [state]
    cases kind <;> rfl
  cases signal : kind.resumeSignal outcome with
  | reevaluate start => exact heeds_of_commands active (by rw [← signal, resumes, signal]; rfl)
  | abort reason => exact heeds_of_commands active (by rw [← signal, resumes, signal]; rfl)

theorem remediated_told {ticket : Ticket} {outcome : RemediationOutcome} (resting : s.Resting)
    (out : s.desk.outstanding = some ticket) (accepted : s.accepted = some taken)
    (run : Runs (remediated ticket.id outcome) s log result after)
    (told : ∀ x ∈ log, Told facts caller x) :
    result = .ok after.state.outcome ∧ after.Resting ∧ after.accepted = some taken ∧
      after.gate = s.gate ∧
      (Halt.resolved facts taken s.gate (ticket.kind.resumeSignal outcome)).Reached after := by
  have call : Call (.remediated ticket.id outcome) s log result after := Call.of_runs resting run
  have rests := call.resting resting
  generalize named : ticket.id = id at call
  cases call with
  | refused opening =>
    cases opening with
    | unknownTicket unknown => exact absurd named (unknown ticket out)
  | answered opening => cases opening
  | driven opening chain =>
    have expects := opening.expects resting
    obtain ⟨-, behind⟩ := List.forall_mem_append.1 told
    cases opening with
    | @resolved _ other _ held =>
      obtain rfl := Option.some.inj (out.symm.trans held)
      have heeds := resolved_heeds resting out outcome
      have known : ∀ other ∈ s.accepted, other = taken := by
        intro other member
        exact Option.some.inj (member.symm.trans accepted)
      obtain ⟨rfl, reached, kept, gate⟩ :=
        chain.reached expects heeds (leads_resolved ticket.kind outcome) known behind
      exact ⟨rfl, rests, kept.trans accepted, gate (by simp), reached⟩

theorem confirmConsent_told (resting : s.Resting) (asked : s.state = .awaitingConsent)
    (run : Runs confirmConsent s log result after) (told : ∀ x ∈ log, Told facts caller x) :
    result = .ok (.completed .succeeded) := by
  have call : Call .confirmConsent s log result after := Call.of_runs resting run
  obtain ⟨taken, accepted⟩ := resting.taken (by rw [asked]; rfl)
  cases call with
  | refused opening => cases opening
  | answered opening => cases opening
  | driven opening chain =>
    have expects := opening.expects resting
    have heeds := opening.heeds (by rw [asked]; exact .consent)
    obtain ⟨-, behind⟩ := List.forall_mem_append.1 told
    cases opening with
    | confirmed =>
      have known : ∀ other ∈ s.accepted, other = taken := by
        intro other member
        exact Option.some.inj (member.symm.trans accepted)
      obtain ⟨rfl, reached, -⟩ := chain.reached expects heeds .confirmed known behind
      have launched : after.state = .done .succeeded := reached
      rw [launched]
      rfl

theorem Move.cancelled {moved : Except SessionError (Option AttemptEvent)}
    (move : Move s .consentCancelled log moved after) : moved = .ok none ∧ after = s := by
  cases move with
  | ended => exact ⟨rfl, rfl⟩
  | ignored => exact ⟨rfl, rfl⟩
  | evaluated begins =>
    generalize s.state = state at begins
    cases begins
  | notEvaluated begins =>
    generalize s.state = state at begins
    cases begins
  | aborted ends =>
    generalize s.state = state at ends
    cases ends
  | prompted prompts =>
    generalize s.state = state at prompts
    cases prompts
  | notPrompted prompts =>
    generalize s.state = state at prompts
    cases prompts

/-- A cancelled consent leaves the question open. -/
theorem cancelConsent_told (resting : s.Resting) (asked : s.state = .awaitingConsent)
    (run : Runs cancelConsent s log result after) :
    result = .ok (.pending .awaitingConsent) := by
  have call : Call .cancelConsent s log result after := Call.of_runs resting run
  cases call with
  | refused opening => cases opening
  | answered opening => cases opening
  | driven opening chain =>
    cases opening with
    | cancelled =>
      cases chain with
      | stopped move =>
        obtain ⟨-, rfl⟩ := move.cancelled
        rw [asked]
        rfl
      | failed move => cases move.cancelled.1
      | followed move rest => cases move.cancelled.1

end Session

end ProvisionGate
