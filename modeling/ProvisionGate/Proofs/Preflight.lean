import ProvisionGate.Preflight
import ProvisionGate.Proofs.Consent
import ProvisionGate.Proofs.Dialogue
import ProvisionGate.Proofs.Session.Decision

/-!
# What a preflight run decides

A run reads a request, starts its attempt, reports at most one outcome of a remediation and answers
at most one question.  `Preflight.decision` says in one table over the command line, the entries of
the settings and the request how that ends, and so it does on every machine whose consent store
works.
-/

namespace ProvisionGate

/-- The settings say that the caller's provisioning was completed before. -/
def DeviceSettings.provisioned (device : DeviceSettings) : Caller → Bool
  | .primary => device.deviceProvisioned
  | .secondary => device.userSetupComplete

namespace Settings

/-- The words by which settings name a caller. -/
def callerWords : Caller → List String
  | .primary => ["", "primary", "device"]
  | .secondary => ["secondary", "user"]

variable {settings : Settings} {caller : Caller} {params : Params}

theorem caller?_eq_some_iff :
    settings.caller? = some caller ↔
      Text.trimmed settings.device.callerClass ∈ callerWords caller := by
  unfold caller?
  generalize Text.trimmed settings.device.callerClass = word
  by_cases owner : word = "" ∨ word = "primary" ∨ word = "device"
  · rw [if_pos owner]
    rcases owner with rfl | rfl | rfl <;> cases caller <;> simp [callerWords]
  · rw [if_neg owner]
    by_cases other : word = "secondary" ∨ word = "user"
    · rw [if_pos other]
      rcases other with rfl | rfl <;> cases caller <;> simp [callerWords]
    · rw [if_neg other]
      cases caller with
      | primary => simpa [callerWords] using owner
      | secondary => simpa [callerWords] using other

/-! The facts about a device are the entries of its settings. -/

theorem decision_network :
    (Precondition.network.evaluate params caller settings.facts).decision =
      if settings.device.networkConnected = false ∧ params.wifi.ssid.getD "" = "" then
        .remediate .network
      else .proceed :=
  Precondition.decision_evaluate_network

theorem decision_first :
    (Precondition.notYetProvisioned.evaluate params caller settings.facts).decision =
      if settings.device.provisioned caller then .abort (.alreadyProvisioned caller)
      else if caller = .primary ∧ settings.device.frpBlockSize.any (0 < ·) then
        .abort .factoryResetProtected
      else if settings.device.deviceEncrypted = false ∧ settings.encryptionExempt = false ∧
          params.skipEncryption = false then .remediate .encryption
      else (Precondition.network.evaluate params caller settings.facts).decision := by
  have provisioned : settings.facts.provisioned caller = settings.device.provisioned caller := by
    cases caller <;> rfl
  rw [Precondition.decision_evaluate_first, provisioned]
  rfl

end Settings

namespace Preflight

/-- How a run ends that is past all checks: the user is still to be asked, or the rehearsed launch
succeeds. -/
def consentOutcome (line : CommandLine) (caller : Caller) (params : Params) (recorded : Bool) :
    AttemptOutcome :=
  if caller = .primary ∧ params.startedByDiscovery = false ∧ recorded = false ∧
    line.confirm = false then .pending .awaitingConsent
  else .completed .succeeded

/-- How a run ends from the network check on, with the outcome of a remediation that is left. -/
def networkOutcome (line : CommandLine) (settings : Settings) (caller : Caller) (params : Params)
    (recorded : Bool) (ticket : TicketId) (left : Option RemediationOutcome) : AttemptOutcome :=
  if settings.device.networkConnected = false ∧ params.wifi.ssid.getD "" = "" then
    match left with
    | none | some .success => .pending (.awaitingNetworkRemediation ticket)
    | some .cancelled => .aborted .userCancelledNetwork
    | some .failed => .aborted (.remediationFailed .network)
  else consentOutcome line caller params recorded

/-- How a run ends, given whether a consent is recorded for the attempt and the identity of the
ticket that is left out.  An encryption that was not cancelled uses the reported outcome up. -/
def decision (line : CommandLine) (settings : Settings) (caller : Caller) (request : Request)
    (recorded : Bool) (ticket : TicketId) : AttemptOutcome :=
  match request.parse with
  | .error fault => .aborted (.invalidRequest fault.rejection)
  | .ok params =>
    if settings.device.provisioned caller then .aborted (.alreadyProvisioned caller)
    else if caller = .primary ∧ settings.device.frpBlockSize.any (0 < ·) then
      .aborted .factoryResetProtected
    else if settings.device.deviceEncrypted = false ∧ settings.encryptionExempt = false ∧
        params.skipEncryption = false then
      match line.remediationOutcome with
      | none => .pending (.awaitingEncryptionRemediation ticket)
      | some .cancelled => .aborted .userCancelledEncryption
      | some .success | some .failed =>
        networkOutcome line settings caller params recorded ticket none
    else networkOutcome line settings caller params recorded ticket line.remediationOutcome

end Preflight

namespace Session

open SessionStep Preflight

variable {facts : Facts} {settings : Settings} {caller : Caller} {s after : Session}
  {log : SessionLog} {halt : Halt} {taken : AcceptedRequest} {line : CommandLine}
  {result : Except SessionError AttemptOutcome}

/-! ## The steps of a run -/

/-- The halt after an outcome was reported, if one was. -/
def Halt.reported (facts : Facts) (taken : AcceptedRequest) (gate : ConsentGate)
    (outcome : Option RemediationOutcome) : Halt → Halt
  | waits kind =>
    match outcome with
    | none => waits kind
    | some outcome => resolved facts taken gate (kind.resumeSignal outcome)
  | halt => halt

/-- The outcome of a run whose attempt came to a halt. -/
def Halt.outcome (line : CommandLine) (ticket : TicketId) : Halt → AttemptOutcome
  | aborted reason => .aborted reason
  | waits kind => .pending (.awaiting kind ticket)
  | asks => if line.confirm then .completed .succeeded else .pending .awaitingConsent
  | launched => .completed .succeeded

/-- Without a ticket there is nothing to report. -/
theorem reportOutcome_free {reached : AttemptOutcome} (free : s.desk.outstanding = none)
    (run : Runs (reportOutcome line reached) s log result after) :
    result = .ok reached ∧ after = s := by
  unfold reportOutcome at run
  rw [runs_get_bind_iff, free] at run
  cases reports : line.remediationOutcome with
  | none =>
    rw [reports] at run
    exact (runs_pure_iff.1 run).2
  | some outcome =>
    rw [reports] at run
    exact (runs_pure_iff.1 run).2

theorem reportOutcome_told {gate : ConsentGate} (resting : s.Resting) (reached : halt.Reached s)
    (accepted : s.accepted = some taken) (gated : s.gate = gate)
    (run : Runs (reportOutcome line s.state.outcome) s log result after)
    (told : ∀ x ∈ log, Told facts caller x) :
    result = .ok after.state.outcome ∧ after.Resting ∧
      (halt.reported facts taken gate line.remediationOutcome).Reached after := by
  have settled (free : s.desk.outstanding = none)
      (same : halt.reported facts taken gate line.remediationOutcome = halt) :
      result = .ok after.state.outcome ∧ after.Resting ∧
        (halt.reported facts taken gate line.remediationOutcome).Reached after := by
    obtain ⟨rfl, rfl⟩ := reportOutcome_free free run
    exact ⟨rfl, resting, by rwa [same]⟩
  cases halt with
  | aborted reason => exact settled (resting.free (by rw [show s.state = _ from reached]; rfl)) rfl
  | asks => exact settled (resting.free (by rw [show s.state = _ from reached]; rfl)) rfl
  | launched => exact settled (resting.free (by rw [show s.state = _ from reached]; rfl)) rfl
  | waits kind =>
    obtain ⟨ticket, out, rfl, state⟩ := reached
    unfold reportOutcome at run
    rw [runs_get_bind_iff, out] at run
    cases reports : line.remediationOutcome with
    | none =>
      rw [reports] at run
      obtain ⟨-, rfl, rfl⟩ := runs_pure_iff.1 run
      exact ⟨rfl, resting, ticket, out, rfl, state⟩
    | some outcome =>
      rw [reports] at run
      obtain ⟨ended, rests, -, -, reached⟩ := remediated_told resting out accepted run told
      exact ⟨ended, rests, by rwa [← gated]⟩

theorem answerConsent_told (resting : s.Resting) (reached : halt.Reached s)
    (run : Runs (answerConsent line s.state.outcome) s log result after)
    (told : ∀ x ∈ log, Told facts caller x) : ∃ ticket, result = .ok (halt.outcome line ticket) := by
  unfold answerConsent at run
  rw [runs_get_bind_iff] at run
  have unasked (state : s.state ≠ .awaitingConsent) : result = .ok s.state.outcome := by
    rw [if_pos state] at run
    exact (runs_pure_iff.1 run).2.1
  cases halt with
  | aborted reason =>
    have state : s.state = .aborted reason := reached
    exact ⟨⟨""⟩, by rw [unasked (by simp [state]), state]; rfl⟩
  | launched =>
    have state : s.state = .done .succeeded := reached
    exact ⟨⟨""⟩, by rw [unasked (by simp [state]), state]; rfl⟩
  | waits kind =>
    obtain ⟨ticket, -, -, state⟩ := reached
    refine ⟨ticket.id, ?_⟩
    rw [unasked (by rw [state]; cases kind <;> simp [AttemptState.awaiting]), state]
    cases kind <;> rfl
  | asks =>
    have state : s.state = .awaitingConsent := reached
    refine ⟨⟨""⟩, ?_⟩
    rw [if_neg (not_not_intro state)] at run
    cases confirms : line.confirm with
    | true =>
      simp only [confirms, if_true] at run
      rw [confirmConsent_told resting state run told, Halt.outcome, confirms, if_pos rfl]
    | false =>
      simp only [confirms, Bool.false_eq_true, if_false] at run
      rw [Halt.outcome, confirms, if_neg Bool.false_ne_true]
      cases cancels : line.cancel with
      | true =>
        simp only [cancels, if_true] at run
        exact cancelConsent_told resting state run
      | false =>
        simp only [cancels, Bool.false_eq_true, if_false] at run
        rw [(runs_pure_iff.1 run).2.1, state]
        rfl

/-! ## The table -/

theorem outcome_beyondChecks {params : Params} {recorded : Bool} {ticket : TicketId} :
    (Halt.beyondChecks ⟨params, caller⟩ ⟨recorded⟩).outcome line ticket =
      consentOutcome line caller params recorded := by
  unfold Halt.beyondChecks ConsentGate.isRequired consentOutcome
  cases caller <;> cases recorded <;> cases params.startedByDiscovery <;>
    cases confirms : line.confirm <;> simp [Halt.outcome, confirms]

theorem reported_beyondChecks {gate : ConsentGate} {left : Option RemediationOutcome} :
    (Halt.beyondChecks taken gate).reported facts taken gate left = Halt.beyondChecks taken gate := by
  unfold Halt.beyondChecks
  split <;> rfl

theorem reported_none {gate : ConsentGate} : halt.reported facts taken gate none = halt := by
  cases halt <;> rfl

theorem outcome_network {params : Params} {recorded : Bool} {ticket : TicketId}
    {left : Option RemediationOutcome} :
    (Halt.reported settings.facts ⟨params, caller⟩ ⟨recorded⟩ left
      (.decided ⟨params, caller⟩ ⟨recorded⟩
        (Precondition.network.evaluate params caller settings.facts).decision)).outcome line ticket =
      networkOutcome line settings caller params recorded ticket left := by
  have decided : (Precondition.network.evaluate params caller settings.facts).decision = _ :=
    Settings.decision_network
  unfold networkOutcome
  by_cases needs : settings.device.networkConnected = false ∧ params.wifi.ssid.getD "" = ""
  · rw [if_pos needs] at decided
    rw [if_pos needs, decided]
    -- A reported success is not trusted: the network is checked again, and a ticket is left out.
    have again : Halt.resolved settings.facts ⟨params, caller⟩ ⟨recorded⟩
        (RemediationKind.network.resumeSignal .success) = .waits .network :=
      congrArg (Halt.decided ⟨params, caller⟩ ⟨recorded⟩) decided
    cases left with
    | none => rfl
    | some outcome =>
      cases outcome with
      | success => exact congrArg (Halt.outcome line ticket) again
      | cancelled => rfl
      | failed => rfl
  · rw [if_neg needs] at decided
    rw [if_neg needs, decided]
    show (Halt.reported _ _ _ _ (Halt.beyondChecks _ _)).outcome _ _ = _
    rw [reported_beyondChecks, outcome_beyondChecks]

theorem outcome_first {request : Request} {params : Params} {recorded : Bool} {ticket : TicketId}
    (parsed : request.parse = .ok params) :
    (Halt.reported settings.facts ⟨params, caller⟩ ⟨recorded⟩ line.remediationOutcome
      (.decided ⟨params, caller⟩ ⟨recorded⟩
        (Precondition.notYetProvisioned.evaluate params caller
          settings.facts).decision)).outcome line ticket =
      decision line settings caller request recorded ticket := by
  rw [Settings.decision_first]
  unfold decision
  rw [parsed]
  dsimp only
  split
  · rfl
  · split
    · rfl
    · split
      · have resumed (outcome : RemediationOutcome)
            (signal : RemediationKind.encryption.resumeSignal outcome = .reevaluate .network) :
            (Halt.reported settings.facts ⟨params, caller⟩ ⟨recorded⟩ (some outcome)
              (.decided ⟨params, caller⟩ ⟨recorded⟩ (.remediate .encryption))).outcome line ticket =
              networkOutcome line settings caller params recorded ticket none := by
          show (Halt.resolved settings.facts ⟨params, caller⟩ ⟨recorded⟩ _).outcome line ticket = _
          rw [signal, ← outcome_network, reported_none]
          rfl
        cases line.remediationOutcome with
        | none => rfl
        | some outcome =>
          cases outcome with
          | success => exact resumed .success rfl
          | cancelled => rfl
          | failed => exact resumed .failed rfl
      · exact outcome_network

/-! ## A whole run -/

/-- The consent that counts in a run of a request, as its session was told. -/
inductive Recollects (request : Request) (log : SessionLog) : Bool → Prop
  | rejected {fault : RequestFault} (parsed : request.parse = .error fault) :
      Recollects request log false
  | accepted {params : Params} {recorded : Bool} (parsed : request.parse = .ok params)
      (recalls : Recalls request params log recorded) : Recollects request log recorded

theorem Recollects.mono {request : Request} {recorded : Bool} {longer : SessionLog}
    (recollects : Recollects request log recorded) (kept : log ⊆ longer) :
    Recollects request longer recorded := by
  cases recollects with
  | rejected parsed => exact .rejected parsed
  | accepted parsed recalls =>
    cases recalls with
    | anew new => exact .accepted parsed (.anew new)
    | again resumed loaded => exact .accepted parsed (.again resumed (kept loaded))

theorem drive_told {request : Request} {attempt : AttemptId}
    (run : Runs (drive line request) (opened attempt) log result after)
    (told : ∀ x ∈ log, Told settings.facts caller x) :
    ∃ recorded ticket, Recollects request log recorded ∧
      result = .ok (decision line settings caller request recorded ticket) := by
  unfold drive at run
  rcases runs_bind_iff.1 run with
    ⟨error, failed, -⟩ | ⟨first, later, reached, s, rfl, started, rest⟩
  · cases (start_told failed told).1
  obtain ⟨before, behind⟩ := List.forall_mem_append.1 told
  obtain ⟨same, resting, begun⟩ := start_told started before
  obtain rfl := Except.ok.inj same
  cases begun with
  | @rejected fault parsed state =>
    have free : s.desk.outstanding = none := resting.free (by rw [state]; rfl)
    rcases runs_bind_iff.1 rest with
      ⟨error, failed, -⟩ | ⟨second, third, reached, t, rfl, reports, answers⟩
    · cases (reportOutcome_free free failed).1
    obtain ⟨same, rfl⟩ := reportOutcome_free free reports
    obtain rfl := Except.ok.inj same
    have halt : (Halt.aborted (.invalidRequest fault.rejection)).Reached t := state
    obtain ⟨ticket, rfl⟩ :=
      answerConsent_told resting halt answers (List.forall_mem_append.1 behind).2
    refine ⟨false, ticket, .rejected parsed, ?_⟩
    rw [decision, parsed]
    rfl
  | @accepted params recorded parsed recalls accepted gate reached =>
    have recollects : Recollects request (first ++ later) recorded :=
      Recollects.mono (.accepted parsed recalls) (List.subset_append_left first later)
    rcases runs_bind_iff.1 rest with
      ⟨error, failed, -⟩ | ⟨second, third, outcome, t, rfl, reports, answers⟩
    · cases (reportOutcome_told resting reached accepted gate failed behind).1
    obtain ⟨reporting, answering⟩ := List.forall_mem_append.1 behind
    obtain ⟨same, rests, halted⟩ :=
      reportOutcome_told resting reached accepted gate reports reporting
    obtain rfl := Except.ok.inj same
    obtain ⟨ticket, rfl⟩ := answerConsent_told rests halted answers answering
    exact ⟨recorded, ticket, recollects, by rw [outcome_first parsed]⟩

end Session

/-! ## On a machine -/

/-- What a machine was asked and told, in order. -/
abbrev MachineLog := List (Dialogue.Exchange MachineCall.Answer)

open MachineDialogue

/-- No operation of a store that is part of a log failed. -/
structure ConsentStore.Works (store : ConsentStore) (log : MachineLog) : Prop where
  clears : ∀ part cause, part <:+: log →
    ¬ Dialogue.Runs (onStore store.clear) part (.error cause)
  loads : ∀ part attempt admin cause, part <:+: log →
    ¬ Dialogue.Runs (onStore (store.load attempt admin)) part (.error cause)
  saves : ∀ part record cause, part <:+: log →
    ¬ Dialogue.Runs (onStore (store.save record)) part (.error cause)

/-- The consent that counts in a run of a request: the one that the store tells for the attempt if
it is taken up again, else none. -/
inductive ConsentStore.Recorded (store : ConsentStore) (request : Request) (log : MachineLog) :
    Bool → Prop
  | rejected {fault : RequestFault} (parsed : request.parse = .error fault) :
      Recorded store request log false
  | anew (new : request.resumedAttempt = none) : Recorded store request log false
  | again {attempt : AttemptId} {params : Params} {part : MachineLog} {recorded : Bool}
      (resumed : request.resumedAttempt = some attempt) (parsed : request.parse = .ok params)
      (within : part <:+: log)
      (loaded : Dialogue.Runs (onStore (store.load attempt params.adminOrEmpty)) part
        (.ok recorded)) : Recorded store request log recorded

namespace ConsentStore

variable {store : ConsentStore} {request : Request} {part log : MachineLog}

/-- A store that works works all the time. -/
theorem Works.within (works : store.Works log) (within : part <:+: log) : store.Works part where
  clears inner cause inside := works.clears inner cause (inside.trans within)
  loads inner attempt admin cause inside := works.loads inner attempt admin cause (inside.trans within)
  saves inner record cause inside := works.saves inner record cause (inside.trans within)

/-- On a machine that answers the same way every time, a store works if each operation succeeds. -/
theorem Works.of_told {answer : (c : MachineCall) → c.Answer} (told : ∀ x ∈ log, x.2 = answer x.1)
    (clears : ((onStore store.clear).answered answer).2 = .ok ())
    (loads : ∀ attempt admin, ∃ recorded,
      ((onStore (store.load attempt admin)).answered answer).2 = .ok recorded)
    (saves : ∀ record, ((onStore (store.save record)).answered answer).2 = .ok ()) :
    store.Works log := by
  have result {α : Type} {step : FileStep ConsentStoreError α} {inner : MachineLog}
      {ended : Except String α} (inside : inner <:+: log)
      (run : Dialogue.Runs (onStore step) inner ended) :
      ended = ((onStore step).answered answer).2 :=
    run.result_of_told fun x member => told x (inside.subset member)
  constructor
  · intro inner cause inside run
    cases (result inside run).trans clears
  · intro inner attempt admin cause inside run
    obtain ⟨recorded, loaded⟩ := loads attempt admin
    cases (result inside run).trans loaded
  · intro inner record cause inside run
    cases (result inside run).trans (saves record)

/-- No consent counts in an attempt that begins. -/
theorem Recorded.eq_false {recorded : Bool} (found : store.Recorded request log recorded)
    (new : request.resumedAttempt = none) : recorded = false := by
  cases found with
  | rejected => rfl
  | anew => rfl
  | again resumed =>
    rw [new] at resumed
    cases resumed

theorem Recorded.within {recorded : Bool} (found : store.Recorded request part recorded)
    (within : part <:+: log) : store.Recorded request log recorded := by
  cases found with
  | rejected parsed => exact .rejected parsed
  | anew new => exact .anew new
  | again resumed parsed inside loaded => exact .again resumed parsed (inside.trans within) loaded

end ConsentStore

namespace Preflight

variable {line : CommandLine} {settings : Settings} {location : DataLocation} {caller : Caller}
  {request : Request} {store : ConsentStore} {log : MachineLog} {asked : SessionLog}

/-- A run tells its session what the settings say, and nothing fails in it but the store. -/
theorem told_of_carried (carried : Dialogue.Carried (respond settings caller store) asked log)
    (works : store.Works log) : ∀ x ∈ asked, Session.Told settings.facts caller x := by
  rintro ⟨call, answer⟩ member
  obtain ⟨part, within, run⟩ := carried.part _ member
  have told {expected : call.Answer} (run : Dialogue.Runs (.done expected) part answer) :
      answer = expected := (Dialogue.runs_done_iff.1 run).2
  cases call with
  | callerClass => exact told run
  | device fact => exact told run
  | launch params => exact told run
  | requestRemediation ticket =>
    obtain rfl := told run
    exact id
  | presentConsent prompt =>
    obtain rfl := told run
    exact id
  | loadConsent attempt admin =>
    cases answer with
    | ok recorded => exact id
    | error cause => exact absurd run (works.loads part attempt admin cause within)
  | saveConsent record =>
    cases answer with
    | ok done => exact id
    | error cause => exact absurd run (works.saves part record cause within)
  | clearConsent =>
    cases answer with
    | ok done => exact id
    | error cause => exact absurd run (works.clears part cause within)
  | _ => exact id

theorem recorded_of_recollects {recorded : Bool}
    (recollects : Session.Recollects request asked recorded)
    (carried : Dialogue.Carried (respond settings caller store) asked log) :
    store.Recorded request log recorded := by
  cases recollects with
  | rejected parsed => exact .rejected parsed
  | accepted parsed recalls =>
    cases recalls with
    | anew new => exact .anew new
    | again resumed loaded =>
      obtain ⟨part, within, run⟩ := carried.part _ loaded
      exact .again resumed parsed within run

/-- How the session of a run ends. -/
theorem conduct_decides {reached : Except SessionError AttemptOutcome}
    (run : Dialogue.Runs ((conduct line request).perform (respond settings caller store)) log reached)
    (works : store.Works log) :
    ∃ recorded ticket, store.Recorded request log recorded ∧
      reached = .ok (decision line settings caller request recorded ticket) := by
  obtain ⟨asked, carried, runs⟩ := Dialogue.runs_of_perform run
  have told := told_of_carried carried works
  obtain ⟨attempt, rest, rfl, driven⟩ := Dialogue.runs_ask_iff.1 runs
  have driven : Dialogue.Runs
      ((drive line request).run.run (Session.opened attempt) >>= fun ended => .done ended.1)
      rest reached := driven
  obtain ⟨first, second, ⟨result, after⟩, rfl, drives, ended⟩ := Dialogue.runs_bind_iff.1 driven
  obtain ⟨rfl, rfl⟩ := Dialogue.runs_done_iff.1 ended
  obtain ⟨recorded, ticket, recollects, rfl⟩ :=
    Session.drive_told drives fun x member => told x (by simp [member])
  have kept : first ⊆ ⟨.freshAttempt, attempt⟩ :: (first ++ []) :=
    fun x member => by simp [member]
  exact ⟨recorded, ticket, recorded_of_recollects (recollects.mono kept) carried, rfl⟩

/-- A run reads its request, and goes on with its session if the caller is known. -/
theorem run_eq
    (named : Text.trimmed settings.device.callerClass ∈ Settings.callerWords caller) :
    (Preflight.run line settings location).run =
      onFiles (Preflight.request line) >>= fun read =>
        match read with
        | .ok request => Except.mapError RunError.session <$> (conduct line request).perform
            (respond settings caller (settings.consentStore location))
        | .error error => .done (.error error) := by
  have known : Preflight.caller settings = .ok caller := by
    unfold Preflight.caller
    rw [Settings.caller?_eq_some_iff.2 named]
  unfold Preflight.run
  rw [ExceptT.run_bind]
  refine bind_congr fun read => ?_
  cases read with
  | error error => rfl
  | ok request =>
    simp only [known]
    rfl

/-- A request is read as soon as its file is. -/
theorem request_read {σ : Type} {machine : (c : MachineCall) → StateM σ c.Answer} {state after : σ}
    {text : String}
    (told : (machine (.file (.readText (Path.ofText line.request)))).run state = (.ok text, after))
    (read : Request.ofText? text = some request) :
    ((onFiles (Preflight.request line)).perform machine |>.run state).1 = .ok request := by
  obtain ⟨opening, begins, opens⟩ : ∃ opening : Except FileError String → FileStep RunError Request,
      Preflight.request line =
          FileStep.ask (.readText (Path.ofText line.request)) >>= opening ∧
        opening (.ok text) = pure request := by
    refine ⟨_, rfl, ?_⟩
    simp only [FileStep.orFail, pure_bind, read]
  let asks : MachineCall := .file (.readText (Path.ofText line.request))
  have asked : ((onFiles (Preflight.request line)).perform machine).run state =
      ((onFiles (opening (.ok text))).perform machine).run after := by
    rw [begins]
    show ((onFiles (opening ((machine asks).run state).1)).perform machine).run
      ((machine asks).run state).2 = _
    rw [told]
  rw [asked, opens]
  rfl

/-- On every machine that has a request in the file and a store that works, a run with settings that
name a caller returns what the table says. -/
theorem run_decides {σ : Type} (machine : (c : MachineCall) → StateM σ c.Answer) {state after : σ}
    {text : String}
    (named : Text.trimmed settings.device.callerClass ∈ Settings.callerWords caller)
    (told : (machine (.file (.readText (Path.ofText line.request)))).run state = (.ok text, after))
    (read : Request.ofText? text = some request)
    (works : (settings.consentStore location).Works
      ((Preflight.run line settings location).run.transcript machine state)) :
    ∃ recorded ticket,
      (settings.consentStore location).Recorded request
        ((Preflight.run line settings location).run.transcript machine state) recorded ∧
      ((Preflight.run line settings location).run.perform machine |>.run state).1 =
        .ok (decision line settings caller request recorded ticket) := by
  obtain ⟨first, behind, reading⟩ : ∃ first behind,
      ((onFiles (Preflight.request line)).perform machine).run state = (first, behind) :=
    ⟨_, _, rfl⟩
  have reads := request_read told read
  rw [reading] at reads
  obtain rfl : first = .ok request := reads
  let session := Except.mapError RunError.session <$>
    (conduct line request).perform (respond settings caller (settings.consentStore location))
  have asks : (Preflight.run line settings location).run.transcript machine state =
      (onFiles (Preflight.request line)).transcript machine state ++
        session.transcript machine behind := by
    rw [run_eq named, Dialogue.transcript_bind, reading]
  have returns : ((Preflight.run line settings location).run.perform machine |>.run state).1 =
      ((session.perform machine).run behind).1 := by
    rw [run_eq named, Dialogue.perform_bind, StateT.run_bind, reading]
    rfl
  have behindReading : session.transcript machine behind <:+:
      (Preflight.run line settings location).run.transcript machine state :=
    asks ▸ (List.suffix_append _ _).isInfix
  obtain ⟨reached, conducted, ended⟩ :=
    Dialogue.runs_map_iff.1 (Dialogue.runs_transcript machine session behind)
  obtain ⟨recorded, ticket, found, rfl⟩ := conduct_decides conducted (works.within behindReading)
  exact ⟨recorded, ticket, found.within behindReading, by rw [returns, ended]; rfl⟩

/-- A run that reports a success, and neither confirms nor cancels. -/
def rehearsal : CommandLine where
  config := none
  request := "request.json"
  remediationOutcome := some .success
  confirm := false
  cancel := false

/-- The settings of a device that is not encrypted, and connected or not. -/
def rehearsalSettings (connected : Bool) : Settings :=
  { Settings.empty with
    consentPath := "consent"
    device := { Settings.empty.device with networkConnected := connected } }

/-- The text of the plain request. -/
def plainText : String :=
  "\x7b\"action\": \"action.legacy.provision_managed_device\", \"payload\": " ++
    "\x7b\"type\": \"extras\", \"extras\": " ++
    "\x7b\"provisioning.device_admin_package_name\": \"org.example.admin\"\x7d\x7d\x7d"

/-- The answers of a machine with the plain request in its files and no consent. -/
def rehearsalAnswer : (c : MachineCall) → c.Answer
  | .file (.readText _) => .ok plainText
  | .file (.holds _) | .file (.holdsDirectory _) => false
  | .file (.write _ _) | .file (.makeDirectory _) | .file (.remove _) => .ok ()
  | .freshIdentity => "identity"
  | .currentTime => ⟨0, 0, 0⟩

/-- The machine of these answers. -/
def rehearsalMachine (c : MachineCall) : StateM Unit c.Answer :=
  pure (rehearsalAnswer c)

/-- The success that is reported is used up by the encryption.  Then the ticket for the network is
left out where the device is not connected, and the question for consent where it is. -/
theorem rehearsal_decided :
    (∃ ticket, ((Preflight.run rehearsal (rehearsalSettings false) ⟨none, "home"⟩).run.perform
      rehearsalMachine |>.run ()).1 = .ok (.pending (.awaitingNetworkRemediation ticket))) ∧
    ((Preflight.run rehearsal (rehearsalSettings true) ⟨none, "home"⟩).run.perform
      rehearsalMachine |>.run ()).1 = .ok (.pending .awaitingConsent) := by
  have decides (connected : Bool) : ∃ ticket,
      ((Preflight.run rehearsal (rehearsalSettings connected) ⟨none, "home"⟩).run.perform
        rehearsalMachine |>.run ()).1 = .ok (decision rehearsal (rehearsalSettings connected)
          .primary Session.plainRequest false ticket) := by
    have named : Text.trimmed (rehearsalSettings connected).device.callerClass ∈
        Settings.callerWords .primary := by decide +revert
    have read : Request.ofText? plainText = some Session.plainRequest := by decide +kernel
    have store : (rehearsalSettings connected).consentStore ⟨none, "home"⟩ = ⟨"consent"⟩ := by
      decide +revert
    have parent : (ConsentStore.place ⟨"consent"⟩).parent? = some ⟨false, []⟩ := rfl
    have works : ((rehearsalSettings connected).consentStore ⟨none, "home"⟩).Works
        ((Preflight.run rehearsal (rehearsalSettings connected) ⟨none, "home"⟩).run.transcript
          rehearsalMachine ()) := by
      refine .of_told (Dialogue.transcript_told rehearsalAnswer _ ()) ?_ ?_ ?_ <;> rw [store]
      · rfl
      · exact fun attempt admin => ⟨false, rfl⟩
      · intro record
        unfold ConsentStore.save
        rw [parent]
        rfl
    obtain ⟨recorded, ticket, found, decided⟩ :=
      run_decides rehearsalMachine named rfl read works
    obtain rfl := found.eq_false rfl
    exact ⟨ticket, decided⟩
  have parsed : Session.plainRequest.parse =
      .ok { Params.empty with adminPackage := some "org.example.admin" } := rfl
  obtain ⟨ticket, waits⟩ := decides false
  obtain ⟨other, asks⟩ := decides true
  rw [decision, parsed] at waits asks
  exact ⟨⟨ticket, waits⟩, asks⟩

end Preflight

end ProvisionGate
