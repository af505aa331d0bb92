import ProvisionGate.Proofs.Session.Launch
import ProvisionGate.Proofs.Session.Tickets

/-!
# How an attempt goes forward

The transitions alone would let an attempt go back to an earlier check.  A session never does:
`AttemptState.rank` orders the states, and `Move.rank_le` shows that no move lowers the rank.  Once
an attempt has the checks before the one of the encryption behind it, it asks the device for the
network alone and ends early only for what the user or a remediation of the network does.
-/

namespace ProvisionGate

/-- How far an attempt is. -/
def AttemptState.rank : AttemptState → Nat
  | init => 0
  | checkingOwnershipProvisioned | checkingFactoryResetProtection => 1
  | checkingEncryption | awaitingEncryptionRemediation _ => 2
  | checkingNetwork | awaitingNetworkRemediation _ => 3
  | awaitingConsent => 4
  | launching => 5
  | aborted _ | done _ => 6

namespace AttemptState

theorem rank_awaiting (kind : RemediationKind) (id : TicketId) :
    (awaiting kind id).rank = (checking kind.precondition).rank := by
  cases kind <;> rfl

theorem rank_checking_pos (start : Precondition) : 0 < (checking start).rank := by
  cases start <;> simp [checking, rank]

theorem rank_le_network (kind : RemediationKind) :
    (checking kind.precondition).rank ≤ (checking .network).rank := by
  cases kind <;> simp [RemediationKind.precondition, checking, rank]

theorem rank_le_aborted (state : AttemptState) (reason : AbortReason) :
    state.rank ≤ (aborted reason).rank := by
  cases state <;> simp [rank]

end AttemptState

namespace Moment

/-- The state that is committed. -/
def committed? : Moment → Option AttemptState
  | .exchanged ⟨.reportState _ state, _⟩ => some state
  | _ => none

/-- Of the device nothing is asked but whether it has a network, and an attempt does not end early
but as the user or a remediation of the network ends it. -/
def Narrow : Moment → Prop
  | .exchanged ⟨.device fact, _⟩ => fact = .networkConnected
  | .exchanged ⟨.callerClass, _⟩ => False
  | .exchanged ⟨.reportState _ (.aborted reason), _⟩ =>
    reason ∈ [.userCancelledEncryption, .userCancelledNetwork, .remediationFailed .network]
  | _ => True

end Moment

namespace Session

open SessionStep

/-- The states that were committed. -/
def committed (past : List Moment) : List AttemptState :=
  past.filterMap Moment.committed?

/-- An attempt that is not at its end was committed beyond the check of the ownership. -/
def BeyondOwnership (past : List Moment) : Prop :=
  ∃ state ∈ committed past, 2 ≤ state.rank ∧ state.rank ≤ 5

/-- The tickets for an encryption that were handed over. -/
def encryptionsHandedOver (past : List Moment) : List Ticket :=
  (ticketsHandedOver past).filter fun ticket => ticket.kind = .encryption

variable {s after : Session} {operation : Operation} {event : AttemptEvent}
  {log : SessionLog} {past later : List Moment} {attempt : AttemptId}
  {reached : Except SessionError (AttemptOutcome ⊕ AttemptEvent)}
  {moved : Except SessionError (Option AttemptEvent)} {taken : AcceptedRequest}
  {start : Precondition}

theorem committed_append : committed (past ++ later) = committed past ++ committed later :=
  List.filterMap_append

theorem encryptionsHandedOver_append :
    encryptionsHandedOver (past ++ later) =
      encryptionsHandedOver past ++ encryptionsHandedOver later := by
  rw [encryptionsHandedOver, ticketsHandedOver_append, List.filter_append]
  rfl

/-! ## One move -/

/-- The check of the network decides nothing but to go on or to choose a network. -/
theorem Expects.decided_network {decision : Decision}
    (expects : s.Expects (.preconditionsEvaluated decision)) (state : s.state = .checking .network) :
    decision = .proceed ∨ decision = .remediate .network := by
  cases expects with
  | @evaluated _ start _ _ _ same _ _ _ run decided =>
    obtain rfl : start = .network := by
      rw [state] at same
      cases start <;> first | rfl | cases same
    obtain ⟨answer, -, found⟩ := runs_evaluateDevice_network run
    cases answer with
    | error cause => cases found
    | ok connected =>
      have decides := Except.ok.inj found
      dsimp only at decides
      rw [decided] at decides
      split at decides
      · exact .inl decides
      · exact .inr decides

/-- An evaluation begins no earlier than where the attempt is. -/
theorem Begins.rank_le {state : AttemptState} (begins : Begins state event start) :
    state.rank ≤ (AttemptState.checking start).rank := by
  cases begins with
  | accepted => exact Nat.zero_le _
  | retried => exact Nat.le_refl _
  | @takenUp kind id =>
    rw [AttemptState.rank_awaiting]
    exact AttemptState.rank_le_network kind
  | @resolved kind id =>
    rw [AttemptState.rank_awaiting]
    exact AttemptState.rank_le_network kind

/-- What is asked to be remedied is no earlier than where the attempt is. -/
theorem Evaluates.rank_le {kind : RemediationKind} (evaluates : Evaluates start)
    (state : s.state = .checking start)
    (expects : s.Expects (.preconditionsEvaluated (.remediate kind))) :
    (AttemptState.checking start).rank ≤ (AttemptState.checking kind.precondition).rank := by
  cases evaluates with
  | ownership =>
    cases kind <;> simp [RemediationKind.precondition, AttemptState.checking, AttemptState.rank]
  | network =>
    rcases expects.decided_network state with same | same
    · cases same
    · cases same
      exact Nat.le_refl _

/-- No move leads back. -/
theorem Move.rank_le (move : Move s event log moved after) (expects : s.Expects event) :
    s.state.rank ≤ after.state.rank := by
  cases move with
  | evaluated begins => exact begins.rank_le
  | proceeded state evaluates =>
    rw [state]
    cases evaluates <;> simp [AttemptState.checking, AttemptState.rank]
  | aborted => exact AttemptState.rank_le_aborted _ _
  | handedOver state evaluates =>
    rw [state]
    exact evaluates.rank_le state expects
  | suspended state => exact Nat.le_of_eq (by rw [state, AttemptState.rank_awaiting])
  | prompted prompts =>
    generalize s.state = held at prompts
    cases prompts <;> simp [AttemptState.rank]
  | confirmed state => simp [state, AttemptState.rank]
  | launched state => simp [state, AttemptState.rank]
  | finished state => simp [state, AttemptState.rank]
  | _ => exact Nat.le_refl _

theorem committed_device {result : Except String Evaluation}
    (run : Dialogue.Runs (evaluateDevice taken start).run log result) :
    committed (moments log) = [] :=
  List.filterMap_eq_nil_iff.2 (forall_device run fun _ _ => rfl)

/-- A move ends by committing the state it leads to, or commits nothing and leaves the state as it
is. -/
theorem Move.commits_last (move : Move s event log moved after) :
    ∃ before last, moments log = before ++ last ∧ committed before = [] ∧
      (last = [.exchanged (after.reported after.state)] ∨ last = [] ∧ after.state = s.state) := by
  cases move with
  | evaluated begins accepted run =>
    exact ⟨_, _, moments_append _ _, committed_device run, .inl rfl⟩
  | notEvaluated begins accepted run =>
    exact ⟨_, [], (List.append_nil _).symm, committed_device run, .inr ⟨rfl, rfl⟩⟩
  | ended => exact ⟨[], [], rfl, rfl, .inr ⟨rfl, rfl⟩⟩
  | ignored => exact ⟨[], _, rfl, rfl, .inl rfl⟩
  | proceeded => exact ⟨[], _, rfl, rfl, .inl rfl⟩
  | aborted => exact ⟨[_], _, rfl, rfl, .inl rfl⟩
  | handedOver => exact ⟨[_, _], _, rfl, rfl, .inl rfl⟩
  | notHandedOver => exact ⟨_, [], (List.append_nil _).symm, rfl, .inr ⟨rfl, rfl⟩⟩
  | suspended => exact ⟨[], _, rfl, rfl, .inl rfl⟩
  | prompted => exact ⟨[_], _, rfl, rfl, .inl rfl⟩
  | notPrompted => exact ⟨_, [], (List.append_nil _).symm, rfl, .inr ⟨rfl, rfl⟩⟩
  | confirmed => exact ⟨[_, _, _], _, rfl, rfl, .inl rfl⟩
  | notSaved => exact ⟨_, [], (List.append_nil _).symm, rfl, .inr ⟨rfl, rfl⟩⟩
  | launched => exact ⟨[_], _, rfl, rfl, .inl rfl⟩
  | finished => exact ⟨[], _, rfl, rfl, .inl rfl⟩

/-- A move commits the state it leads to, or leaves the state as it is. -/
theorem Move.committed_cases (move : Move s event log moved after) :
    committed (moments log) = [after.state] ∨
      committed (moments log) = [] ∧ after.state = s.state := by
  obtain ⟨before, last, split, none, rfl | ⟨rfl, same⟩⟩ := move.commits_last
  · left
    rw [split, committed_append, none]
    rfl
  · right
    rw [split, committed_append, none]
    exact ⟨rfl, same⟩

/-- Nothing is committed before the last moment of a move. -/
theorem Move.committed_before (move : Move s event log moved after) {before rest : List Moment}
    {m : Moment} (split : moments log = before ++ m :: rest) : committed before = [] := by
  obtain ⟨quiet, last, parts, none, single⟩ := move.commits_last
  have shorter : before <+: quiet := by
    rw [parts] at split
    rcases List.append_eq_append_iff.1 split with ⟨more, rfl, rfl⟩ | ⟨more, rfl, -⟩
    · rcases single with single | ⟨single, -⟩
      · have length := congrArg List.length single
        simp only [List.length_append, List.length_cons, List.length_nil] at length
        obtain rfl : more = [] := List.eq_nil_of_length_eq_zero (by omega)
        exact (List.append_nil _).symm ▸ List.prefix_rfl
      · simp at single
    · exact List.prefix_append _ _
  obtain ⟨more, rfl⟩ := shorter
  rw [committed_append] at none
  exact (List.append_eq_nil_iff.1 none).1

theorem Resting.ne_protection (resting : s.Resting) :
    s.state ≠ .checkingFactoryResetProtection := by
  intro state
  have rests := resting.state
  rw [state] at rests
  cases rests

theorem Expects.ne_protection (expects : s.Expects event) :
    s.state ≠ .checkingFactoryResetProtection := by
  cases expects with
  | requestAccepted state => simp [state]
  | requestRejected state => simp [state]
  | evaluated state evaluates => cases evaluates <;> simp [state, AttemptState.checking]
  | @handedOver _ kind _ state =>
    cases kind <;> simp [state, AttemptState.checking, RemediationKind.precondition]
  | @resolved kind _ _ _ _ state => cases kind <;> simp [state, AttemptState.awaiting]
  | consentRequired state => simp [state]
  | consentNotRequired state => simp [state]
  | finished state => simp [state]
  | confirmed resting => exact resting.ne_protection
  | cancelled resting => exact resting.ne_protection
  | proceeded resting => exact resting.ne_protection
  | retried resting => exact resting.ne_protection

/-- The check of the protection from a reset has no state of its own in a run. -/
theorem Move.ne_protection (move : Move s event log moved after) (expects : s.Expects event) :
    after.state ≠ .checkingFactoryResetProtection := by
  cases moved with
  | error error => exact (move.resting_of_error expects).ne_protection
  | ok pending =>
    cases pending with
    | none => exact (move.resting expects).ne_protection
    | some follower => exact (move.expects expects).ne_protection

/-- An evaluation in an attempt beyond the ownership check asks for the network alone. -/
theorem Begins.narrow {result : Except String Evaluation} (begins : Begins s.state event start)
    (beyond : 2 ≤ s.state.rank)
    (run : Dialogue.Runs (evaluateDevice taken start).run log result) :
    ∀ m ∈ moments log, m.Narrow := by
  have network : start = .network := by
    generalize s.state = held at begins beyond
    cases begins with
    | accepted => simp [AttemptState.rank] at beyond
    | retried evaluates =>
      cases evaluates with
      | ownership => simp [AttemptState.checking, AttemptState.rank] at beyond
      | network => rfl
    | takenUp => rfl
    | resolved => rfl
  subst network
  obtain ⟨answer, rfl, -⟩ := runs_evaluateDevice_network run
  simp [Moment.Narrow]

/-- An attempt beyond the ownership check ends early only as the user or a remediation of the
network ends it. -/
theorem Ends.narrow {reason : AbortReason} (ends : Ends s.state event reason)
    (expects : s.Expects event) (beyond : 2 ≤ s.state.rank) :
    reason ∈ [.userCancelledEncryption, .userCancelledNetwork, .remediationFailed .network] := by
  generalize state : s.state = held at ends
  rw [state] at beyond
  cases ends with
  | rejected => simp [AttemptState.rank] at beyond
  | failed evaluates =>
    cases evaluates with
    | ownership => simp [AttemptState.checking, AttemptState.rank] at beyond
    | network => rcases expects.decided_network state with same | same <;> cases same
  | @resolved kind _ outcome _ signal => cases kind <;> cases outcome <;> cases signal <;> simp

/-- The report of a state that is not an end. -/
theorem reported_narrow {state : AttemptState} (active : state.isTerminal = false) :
    (Moment.exchanged (s.reported state)).Narrow := by
  cases state <;> trivial

/-- All that an attempt beyond the ownership check does is narrow. -/
theorem Move.narrow (move : Move s event log moved after) (expects : s.Expects event)
    (beyond : 2 ≤ s.state.rank) : ∀ m ∈ moments log, m.Narrow := by
  have underWay {state : AttemptState} (begun : state.isUnderWay = true) :
      (Moment.exchanged (s.reported state)).Narrow :=
    reported_narrow (AttemptState.isTerminal_of_isUnderWay begun)
  cases move with
  | ignored active unexpected => simpa using reported_narrow active
  | evaluated begins accepted run =>
    rw [moments_append]
    refine List.forall_mem_append.2 ⟨begins.narrow beyond run, ?_⟩
    simpa using underWay (AttemptState.isUnderWay_checking _)
  | notEvaluated begins accepted run => exact begins.narrow beyond run
  | aborted ends => simpa [Moment.Narrow, reported] using ends.narrow expects beyond
  | handedOver =>
    simpa [Moment.Narrow] using underWay (AttemptState.isUnderWay_checking _)
  | suspended => simpa using underWay (AttemptState.isUnderWay_awaiting _ _)
  | _ => simp [Moment.Narrow, reported]

theorem encryptionsHandedOver_eq_nil (none : ∀ m ∈ later, m.handedOver? = none) :
    encryptionsHandedOver later = [] := by
  rw [encryptionsHandedOver, ticketsHandedOver, List.filterMap_eq_nil_iff.2 none]
  rfl

/-- A ticket for an encryption is handed over only by an attempt that has nothing but the ownership
check behind it. -/
theorem Move.encryption_cases (move : Move s event log moved after) (expects : s.Expects event) :
    encryptionsHandedOver (moments log) = [] ∨
      (encryptionsHandedOver (moments log)).length = 1 ∧ s.state.rank < 2 ∧ 2 ≤ after.state.rank := by
  cases move with
  | evaluated begins accepted run =>
    left
    rw [moments_append, encryptionsHandedOver_append,
      encryptionsHandedOver_eq_nil (forall_device run fun _ _ => rfl)]
    rfl
  | notEvaluated begins accepted run =>
    exact .inl (encryptionsHandedOver_eq_nil (forall_device run fun _ _ => rfl))
  | @handedOver _ start kind _ state evaluates =>
    cases kind with
    | network => exact .inl rfl
    | encryption =>
      right
      refine ⟨rfl, ?_, Nat.le_refl _⟩
      rw [state]
      cases evaluates with
      | ownership => exact Nat.lt_succ_self 1
      | network => rcases expects.decided_network state with same | same <;> cases same
  | _ => exact .inl rfl

/-- An opening has exchanges only at the beginning of an attempt. -/
theorem Opening.log_of_begun (opening : Opening operation s log reached after)
    (begun : s.state ≠ .init) : log = [] := by
  cases opening with
  | rejected state => exact absurd state begun
  | callerUnknown state => exact absurd state begun
  | notCleared state => exact absurd state begun
  | notLoaded state => exact absurd state begun
  | acceptedAnew state => exact absurd state begun
  | acceptedAgain state => exact absurd state begun
  | _ => rfl

/-- Nothing is committed before the first event of a call. -/
theorem Opening.not_committed (opening : Opening operation s log reached after) :
    committed (.called operation s :: moments log) = [] :=
  List.filterMap_eq_nil_iff.2
    (opening.forall_moments rfl (fun _ => rfl) (fun _ => rfl) (fun _ => rfl) fun _ _ _ => rfl)

/-! ## Whole histories -/

/-- What is known of the states that were committed and of the tickets for an encryption. -/
structure Advanced (past : List Moment) (s : Session) : Prop where
  ordered : ((committed past).map AttemptState.rank).Pairwise (· ≤ ·)
  reached : ∀ state ∈ committed past, state.rank ≤ s.state.rank
  unused : .checkingFactoryResetProtection ∉ committed past
  narrow : Throughout (fun before m => BeyondOwnership before → m.Narrow) past
  once : (encryptionsHandedOver past).length ≤ 1
  none : s.state.rank < 2 → encryptionsHandedOver past = []

/-- An attempt is beyond the ownership check once it was committed beyond it. -/
theorem Advanced.beyond (advanced : Advanced past s) (quiet : committed later = [])
    (beyond : BeyondOwnership (past ++ later)) : 2 ≤ s.state.rank := by
  obtain ⟨state, member, above, -⟩ := beyond
  rw [committed_append, quiet, List.append_nil] at member
  exact Nat.le_trans above (advanced.reached state member)

/-- What happens without a move leaves the attempt where it is. -/
theorem Advanced.append (advanced : Advanced past s) (same : after.state = s.state)
    (uncommitted : committed later = []) (unhanded : encryptionsHandedOver later = [])
    (narrow : 2 ≤ s.state.rank → ∀ m ∈ later, m.Narrow) : Advanced (past ++ later) after where
  ordered := by
    rw [committed_append, uncommitted, List.append_nil]
    exact advanced.ordered
  reached := by
    rw [committed_append, uncommitted, List.append_nil, same]
    exact advanced.reached
  unused := by
    rw [committed_append, uncommitted, List.append_nil]
    exact advanced.unused
  narrow := by
    refine Throughout.append_iff.2 ⟨advanced.narrow, ?_⟩
    intro before m rest split beyond
    have quiet : committed before = [] := by
      rw [split, committed_append] at uncommitted
      exact (List.append_eq_nil_iff.1 uncommitted).1
    exact narrow (advanced.beyond quiet beyond) m (by simp [split])
  once := by
    rw [encryptionsHandedOver_append, unhanded, List.append_nil]
    exact advanced.once
  none := by
    rw [encryptionsHandedOver_append, unhanded, List.append_nil, same]
    exact advanced.none

theorem Advanced.move (advanced : Advanced past s) (expects : s.Expects event)
    (move : Move s event log moved after) : Advanced (past ++ moments log) after := by
  have forward := move.rank_le expects
  have committing : ∀ state ∈ committed (moments log), state = after.state := by
    rcases move.committed_cases with same | ⟨same, -⟩ <;> simp [same]
  constructor
  · rw [committed_append, List.map_append, List.pairwise_append]
    refine ⟨advanced.ordered, ?_, ?_⟩
    · rcases move.committed_cases with same | ⟨same, -⟩ <;> simp [same]
    · intro earlier before later now
      obtain ⟨old, member, rfl⟩ := List.mem_map.1 before
      obtain ⟨new, added, rfl⟩ := List.mem_map.1 now
      obtain rfl := committing new added
      exact Nat.le_trans (advanced.reached old member) forward
  · intro state member
    rw [committed_append] at member
    rcases List.mem_append.1 member with before | now
    · exact Nat.le_trans (advanced.reached state before) forward
    · exact Nat.le_of_eq (congrArg AttemptState.rank (committing state now))
  · intro member
    rw [committed_append] at member
    rcases List.mem_append.1 member with before | now
    · exact advanced.unused before
    · exact move.ne_protection expects (committing _ now).symm
  · refine Throughout.append_iff.2 ⟨advanced.narrow, ?_⟩
    intro before m rest split beyond
    have quiet := move.committed_before split
    exact move.narrow expects (advanced.beyond quiet beyond) m (by simp [split])
  · rw [encryptionsHandedOver_append, List.length_append]
    rcases move.encryption_cases expects with same | ⟨one, early, -⟩
    · simpa [same] using advanced.once
    · simp [advanced.none early, one]
  · intro early
    rw [encryptionsHandedOver_append]
    rcases move.encryption_cases expects with same | ⟨-, -, late⟩
    · rw [same, advanced.none (by omega), List.append_nil]
    · omega

theorem advanced_kept : Kept fun past s _ => Advanced past s where
  opening := by
    intro past s after operation log reached resting advanced opening
    refine advanced.append opening.same_state opening.not_committed ?_ ?_
    · exact encryptionsHandedOver_eq_nil (List.filterMap_eq_nil_iff.1 opening.not_handedOver)
    · intro beyond
      have begun : s.state ≠ .init := by
        rintro state
        simp [state, AttemptState.rank] at beyond
      obtain rfl := opening.log_of_begun begun
      simp [Moment.Narrow]
  move := by
    intro past s after event log reached expects advanced move
    exact advanced.move expects move
  returned := by
    intro past s result resting advanced
    exact advanced.append rfl rfl rfl (by simp [Moment.Narrow])

/-- How an attempt went up to a time between two calls. -/
structure WentForward (past : List Moment) (s : Session) : Prop where
  ordered : ((committed past).map AttemptState.rank).Pairwise (· ≤ ·)
  unused : .checkingFactoryResetProtection ∉ committed past
  between : s.state ≠ .checkingEncryption ∧ s.state ≠ .launching
  narrow : Throughout (fun before m => BeyondOwnership before → m.Narrow) past
  once : (encryptionsHandedOver past).length ≤ 1

/-- An attempt only goes forward, does not repeat the checks before the one of the network, and asks
for at most one encryption. -/
theorem goes_forward (history : History attempt past s) : WentForward past s := by
  have first : Advanced ([] ++ [.opened attempt]) (Session.opened attempt) := by
    rw [List.nil_append]
    have uncommitted : committed [.opened attempt] = [] := rfl
    have unhanded : encryptionsHandedOver [.opened attempt] = [] := rfl
    refine ⟨?_, ?_, ?_, by simp [Moment.Narrow], ?_, fun _ => unhanded⟩
    · simp [uncommitted]
    · simp [uncommitted]
    · simp [uncommitted]
    · simp [unhanded]
  have advanced := history.keeps advanced_kept first
  rw [List.nil_append] at advanced
  have rests := history.resting.state
  refine ⟨advanced.ordered, advanced.unused, ⟨?_, ?_⟩, advanced.narrow, advanced.once⟩
  · intro state
    rw [state] at rests
    cases rests
  · intro state
    rw [state] at rests
    cases rests

theorem plainAttempt_forward :
    committed plainAttempt.1 =
        [.checkingOwnershipProvisioned, .checkingEncryption,
          .awaitingEncryptionRemediation ⟨"ticket"⟩, .checkingNetwork, .checkingNetwork,
          .awaitingConsent, .launching, .done .succeeded] ∧
      BeyondOwnership plainAttempt.1 ∧ WentForward plainAttempt.1 plainAttempt.2 := by
  have states : committed plainAttempt.1 =
      [.checkingOwnershipProvisioned, .checkingEncryption,
        .awaitingEncryptionRemediation ⟨"ticket"⟩, .checkingNetwork, .checkingNetwork,
        .awaitingConsent, .launching, .done .succeeded] := rfl
  refine ⟨states, ⟨.awaitingConsent, ?_, by decide, by decide⟩, goes_forward plainAttempt_history⟩
  rw [states]
  decide

end Session

end ProvisionGate
