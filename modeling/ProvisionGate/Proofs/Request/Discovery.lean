import ProvisionGate.Proofs.Request.TagBody

/-!
# Which discovered tags are accepted

A tag is a matter of the body of its first record of the provisioning type.  It is accepted exactly
if that body is well-formed and names an admin, and parsed to what the body asks for.
-/

namespace ProvisionGate

/-- A request for a discovered tag. -/
def discoveryRequest (payload : Payload) (caller : Option String) (attempt : Option AttemptId) :
    Request where
  action := .ndefDiscovered
  payload
  callingPrincipal := caller
  resumedAttempt := attempt

/-- A payload has a body to be read: that of its first tag record of the provisioning type. -/
def Payload.HasBody (payload : Payload) (body : String) : Prop :=
  ∃ before record after, payload = .discovery (before ++ record :: after) ∧
    (∀ earlier ∈ before, earlier.mimeType ≠ provisioningMimeType) ∧
    record.mimeType = provisioningMimeType ∧ record.body = body

namespace Payload

variable {payload : Payload} {body other : String}

theorem hasBody_discovery_iff {records : List TagRecord} :
    (discovery records).HasBody body ↔
      ∃ record, records.find? (fun record => record.mimeType == provisioningMimeType) =
        some record ∧ record.body = body := by
  simp only [List.find?_eq_some_iff_append, beq_iff_eq, Bool.not_eq_true', beq_eq_false_iff_ne]
  constructor
  · rintro ⟨before, record, after, same, others, type, held⟩
    obtain rfl := Payload.discovery.inj same
    exact ⟨record, ⟨type, before, after, rfl, others⟩, held⟩
  · rintro ⟨record, ⟨type, before, after, rfl, others⟩, held⟩
    exact ⟨before, record, after, rfl, others, type, held⟩

theorem HasBody.unique (has : payload.HasBody body) (again : payload.HasBody other) :
    body = other := by
  cases payload with
  | extras found =>
    obtain ⟨_, _, _, same, -⟩ := has
    cases same
  | discovery records =>
    obtain ⟨record, found, rfl⟩ := hasBody_discovery_iff.1 has
    obtain ⟨second, same, rfl⟩ := hasBody_discovery_iff.1 again
    rw [found] at same
    rw [Option.some.inj same]

/-- A tag is read by its body. -/
theorem HasBody.discoveredParams (has : payload.HasBody body) :
    payload.discoveredParams = (do
      let p ← (FieldSource.properties (Properties.parse body)).fullParams .strict
      return { p with startedByDiscovery := true }) := by
  cases payload with
  | extras found =>
    obtain ⟨_, _, _, same, -⟩ := has
    cases same
  | discovery records =>
    obtain ⟨record, found, rfl⟩ := hasBody_discovery_iff.1 has
    unfold Payload.discoveredParams
    simp only [found]

/-- A well-formed body gives what it describes, and any other one is refused for a field. -/
theorem HasBody.discoveredParams_cases (has : payload.HasBody body) :
    Properties.IsWellFormed body ∧ payload.discoveredParams = .ok (Properties.tagRead body) ∨
      ¬ Properties.IsWellFormed body ∧
        ∃ key problem, payload.discoveredParams = .error (.field key problem) := by
  rw [has.discoveredParams, ← Properties.isWellFormed_iff]
  rcases (FieldSource.fullParams_reads (.properties (Properties.parse body))
    .strict).strict_cases with ⟨fits, read⟩ | ⟨malformed, key, problem, read⟩
  · rw [read]
    exact .inl ⟨fits, rfl⟩
  · rw [read]
    exact .inr ⟨malformed, key, problem, rfl⟩

theorem discoveredParams_of_none (none : ∀ body, ¬ payload.HasBody body) :
    ∃ fault, payload.discoveredParams = .error fault ∧ fault.kind = .malformedPayload := by
  cases payload with
  | extras found => exact ⟨_, rfl, rfl⟩
  | discovery records =>
    unfold Payload.discoveredParams
    simp only
    split
    · exact ⟨_, rfl, rfl⟩
    · rename_i record found
      exact absurd (hasBody_discovery_iff.2 ⟨record, found, rfl⟩) (none _)

end Payload

section

variable (payload : Payload) (caller : Option String) (attempt : Option AttemptId)

theorem parse_discoveryRequest :
    (discoveryRequest payload caller attempt).parse = (do
      let p ← payload.discoveredParams
      if p.admin?.isNone then throw .missingAdmin
      return p) :=
  rfl

theorem parse_discoveryRequest_of_read {payload : Payload} {p : Params}
    (read : payload.discoveredParams = .ok p) :
    (discoveryRequest payload caller attempt).parse =
      if p.admin?.isNone then .error .missingAdmin else .ok p := by
  rw [parse_discoveryRequest, read]
  rfl

end

namespace DiscoveredTag

/-- A tag is accepted: its body is well-formed and names an admin. -/
inductive Accepted (payload : Payload) : Params → Prop
  | tag {body admin : String} {p : Params} (has : payload.HasBody body)
      (wellFormed : Properties.IsWellFormed body) (named : Properties.NamesAdmin body admin)
      (described : Properties.Describes body p) (inferred : p.admin? = some admin) :
      Accepted payload p

/-- Why a tag is refused.  An admin is missed only in a body that is well-formed. -/
inductive Refused (payload : Payload) : RejectionKind → Prop
  | noBody (none : ∀ body, ¬ payload.HasBody body) : Refused payload .malformedPayload
  | malformed {body : String} (has : payload.HasBody body)
      (malformed : ¬ Properties.IsWellFormed body) : Refused payload .malformedPayload
  | missingAdmin {body : String} (has : payload.HasBody body)
      (wellFormed : Properties.IsWellFormed body)
      (unnamed : ∀ admin, ¬ Properties.NamesAdmin body admin) : Refused payload .missingAdmin

variable {payload : Payload} {p q : Params} {kind other : RejectionKind}

theorem Accepted.not_refused (accepted : Accepted payload p) : ¬ Refused payload kind := by
  obtain ⟨has, wellFormed, named, -, -⟩ := accepted
  intro refused
  cases refused with
  | noBody none => exact none _ has
  | malformed again malformed =>
    obtain rfl := has.unique again
    exact malformed wellFormed
  | missingAdmin again _ unnamed =>
    obtain rfl := has.unique again
    exact unnamed _ named

theorem Accepted.unique (accepted : Accepted payload p) (again : Accepted payload q) : p = q := by
  obtain ⟨has, -, -, first, -⟩ := accepted
  obtain ⟨same, -, -, second, -⟩ := again
  obtain rfl := has.unique same
  exact first.unique second

theorem Refused.unique (refused : Refused payload kind) (again : Refused payload other) :
    kind = other := by
  cases refused with
  | noBody none =>
    cases again with
    | noBody | malformed => rfl
    | missingAdmin has => exact absurd has (none _)
  | malformed has malformed =>
    cases again with
    | noBody | malformed => rfl
    | missingAdmin same wellFormed =>
      obtain rfl := has.unique same
      exact absurd wellFormed malformed
  | missingAdmin has wellFormed =>
    cases again with
    | noBody none => exact absurd has (none _)
    | malformed same malformed =>
      obtain rfl := has.unique same
      exact absurd wellFormed malformed
    | missingAdmin => rfl

end DiscoveredTag

/-- A tag is parsed to what it is accepted for, or rejected for what it is refused for. -/
theorem parse_discoveryRequest_cases (payload : Payload) (caller : Option String)
    (attempt : Option AttemptId) :
    (∃ p, (discoveryRequest payload caller attempt).parse = .ok p ∧
      DiscoveredTag.Accepted payload p) ∨
    ∃ fault, (discoveryRequest payload caller attempt).parse = .error fault ∧
      DiscoveredTag.Refused payload fault.kind := by
  by_cases some : ∃ body, payload.HasBody body
  case neg =>
    have none : ∀ body, ¬ payload.HasBody body := fun body has => some ⟨body, has⟩
    obtain ⟨fault, rejected, kind⟩ := Payload.discoveredParams_of_none none
    rw [parse_discoveryRequest, rejected]
    exact .inr ⟨fault, rfl, kind ▸ .noBody none⟩
  obtain ⟨body, has⟩ := some
  rcases has.discoveredParams_cases with ⟨wellFormed, read⟩ | ⟨malformed, key, problem, rejected⟩
  case inr =>
    rw [parse_discoveryRequest, rejected]
    exact .inr ⟨_, rfl, .malformed has malformed⟩
  have described := Properties.describes_tagRead body
  rw [parse_discoveryRequest_of_read caller attempt read]
  cases named : (Properties.tagRead body).admin? with
  | none =>
    refine .inr ⟨_, rfl, .missingAdmin has wellFormed fun admin names => ?_⟩
    rw [(described.admin?_eq_some_iff wellFormed).2 names] at named
    cases named
  | some admin =>
    have names := (described.admin?_eq_some_iff wellFormed).1 named
    exact .inl ⟨_, rfl, .tag has wellFormed names described named⟩

section

variable (payload : Payload) (caller : Option String) (attempt : Option AttemptId)

theorem parse_discoveryRequest_answered :
    (∀ p, (discoveryRequest payload caller attempt).parse = .ok p ↔
      DiscoveredTag.Accepted payload p) ∧
    ∀ kind, (∃ fault, (discoveryRequest payload caller attempt).parse = .error fault ∧
      fault.kind = kind) ↔ DiscoveredTag.Refused payload kind :=
  answered_iff (parse_discoveryRequest_cases payload caller attempt)
    (fun _ _ accepted => accepted.not_refused) (fun _ _ first second => first.unique second)
    (fun _ _ first second => first.unique second)

/-- A tag is parsed to something exactly if its body is well-formed and names an admin. -/
theorem parse_discoveryRequest_isOk_iff :
    (∃ p, (discoveryRequest payload caller attempt).parse = .ok p) ↔
      ∃ body, payload.HasBody body ∧ Properties.IsWellFormed body ∧
        ∃ admin, Properties.NamesAdmin body admin := by
  constructor
  · rintro ⟨p, parsed⟩
    obtain ⟨has, wellFormed, named, -, -⟩ :=
      ((parse_discoveryRequest_answered payload caller attempt).1 p).1 parsed
    exact ⟨_, has, wellFormed, _, named⟩
  · rintro ⟨body, has, wellFormed, admin, named⟩
    have described := Properties.describes_tagRead body
    have accepted := DiscoveredTag.Accepted.tag has wellFormed named described
      ((described.admin?_eq_some_iff wellFormed).2 named)
    exact ⟨_, ((parse_discoveryRequest_answered payload caller attempt).1 _).2 accepted⟩

/-- Nothing matters but what the first record of the type gives to the keys that are read. -/
theorem parse_discoveryRequest_congr {payload others : Payload} {body other : String}
    (has : payload.HasBody body) (hasOther : others.HasBody other)
    (agree : Properties.Agree body other) (sender : Option String) (resumed : Option AttemptId) :
    (discoveryRequest others sender resumed).parse =
      (discoveryRequest payload caller attempt).parse := by
  rw [parse_discoveryRequest, parse_discoveryRequest, has.discoveredParams,
    hasOther.discoveredParams, agree.fullParams_eq]

/-- A discovered tag is accepted exactly if its body is well-formed and names an admin, and it is
parsed to the one thing that its body describes.  Otherwise it is rejected for the first reason to
refuse it.  Other records, idle lines and whatever is said under other keys do not matter. -/
theorem parse_discoveryRequest_iff :
    ((∃ p, (discoveryRequest payload caller attempt).parse = .ok p) ↔
      ∃ body, payload.HasBody body ∧ Properties.IsWellFormed body ∧
        ∃ admin, Properties.NamesAdmin body admin) ∧
    (∀ p, (discoveryRequest payload caller attempt).parse = .ok p ↔
      DiscoveredTag.Accepted payload p) ∧
    (∀ kind, (∃ fault, (discoveryRequest payload caller attempt).parse = .error fault ∧
      fault.kind = kind) ↔ DiscoveredTag.Refused payload kind) ∧
    ∀ others body other sender resumed, payload.HasBody body → others.HasBody other →
      (Properties.Agree body other ∨ Properties.AddsIdle body other) →
      (discoveryRequest others sender resumed).parse =
        (discoveryRequest payload caller attempt).parse := by
  obtain ⟨parsed, rejected⟩ := parse_discoveryRequest_answered payload caller attempt
  refine ⟨parse_discoveryRequest_isOk_iff payload caller attempt, parsed, rejected, ?_⟩
  intro others body other sender resumed has hasOther same
  rcases same with agree | adds
  · exact parse_discoveryRequest_congr caller attempt has hasOther agree sender resumed
  · exact parse_discoveryRequest_congr caller attempt has hasOther adds.agree sender resumed

end

end ProvisionGate
