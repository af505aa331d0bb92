import ProvisionGate.Proofs.Request.Reading

/-!
# Who may send a public trigger

A public trigger asks by five entries and no others.  It is accepted exactly if each of them is
well-formed and its sender is known and is the admin that it names; otherwise the first of four
reasons that applies is given.  Which admin it names is read off the entries alone
(`TextMap.Appoints`): where a component is given, a package beside it does not count.
-/

namespace ProvisionGate

open Entry

namespace TextMap

/-- The entries that a public trigger may ask by are well-formed. -/
structure IsPublic (found : TextMap Json) : Prop where
  adminPackage : IsText (found.get? Key.adminPackage)
  adminComponent : IsComponent (found.get? Key.adminComponent)
  skipEncryption : IsFlag (found.get? Key.skipEncryption)
  leaveSystemApps : IsFlag (found.get? Key.leaveSystemApps)
  adminExtras : IsTexts (found.get? Key.adminExtras)

/-- What extras ask for when they come with a public trigger. -/
def askedFor (found : TextMap Json) : Params :=
  { Params.empty with
    adminPackage := textOf (found.get? Key.adminPackage)
    adminComponent := componentOf (found.get? Key.adminComponent)
    skipEncryption := flagOf (found.get? Key.skipEncryption)
    leaveSystemApps := flagOf (found.get? Key.leaveSystemApps)
    adminExtras := textsOf (found.get? Key.adminExtras) }

/-- The admin that extras name: the package of their component if they give one, else the package
that they give. -/
inductive Appoints (found : TextMap Json) : String → Prop
  | component {flat : String} {c : Component}
      (given : found.get? Key.adminComponent = some (.text flat))
      (read : Component.unflatten? flat = some c) : Appoints found c.package
  | package {name : String}
      (bare : ∀ flat, found.get? Key.adminComponent = some (.text flat) → flat = "")
      (given : found.get? Key.adminPackage = some (.text name)) (full : name ≠ "") :
      Appoints found name

variable {found : TextMap Json} {admin other : String}

/-- Extras name one admin at most. -/
theorem Appoints.unique (named : found.Appoints admin) (again : found.Appoints other) :
    admin = other := by
  cases named with
  | component given read =>
    cases again with
    | component givenAgain reread =>
      rw [given] at givenAgain
      cases givenAgain
      rw [read] at reread
      rw [Option.some.inj reread]
    | package bare =>
      rw [bare _ given] at read
      cases read
  | package bare given =>
    cases again with
    | component givenAgain reread =>
      rw [bare _ givenAgain] at reread
      cases reread
    | package _ givenAgain =>
      rw [given] at givenAgain
      cases givenAgain
      rfl

/-- The admin that well-formed extras ask for is the one that they name. -/
theorem askedFor_admin?_eq_some_iff (wellFormed : found.IsPublic) :
    found.askedFor.admin? = some admin ↔ found.Appoints admin := by
  have packages (name : String) : found.askedFor.adminPackage = some name ↔
      found.get? Key.adminPackage = some (.text name) ∧ name ≠ "" := textOf_eq_some_iff
  have components (c : Component) : found.askedFor.adminComponent = some c ↔
      ∃ flat, found.get? Key.adminComponent = some (.text flat) ∧
        Component.unflatten? flat = some c := componentOf_eq_some_iff
  have readable (flat : String) (given : found.get? Key.adminComponent = some (.text flat))
      (full : flat ≠ "") : ∃ c, Component.unflatten? flat = some c :=
    Option.isSome_iff_exists.1
      (wellFormed.adminComponent.2 flat (textOf_eq_some_iff.2 ⟨given, full⟩))
  rw [Params.admin?_eq_some_iff_given packages components readable]
  constructor
  · rintro (⟨flat, c, given, read, rfl⟩ | ⟨bare, given, full⟩)
    · exact .component given read
    · exact .package bare given full
  · intro named
    cases named with
    | component given read => exact .inl ⟨_, _, given, read, rfl⟩
    | package bare given full => exact .inr ⟨bare, given, full⟩

theorem askedFor_admin?_eq_none_iff (wellFormed : found.IsPublic) :
    found.askedFor.admin? = none ↔ ∀ admin, ¬ found.Appoints admin := by
  rw [Option.eq_none_iff_forall_ne_some]
  exact forall_congr' fun admin => not_congr (askedFor_admin?_eq_some_iff wellFormed)

end TextMap

/-- A public trigger. -/
def publicRequest (payload : Payload) (caller : Option String) (attempt : Option AttemptId) :
    Request where
  action := .provision
  payload
  callingPrincipal := caller
  resumedAttempt := attempt

namespace PublicTrigger

/-- The keys of the entries that a public trigger may ask by. -/
def keys : List String :=
  [Key.adminPackage, Key.adminComponent, Key.skipEncryption, Key.leaveSystemApps, Key.adminExtras]

/-- A public trigger is accepted: its entries are well-formed, and its sender is known and is the
admin that they name. -/
inductive Accepted : Payload → Option String → Params → Prop
  | admin {found : TextMap Json} {caller : String} (wellFormed : found.IsPublic)
      (known : caller ≠ "") (named : found.Appoints caller) :
      Accepted (.extras found) (some caller) found.askedFor

/-- Why a public trigger is refused.  Each reason applies only where those before it do not. -/
inductive Refused : Payload → Option String → RejectionKind → Prop
  | tagRecords {records : List TagRecord} {caller : Option String} :
      Refused (.discovery records) caller .malformedPayload
  | malformed {found : TextMap Json} {caller : Option String} (malformed : ¬ found.IsPublic) :
      Refused (.extras found) caller .malformedPayload
  | callerUnknown {found : TextMap Json} {caller : Option String} (wellFormed : found.IsPublic)
      (unknown : caller = none ∨ caller = some "") :
      Refused (.extras found) caller .callerUnknown
  | missingAdmin {found : TextMap Json} {caller : String} (wellFormed : found.IsPublic)
      (known : caller ≠ "") (unnamed : ∀ admin, ¬ found.Appoints admin) :
      Refused (.extras found) (some caller) .missingAdmin
  | permissionDenied {found : TextMap Json} {caller admin : String} (wellFormed : found.IsPublic)
      (known : caller ≠ "") (named : found.Appoints admin) (other : caller ≠ admin) :
      Refused (.extras found) (some caller) .permissionDenied

/-- A trigger that is accepted is not refused as well. -/
theorem Accepted.not_refused {payload : Payload} {caller : Option String} {p : Params}
    {kind : RejectionKind} (accepted : Accepted payload caller p) :
    ¬ Refused payload caller kind := by
  obtain ⟨wellFormed, known, named⟩ := accepted
  intro refused
  cases refused with
  | malformed malformed => exact malformed wellFormed
  | callerUnknown _ unknown =>
    rcases unknown with none | empty
    · cases none
    · exact known (Option.some.inj empty)
  | missingAdmin _ _ unnamed => exact unnamed _ named
  | permissionDenied _ _ others other => exact other (named.unique others)

theorem Accepted.unique {payload : Payload} {caller : Option String} {p q : Params}
    (accepted : Accepted payload caller p) (again : Accepted payload caller q) : p = q := by
  cases accepted
  cases again
  rfl

theorem Refused.unique {payload : Payload} {caller : Option String} {kind other : RejectionKind}
    (refused : Refused payload caller kind) (again : Refused payload caller other) :
    kind = other := by
  cases refused with
  | tagRecords =>
    cases again
    rfl
  | malformed malformed =>
    cases again with
    | malformed => rfl
    | callerUnknown wellFormed | missingAdmin wellFormed | permissionDenied wellFormed =>
      exact absurd wellFormed malformed
  | callerUnknown wellFormed unknown =>
    cases again with
    | malformed malformed => exact absurd wellFormed malformed
    | callerUnknown => rfl
    | missingAdmin _ known | permissionDenied _ known =>
      exact absurd unknown (by simpa using known)
  | missingAdmin wellFormed known unnamed =>
    cases again with
    | malformed malformed => exact absurd wellFormed malformed
    | callerUnknown _ unknown => exact absurd unknown (by simpa using known)
    | missingAdmin => rfl
    | permissionDenied _ _ named => exact absurd named (unnamed _)
  | permissionDenied wellFormed known named =>
    cases again with
    | malformed malformed => exact absurd wellFormed malformed
    | callerUnknown _ unknown => exact absurd unknown (by simpa using known)
    | missingAdmin _ _ unnamed => exact absurd named (unnamed _)
    | permissionDenied => rfl

end PublicTrigger

/-- The five entries are read one after the other, up to the first that is malformed. -/
theorem FieldSource.publicParams_reads (found : TextMap Json) :
    SourceRead .strict found.IsPublic
      { found.askedFor with adminExtras := extrasOf (found.get? Key.adminExtras) }
      (extras found).publicParams := by
  have reads : SourceRead .strict _
      { found.askedFor with adminExtras := extrasOf (found.get? Key.adminExtras) }
      (extras found).publicParams :=
    .bind ((extras found).text_reads .strict Key.adminPackage).source <|
    .bind ((extras found).component_reads .strict Key.adminComponent).source <|
    .bind ((extras found).flag_reads .strict Key.skipEncryption).source <|
    .bind ((extras found).flag_reads .strict Key.leaveSystemApps).source <|
    .bind (adminExtras_reads .strict found).source <|
    .done .strict _
  refine reads.congr ⟨?_, ?_⟩
  · intro fits
    exact ⟨fits.adminPackage, fits.adminComponent, fits.skipEncryption, fits.leaveSystemApps,
      fits.adminExtras, trivial⟩
  · rintro ⟨package, component, skip, leave, texts, -⟩
    exact ⟨package, component, skip, leave, texts⟩

theorem FieldSource.publicParams_cases (found : TextMap Json) :
    found.IsPublic ∧ (extras found).publicParams = .ok found.askedFor ∨
      ¬ found.IsPublic ∧
        ∃ key problem, (extras found).publicParams = .error (.field key problem) := by
  rcases (publicParams_reads found).strict_cases with ⟨fits, read⟩ | refused
  · refine .inl ⟨fits, ?_⟩
    rw [read, ← textsOf_eq fits.adminExtras]
    rfl
  · exact .inr refused

/-- Parameters are authenticated by a sender that is their admin, or they are refused for the first
reason that applies. -/
theorem Params.authenticate_cases (p : Params) (caller : Option String) :
    ((caller = none ∨ caller = some "") ∧ p.authenticate caller = .error .callerUnknown) ∨
    ∃ sender, caller = some sender ∧ sender ≠ "" ∧
      ((p.admin? = none ∧ p.authenticate caller = .error .missingAdmin) ∨
        (p.admin? = some sender ∧ p.authenticate caller = .ok ()) ∨
          ∃ admin, p.admin? = some admin ∧ sender ≠ admin ∧
            p.authenticate caller = .error (.permissionDenied sender admin)) := by
  cases caller with
  | none => exact .inl ⟨.inl rfl, rfl⟩
  | some sender =>
    by_cases empty : sender = ""
    · subst empty
      exact .inl ⟨.inr rfl, rfl⟩
    · have known : (some sender).filter (fun caller => !caller.isEmpty) = some sender := by
        rw [Option.filter_some, if_pos (by simpa using empty)]
      refine .inr ⟨sender, rfl, empty, ?_⟩
      unfold authenticate
      rw [known]
      cases p.admin? with
      | none => exact .inl ⟨rfl, rfl⟩
      | some admin =>
        by_cases same : sender = admin
        · subst same
          exact .inr (.inl ⟨rfl, if_pos rfl⟩)
        · exact .inr (.inr ⟨admin, rfl, same, if_neg same⟩)

/-- A public trigger with extras is read, and then its sender is authenticated. -/
theorem parse_publicRequest (found : TextMap Json) (caller : Option String)
    (attempt : Option AttemptId) :
    (publicRequest (.extras found) caller attempt).parse = (do
      let p ← (FieldSource.extras found).publicParams
      p.authenticate caller
      if p.admin?.isNone then throw .missingAdmin
      return p) := by
  unfold Request.parse
  show ((FieldSource.extras found).publicParams >>= fun p => _) >>= _ = _
  cases (FieldSource.extras found).publicParams with
  | error fault => rfl
  | ok p =>
    show (p.authenticate caller >>= fun _ => _) >>= _ = p.authenticate caller >>= _
    cases p.authenticate caller <;> rfl

/-- What well-formed extras ask for is authenticated. -/
theorem parse_publicRequest_of_read {found : TextMap Json} {p : Params}
    (read : (FieldSource.extras found).publicParams = .ok p) (caller : Option String)
    (attempt : Option AttemptId) :
    (publicRequest (.extras found) caller attempt).parse = (do
      p.authenticate caller
      if p.admin?.isNone then throw .missingAdmin
      return p) := by
  rw [parse_publicRequest, read]
  rfl

/-- A public trigger is parsed to what its extras ask for if it is accepted, and rejected if it is
refused. -/
theorem parse_publicRequest_cases (payload : Payload) (caller : Option String)
    (attempt : Option AttemptId) :
    (∃ p, (publicRequest payload caller attempt).parse = .ok p ∧
      PublicTrigger.Accepted payload caller p) ∨
    ∃ fault, (publicRequest payload caller attempt).parse = .error fault ∧
      PublicTrigger.Refused payload caller fault.kind := by
  cases payload with
  | discovery records => exact .inr ⟨_, rfl, .tagRecords⟩
  | extras found =>
    rcases FieldSource.publicParams_cases found with
      ⟨wellFormed, read⟩ | ⟨malformed, key, problem, read⟩
    · rw [parse_publicRequest_of_read read]
      rcases found.askedFor.authenticate_cases caller with
        ⟨unknown, refused⟩ | ⟨sender, rfl, known, verdict⟩
      · rw [refused]
        exact .inr ⟨_, rfl, .callerUnknown wellFormed unknown⟩
      · rcases verdict with ⟨unnamed, refused⟩ | ⟨named, passed⟩ | ⟨admin, named, other, refused⟩
        · have nobody := (TextMap.askedFor_admin?_eq_none_iff wellFormed).1 unnamed
          rw [refused]
          exact .inr ⟨_, rfl, .missingAdmin wellFormed known nobody⟩
        · have itself := (TextMap.askedFor_admin?_eq_some_iff wellFormed).1 named
          rw [passed, named]
          exact .inl ⟨_, rfl, .admin wellFormed known itself⟩
        · have another := (TextMap.askedFor_admin?_eq_some_iff wellFormed).1 named
          rw [refused]
          exact .inr ⟨_, rfl, .permissionDenied wellFormed known another other⟩
    · rw [parse_publicRequest, read]
      exact .inr ⟨_, rfl, .malformed malformed⟩

/-- What a public trigger asks for, and whether it is well-formed, is a matter of five entries. -/
theorem FieldSource.publicParams_congr {found other : TextMap Json}
    (same : ∀ key ∈ PublicTrigger.keys, found.get? key = other.get? key) :
    (extras found).publicParams = (extras other).publicParams := by
  simp only [PublicTrigger.keys, List.forall_mem_cons] at same
  simp only [publicParams, text, flag, FieldSource.component, FieldSource.adminExtras, get?, same]

section

variable (payload : Payload) (caller : Option String) (attempt : Option AttemptId)

theorem parse_publicRequest_answered :
    (∀ p, (publicRequest payload caller attempt).parse = .ok p ↔
      PublicTrigger.Accepted payload caller p) ∧
    ∀ kind, (∃ fault, (publicRequest payload caller attempt).parse = .error fault ∧
      fault.kind = kind) ↔ PublicTrigger.Refused payload caller kind :=
  answered_iff (parse_publicRequest_cases payload caller attempt)
    (fun _ _ accepted => accepted.not_refused) (fun _ _ first second => first.unique second)
    (fun _ _ first second => first.unique second)

theorem parse_publicRequest_eq_ok_iff (p : Params) :
    (publicRequest payload caller attempt).parse = .ok p ↔
      PublicTrigger.Accepted payload caller p :=
  (parse_publicRequest_answered payload caller attempt).1 p

theorem parse_publicRequest_eq_error_iff (kind : RejectionKind) :
    (∃ fault, (publicRequest payload caller attempt).parse = .error fault ∧ fault.kind = kind) ↔
      PublicTrigger.Refused payload caller kind :=
  (parse_publicRequest_answered payload caller attempt).2 kind

/-- A public trigger is parsed exactly if it is accepted, and otherwise rejected for the first reason
to refuse it.  It sets nothing but what it may ask for, and no entry but the five matters. -/
theorem parse_publicRequest_iff :
    (∀ p, (publicRequest payload caller attempt).parse = .ok p ↔
      PublicTrigger.Accepted payload caller p) ∧
    (∀ kind, (∃ fault, (publicRequest payload caller attempt).parse = .error fault ∧
      fault.kind = kind) ↔ PublicTrigger.Refused payload caller kind) ∧
    (∀ p, (publicRequest payload caller attempt).parse = .ok p →
      p.startedByDiscovery = false ∧ p.wifi = Wifi.empty ∧ p.adminDownload = none ∧
        p.locale = none ∧ p.timeZone = none ∧ p.localTime = none) ∧
    ∀ found other, payload = .extras found →
      (∀ key ∈ PublicTrigger.keys, found.get? key = other.get? key) →
      (publicRequest (.extras other) caller attempt).parse =
        (publicRequest payload caller attempt).parse := by
  refine ⟨parse_publicRequest_eq_ok_iff payload caller attempt,
    parse_publicRequest_eq_error_iff payload caller attempt, ?_, ?_⟩
  · intro p parsed
    cases (parse_publicRequest_eq_ok_iff payload caller attempt p).1 parsed
    exact ⟨rfl, rfl, rfl, rfl, rfl, rfl⟩
  · rintro found other rfl same
    rw [parse_publicRequest, parse_publicRequest, FieldSource.publicParams_congr same]

end

/-- Extras that give a package and a component of another one, and claim to come from a tag. -/
def rivalExtras : TextMap Json :=
  .ofPairs [("provisioning.device_admin_package_name", .text "org.one"),
    ("provisioning.device_admin_component_name", .text "org.two/.Admin"),
    ("provisioning.skip_encryption", .text " true "),
    ("provisioning.started_by_discovery", .bool true)]

/-- The component counts: its package is accepted as a sender, with nothing set that a public trigger
may not ask for, and the other package is not. -/
theorem rivalExtras_parsed :
    (publicRequest (.extras rivalExtras) (some "org.two") none).parse =
        .ok { Params.empty with
          adminPackage := some "org.one"
          adminComponent := some ⟨"org.two", "org.two.Admin"⟩
          skipEncryption := true } ∧
      ∃ fault, (publicRequest (.extras rivalExtras) (some "org.one") none).parse = .error fault ∧
        fault.kind = .permissionDenied := by
  have given : rivalExtras.get? Key.adminComponent = some (.text "org.two/.Admin") := rfl
  have read : Component.unflatten? "org.two/.Admin" = some ⟨"org.two", "org.two.Admin"⟩ := rfl
  have named : rivalExtras.Appoints "org.two" := .component given read
  have wellFormed : rivalExtras.IsPublic := {
    adminPackage := trivial
    adminComponent := ⟨trivial, fun flat member => by cases member; rfl⟩
    skipEncryption := .inl rfl
    leaveSystemApps := trivial
    adminExtras := trivial }
  obtain ⟨accepts, -⟩ := parse_publicRequest_iff (.extras rivalExtras) (some "org.two") none
  obtain ⟨-, refuses, -⟩ := parse_publicRequest_iff (.extras rivalExtras) (some "org.one") none
  exact ⟨(accepts _).2 (.admin wellFormed (by decide) named),
    (refuses _).2 (.permissionDenied wellFormed (by decide) named (by decide))⟩

end ProvisionGate
