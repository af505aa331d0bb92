import ProvisionGate.Proofs.Component
import ProvisionGate.Proofs.Request.Extras
import ProvisionGate.Remediation.Ticket

/-!
# Requests that take an attempt up again

The parameters of a request that was parsed are written as extras, and the extras are parsed again.
Every field comes back as it was but the class of the admin's component, which is expanded once
more if it begins with a point.
-/

namespace ProvisionGate

/-! ## What was read -/

/-- What holds of a wireless network that was read from a request. -/
structure Wifi.IsRead (w : Wifi) : Prop where
  ssid : w.ssid ≠ some ""
  securityType : w.securityType ≠ some ""
  password : w.password ≠ some ""
  proxyHost : w.proxyHost ≠ some ""
  proxyPort : w.proxyPort ≠ some 0
  proxyBypass : w.proxyBypass ≠ some ""
  pacUrl : w.pacUrl ≠ some ""

/-- What holds of parameters that were read from a request: no text is empty. -/
structure Params.IsRead (p : Params) : Prop where
  adminPackage : p.adminPackage ≠ some ""
  adminComponent : ∀ c ∈ p.adminComponent, c.IsRead
  location : ∀ d ∈ p.adminDownload, d.location ≠ ""
  checksum : ∀ d ∈ p.adminDownload, d.checksum ≠ some ""
  wifi : p.wifi.IsRead
  locale : p.locale ≠ some ""
  timeZone : p.timeZone ≠ some ""

namespace FieldSource

variable {source : FieldSource} {strictness : Strictness} {key : String}

theorem malformed_eq_ok {α : Type} {problem : FieldProblem} {default a : α}
    (read : malformed strictness key problem default = .ok a) : a = default := by
  cases strictness with
  | strict => cases read
  | permissive => exact (Except.ok.inj read).symm

theorem text_ne {value : Option String} (read : source.text strictness key = .ok value) :
    value ≠ some "" := by
  unfold text at read
  split at read
  · obtain rfl := Except.ok.inj read
    simp
  · obtain rfl := Except.ok.inj read
    simp
  · obtain rfl := Except.ok.inj read
    split
    · simp
    · rename_i full
      intro same
      obtain rfl := Option.some.inj same
      exact full rfl
  · obtain rfl := malformed_eq_ok read
    simp

theorem component_isRead {value : Option Component}
    (read : source.component strictness key = .ok value) : ∀ c ∈ value, c.IsRead := by
  obtain ⟨text, -, found⟩ := bind_eq_ok_iff.1 read
  cases text with
  | none =>
    obtain rfl := Except.ok.inj found
    simp
  | some flat =>
    cases parsed : Component.unflatten? flat with
    | none =>
      simp only [parsed] at found
      obtain rfl := malformed_eq_ok found
      simp
    | some c =>
      simp only [parsed] at found
      obtain rfl := Except.ok.inj found
      intro d member
      obtain rfl := Option.some.inj member
      exact Component.isRead_of_unflatten? parsed

theorem portNumber_ne {value : Option UInt16}
    (read : source.portNumber strictness key = .ok value) : value ≠ some 0 := by
  obtain ⟨number, -, found⟩ := bind_eq_ok_iff.1 read
  cases number with
  | none =>
    obtain rfl := Except.ok.inj found
    simp
  | some n =>
    simp only at found
    split at found
    · rename_i inRange
      obtain rfl := Except.ok.inj found
      intro same
      obtain ⟨positive, bound⟩ : 0 < n.toInt ∧ n.toInt < 65536 := inRange
      generalize n.toInt = number at positive bound same
      have zero : number.toNat % 65536 = 0 := congrArg UInt16.toNat (Option.some.inj same)
      omega
    · obtain rfl := malformed_eq_ok found
      simp

theorem wifi_isRead {w : Wifi} (read : source.wifi strictness = .ok w) : w.IsRead := by
  unfold wifi at read
  simp only [bind_eq_ok_iff] at read
  obtain ⟨ssid, ssidRead, hidden, -, securityType, securityTypeRead, password, passwordRead,
    proxyHost, proxyHostRead, proxyPort, proxyPortRead, proxyBypass, proxyBypassRead, pacUrl,
    pacUrlRead, same⟩ := read
  obtain rfl := Except.ok.inj same
  exact {
    ssid := text_ne ssidRead
    securityType := text_ne securityTypeRead
    password := text_ne passwordRead
    proxyHost := text_ne proxyHostRead
    proxyPort := portNumber_ne proxyPortRead
    proxyBypass := text_ne proxyBypassRead
    pacUrl := text_ne pacUrlRead }

theorem download_isRead {download : Option Download}
    (read : source.download strictness = .ok download) :
    ∀ d ∈ download, d.location ≠ "" ∧ d.checksum ≠ some "" := by
  obtain ⟨location, locationRead, found⟩ := bind_eq_ok_iff.1 read
  cases location with
  | none =>
    obtain rfl := Except.ok.inj found
    simp
  | some place =>
    obtain ⟨checksum, checksumRead, same⟩ := bind_eq_ok_iff.1 found
    obtain rfl := Except.ok.inj same
    intro d member
    obtain rfl := Option.some.inj member
    exact ⟨fun empty => text_ne locationRead (congrArg some empty), text_ne checksumRead⟩

theorem fullParams_isRead {p : Params} (read : source.fullParams strictness = .ok p) :
    p.IsRead := by
  unfold fullParams at read
  simp only [bind_eq_ok_iff] at read
  obtain ⟨download, downloadRead, wifi, wifiRead, package, packageRead, component, componentRead,
    skip, -, leave, -, locale, localeRead, timeZone, timeZoneRead, localTime, -, extras, -,
    same⟩ := read
  obtain rfl := Except.ok.inj same
  exact {
    adminPackage := text_ne packageRead
    adminComponent := component_isRead componentRead
    location := fun d member => (download_isRead downloadRead d member).1
    checksum := fun d member => (download_isRead downloadRead d member).2
    wifi := wifi_isRead wifiRead
    locale := text_ne localeRead
    timeZone := text_ne timeZoneRead }

theorem publicParams_isRead {p : Params} (read : source.publicParams = .ok p) : p.IsRead := by
  unfold publicParams at read
  simp only [bind_eq_ok_iff] at read
  obtain ⟨package, packageRead, component, componentRead, skip, -, leave, -, extras, -, same⟩ := read
  obtain rfl := Except.ok.inj same
  exact {
    adminPackage := text_ne packageRead
    adminComponent := component_isRead componentRead
    location := by simp [Params.empty]
    checksum := by simp [Params.empty]
    wifi := by constructor <;> simp [Params.empty, Wifi.empty]
    locale := by simp [Params.empty]
    timeZone := by simp [Params.empty] }

end FieldSource

/-- Where an attempt began says nothing about what its fields are. -/
theorem Params.IsRead.startedAt {p : Params} (read : p.IsRead) (startedByDiscovery : Bool) :
    Params.IsRead { p with startedByDiscovery } :=
  { read with }

/-- What a request is parsed to names an admin and was read. -/
theorem Request.isRead_of_parse {r : Request} {p : Params} (parsed : r.parse = .ok p) :
    p.IsRead ∧ p.admin?.isSome = true := by
  obtain ⟨found, read, checked⟩ := bind_eq_ok_iff.1 parsed
  have named : found = p ∧ p.admin?.isSome = true := by
    cases admin : found.admin? with
    | none =>
      simp only [admin] at checked
      cases checked
    | some name =>
      simp only [admin] at checked
      obtain rfl := Except.ok.inj checked
      exact ⟨rfl, by rw [admin]; rfl⟩
  obtain ⟨rfl, named⟩ := named
  refine ⟨?_, named⟩
  unfold actionParams at read
  split at read
  · cases payload : r.payload with
    | extras found =>
      rw [payload] at read
      cases read
    | discovery records =>
      rw [payload, Payload.discoveredParams] at read
      split at read
      · cases read
      · obtain ⟨q, full, same⟩ := bind_eq_ok_iff.1 read
        obtain rfl := Except.ok.inj same
        exact (FieldSource.fullParams_isRead full).startedAt true
  · obtain ⟨found, -, read⟩ := bind_eq_ok_iff.1 read
    obtain ⟨q, full, read⟩ := bind_eq_ok_iff.1 read
    obtain ⟨started, -, same⟩ := bind_eq_ok_iff.1 read
    obtain rfl := Except.ok.inj same
    exact (FieldSource.fullParams_isRead full).startedAt started
  · obtain ⟨found, -, read⟩ := bind_eq_ok_iff.1 read
    obtain ⟨q, full, read⟩ := bind_eq_ok_iff.1 read
    obtain ⟨-, -, same⟩ := bind_eq_ok_iff.1 read
    obtain rfl := Except.ok.inj same
    exact FieldSource.publicParams_isRead full
  · cases read

/-! ## What was read is read again -/

theorem fullText_eq {value : Option String} (full : value ≠ some "") : fullText value = value := by
  cases value with
  | none => rfl
  | some text =>
    have filled : text.isEmpty = false := by
      rw [Bool.eq_false_iff]
      intro empty
      exact full (congrArg some (String.isEmpty_iff.1 empty))
    rw [fullText_some, filled]
    rfl

theorem filter_port_eq {port : Option UInt16} (real : port ≠ some 0) :
    port.filter (· ≠ 0) = port := by
  cases port with
  | none => rfl
  | some number =>
    have positive : number ≠ 0 := by
      rintro rfl
      exact real rfl
    rw [Option.filter_some, if_pos (decide_eq_true positive)]

theorem Wifi.IsRead.readBack_eq {w : Wifi} (read : w.IsRead) : w.readBack = w := by
  rw [readBack, fullText_eq read.ssid, fullText_eq read.securityType, fullText_eq read.password,
    fullText_eq read.proxyHost, fullText_eq read.proxyBypass, fullText_eq read.pacUrl,
    filter_port_eq read.proxyPort]

theorem Download.readBack?_eq {d : Download} (full : d.location ≠ "")
    (real : d.checksum ≠ some "") : d.readBack? = some d := by
  have filled : d.location.isEmpty = false := by
    rw [Bool.eq_false_iff]
    intro empty
    exact full (String.isEmpty_iff.1 empty)
  rw [readBack?, filled, fullText_eq real]
  rfl

/-- The parameters that are read from the extras of some. -/
def Params.reread (p : Params) : Params :=
  { p with adminComponent := p.adminComponent.map Component.reread }

namespace Params

variable {p : Params}

theorem admin?_reread : p.reread.admin? = p.admin? := by
  unfold admin? Params.reread
  cases p.adminComponent with
  | none => rfl
  | some c => simp [Component.reread_package]

/-- Of parameters that were read only the component can come back as another. -/
theorem IsRead.readBack_eq (read : p.IsRead) : p.readBack = p.reread := by
  have component : (p.adminComponent.bind fun c => Component.unflatten? c.flatten) =
      p.adminComponent.map Component.reread := by
    cases held : p.adminComponent with
    | none => rfl
    | some c => exact Component.unflatten?_flatten (read.adminComponent c held)
  have download : p.adminDownload.bind Download.readBack? = p.adminDownload := by
    cases held : p.adminDownload with
    | none => rfl
    | some d => exact Download.readBack?_eq (read.location d held) (read.checksum d held)
  rw [readBack, Params.reread, component, download, read.wifi.readBack_eq,
    fullText_eq read.adminPackage, fullText_eq read.locale, fullText_eq read.timeZone]

/-- The request that takes an attempt up again is parsed to the parameters read once more. -/
theorem parse_resumeRequest (read : p.IsRead) (named : p.admin?.isSome = true)
    (attempt : AttemptId) : (p.resumeRequest attempt).parse = .ok p.reread := by
  have parsed := p.parse_legacyRequest none (some attempt)
  rwa [read.readBack_eq, admin?_reread, if_pos named] at parsed

/-- The class of the admin's component begins with a point. -/
def namesRelativeClass (p : Params) : Bool :=
  p.adminComponent.any Component.isRelative

theorem reread_eq_self_iff (read : p.IsRead) :
    p.reread = p ↔ p.namesRelativeClass = false := by
  cases component : p.adminComponent with
  | none =>
    have same : p.reread = p := by
      rw [Params.reread, component, Option.map_none, ← component]
    simp [same, namesRelativeClass, component]
  | some c =>
    have single := Component.reread_eq_self_iff (read.adminComponent c component)
    have again : p.reread.adminComponent = some c.reread := by
      rw [Params.reread, component, Option.map_some]
    constructor
    · intro same
      rw [same, component] at again
      have kept := single.1 (Option.some.inj again).symm
      rw [namesRelativeClass, component, Option.any_some, kept]
    · intro absolute
      rw [namesRelativeClass, component, Option.any_some] at absolute
      rw [Params.reread, component, Option.map_some, single.2 absolute, ← component]

/-- What comes back from the extras of parameters whatever the parameters are: flags, the time, a
port other than zero and the admin extras. -/
structure Keeps (p q : Params) : Prop where
  startedByDiscovery : q.startedByDiscovery = p.startedByDiscovery
  skipEncryption : q.skipEncryption = p.skipEncryption
  leaveSystemApps : q.leaveSystemApps = p.leaveSystemApps
  hidden : q.wifi.hidden = p.wifi.hidden
  proxyPort : p.wifi.proxyPort ≠ some 0 → q.wifi.proxyPort = p.wifi.proxyPort
  localTime : q.localTime = p.localTime
  adminExtras : q.adminExtras = p.adminExtras

theorem keeps_readBack (p : Params) : p.Keeps p.readBack where
  startedByDiscovery := rfl
  skipEncryption := rfl
  leaveSystemApps := rfl
  hidden := rfl
  proxyPort := filter_port_eq
  localTime := rfl
  adminExtras := rfl

/-- Parameters come back from their extras exactly if they could have been read from a request,
their component has no relative class, and they name an admin.  Of any parameters, a legacy trigger
with their extras is rejected for want of an admin or keeps what is not a text. -/
theorem parse_legacyRequest_iff (p : Params) (caller : Option String)
    (attempt : Option AttemptId) :
    ((p.legacyRequest caller attempt).parse = .ok p ↔
      p.IsRead ∧ p.namesRelativeClass = false ∧ p.admin?.isSome = true) ∧
    ((p.legacyRequest caller attempt).parse = .error .missingAdmin ∨
      ∃ q, (p.legacyRequest caller attempt).parse = .ok q ∧ p.Keeps q) := by
  have parsed := p.parse_legacyRequest caller attempt
  refine ⟨⟨fun same => ?_, ?_⟩, ?_⟩
  · obtain ⟨read, named⟩ := Request.isRead_of_parse same
    rw [read.readBack_eq, admin?_reread, if_pos named, same] at parsed
    exact ⟨read, (reread_eq_self_iff read).1 (Except.ok.inj parsed).symm, named⟩
  · rintro ⟨read, absolute, named⟩
    rw [parsed, read.readBack_eq, (reread_eq_self_iff read).2 absolute, if_pos named]
  · rw [parsed]
    cases p.readBack.admin?.isSome with
    | false => exact .inl rfl
    | true => exact .inr ⟨_, rfl, p.keeps_readBack⟩

/-- What an attempt goes on with after restarts, each of which takes it up by the request of a
ticket for it. -/
inductive Restarted (p : Params) : Params → Prop
  | never : Restarted p p
  | again {q next : Params} {ticket : Ticket} (earlier : Restarted p q)
      (carried : ticket.resumeParams = q) (parsed : ticket.resumeRequest.parse = .ok next) :
      Restarted p next

theorem Restarted.eq {q : Params} (restarted : Restarted p q) (read : p.IsRead)
    (named : p.admin?.isSome = true) (absolute : p.namesRelativeClass = false) : q = p := by
  induction restarted with
  | never => rfl
  | again earlier carried parsed ih =>
    rw [Ticket.resumeRequest, carried, ih, parse_resumeRequest read named] at parsed
    rw [← Except.ok.inj parsed]
    exact (reread_eq_self_iff read).2 absolute

end Params

/-- A request that takes an attempt up again is parsed to the component read once more, which is
the one that the attempt began with exactly if its class does not begin with a point.  Then it stays
so over any number of restarts. -/
theorem resume_drifts_iff {r : Request} {p : Params} (parsed : r.parse = .ok p) :
    (∀ ticket : Ticket, ticket.resumeParams = p →
      ticket.resumeRequest.parse = .ok p.reread ∧
        (ticket.resumeRequest.parse = .ok p ↔ p.namesRelativeClass = false)) ∧
      ((∀ q, p.Restarted q → q = p) ↔ p.namesRelativeClass = false) := by
  obtain ⟨read, named⟩ := Request.isRead_of_parse parsed
  have resumed (ticket : Ticket) (carried : ticket.resumeParams = p) :
      ticket.resumeRequest.parse = .ok p.reread := by
    rw [Ticket.resumeRequest, carried]
    exact Params.parse_resumeRequest read named ticket.attempt
  refine ⟨fun ticket carried => ⟨resumed ticket carried, ?_⟩, ?_, ?_⟩
  · rw [resumed ticket carried, ← Params.reread_eq_self_iff read]
    exact ⟨Except.ok.inj, congrArg Except.ok⟩
  · intro stays
    have once := resumed ⟨⟨""⟩, .network, ⟨""⟩, p⟩ rfl
    exact (Params.reread_eq_self_iff read).1 (stays p.reread (.again .never rfl once))
  · intro absolute q restarted
    exact restarted.eq read named absolute

/-- A legacy trigger that names a component and nothing else. -/
def componentRequest (flat : String) : Request where
  action := .legacyProvision
  payload := .extras (TextMap.ofPairs [(Key.adminComponent, .text flat)])
  callingPrincipal := none
  resumedAttempt := none

/-- The parameters that name a component and nothing else. -/
def componentParams (package className : String) : Params :=
  { Params.empty with adminComponent := some ⟨package, className⟩ }

theorem componentRequest_restarted :
    (componentRequest "org.example/.Admin").parse =
        .ok (componentParams "org.example" "org.example.Admin") ∧
      ∀ q, (componentParams "org.example" "org.example.Admin").Restarted q →
        q = componentParams "org.example" "org.example.Admin" := by
  have parsed : (componentRequest "org.example/.Admin").parse =
      .ok (componentParams "org.example" "org.example.Admin") := rfl
  exact ⟨parsed, (resume_drifts_iff parsed).2.2 rfl⟩

/-- The class drifts if the package of a relative class begins with a point itself. -/
theorem componentRequest_drifts :
    ∃ (r : Request) (p : Params) (ticket : Ticket), r.parse = .ok p ∧ ticket.resumeParams = p ∧
      ticket.resumeRequest.parse ≠ .ok p := by
  let p := componentParams ".foo" ".foo.Bar"
  let ticket : Ticket := ⟨⟨"ticket"⟩, .encryption, ⟨"attempt"⟩, p⟩
  have parsed : (componentRequest ".foo/.Bar").parse = .ok p := rfl
  obtain ⟨read, named⟩ := Request.isRead_of_parse parsed
  have drifted : ticket.resumeRequest.parse = .ok (componentParams ".foo" ".foo.foo.Bar") :=
    Params.parse_resumeRequest read named ticket.attempt
  refine ⟨componentRequest ".foo/.Bar", p, ticket, parsed, rfl, ?_⟩
  intro same
  rw [drifted] at same
  have component := congrArg Params.adminComponent (Except.ok.inj same)
  have className := congrArg Component.className (Option.some.inj component)
  exact absurd className (by decide)

end ProvisionGate
