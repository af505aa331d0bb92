import ProvisionGate.Dialogue
import ProvisionGate.Proofs.TextMap
import ProvisionGate.Request.Extras
import ProvisionGate.Request.Parse

/-!
# Parameters written as extras and read again

The extras of parameters hold every field that is present under its key.  The legacy trigger reads
all of them, whatever the parameters are: texts that are empty and a port of zero are taken for
absent, the component is read from its flat form, and every other field comes back as it was.
-/

namespace ProvisionGate

/-! ## Triggers with extras -/

namespace Payload

variable (found : TextMap Json)

theorem legacyParams_extras : (extras found).legacyParams = (do
    let params ← (FieldSource.extras found).fullParams .permissive
    let startedByDiscovery ← (FieldSource.extras found).flag .permissive Key.startedByDiscovery
    return { params with startedByDiscovery }) := rfl

theorem publicParams_extras (caller : Option String) : (extras found).publicParams caller = (do
    let params ← (FieldSource.extras found).publicParams
    params.authenticate caller
    return params) := rfl

end Payload

/-! ## What is written -/

/-- The entry of a field that is present. -/
def presentEntry (field : String × Option Json) : Option (String × Json) :=
  field.2.map fun value => (field.1, value)

theorem lookup_presentEntry {fields : List (String × Option Json)} {key : String}
    {value : Option Json} (distinct : (fields.map Prod.fst).Nodup)
    (member : (key, value) ∈ fields) : (fields.filterMap presentEntry).lookup key = value := by
  induction fields with
  | nil => cases member
  | cons field rest ih =>
    obtain ⟨first, content⟩ := field
    obtain ⟨apart, others⟩ := List.nodup_cons.1 distinct
    rcases List.mem_cons.1 member with same | later
    · obtain ⟨rfl, rfl⟩ := Prod.mk.inj same
      cases value with
      | some json =>
        have entry : presentEntry (key, some json) = some (key, json) := rfl
        rw [List.filterMap_cons_some entry, TextMap.lookup_cons_ite, if_pos rfl]
      | none =>
        rw [List.filterMap_cons_none rfl, List.lookup_eq_none_iff]
        rintro ⟨other, json⟩ present
        obtain ⟨⟨name, held⟩, inside, entry⟩ := List.mem_filterMap.1 present
        obtain ⟨found, -, same⟩ := Option.map_eq_some_iff.1 entry
        obtain ⟨rfl, -⟩ := Prod.mk.inj same
        rw [bne_iff_ne]
        rintro rfl
        exact apart (List.mem_map.2 ⟨_, inside, rfl⟩)
    · have different : key ≠ first := by
        rintro rfl
        exact apart (List.mem_map.2 ⟨_, later, rfl⟩)
      cases content with
      | none =>
        rw [List.filterMap_cons_none rfl]
        exact ih others later
      | some json =>
        have entry : presentEntry (first, some json) = some (first, json) := rfl
        rw [List.filterMap_cons_some entry, TextMap.lookup_cons_ite, if_neg different]
        exact ih others later

/-- The fields that are written as extras, with their values if they are present. -/
def Params.extrasFields (p : Params) : List (String × Option Json) := [
  (Key.adminPackage, p.adminPackage.map Json.text),
  (Key.adminComponent, (p.adminComponent.map Component.flatten).map Json.text),
  (Key.downloadLocation, (p.adminDownload.map Download.location).map Json.text),
  (Key.downloadChecksum, (p.adminDownload.bind Download.checksum).map Json.text),
  (Key.locale, p.locale.map Json.text),
  (Key.timeZone, p.timeZone.map Json.text),
  (Key.wifiSsid, p.wifi.ssid.map Json.text),
  (Key.wifiSecurityType, p.wifi.securityType.map Json.text),
  (Key.wifiPassword, p.wifi.password.map Json.text),
  (Key.wifiProxyHost, p.wifi.proxyHost.map Json.text),
  (Key.wifiProxyBypass, p.wifi.proxyBypass.map Json.text),
  (Key.wifiPacUrl, p.wifi.pacUrl.map Json.text),
  (Key.wifiProxyPort, (p.wifi.proxyPort.map fun number => (number.toNat : Int)).map Json.ofInt),
  (Key.wifiHidden, some (.bool p.wifi.hidden)),
  (Key.localTime, (p.localTime.map Int64.toInt).map Json.ofInt),
  (Key.skipEncryption, some (.bool p.skipEncryption)),
  (Key.leaveSystemApps, some (.bool p.leaveSystemApps)),
  (Key.startedByDiscovery, some (.bool p.startedByDiscovery)),
  (Key.adminExtras,
    if p.adminExtras.isEmpty then none else some (Json.ofMap (p.adminExtras.mapValues Json.text)))]

theorem Params.extrasEntries_eq (p : Params) :
    p.extrasEntries = p.extrasFields.filterMap presentEntry := by
  have text {key : String} {value : Option String} :
      textEntry key value = (presentEntry (key, value.map Json.text)).toList := by
    cases value <;> rfl
  have int {key : String} {value : Option Int} :
      intEntry key value = (presentEntry (key, value.map Json.ofInt)).toList := by
    cases value <;> rfl
  have extras : adminExtrasEntry p.adminExtras = (presentEntry (Key.adminExtras,
      if p.adminExtras.isEmpty then none
      else some (Json.ofMap (p.adminExtras.mapValues Json.text)))).toList := by
    unfold adminExtrasEntry
    cases p.adminExtras.isEmpty <;> rfl
  have cons {field : String × Option Json} {rest : List (String × Option Json)} :
      (field :: rest).filterMap presentEntry =
        (presentEntry field).toList ++ rest.filterMap presentEntry := by
    cases entry : presentEntry field <;> simp [entry]
  simp only [extrasEntries, Wifi.extrasEntries, extrasFields, text, int, extras, cons,
    List.append_assoc, List.filterMap_nil, List.append_nil]
  rfl

/-- The extras hold every field that is present. -/
theorem Params.get?_toExtras {p : Params} {key : String} {value : Option Json}
    (member : (key, value) ∈ p.extrasFields) :
    (FieldSource.extras p.toExtras).get? key = value := by
  have keys : (p.extrasFields.map Prod.fst).Nodup := by
    have same : p.extrasFields.map Prod.fst = Params.empty.extrasFields.map Prod.fst := rfl
    rw [same]
    decide
  have found : (FieldSource.extras p.toExtras).get? key = p.extrasEntries.reverse.lookup key :=
    TextMap.get?_ofPairs
  rw [found, p.extrasEntries_eq, ← List.filterMap_reverse]
  refine lookup_presentEntry ?_ (List.mem_reverse.2 member)
  rw [List.map_reverse]
  exact List.pairwise_reverse.2 (keys.imp Ne.symm)

/-! ## What is read again -/

/-- A text, absent if it is empty. -/
def fullText (value : Option String) : Option String :=
  value.filter fun text => !text.isEmpty

theorem fullText_some (text : String) :
    fullText (some text) = if text.isEmpty then none else some text := by
  rw [fullText, Option.filter_some]
  cases text.isEmpty <;> rfl

/-- The network that is read from the extras of one. -/
def Wifi.readBack (w : Wifi) : Wifi where
  ssid := fullText w.ssid
  hidden := w.hidden
  securityType := fullText w.securityType
  password := fullText w.password
  proxyHost := fullText w.proxyHost
  proxyPort := w.proxyPort.filter (· ≠ 0)
  proxyBypass := fullText w.proxyBypass
  pacUrl := fullText w.pacUrl

/-- The download that is read from the extras of one. -/
def Download.readBack? (d : Download) : Option Download :=
  if d.location.isEmpty then none else some { d with checksum := fullText d.checksum }

/-- The parameters that are read from the extras of some.  Empty texts and a port of zero are
absent, and the component is read from its flat form. -/
def Params.readBack (p : Params) : Params :=
  { p with
    adminPackage := fullText p.adminPackage
    adminComponent := p.adminComponent.bind fun c => Component.unflatten? c.flatten
    adminDownload := p.adminDownload.bind Download.readBack?
    wifi := p.wifi.readBack
    locale := fullText p.locale
    timeZone := fullText p.timeZone }

namespace FieldSource

variable {source : FieldSource} {strictness : Strictness} {key : String}

theorem text_of_get? {value : Option String} (found : source.get? key = value.map Json.text) :
    source.text strictness key = .ok (fullText value) := by
  unfold text
  rw [found]
  cases value with
  | none => rfl
  | some text =>
    rw [fullText_some]
    rfl

theorem flag_of_get? {value : Bool} (found : source.get? key = some (.bool value)) :
    source.flag strictness key = .ok value := by
  unfold flag
  rw [found]

theorem integer_of_get? {value : Option Int} (found : source.get? key = value.map Json.ofInt)
    (fits : ∀ v ∈ value, Text.FitsInt64 v) :
    source.integer strictness key = .ok (value.map Int64.ofInt) := by
  unfold integer
  rw [found]
  cases value with
  | none => rfl
  | some number =>
    have inRange := fits number rfl
    simp [Json.ofInt, inRange]

theorem portNumber_of_get? {value : Option UInt16}
    (found : source.get? key = (value.map fun number => (number.toNat : Int)).map Json.ofInt) :
    source.portNumber .permissive key = .ok (value.filter (· ≠ 0)) := by
  have small (number : UInt16) : (number.toNat : Int) < 65536 := by
    have bound := number.toNat_lt
    omega
  have fits : ∀ v ∈ value.map fun number => (number.toNat : Int), Text.FitsInt64 v := by
    intro v member
    obtain ⟨number, -, rfl⟩ := Option.map_eq_some_iff.1 member
    have bound := small number
    have least : Int64.minValue.toInt = -9223372036854775808 := rfl
    have greatest : Int64.maxValue.toInt = 9223372036854775807 := rfl
    exact ⟨by omega, by omega⟩
  have read : source.integer .permissive key = .ok _ := integer_of_get? found fits
  unfold portNumber
  rw [read]
  cases value with
  | none => rfl
  | some number =>
    have bound := small number
    have back : (Int64.ofInt number.toNat).toInt = number.toNat :=
      Int64.toInt_ofInt_of_le (by omega) (by omega)
    show (if 0 < (Int64.ofInt number.toNat).toInt ∧
        (Int64.ofInt number.toNat).toInt < UInt16.size then _ else _) = _
    by_cases zero : number = 0
    · subst zero
      rfl
    · have positive : 0 < number.toNat := by
        have different : number.toNat ≠ 0 := fun same => zero (UInt16.toNat_inj.1 same)
        omega
      have inRange : 0 < (Int64.ofInt number.toNat).toInt ∧
          (Int64.ofInt number.toNat).toInt < UInt16.size := by
        rw [back]
        exact ⟨by omega, bound⟩
      have kept : (some number).filter (· ≠ 0) = some number := by
        rw [Option.filter_some, if_pos (decide_eq_true zero)]
      rw [if_pos inRange, back, Int.toNat_natCast, UInt16.ofNat_toNat, kept]
      rfl

theorem component_of_get? {value : Option Component}
    (found : source.get? key = (value.map Component.flatten).map Json.text) :
    source.component .permissive key = .ok (value.bind fun c => Component.unflatten? c.flatten) := by
  unfold component
  rw [text_of_get? found]
  cases value with
  | none => rfl
  | some c =>
    have full : c.flatten.isEmpty = false := by
      rw [Bool.eq_false_iff]
      intro empty
      have slash := congrArg String.toList (String.isEmpty_iff.1 empty)
      simp [Component.flatten] at slash
    have text : fullText (some c.flatten) = some c.flatten := by simp [fullText_some, full]
    rw [Option.map_some, text, Option.bind_some]
    cases parsed : Component.unflatten? c.flatten <;>
      simp only [bind, Except.bind, parsed] <;> rfl

theorem adminExtras_of_get? {found : TextMap Json} {extras : TextMap String}
    (written : found.get? Key.adminExtras = if extras.isEmpty then none
      else some (Json.ofMap (extras.mapValues Json.text))) :
    (FieldSource.extras found).adminExtras strictness = .ok extras := by
  have values (m : TextMap String) :
      (m.mapValues Json.text).entries.mapM (adminExtraValue strictness) = .ok m.entries := by
    obtain ⟨entries, ordered⟩ := m
    show (entries.map _).mapM (adminExtraValue strictness) = .ok entries
    clear ordered
    induction entries with
    | nil => rfl
    | cons entry rest ih =>
      rw [List.map_cons, List.mapM_cons, ih]
      rfl
  unfold adminExtras
  cases empty : extras.isEmpty with
  | true =>
    have none : TextMap.empty = extras := by
      obtain ⟨entries, ordered⟩ := extras
      obtain rfl := List.isEmpty_iff.1 empty
      rfl
    rw [empty, if_pos rfl] at written
    simp only [written, none]
  | false =>
    rw [empty] at written
    simp only [written, Json.ofMap, Bool.false_eq_true, if_false, values extras]
    exact congrArg Except.ok extras.ofPairs_entries

end FieldSource

namespace Params

/-- The extras of parameters as a source of fields. -/
abbrev written (p : Params) : FieldSource :=
  .extras p.toExtras

theorem text_written {p : Params} {key : String} {value : Option String}
    (member : (key, value.map Json.text) ∈ p.extrasFields) :
    p.written.text .permissive key = .ok (fullText value) :=
  FieldSource.text_of_get? (get?_toExtras member)

theorem flag_written {p : Params} {key : String} {value : Bool}
    (member : (key, some (.bool value)) ∈ p.extrasFields) :
    p.written.flag .permissive key = .ok value :=
  FieldSource.flag_of_get? (get?_toExtras member)

variable (p : Params)

theorem wifi_written : p.written.wifi .permissive = .ok p.wifi.readBack := by
  have ssid : p.written.text .permissive Key.wifiSsid = .ok (fullText p.wifi.ssid) :=
    text_written (by simp [extrasFields])
  have hidden : p.written.flag .permissive Key.wifiHidden = .ok p.wifi.hidden :=
    flag_written (by simp [extrasFields])
  have securityType : p.written.text .permissive Key.wifiSecurityType =
      .ok (fullText p.wifi.securityType) :=
    text_written (by simp [extrasFields])
  have password : p.written.text .permissive Key.wifiPassword = .ok (fullText p.wifi.password) :=
    text_written (by simp [extrasFields])
  have proxyHost : p.written.text .permissive Key.wifiProxyHost =
      .ok (fullText p.wifi.proxyHost) :=
    text_written (by simp [extrasFields])
  have proxyPort : p.written.portNumber .permissive Key.wifiProxyPort =
      .ok (p.wifi.proxyPort.filter (· ≠ 0)) :=
    FieldSource.portNumber_of_get? (get?_toExtras (by simp [extrasFields]))
  have proxyBypass : p.written.text .permissive Key.wifiProxyBypass =
      .ok (fullText p.wifi.proxyBypass) :=
    text_written (by simp [extrasFields])
  have pacUrl : p.written.text .permissive Key.wifiPacUrl = .ok (fullText p.wifi.pacUrl) :=
    text_written (by simp [extrasFields])
  unfold FieldSource.wifi
  rw [ssid, hidden, securityType, password, proxyHost, proxyPort, proxyBypass, pacUrl]
  rfl

theorem download_written :
    p.written.download .permissive = .ok (p.adminDownload.bind Download.readBack?) := by
  have location : p.written.text .permissive Key.downloadLocation =
      .ok (fullText (p.adminDownload.map Download.location)) :=
    text_written (by simp [extrasFields])
  have checksum : p.written.text .permissive Key.downloadChecksum =
      .ok (fullText (p.adminDownload.bind Download.checksum)) :=
    text_written (by simp [extrasFields])
  unfold FieldSource.download
  rw [location, checksum]
  cases p.adminDownload with
  | none => rfl
  | some d =>
    rw [Option.map_some, fullText_some, Option.bind_some, Option.bind_some, Download.readBack?]
    cases d.location.isEmpty <;> rfl

/-- The legacy trigger reads the extras of all parameters. -/
theorem legacyParams_toExtras : (Payload.extras p.toExtras).legacyParams = .ok p.readBack := by
  have package : p.written.text .permissive Key.adminPackage = .ok (fullText p.adminPackage) :=
    text_written (by simp [extrasFields])
  have component : p.written.component .permissive Key.adminComponent =
      .ok (p.adminComponent.bind fun c => Component.unflatten? c.flatten) :=
    FieldSource.component_of_get? (get?_toExtras (by simp [extrasFields]))
  have skip : p.written.flag .permissive Key.skipEncryption = .ok p.skipEncryption :=
    flag_written (by simp [extrasFields])
  have leave : p.written.flag .permissive Key.leaveSystemApps = .ok p.leaveSystemApps :=
    flag_written (by simp [extrasFields])
  have started : p.written.flag .permissive Key.startedByDiscovery = .ok p.startedByDiscovery :=
    flag_written (by simp [extrasFields])
  have locale : p.written.text .permissive Key.locale = .ok (fullText p.locale) :=
    text_written (by simp [extrasFields])
  have timeZone : p.written.text .permissive Key.timeZone = .ok (fullText p.timeZone) :=
    text_written (by simp [extrasFields])
  have fits : ∀ v ∈ p.localTime.map Int64.toInt, Text.FitsInt64 v := by
    intro v member
    obtain ⟨number, -, rfl⟩ := Option.map_eq_some_iff.1 member
    exact ⟨Int64.minValue_le_toInt number, Int64.toInt_le number⟩
  have localTime : p.written.integer .permissive Key.localTime = .ok p.localTime := by
    have again : (p.localTime.map Int64.toInt).map Int64.ofInt = p.localTime := by
      cases p.localTime <;> simp
    have found : p.written.integer .permissive Key.localTime = .ok _ :=
      FieldSource.integer_of_get? (get?_toExtras (by simp [extrasFields])) fits
    rwa [again] at found
  have extras : p.written.adminExtras .permissive = .ok p.adminExtras :=
    FieldSource.adminExtras_of_get? (get?_toExtras (by simp [extrasFields]))
  have full : p.written.fullParams .permissive =
      .ok { p.readBack with startedByDiscovery := false } := by
    unfold FieldSource.fullParams
    rw [p.download_written, p.wifi_written, package, component, skip, leave, locale, timeZone,
      localTime, extras]
    rfl
  rw [Payload.legacyParams_extras, full, started]
  rfl

/-- The legacy trigger with parameters. -/
def legacyRequest (caller : Option String) (attempt : Option AttemptId) : Request where
  action := .legacyProvision
  payload := .extras p.toExtras
  callingPrincipal := caller
  resumedAttempt := attempt

/-- A legacy trigger with parameters is parsed to what is read from their extras, if that names an
admin. -/
theorem parse_legacyRequest (caller : Option String) (attempt : Option AttemptId) :
    (p.legacyRequest caller attempt).parse =
      if p.readBack.admin?.isSome then .ok p.readBack else .error .missingAdmin := by
  have action : (p.legacyRequest caller attempt).actionParams = .ok p.readBack :=
    p.legacyParams_toExtras
  unfold Request.parse
  rw [action]
  show (if p.readBack.admin?.isNone then _ else _) = _
  cases p.readBack.admin? <;> rfl

end Params

end ProvisionGate
