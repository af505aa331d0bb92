import ProvisionGate.Proofs.Request.Authentication
import ProvisionGate.Proofs.Request.Reading
import ProvisionGate.Proofs.Request.Resume

/-!
# A permissive reader is a strict one of cleaned extras

Extras are cleaned by dropping every entry that is malformed for the field under its key and by
showing every admin extra as a text.  Cleaned extras are well-formed and stand for what they stood
for before, so a strict reader makes of them what a permissive one makes of the extras themselves.
-/

namespace ProvisionGate

open Entry

/-- The types of fields. -/
inductive FieldType where
  | text
  | flag
  | integer
  | port
  | component
  | extras

/-- The entry is one of an object. -/
def Entry.IsObject : Option Json → Prop
  | none | some .null | some (.object _) => True
  | some _ => False

instance : DecidablePred IsText
  | none | some .null | some (.text _) => isTrue trivial
  | some (.bool _) | some (.number _) | some (.array _) | some (.object _) => isFalse id

instance : DecidablePred IsFlag
  | none | some .null | some (.bool _) => isTrue trivial
  | some (.text _) => inferInstanceAs (Decidable (_ ∨ _))
  | some (.number _) | some (.array _) | some (.object _) => isFalse id

instance : DecidablePred IsInteger
  | none | some .null => isTrue trivial
  | some (.number (.int value)) => inferInstanceAs (Decidable (Text.FitsInt64 value))
  | some (.text _) => inferInstanceAs (Decidable (_ = true))
  | some (.number (.float _)) | some (.bool _) | some (.array _) | some (.object _) => isFalse id

instance : DecidablePred IsPort := fun _ => inferInstanceAs (Decidable (_ ∧ _))

instance : DecidablePred IsComponent := fun _ => inferInstanceAs (Decidable (_ ∧ _))

instance : DecidablePred IsObject
  | none | some .null | some (.object _) => isTrue trivial
  | some (.bool _) | some (.number _) | some (.array _) | some (.text _) => isFalse id

namespace FieldType

/-- The entry is well-formed for a field of the type. -/
def Fits : FieldType → Option Json → Prop
  | text => IsText
  | flag => IsFlag
  | integer => IsInteger
  | port => IsPort
  | component => IsComponent
  | extras => IsObject

instance : (type : FieldType) → DecidablePred type.Fits
  | text => inferInstanceAs (DecidablePred IsText)
  | flag => inferInstanceAs (DecidablePred IsFlag)
  | integer => inferInstanceAs (DecidablePred IsInteger)
  | port => inferInstanceAs (DecidablePred IsPort)
  | component => inferInstanceAs (DecidablePred IsComponent)
  | extras => inferInstanceAs (DecidablePred IsObject)

/-- The value with every admin extra shown as a text. -/
def tidied : FieldType → Json → Json
  | extras, .object members =>
    .object (members.map fun member => (member.1, .text (shownText member.2)))
  | _, value => value

/-- What is left of a value under a key of the type. -/
def cleaned? (type : FieldType) (value : Json) : Option Json :=
  if type.Fits (some value) then some (type.tidied value) else none

end FieldType

/-- The keys of the fields, with their types. -/
def Key.fieldTypes : List (String × FieldType) := [
  (adminPackage, .text), (adminComponent, .component), (downloadLocation, .text),
  (downloadChecksum, .text), (skipEncryption, .flag), (leaveSystemApps, .flag), (locale, .text),
  (timeZone, .text), (localTime, .integer), (wifiSsid, .text), (wifiHidden, .flag),
  (wifiSecurityType, .text), (wifiPassword, .text), (wifiProxyHost, .text),
  (wifiProxyPort, .port), (wifiProxyBypass, .text), (wifiPacUrl, .text), (adminExtras, .extras),
  (startedByDiscovery, .flag)]

/-- The type of the field under a key. -/
def Key.fieldType? (key : String) : Option FieldType :=
  fieldTypes.lookup key

namespace TextMap

/-- The extras without malformed entries, and with every admin extra shown as a text. -/
def cleaned (found : TextMap Json) : TextMap Json :=
  found.filterMapValues fun key value =>
    match Key.fieldType? key with
    | some type => type.cleaned? value
    | none => some value

/-- A field's entry is malformed. -/
def IsMalformedAt (found : TextMap Json) (key : String) : Prop :=
  ∃ type, Key.fieldType? key = some type ∧ ¬ type.Fits (found.get? key)

/-- An admin is named, by a component or a package. -/
def NamesAdmin (found : TextMap Json) : Prop :=
  ∃ key ∈ [Key.adminComponent, Key.adminPackage], ∃ name,
    found.get? key = some (.text name) ∧ name ≠ ""

end TextMap

/-! ## One entry -/

namespace Entry

variable {entry : Option Json}

theorem flagOf_eq_false (malformed : ¬ IsFlag entry) : flagOf entry = false := by
  cases entry with
  | none => rfl
  | some value =>
    cases value with
    | bool value => exact absurd trivial malformed
    | text value => exact decide_eq_false fun affirmed => malformed (.inl affirmed)
    | _ => rfl

theorem portOf_eq_none (malformed : ¬ IsPort entry) : portOf entry = none := by
  unfold portOf
  by_cases fits : IsInteger entry
  · cases found : integerOf entry with
    | none => rfl
    | some number =>
      apply if_neg
      intro real
      exact malformed ⟨fits, by simpa [found] using real⟩
  · rw [integerOf_eq_none fits]
    rfl

theorem componentOf_eq_none (malformed : ¬ IsComponent entry) : componentOf entry = none := by
  unfold componentOf
  by_cases fits : IsText entry
  · cases found : textOf entry with
    | none => rfl
    | some flat =>
      cases parsed : Component.unflatten? flat with
      | none => exact parsed
      | some c => exact absurd ⟨fits, by simp [found, parsed]⟩ malformed
  · rw [textOf_eq_none fits]
    rfl

theorem extrasOf_eq_empty (malformed : ¬ IsObject entry) : extrasOf entry = TextMap.empty := by
  cases entry with
  | none => rfl
  | some value =>
    cases value with
    | object members => exact absurd trivial malformed
    | _ => rfl

end Entry

namespace FieldType

theorem fits_none (type : FieldType) : type.Fits none := by
  cases type with
  | port => exact ⟨trivial, by simp [integerOf]⟩
  | component => exact ⟨trivial, by simp [textOf]⟩
  | _ => trivial

theorem fits_tidied {type : FieldType} {value : Json} (fits : type.Fits (some value)) :
    type.Fits (some (type.tidied value)) := by
  cases type with
  | extras =>
    cases value with
    | object members => trivial
    | _ => exact fits
  | _ => exact fits

/-- What is left of an entry is well-formed. -/
theorem fits_cleaned (type : FieldType) (entry : Option Json) :
    type.Fits (entry.bind type.cleaned?) := by
  cases entry with
  | none => exact type.fits_none
  | some value =>
    rw [Option.bind_some, cleaned?]
    by_cases fits : type.Fits (some value)
    · rw [if_pos fits]
      exact fits_tidied fits
    · rw [if_neg fits]
      exact type.fits_none

/-- A value of which a malformed entry gives the default is read from what is left of an entry. -/
theorem value_cleaned {α : Type} (type : FieldType) (valueOf : Option Json → α)
    (tidy : ∀ value, valueOf (some (type.tidied value)) = valueOf (some value))
    (default : ∀ entry, ¬ type.Fits entry → valueOf entry = valueOf none) (entry : Option Json) :
    valueOf (entry.bind type.cleaned?) = valueOf entry := by
  cases entry with
  | none => rfl
  | some value =>
    rw [Option.bind_some, cleaned?]
    by_cases fits : type.Fits (some value)
    · rw [if_pos fits]
      exact tidy value
    · rw [if_neg fits]
      exact (default _ fits).symm

theorem extrasOf_tidied (value : Json) :
    extrasOf (some (extras.tidied value)) = extrasOf (some value) := by
  cases value with
  | object members =>
    show TextMap.ofPairs ((members.map _).map shownMember) = TextMap.ofPairs (members.map shownMember)
    rw [List.map_map]
    rfl
  | _ => rfl

theorem isTexts_cleaned (entry : Option Json) : IsTexts (entry.bind extras.cleaned?) := by
  cases entry with
  | none => trivial
  | some value =>
    cases value with
    | object members =>
      intro member inside
      obtain ⟨raw, -, rfl⟩ := List.mem_map.1 inside
      exact ⟨_, rfl⟩
    | _ => trivial

end FieldType

/-! ## All entries -/

namespace TextMap

variable (found : TextMap Json) {key : String}

theorem get?_cleaned {type : FieldType} (known : Key.fieldType? key = some type) :
    (FieldSource.extras found.cleaned).get? key = (found.get? key).bind type.cleaned? := by
  show found.cleaned.get? key = _
  rw [cleaned, get?_filterMapValues, known]

theorem fits_cleaned (type : FieldType) (known : Key.fieldType? key = some type) :
    type.Fits ((FieldSource.extras found.cleaned).get? key) := by
  rw [found.get?_cleaned known]
  exact type.fits_cleaned _

theorem textOf_cleaned (known : Key.fieldType? key = some .text) :
    textOf ((FieldSource.extras found.cleaned).get? key) = textOf (found.get? key) := by
  rw [found.get?_cleaned known]
  exact FieldType.value_cleaned .text textOf (fun _ => rfl) (fun _ => textOf_eq_none) _

theorem flagOf_cleaned (known : Key.fieldType? key = some .flag) :
    flagOf ((FieldSource.extras found.cleaned).get? key) = flagOf (found.get? key) := by
  rw [found.get?_cleaned known]
  exact FieldType.value_cleaned .flag flagOf (fun _ => rfl) (fun _ => flagOf_eq_false) _

theorem integerOf_cleaned (known : Key.fieldType? key = some .integer) :
    integerOf ((FieldSource.extras found.cleaned).get? key) = integerOf (found.get? key) := by
  rw [found.get?_cleaned known]
  exact FieldType.value_cleaned .integer integerOf (fun _ => rfl) (fun _ => integerOf_eq_none) _

theorem portOf_cleaned (known : Key.fieldType? key = some .port) :
    portOf ((FieldSource.extras found.cleaned).get? key) = portOf (found.get? key) := by
  rw [found.get?_cleaned known]
  exact FieldType.value_cleaned .port portOf (fun _ => rfl) (fun _ => portOf_eq_none) _

theorem componentOf_cleaned (known : Key.fieldType? key = some .component) :
    componentOf ((FieldSource.extras found.cleaned).get? key) = componentOf (found.get? key) := by
  rw [found.get?_cleaned known]
  exact FieldType.value_cleaned .component componentOf (fun _ => rfl) (fun _ => componentOf_eq_none) _

theorem extrasOf_cleaned (known : Key.fieldType? key = some .extras) :
    extrasOf ((FieldSource.extras found.cleaned).get? key) = extrasOf (found.get? key) := by
  rw [found.get?_cleaned known]
  exact FieldType.value_cleaned .extras extrasOf FieldType.extrasOf_tidied
    (fun _ => extrasOf_eq_empty) _

/-- Cleaned extras are well-formed. -/
theorem isWellFormed_cleaned : (FieldSource.extras found.cleaned).IsWellFormed where
  location := found.fits_cleaned .text rfl
  checksum _ := found.fits_cleaned .text rfl
  wifi := {
    ssid := found.fits_cleaned .text rfl
    hidden := found.fits_cleaned .flag rfl
    securityType := found.fits_cleaned .text rfl
    password := found.fits_cleaned .text rfl
    proxyHost := found.fits_cleaned .text rfl
    proxyPort := found.fits_cleaned .port rfl
    proxyBypass := found.fits_cleaned .text rfl
    pacUrl := found.fits_cleaned .text rfl }
  adminPackage := found.fits_cleaned .text rfl
  adminComponent := found.fits_cleaned .component rfl
  skipEncryption := found.fits_cleaned .flag rfl
  leaveSystemApps := found.fits_cleaned .flag rfl
  locale := found.fits_cleaned .text rfl
  timeZone := found.fits_cleaned .text rfl
  localTime := found.fits_cleaned .integer rfl
  adminExtras := by
    have known : Key.fieldType? Key.adminExtras = some .extras := rfl
    have texts := FieldType.isTexts_cleaned (found.get? Key.adminExtras)
    rwa [← found.get?_cleaned known] at texts

/-- Cleaned extras stand for what the extras stand for. -/
theorem paramsRead_cleaned :
    (FieldSource.extras found.cleaned).paramsRead = (FieldSource.extras found).paramsRead := by
  have wifi : (FieldSource.extras found.cleaned).wifiRead = (FieldSource.extras found).wifiRead := by
    unfold FieldSource.wifiRead
    rw [found.textOf_cleaned rfl, found.flagOf_cleaned rfl, found.textOf_cleaned rfl,
      found.textOf_cleaned rfl, found.textOf_cleaned rfl, found.portOf_cleaned rfl,
      found.textOf_cleaned rfl, found.textOf_cleaned rfl]
    rfl
  have download : (FieldSource.extras found.cleaned).downloadRead =
      (FieldSource.extras found).downloadRead := by
    unfold FieldSource.downloadRead
    rw [found.textOf_cleaned rfl, found.textOf_cleaned rfl]
    rfl
  have texts : (FieldSource.extras found.cleaned).extrasRead =
      (FieldSource.extras found).extrasRead := found.extrasOf_cleaned rfl
  unfold FieldSource.paramsRead
  rw [found.textOf_cleaned rfl, found.componentOf_cleaned rfl, found.flagOf_cleaned rfl,
    found.flagOf_cleaned rfl, found.textOf_cleaned rfl, found.textOf_cleaned rfl,
    found.integerOf_cleaned rfl, wifi, download, texts]
  rfl

theorem fullParams_permissive :
    (FieldSource.extras found).fullParams .permissive =
      .ok (FieldSource.extras found).paramsRead :=
  (FieldSource.fullParams_reads _ .permissive).permissive_eq

theorem fullParams_cleaned :
    (FieldSource.extras found.cleaned).fullParams .strict =
      .ok (FieldSource.extras found).paramsRead := by
  rcases (FieldSource.fullParams_reads (.extras found.cleaned) .strict).strict_cases with
    ⟨-, read⟩ | ⟨malformed, -⟩
  · rw [read, found.paramsRead_cleaned]
  · exact absurd found.isWellFormed_cleaned malformed

/-- What a legacy trigger with extras is read to. -/
def legacyRead : Params :=
  { (FieldSource.extras found).paramsRead with
    startedByDiscovery := flagOf (found.get? Key.startedByDiscovery) }

theorem legacyParams_eq : (Payload.extras found).legacyParams = .ok found.legacyRead := by
  have started : (FieldSource.extras found).flag .permissive Key.startedByDiscovery =
      .ok (flagOf (found.get? Key.startedByDiscovery)) :=
    (FieldSource.flag_reads _ .permissive Key.startedByDiscovery).source.permissive_eq
  rw [Payload.legacyParams_extras, found.fullParams_permissive, started]
  rfl

end TextMap

/-- An admin is named by parameters that were read if there is a component or a package. -/
theorem Params.IsRead.admin?_isSome_iff {p : Params} (read : p.IsRead) :
    p.admin?.isSome = true ↔ p.adminComponent.isSome = true ∨ p.adminPackage.isSome = true := by
  unfold Params.admin?
  have full : p.adminPackage ≠ some "" := read.adminPackage
  cases component : p.adminComponent with
  | some c =>
    have named : c.package ≠ "" := by
      intro empty
      apply (read.adminComponent c component).package_ne
      rw [empty]
      rfl
    simp [named]
  | none =>
    cases package : p.adminPackage with
    | none => simp
    | some name =>
      rw [package] at full
      have named : name ≠ "" := fun empty => full (congrArg some empty)
      simp [named]

namespace TextMap

variable (found : TextMap Json)

/-- An admin is found by a permissive reader if cleaned extras name one. -/
theorem admin?_legacyRead_isSome_iff :
    found.legacyRead.admin?.isSome = true ↔ found.cleaned.NamesAdmin := by
  have read : found.legacyRead.IsRead :=
    (FieldSource.fullParams_isRead found.fullParams_permissive).startedAt _
  have package : found.legacyRead.adminPackage = textOf (found.cleaned.get? Key.adminPackage) :=
    (found.textOf_cleaned rfl).symm
  have component : found.legacyRead.adminComponent =
      componentOf (found.cleaned.get? Key.adminComponent) := (found.componentOf_cleaned rfl).symm
  have sound : IsComponent (found.cleaned.get? Key.adminComponent) :=
    found.fits_cleaned .component rfl
  rw [read.admin?_isSome_iff, package, component]
  unfold NamesAdmin
  constructor
  · rintro (named | named)
    · obtain ⟨c, held⟩ := Option.isSome_iff_exists.1 named
      obtain ⟨flat, text, -⟩ := Option.bind_eq_some_iff.1 held
      exact ⟨_, List.mem_cons_self, flat, textOf_eq_some_iff.1 text⟩
    · obtain ⟨name, text⟩ := Option.isSome_iff_exists.1 named
      exact ⟨_, List.mem_cons_of_mem _ (List.mem_singleton_self _), name,
        textOf_eq_some_iff.1 text⟩
  · rintro ⟨key, member, name, entry⟩
    have text := textOf_eq_some_iff.2 entry
    rcases List.mem_cons.1 member with rfl | other
    · left
      rw [componentOf, text]
      exact sound.2 name text
    · obtain rfl := List.mem_singleton.1 other
      right
      rw [text]
      rfl

end TextMap

/-! ## Legacy triggers -/

/-- A legacy trigger with extras. -/
def legacyTrigger (found : TextMap Json) (caller : Option String) (attempt : Option AttemptId) :
    Request where
  action := .legacyProvision
  payload := .extras found
  callingPrincipal := caller
  resumedAttempt := attempt

theorem parse_legacyTrigger (found : TextMap Json) (caller : Option String)
    (attempt : Option AttemptId) :
    (legacyTrigger found caller attempt).parse =
      if found.legacyRead.admin?.isSome then .ok found.legacyRead else .error .missingAdmin := by
  have action : (legacyTrigger found caller attempt).actionParams = .ok found.legacyRead :=
    found.legacyParams_eq
  unfold Request.parse
  rw [action]
  show (if found.legacyRead.admin?.isNone then _ else _) = _
  cases found.legacyRead.admin? <;> rfl

/-- Parameters are the same but for what is read under a key.  The checksum of a download is also a
matter of its location. -/
structure Params.SameBut (key : String) (p q : Params) : Prop where
  adminPackage : key ≠ Key.adminPackage → p.adminPackage = q.adminPackage
  adminComponent : key ≠ Key.adminComponent → p.adminComponent = q.adminComponent
  location : key ≠ Key.downloadLocation →
    p.adminDownload.map Download.location = q.adminDownload.map Download.location
  checksum : key ≠ Key.downloadLocation → key ≠ Key.downloadChecksum →
    p.adminDownload = q.adminDownload
  startedByDiscovery : key ≠ Key.startedByDiscovery → p.startedByDiscovery = q.startedByDiscovery
  skipEncryption : key ≠ Key.skipEncryption → p.skipEncryption = q.skipEncryption
  leaveSystemApps : key ≠ Key.leaveSystemApps → p.leaveSystemApps = q.leaveSystemApps
  ssid : key ≠ Key.wifiSsid → p.wifi.ssid = q.wifi.ssid
  hidden : key ≠ Key.wifiHidden → p.wifi.hidden = q.wifi.hidden
  securityType : key ≠ Key.wifiSecurityType → p.wifi.securityType = q.wifi.securityType
  password : key ≠ Key.wifiPassword → p.wifi.password = q.wifi.password
  proxyHost : key ≠ Key.wifiProxyHost → p.wifi.proxyHost = q.wifi.proxyHost
  proxyPort : key ≠ Key.wifiProxyPort → p.wifi.proxyPort = q.wifi.proxyPort
  proxyBypass : key ≠ Key.wifiProxyBypass → p.wifi.proxyBypass = q.wifi.proxyBypass
  pacUrl : key ≠ Key.wifiPacUrl → p.wifi.pacUrl = q.wifi.pacUrl
  locale : key ≠ Key.locale → p.locale = q.locale
  timeZone : key ≠ Key.timeZone → p.timeZone = q.timeZone
  localTime : key ≠ Key.localTime → p.localTime = q.localTime
  adminExtras : key ≠ Key.adminExtras → p.adminExtras = q.adminExtras

namespace TextMap

variable {found other : TextMap Json} {key : String}

/-- An entry matters to its own field only. -/
theorem legacyRead_sameBut (same : ∀ k, key ≠ k → found.get? k = other.get? k) :
    found.legacyRead.SameBut key other.legacyRead where
  adminPackage apart := congrArg textOf (same _ apart)
  adminComponent apart := congrArg componentOf (same _ apart)
  location apart := by
    show (Option.map _ (textOf (found.get? _))).map _ = (Option.map _ (textOf (other.get? _))).map _
    rw [Option.map_map, Option.map_map, same _ apart]
    rfl
  checksum apart others := by
    show Option.map _ (textOf (found.get? _)) = Option.map _ (textOf (other.get? _))
    rw [same _ apart]
    congr 1
    funext location
    exact congrArg (Download.mk location) (congrArg textOf (same _ others))
  startedByDiscovery apart := congrArg flagOf (same _ apart)
  skipEncryption apart := congrArg flagOf (same _ apart)
  leaveSystemApps apart := congrArg flagOf (same _ apart)
  ssid apart := congrArg textOf (same _ apart)
  hidden apart := congrArg flagOf (same _ apart)
  securityType apart := congrArg textOf (same _ apart)
  password apart := congrArg textOf (same _ apart)
  proxyHost apart := congrArg textOf (same _ apart)
  proxyPort apart := congrArg portOf (same _ apart)
  proxyBypass apart := congrArg textOf (same _ apart)
  pacUrl apart := congrArg textOf (same _ apart)
  locale apart := congrArg textOf (same _ apart)
  timeZone apart := congrArg textOf (same _ apart)
  localTime apart := congrArg integerOf (same _ apart)
  adminExtras apart := congrArg extrasOf (same _ apart)

theorem legacyRead_cleaned (found : TextMap Json) :
    found.cleaned.legacyRead = found.legacyRead := by
  have started : flagOf (found.cleaned.get? Key.startedByDiscovery) =
      flagOf (found.get? Key.startedByDiscovery) := found.flagOf_cleaned rfl
  rw [legacyRead, legacyRead, found.paramsRead_cleaned, started]

/-- A malformed entry leaves no more than none does. -/
theorem cleaned_of_malformed (same : ∀ k, key ≠ k → found.get? k = other.get? k)
    (malformed : found.IsMalformedAt key) (absent : other.get? key = none) :
    found.cleaned = other.cleaned := by
  apply ext_get?
  intro k
  rw [cleaned, cleaned, get?_filterMapValues, get?_filterMapValues]
  by_cases here : key = k
  · subst here
    obtain ⟨type, known, unfit⟩ := malformed
    rw [absent, known]
    cases held : found.get? key with
    | none => rfl
    | some value =>
      rw [held] at unfit
      exact if_neg unfit
  · rw [same k here]

/-- A malformed entry is read like none. -/
theorem legacyRead_of_malformed (same : ∀ k, key ≠ k → found.get? k = other.get? k)
    (malformed : found.IsMalformedAt key) (absent : other.get? key = none) :
    found.legacyRead = other.legacyRead := by
  rw [← found.legacyRead_cleaned, cleaned_of_malformed same malformed absent,
    other.legacyRead_cleaned]

end TextMap

-- A flag that is none and a text that is a number are dropped; the number among the admin extras
-- is shown.
example : (TextMap.ofPairs [(Key.skipEncryption, .text "maybe"), (Key.locale, .ofInt 7),
    (Key.adminExtras, .object [("site", .ofInt 7)]), ("other", .ofInt 7)]).cleaned =
      TextMap.ofPairs [(Key.adminExtras, .object [("site", .text "7")]), ("other", .ofInt 7)] := by
  decide

/-- Read permissively, extras are what cleaned extras are when they are read strictly, and never
refused.  A legacy trigger with them is rejected exactly if cleaned extras name no admin.  An entry
matters to its own field only, and a malformed one is read like none.  What is accepted from a public
trigger is accepted from a legacy one, with all that a public one may ask for. -/
theorem legacyTrigger_reads_cleaned (found : TextMap Json) (caller : Option String)
    (attempt : Option AttemptId) :
    (∃ p, (FieldSource.extras found).fullParams .permissive = .ok p ∧
      (FieldSource.extras found.cleaned).fullParams .strict = .ok p) ∧
    (∀ fault, (legacyTrigger found caller attempt).parse = .error fault ↔
      fault = .missingAdmin ∧ ¬ found.cleaned.NamesAdmin) ∧
    (∀ other key, (∀ k, key ≠ k → found.get? k = other.get? k) →
      (∃ p q, (Payload.extras found).legacyParams = .ok p ∧
        (Payload.extras other).legacyParams = .ok q ∧ p.SameBut key q) ∧
      (found.IsMalformedAt key → other.get? key = none →
        (legacyTrigger found caller attempt).parse =
          (legacyTrigger other caller attempt).parse)) ∧
    ∀ sender resumed p, (publicRequest (.extras found) sender resumed).parse = .ok p →
      ∃ q, (legacyTrigger found caller attempt).parse = .ok q ∧
        q.adminPackage = p.adminPackage ∧ q.adminComponent = p.adminComponent ∧
        q.skipEncryption = p.skipEncryption ∧ q.leaveSystemApps = p.leaveSystemApps ∧
        q.adminExtras = p.adminExtras := by
  refine ⟨⟨_, found.fullParams_permissive, found.fullParams_cleaned⟩, ?_, ?_, ?_⟩
  · intro fault
    rw [parse_legacyTrigger, ← found.admin?_legacyRead_isSome_iff]
    by_cases named : found.legacyRead.admin?.isSome = true
    · simp [named]
    · simp [named, eq_comm]
  · intro other key same
    refine ⟨⟨_, _, found.legacyParams_eq, other.legacyParams_eq, TextMap.legacyRead_sameBut same⟩, ?_⟩
    · intro malformed absent
      rw [parse_legacyTrigger, parse_legacyTrigger,
        TextMap.legacyRead_of_malformed same malformed absent]
  · intro sender resumed p parsed
    cases (parse_publicRequest_eq_ok_iff _ sender resumed p).1 parsed with
    | admin wellFormed known named =>
      have admin : found.legacyRead.admin? = some _ :=
        (TextMap.askedFor_admin?_eq_some_iff wellFormed).2 named
      have texts : found.legacyRead.adminExtras = found.askedFor.adminExtras :=
        (textsOf_eq wellFormed.adminExtras).symm
      refine ⟨found.legacyRead, ?_, rfl, rfl, rfl, rfl, texts⟩
      rw [parse_legacyTrigger, admin]
      rfl

end ProvisionGate
