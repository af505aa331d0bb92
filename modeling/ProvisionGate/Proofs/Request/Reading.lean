import ProvisionGate.Proofs.Request.Fields

/-!
# What a source of fields is read to in full

Every field is a matter of its own entry, but for the checksum of a download, which is looked at only
if there is a location.  A permissive reader takes every source and makes of it what its entries
stand for.  A strict reader makes the same of a source whose entries are all well-formed, and refuses
any other one for a field.
-/

namespace ProvisionGate

open Entry

/-- What a reader makes of some fields, whichever of them is refused. -/
def SourceRead {α : Type} (strictness : Strictness) (wellFormed : Prop) (value : α)
    (read : Except RequestFault α) : Prop :=
  ∃ key, FieldRead strictness key wellFormed value read

section

variable {α β : Type} {strictness : Strictness} {key : String} {first second : Prop} {a : α} {b : β}
  {read : Except RequestFault α} {next : α → Except RequestFault β}

theorem FieldRead.source (reads : FieldRead strictness key first a read) :
    SourceRead strictness first a read :=
  ⟨key, reads⟩

namespace SourceRead

theorem done (strictness : Strictness) (a : α) : SourceRead strictness True a (pure a) :=
  ⟨"", .taken trivial⟩

/-- Fields are read one after the other, up to the first that is refused. -/
theorem bind (reads : SourceRead strictness first a read)
    (later : SourceRead strictness second b (next a)) :
    SourceRead strictness (first ∧ second) b (read >>= next) := by
  obtain ⟨key, reads⟩ := reads
  cases reads with
  | taken fits =>
    obtain ⟨other, later⟩ := later
    show SourceRead _ _ _ (next a)
    generalize next a = rest at later
    cases later with
    | taken others => exact ⟨other, .taken ⟨fits, others⟩⟩
    | passedOver malformed lenient =>
      exact ⟨other, .passedOver (fun both => malformed both.2) lenient⟩
    | refused malformed strict => exact ⟨other, .refused (fun both => malformed both.2) strict⟩
  | passedOver malformed lenient =>
    obtain ⟨other, later⟩ := later
    show SourceRead _ _ _ (next a)
    generalize next a = rest at later
    cases later with
    | taken => exact ⟨other, .passedOver (fun both => malformed both.1) lenient⟩
    | passedOver => exact ⟨other, .passedOver (fun both => malformed both.1) lenient⟩
    | refused _ strict => cases lenient.symm.trans strict
  | refused malformed strict => exact ⟨key, .refused (fun both => malformed both.1) strict⟩

theorem congr (reads : SourceRead strictness first a read) (same : second ↔ first) :
    SourceRead strictness second a read := by
  rwa [same]

theorem permissive_eq (reads : SourceRead .permissive first a read) : read = .ok a := by
  obtain ⟨key, reads⟩ := reads
  cases reads with
  | taken => rfl
  | passedOver => rfl
  | refused _ strict => cases strict

theorem strict_cases (reads : SourceRead .strict first a read) :
    first ∧ read = .ok a ∨ ¬ first ∧ ∃ key problem, read = .error (.field key problem) := by
  obtain ⟨key, reads⟩ := reads
  rcases reads.strict_cases with taken | ⟨malformed, problem, refused⟩
  · exact .inl taken
  · exact .inr ⟨malformed, key, problem, refused⟩

end SourceRead

end

namespace FieldSource

variable (source : FieldSource) (strictness : Strictness)

/-- The admin extras of a source. -/
def extrasRead : FieldSource → TextMap String
  | properties found => TextMap.ofPairs (found.entries.filterMap adminExtra?)
  | extras found => extrasOf (found.get? Key.adminExtras)

/-- The admin extras of a source are well-formed.  Those of a tag always are. -/
def ExtrasFit : FieldSource → Prop
  | properties _ => True
  | extras found => IsTexts (found.get? Key.adminExtras)

/-- The entries for the network are well-formed. -/
structure WifiFits : Prop where
  ssid : IsText (source.get? Key.wifiSsid)
  hidden : IsFlag (source.get? Key.wifiHidden)
  securityType : IsText (source.get? Key.wifiSecurityType)
  password : IsText (source.get? Key.wifiPassword)
  proxyHost : IsText (source.get? Key.wifiProxyHost)
  proxyPort : IsPort (source.get? Key.wifiProxyPort)
  proxyBypass : IsText (source.get? Key.wifiProxyBypass)
  pacUrl : IsText (source.get? Key.wifiPacUrl)

/-- The entries that are looked at are well-formed. -/
structure IsWellFormed : Prop where
  location : IsText (source.get? Key.downloadLocation)
  checksum : (textOf (source.get? Key.downloadLocation)).isSome = true →
    IsText (source.get? Key.downloadChecksum)
  wifi : source.WifiFits
  adminPackage : IsText (source.get? Key.adminPackage)
  adminComponent : IsComponent (source.get? Key.adminComponent)
  skipEncryption : IsFlag (source.get? Key.skipEncryption)
  leaveSystemApps : IsFlag (source.get? Key.leaveSystemApps)
  locale : IsText (source.get? Key.locale)
  timeZone : IsText (source.get? Key.timeZone)
  localTime : IsInteger (source.get? Key.localTime)
  adminExtras : source.ExtrasFit

/-- The network that the entries stand for. -/
def wifiRead : Wifi where
  ssid := textOf (source.get? Key.wifiSsid)
  hidden := flagOf (source.get? Key.wifiHidden)
  securityType := textOf (source.get? Key.wifiSecurityType)
  password := textOf (source.get? Key.wifiPassword)
  proxyHost := textOf (source.get? Key.wifiProxyHost)
  proxyPort := portOf (source.get? Key.wifiProxyPort)
  proxyBypass := textOf (source.get? Key.wifiProxyBypass)
  pacUrl := textOf (source.get? Key.wifiPacUrl)

/-- The download that the entries stand for. -/
def downloadRead : Option Download :=
  (textOf (source.get? Key.downloadLocation)).map fun location =>
    { location, checksum := textOf (source.get? Key.downloadChecksum) }

/-- The parameters that the entries stand for. -/
def paramsRead : Params where
  adminPackage := textOf (source.get? Key.adminPackage)
  adminComponent := componentOf (source.get? Key.adminComponent)
  adminDownload := source.downloadRead
  startedByDiscovery := false
  skipEncryption := flagOf (source.get? Key.skipEncryption)
  leaveSystemApps := flagOf (source.get? Key.leaveSystemApps)
  wifi := source.wifiRead
  locale := textOf (source.get? Key.locale)
  timeZone := textOf (source.get? Key.timeZone)
  localTime := integerOf (source.get? Key.localTime)
  adminExtras := source.extrasRead

theorem extras_reads : SourceRead strictness source.ExtrasFit source.extrasRead
    (source.adminExtras strictness) := by
  cases source with
  | properties found => exact .done strictness _
  | extras found => exact (adminExtras_reads strictness found).source

theorem wifi_reads :
    SourceRead strictness source.WifiFits source.wifiRead (source.wifi strictness) := by
  have reads : SourceRead strictness _ source.wifiRead (source.wifi strictness) :=
    .bind (source.text_reads strictness Key.wifiSsid).source <|
    .bind (source.flag_reads strictness Key.wifiHidden).source <|
    .bind (source.text_reads strictness Key.wifiSecurityType).source <|
    .bind (source.text_reads strictness Key.wifiPassword).source <|
    .bind (source.text_reads strictness Key.wifiProxyHost).source <|
    .bind (source.portNumber_reads strictness Key.wifiProxyPort).source <|
    .bind (source.text_reads strictness Key.wifiProxyBypass).source <|
    .bind (source.text_reads strictness Key.wifiPacUrl).source <|
    .done strictness source.wifiRead
  refine reads.congr ⟨?_, ?_⟩
  · intro fits
    exact ⟨fits.ssid, fits.hidden, fits.securityType, fits.password, fits.proxyHost,
      fits.proxyPort, fits.proxyBypass, fits.pacUrl, trivial⟩
  · rintro ⟨ssid, hidden, securityType, password, proxyHost, proxyPort, proxyBypass, pacUrl, -⟩
    exact ⟨ssid, hidden, securityType, password, proxyHost, proxyPort, proxyBypass, pacUrl⟩

theorem download_reads :
    SourceRead strictness (IsText (source.get? Key.downloadLocation) ∧
      ((textOf (source.get? Key.downloadLocation)).isSome = true →
        IsText (source.get? Key.downloadChecksum))) source.downloadRead
      (source.download strictness) := by
  unfold downloadRead
  refine .bind (source.text_reads strictness Key.downloadLocation).source ?_
  cases textOf (source.get? Key.downloadLocation) with
  | none => exact (SourceRead.done strictness none).congr (by simp)
  | some location =>
    have reads := (source.text_reads strictness Key.downloadChecksum).map fun checksum =>
      some ({ location, checksum } : Download)
    exact reads.source.congr (by simp)

theorem fullParams_reads :
    SourceRead strictness source.IsWellFormed source.paramsRead
      (source.fullParams strictness) := by
  have reads : SourceRead strictness _ source.paramsRead (source.fullParams strictness) :=
    .bind (source.download_reads strictness) <|
    .bind (source.wifi_reads strictness) <|
    .bind (source.text_reads strictness Key.adminPackage).source <|
    .bind (source.component_reads strictness Key.adminComponent).source <|
    .bind (source.flag_reads strictness Key.skipEncryption).source <|
    .bind (source.flag_reads strictness Key.leaveSystemApps).source <|
    .bind (source.text_reads strictness Key.locale).source <|
    .bind (source.text_reads strictness Key.timeZone).source <|
    .bind (source.integer_reads strictness Key.localTime).source <|
    .bind (source.extras_reads strictness) <|
    .done strictness source.paramsRead
  refine reads.congr ⟨?_, ?_⟩
  · intro fits
    exact ⟨⟨fits.location, fits.checksum⟩, fits.wifi, fits.adminPackage, fits.adminComponent,
      fits.skipEncryption, fits.leaveSystemApps, fits.locale, fits.timeZone, fits.localTime,
      fits.adminExtras, trivial⟩
  · rintro ⟨⟨location, checksum⟩, wifi, adminPackage, adminComponent, skip, leave, locale, timeZone,
      localTime, adminExtras, -⟩
    exact ⟨location, checksum, wifi, adminPackage, adminComponent, skip, leave, locale, timeZone,
      localTime, adminExtras⟩

end FieldSource

end ProvisionGate
