import ProvisionGate.Request.Field
import ProvisionGate.Request.Properties
import ProvisionGate.Params

/-!
# From requests to parameters

Three forms of requests are understood: a discovered tag, read strictly in full; the legacy
trigger, read permissively in full; and the public trigger, of which only what its sender may ask
for is read, strictly, and whose sender must be the admin it names.
-/

namespace ProvisionGate

/-- Reads where the admin's package can be fetched; the checksum matters only with a location. -/
def FieldSource.download (source : FieldSource) (strictness : Strictness) :
    Except RequestFault (Option Download) := do
  match ← source.text strictness Key.downloadLocation with
  | none => return none
  | some location =>
    return some { location, checksum := ← source.text strictness Key.downloadChecksum }

/-- Reads the wireless network. -/
def FieldSource.wifi (source : FieldSource) (strictness : Strictness) :
    Except RequestFault Wifi := do
  return {
    ssid := ← source.text strictness Key.wifiSsid
    hidden := ← source.flag strictness Key.wifiHidden
    securityType := ← source.text strictness Key.wifiSecurityType
    password := ← source.text strictness Key.wifiPassword
    proxyHost := ← source.text strictness Key.wifiProxyHost
    proxyPort := ← source.portNumber strictness Key.wifiProxyPort
    proxyBypass := ← source.text strictness Key.wifiProxyBypass
    pacUrl := ← source.text strictness Key.wifiPacUrl }

/-- Reads every field but the origin of the attempt. -/
def FieldSource.fullParams (source : FieldSource) (strictness : Strictness) :
    Except RequestFault Params := do
  let adminDownload ← source.download strictness
  let wifi ← source.wifi strictness
  return {
    adminPackage := ← source.text strictness Key.adminPackage
    adminComponent := ← source.component strictness Key.adminComponent
    adminDownload
    startedByDiscovery := false
    skipEncryption := ← source.flag strictness Key.skipEncryption
    leaveSystemApps := ← source.flag strictness Key.leaveSystemApps
    wifi
    locale := ← source.text strictness Key.locale
    timeZone := ← source.text strictness Key.timeZone
    localTime := ← source.integer strictness Key.localTime
    adminExtras := ← source.adminExtras strictness }

/-- Reads what the sender of a public trigger may ask for. -/
def FieldSource.publicParams (source : FieldSource) : Except RequestFault Params := do
  return { Params.empty with
    adminPackage := ← source.text .strict Key.adminPackage
    adminComponent := ← source.component .strict Key.adminComponent
    skipEncryption := ← source.flag .strict Key.skipEncryption
    leaveSystemApps := ← source.flag .strict Key.leaveSystemApps
    adminExtras := ← source.adminExtras .strict }

/-- The extras of a direct trigger. -/
def Payload.extras? : Payload → Except RequestFault (TextMap Json)
  | .extras found => .ok found
  | .discovery _ => .error .tagRecordsForExtras

/-- Reads a discovered tag. -/
def Payload.discoveredParams : Payload → Except RequestFault Params
  | .extras _ => .error .noTagRecords
  | .discovery records =>
    match records.find? fun record => record.mimeType == provisioningMimeType with
    | none => .error .noProvisioningRecord
    | some record => do
      let params ← (FieldSource.properties (Properties.parse record.body)).fullParams .strict
      return { params with startedByDiscovery := true }

/-- Reads a legacy trigger. -/
def Payload.legacyParams (payload : Payload) : Except RequestFault Params := do
  let source := FieldSource.extras (← payload.extras?)
  let params ← source.fullParams .permissive
  return { params with startedByDiscovery := ← source.flag .permissive Key.startedByDiscovery }

/-- The sender of a public trigger must be known and be the admin it names. -/
def Params.authenticate (params : Params) (caller : Option String) : Except RequestFault Unit :=
  match caller.filter fun caller => !caller.isEmpty with
  | none => .error .callerUnknown
  | some caller =>
    match params.admin? with
    | none => .error .missingAdmin
    | some admin => if caller = admin then .ok () else .error (.permissionDenied caller admin)

/-- Reads a public trigger. -/
def Payload.publicParams (payload : Payload) (caller : Option String) :
    Except RequestFault Params := do
  let params ← (FieldSource.extras (← payload.extras?)).publicParams
  params.authenticate caller
  return params

/-- The parameters of a request by its action, before an admin is asked for. -/
def Request.actionParams (r : Request) : Except RequestFault Params :=
  match r.action with
  | .ndefDiscovered => r.payload.discoveredParams
  | .legacyProvision => r.payload.legacyParams
  | .provision => r.payload.publicParams r.callingPrincipal
  | .unknown identifier => .error (.unknownAction identifier)

/-- The parameters of a request. -/
def Request.parse (r : Request) : Except RequestFault Params := do
  let params ← r.actionParams
  if params.admin?.isNone then throw .missingAdmin
  return params

end ProvisionGate
