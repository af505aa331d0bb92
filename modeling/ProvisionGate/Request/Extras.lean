import ProvisionGate.Request
import ProvisionGate.Request.Key
import ProvisionGate.Params

/-!
# Parameters as extras

Parameters are written as extras of a legacy trigger so that an attempt can be taken up again after
a restart.  Texts and integers are left out when absent, flags are always there, and admin extras
only when there are any.
-/

namespace ProvisionGate

/-- An entry for a text that is present. -/
def textEntry (key : String) (value : Option String) : List (String × Json) :=
  (value.map fun text => (key, Json.text text)).toList

/-- An entry for an integer that is present. -/
def intEntry (key : String) (value : Option Int) : List (String × Json) :=
  (value.map fun int => (key, Json.ofInt int)).toList

/-- The entries for the wireless network. -/
def Wifi.extrasEntries (w : Wifi) : List (String × Json) :=
  textEntry Key.wifiSsid w.ssid ++
  textEntry Key.wifiSecurityType w.securityType ++
  textEntry Key.wifiPassword w.password ++
  textEntry Key.wifiProxyHost w.proxyHost ++
  textEntry Key.wifiProxyBypass w.proxyBypass ++
  textEntry Key.wifiPacUrl w.pacUrl ++
  intEntry Key.wifiProxyPort (w.proxyPort.map fun number => (number.toNat : Int)) ++
  [(Key.wifiHidden, Json.bool w.hidden)]

/-- The entries for the admin extras. -/
def adminExtrasEntry (extras : TextMap String) : List (String × Json) :=
  if extras.isEmpty then []
  else [(Key.adminExtras, Json.ofMap (extras.mapValues Json.text))]

/-- The entries for all parameters. -/
def Params.extrasEntries (p : Params) : List (String × Json) :=
  textEntry Key.adminPackage p.adminPackage ++
  textEntry Key.adminComponent (p.adminComponent.map Component.flatten) ++
  textEntry Key.downloadLocation (p.adminDownload.map Download.location) ++
  textEntry Key.downloadChecksum (p.adminDownload.bind Download.checksum) ++
  textEntry Key.locale p.locale ++
  textEntry Key.timeZone p.timeZone ++
  p.wifi.extrasEntries ++
  intEntry Key.localTime (p.localTime.map Int64.toInt) ++
  [(Key.skipEncryption, Json.bool p.skipEncryption),
   (Key.leaveSystemApps, Json.bool p.leaveSystemApps),
   (Key.startedByDiscovery, Json.bool p.startedByDiscovery)] ++
  adminExtrasEntry p.adminExtras

/-- The parameters as extras. -/
def Params.toExtras (p : Params) : TextMap Json :=
  TextMap.ofPairs p.extrasEntries

/-- The request that takes up an attempt again with its parameters. -/
def Params.resumeRequest (p : Params) (attempt : AttemptId) : Request where
  action := .legacyProvision
  payload := .extras p.toExtras
  callingPrincipal := none
  resumedAttempt := some attempt

end ProvisionGate
