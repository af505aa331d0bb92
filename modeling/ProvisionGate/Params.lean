import ProvisionGate.Component
import ProvisionGate.TextMap
import ProvisionGate.Text.Constructor

/-!
# Provisioning parameters

What an accepted request asks for, in one form whatever form the request had.
-/

namespace ProvisionGate

/-- Where the admin's package can be fetched. -/
structure Download where
  location : String
  checksum : Option String
  deriving DecidableEq

/-- The wireless network to join while provisioning. -/
structure Wifi where
  ssid : Option String
  hidden : Bool
  securityType : Option String
  password : Option String
  proxyHost : Option String
  proxyPort : Option UInt16
  proxyBypass : Option String
  pacUrl : Option String
  deriving DecidableEq

namespace Wifi

/-- No network. -/
def empty : Wifi where
  ssid := none
  hidden := false
  securityType := none
  password := none
  proxyHost := none
  proxyPort := none
  proxyBypass := none
  pacUrl := none

/-- A network is named. -/
def hasSsid (w : Wifi) : Bool :=
  w.ssid.any fun ssid => !ssid.isEmpty

theorem hasSsid_eq_false_iff {w : Wifi} : w.hasSsid = false ↔ w.ssid.getD "" = "" := by
  unfold hasSsid
  cases w.ssid <;> simp

/-- The network in full for a message, with its password masked. -/
def shown (w : Wifi) : String :=
  let text := Text.optionalTerm Text.quoted
  Text.namedTerm "WifiInfo" [
    ("ssid", text w.ssid),
    ("hidden", Text.boolTerm w.hidden),
    ("security_type", text w.securityType),
    ("password", text (w.password.map fun _ => "[REDACTED]")),
    ("proxy_host", text w.proxyHost),
    ("proxy_port", Text.optionalTerm (fun number => toString number.toNat) w.proxyPort),
    ("proxy_bypass", text w.proxyBypass),
    ("pac_url", text w.pacUrl)]

end Wifi

/-- The parameters of one provisioning attempt. -/
structure Params where
  adminPackage : Option String
  adminComponent : Option Component
  adminDownload : Option Download
  startedByDiscovery : Bool
  skipEncryption : Bool
  leaveSystemApps : Bool
  wifi : Wifi
  locale : Option String
  timeZone : Option String
  localTime : Option Int64
  adminExtras : TextMap String
  deriving DecidableEq

namespace Params

/-- Parameters that ask for nothing. -/
def empty : Params where
  adminPackage := none
  adminComponent := none
  adminDownload := none
  startedByDiscovery := false
  skipEncryption := false
  leaveSystemApps := false
  wifi := Wifi.empty
  locale := none
  timeZone := none
  localTime := none
  adminExtras := TextMap.empty

/-- The package of the admin that will own the device: the component's package if a component is
named, else the bare package name, unless it is empty. -/
def admin? (p : Params) : Option String :=
  let named := (p.adminComponent.map Component.package).or p.adminPackage
  named.filter fun name => !name.isEmpty

/-- The admin's package, empty if no admin is named. -/
def adminOrEmpty (p : Params) : String :=
  p.admin?.getD ""

end Params

end ProvisionGate
