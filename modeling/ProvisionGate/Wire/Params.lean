import ProvisionGate.Json.Record
import ProvisionGate.Params

/-!
# The JSON form of parameters
-/

namespace ProvisionGate

namespace Component

/-- The JSON form of a component. -/
def toJson (c : Component) : Json :=
  .object [("package", .text c.package), ("class", .text c.className)]

/-- Reads a component. -/
def ofJson? (j : Json) : Option Component := do
  let r ← Json.Record.ofJson? ["package", "class"] [] j
  return {
    package := ← r.required? "package" Json.text?
    className := ← r.required? "class" Json.text? }

end Component

namespace Download

/-- The JSON form of a download. -/
def toJson (d : Download) : Json :=
  .object [("location", .text d.location), ("checksum", .ofOption .text d.checksum)]

/-- Reads a download. -/
def ofJson? (j : Json) : Option Download := do
  let r ← Json.Record.ofJson? ["location", "checksum"] [] j
  return {
    location := ← r.required? "location" Json.text?
    checksum := ← r.optional? "checksum" Json.text? }

end Download

namespace Wifi

/-- The JSON form of a wireless network. -/
def toJson (w : Wifi) : Json :=
  .object [
    ("ssid", .ofOption .text w.ssid),
    ("hidden", .bool w.hidden),
    ("security_type", .ofOption .text w.securityType),
    ("password", .ofOption .text w.password),
    ("proxy_host", .ofOption .text w.proxyHost),
    ("proxy_port", .ofOption (fun number => .ofInt number.toNat) w.proxyPort),
    ("proxy_bypass", .ofOption .text w.proxyBypass),
    ("pac_url", .ofOption .text w.pacUrl)]

/-- The names of the fields of a wireless network. -/
def fieldNames : List String :=
  ["ssid", "hidden", "security_type", "password", "proxy_host", "proxy_port", "proxy_bypass",
    "pac_url"]

/-- Reads a wireless network. -/
def ofJson? (j : Json) : Option Wifi := do
  let r ← Json.Record.ofJson? fieldNames [] j
  return {
    ssid := ← r.optional? "ssid" Json.text?
    hidden := ← r.required? "hidden" Json.bool?
    securityType := ← r.optional? "security_type" Json.text?
    password := ← r.optional? "password" Json.text?
    proxyHost := ← r.optional? "proxy_host" Json.text?
    proxyPort := ← r.optional? "proxy_port" Json.uint16?
    proxyBypass := ← r.optional? "proxy_bypass" Json.text?
    pacUrl := ← r.optional? "pac_url" Json.text? }

end Wifi

namespace Params

/-- The JSON form of parameters. -/
def toJson (p : Params) : Json :=
  .object [
    ("device_admin_package_name", .ofOption .text p.adminPackage),
    ("device_admin_component_name", .ofOption Component.toJson p.adminComponent),
    ("device_admin_download", .ofOption Download.toJson p.adminDownload),
    ("started_by_discovery", .bool p.startedByDiscovery),
    ("skip_encryption", .bool p.skipEncryption),
    ("leave_all_system_apps_enabled", .bool p.leaveSystemApps),
    ("wifi", p.wifi.toJson),
    ("locale", .ofOption .text p.locale),
    ("time_zone", .ofOption .text p.timeZone),
    ("local_time", .ofOption (fun time => .ofInt time.toInt) p.localTime),
    ("admin_extras", .ofMap (p.adminExtras.mapValues .text))]

/-- The names of the fields of parameters. -/
def fieldNames : List String :=
  ["device_admin_package_name", "device_admin_component_name", "device_admin_download",
    "started_by_discovery", "skip_encryption", "leave_all_system_apps_enabled", "wifi", "locale",
    "time_zone", "local_time", "admin_extras"]

/-- Reads parameters. -/
def ofJson? (j : Json) : Option Params := do
  let r ← Json.Record.ofJson? fieldNames [] j
  return {
    adminPackage := ← r.optional? "device_admin_package_name" Json.text?
    adminComponent := ← r.optional? "device_admin_component_name" Component.ofJson?
    adminDownload := ← r.optional? "device_admin_download" Download.ofJson?
    startedByDiscovery := ← r.required? "started_by_discovery" Json.bool?
    skipEncryption := ← r.required? "skip_encryption" Json.bool?
    leaveSystemApps := ← r.required? "leave_all_system_apps_enabled" Json.bool?
    wifi := ← r.required? "wifi" Wifi.ofJson?
    locale := ← r.optional? "locale" Json.text?
    timeZone := ← r.optional? "time_zone" Json.text?
    localTime := ← r.optional? "local_time" Json.int64?
    adminExtras := ← r.required? "admin_extras" (Json.map? Json.text?) }

end Params

end ProvisionGate
