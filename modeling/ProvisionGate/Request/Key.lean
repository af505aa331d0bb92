/-!
# Keys of the fields of a request

Tag properties and extras name their fields alike.  Admin extras are one object under their key in
extras, and one property each, under that key and a point, on a tag.
-/

namespace ProvisionGate.Key

def adminPackage : String := "provisioning.device_admin_package_name"
def adminComponent : String := "provisioning.device_admin_component_name"
def downloadLocation : String := "provisioning.device_admin_package_download_location"
def downloadChecksum : String := "provisioning.device_admin_package_checksum"
def skipEncryption : String := "provisioning.skip_encryption"
def leaveSystemApps : String := "provisioning.leave_all_system_apps_enabled"
def locale : String := "provisioning.locale"
def timeZone : String := "provisioning.time_zone"
def localTime : String := "provisioning.local_time"
def wifiSsid : String := "provisioning.wifi_ssid"
def wifiHidden : String := "provisioning.wifi_hidden"
def wifiSecurityType : String := "provisioning.wifi_security_type"
def wifiPassword : String := "provisioning.wifi_password"
def wifiProxyHost : String := "provisioning.wifi_proxy_host"
def wifiProxyPort : String := "provisioning.wifi_proxy_port"
def wifiProxyBypass : String := "provisioning.wifi_proxy_bypass"
def wifiPacUrl : String := "provisioning.wifi_pac_url"
def adminExtras : String := "provisioning.admin_extras"

/-- Tells that an attempt taken up again began at a tag; only the legacy trigger reads it. -/
def startedByDiscovery : String := "provisioning.started_by_discovery"

/-- The keys whose values are never shown. -/
def secret : List String := [wifiPassword]

/-- What a key of a tag property begins with if it names an admin extra. -/
def adminExtraBeginning : String := adminExtras ++ "."

end ProvisionGate.Key
