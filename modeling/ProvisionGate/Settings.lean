import ProvisionGate.Consent.Store
import ProvisionGate.Precondition.Facts
import ProvisionGate.Text.Quoted
import ProvisionGate.Toml.Reader

/-!
# Settings

Settings describe a device and where its consent record is kept.  They are read from a TOML
document, in which everything may be missing and values of another type count as missing.
-/

namespace ProvisionGate

/-- The device as the settings describe it. -/
structure DeviceSettings where
  callerClass : String
  deviceProvisioned : Bool
  userSetupComplete : Bool
  frpBlockSize : Option UInt64
  deviceEncrypted : Bool
  networkConnected : Bool
  deriving DecidableEq

/-- The settings of a run. -/
structure Settings where
  logLevel : String
  consentPath : String
  encryptionExempt : Bool
  device : DeviceSettings
  deriving DecidableEq

/-- The settings could not be read. -/
inductive SettingsError where
  | unreadableFile (path : String)
  | notToml
  deriving DecidableEq

/-- The error in words. -/
def SettingsError.message : SettingsError → String
  | unreadableFile path => "Failed to read config file: " ++ path
  | notToml => "Failed to parse config as TOML"

namespace Settings

/-- A value in a section of a document. -/
def entry (doc : Toml.Value) (table key : String) : Option Toml.Value :=
  (doc.get? table).bind (Toml.Value.get? key)

/-- A text in a section, empty if it is missing. -/
def textEntry (doc : Toml.Value) (table key : String) : String :=
  ((entry doc table key).bind Toml.Value.text?).getD ""

/-- A truth value in a section, false if it is missing. -/
def flagEntry (doc : Toml.Value) (table key : String) : Bool :=
  ((entry doc table key).bind Toml.Value.bool?).getD false

/-- A size in a section; a negative integer is none. -/
def sizeEntry (doc : Toml.Value) (table key : String) : Option UInt64 := do
  let size ← (entry doc table key).bind Toml.Value.int?
  if 0 ≤ size then some size.toUInt64 else none

/-- The settings of a document. -/
def ofToml (doc : Toml.Value) : Settings where
  logLevel := textEntry doc "general" "log_level"
  consentPath := textEntry doc "storage" "consent_path"
  encryptionExempt := flagEntry doc "policy" "encryption_exempt"
  device := {
    callerClass := textEntry doc "device" "caller_class"
    deviceProvisioned := flagEntry doc "device" "device_provisioned"
    userSetupComplete := flagEntry doc "device" "user_setup_complete"
    frpBlockSize := sizeEntry doc "device" "frp_data_block_size"
    deviceEncrypted := flagEntry doc "device" "device_encrypted"
    networkConnected := flagEntry doc "device" "network_connected" }

/-- The settings of a document without entries. -/
def empty : Settings :=
  ofToml (.table [])

/-- The settings where none are given: only the place of the consent record is set. -/
def inDataDirectory (directory : String) : Settings :=
  { empty with consentPath := Path.join directory ConsentStore.defaultFileName }

/-- Reads the settings in a file. -/
def load (path : String) : FileStep SettingsError Settings := do
  let answer ← FileStep.ask (.readText (Path.ofText path))
  let text ← FileStep.orFail (fun _ => .unreadableFile path) answer
  match Toml.ofText? text with
  | some doc => return ofToml doc
  | none => throw .notToml

/-- The caller that the settings name: the device's owner if they name none. -/
def caller? (settings : Settings) : Option Caller :=
  let name := Text.trimmed settings.device.callerClass
  if name = "" ∨ name = "primary" ∨ name = "device" then some .primary
  else if name = "secondary" ∨ name = "user" then some .secondary
  else none

/-- The facts about the device. -/
def facts (settings : Settings) : Facts where
  deviceProvisioned := settings.device.deviceProvisioned
  userSetupComplete := settings.device.userSetupComplete
  frpBlockSize := settings.device.frpBlockSize
  deviceEncrypted := settings.device.deviceEncrypted
  encryptionExempt := settings.encryptionExempt
  networkConnected := settings.device.networkConnected

/-- What is wrong with settings whose caller is not known. -/
def unknownCallerMessage (settings : Settings) : String :=
  "unknown caller class in config: " ++ Text.quoted (Text.trimmed settings.device.callerClass)

end Settings

/-- Where a user's data is kept, as the environment tells. -/
structure DataLocation where
  /-- The directory for data of all programs, if one is set. -/
  shared : Option String
  /-- The user's home directory. -/
  home : String
  deriving DecidableEq

namespace DataLocation

/-- The location that two variables of the environment tell.  Where the home directory is not set
or empty, the one of the user's account counts. -/
def ofEnvironment (shared home : Option String) (accountHome : String) : DataLocation where
  shared
  home := (home.filter fun path => !path.isEmpty).getD accountHome

/-- The directory for the data of this program. -/
def directory (location : DataLocation) : String :=
  let shared := location.shared.getD (Path.join location.home ".local/share")
  Path.join shared "dop-preflight"

end DataLocation

/-- The store for the consent record: at the path of the settings, or in the data directory if they
give none. -/
def Settings.consentStore (settings : Settings) (location : DataLocation) : ConsentStore :=
  if settings.consentPath = "" then
    .inDirectory location.directory ConsentStore.defaultFileName
  else ⟨settings.consentPath⟩

end ProvisionGate
