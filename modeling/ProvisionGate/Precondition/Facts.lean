import ProvisionGate.Caller
import ProvisionGate.Precondition

/-!
# Facts about a device

What the checks look at.  A fact can be read on its own, and `Precondition.factsFor` reads the ones
that a check may need, leaving the others at their defaults.
-/

namespace ProvisionGate

/-- A fact about the device. -/
inductive Fact where
  | deviceProvisioned
  | userSetupComplete
  /-- The size of the block that protects the device from a reset, none if there is no such
  protection. -/
  | frpBlockSize
  | deviceEncrypted
  /-- The device need not be encrypted. -/
  | encryptionExempt
  | networkConnected
  deriving DecidableEq

/-- The values of a fact. -/
abbrev Fact.Value : Fact → Type
  | deviceProvisioned => Bool
  | userSetupComplete => Bool
  | frpBlockSize => Option UInt64
  | deviceEncrypted => Bool
  | encryptionExempt => Bool
  | networkConnected => Bool

/-- The name of a fact. -/
def Fact.name : Fact → String
  | deviceProvisioned => "device_provisioned"
  | userSetupComplete => "user_setup_complete"
  | frpBlockSize => "frp_data_block_size"
  | deviceEncrypted => "device_encrypted"
  | encryptionExempt => "encryption_exempt"
  | networkConnected => "network_connected"

/-- The facts about a device at one time. -/
structure Facts where
  deviceProvisioned : Bool
  userSetupComplete : Bool
  frpBlockSize : Option UInt64
  deviceEncrypted : Bool
  encryptionExempt : Bool
  networkConnected : Bool
  deriving DecidableEq

namespace Facts

/-- Nothing holds. -/
def none : Facts where
  deviceProvisioned := false
  userSetupComplete := false
  frpBlockSize := Option.none
  deviceEncrypted := false
  encryptionExempt := false
  networkConnected := false

/-- The value of one fact. -/
def value (facts : Facts) : (fact : Fact) → fact.Value
  | .deviceProvisioned => facts.deviceProvisioned
  | .userSetupComplete => facts.userSetupComplete
  | .frpBlockSize => facts.frpBlockSize
  | .deviceEncrypted => facts.deviceEncrypted
  | .encryptionExempt => facts.encryptionExempt
  | .networkConnected => facts.networkConnected

end Facts

/-- Reads the facts that a check may need.  The block size matters for the device's owner only,
and the exemption only if the device is not encrypted. -/
def Precondition.factsFor {m : Type → Type} [Monad m] (read : (fact : Fact) → m fact.Value)
    (caller : Caller) : Precondition → m Facts
  | notYetProvisioned =>
    match caller with
    | .primary => do return { Facts.none with deviceProvisioned := ← read .deviceProvisioned }
    | .secondary => do return { Facts.none with userSetupComplete := ← read .userSetupComplete }
  | factoryResetProtection =>
    match caller with
    | .primary => do return { Facts.none with frpBlockSize := ← read .frpBlockSize }
    | .secondary => return Facts.none
  | encryption => do
    let deviceEncrypted : Bool ← read .deviceEncrypted
    if deviceEncrypted then return { Facts.none with deviceEncrypted }
    else
      let encryptionExempt : Bool ← read .encryptionExempt
      return { Facts.none with encryptionExempt }
  | network => do return { Facts.none with networkConnected := ← read .networkConnected }

end ProvisionGate
