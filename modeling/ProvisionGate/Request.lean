import ProvisionGate.Identity
import ProvisionGate.Json.Basic

/-!
# Provisioning requests

A request names an action and carries either the records of a discovered tag or a map of extras.
It may tell which app sent it and which earlier attempt it takes up again.
-/

namespace ProvisionGate

/-- What a request asks to be done. -/
inductive Action where
  /-- A provisioning tag was discovered. -/
  | ndefDiscovered
  /-- The internal direct trigger, which also takes up attempts again. -/
  | legacyProvision
  /-- The public direct trigger, whose sender must be the admin it names. -/
  | provision
  /-- Anything else. -/
  | unknown (identifier : String)
  deriving DecidableEq

namespace Action

/-- The action with an identifier. -/
def ofIdentifier (identifier : String) : Action :=
  if identifier = "action.ndef_discovered" then ndefDiscovered
  else if identifier = "action.legacy.provision_managed_device" then legacyProvision
  else if identifier = "action.provision_managed_device" then provision
  else unknown identifier

/-- The identifier of an action. -/
def identifier : Action → String
  | ndefDiscovered => "action.ndef_discovered"
  | legacyProvision => "action.legacy.provision_managed_device"
  | provision => "action.provision_managed_device"
  | unknown identifier => identifier

@[simp] theorem identifier_ofIdentifier (identifier : String) :
    (ofIdentifier identifier).identifier = identifier := by
  unfold ofIdentifier
  split
  · subst_vars; rfl
  · split
    · subst_vars; rfl
    · split
      · subst_vars; rfl
      · rfl

end Action

/-- One record of a discovered tag. -/
structure TagRecord where
  mimeType : String
  body : String
  deriving DecidableEq

/-- What a request carries. -/
inductive Payload where
  | discovery (records : List TagRecord)
  | extras (found : TextMap Json)
  deriving DecidableEq

/-- A trigger of one provisioning attempt. -/
structure Request where
  action : Action
  payload : Payload
  callingPrincipal : Option String
  resumedAttempt : Option AttemptId
  deriving DecidableEq

/-- The type of the tag record that carries provisioning properties. -/
def provisioningMimeType : String :=
  "application/com.android.managedprovisioning"

end ProvisionGate
