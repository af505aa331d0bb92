/-!
# Callers

An attempt runs for the user that owns the device or for another user of it.
-/

namespace ProvisionGate

/-- For whom an attempt runs. -/
inductive Caller where
  /-- The user that owns the device. -/
  | primary
  /-- Any other user. -/
  | secondary
  deriving DecidableEq

namespace Caller

/-- The name of a caller. -/
def name : Caller → String
  | primary => "Primary"
  | secondary => "Secondary"

/-- What a caller provisions, as a word of a message. -/
def word : Caller → String
  | primary => "device"
  | secondary => "user"

end Caller

end ProvisionGate
