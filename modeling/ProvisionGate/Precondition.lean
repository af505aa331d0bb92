/-!
# Preconditions

Four checks stand between a request and its launch, always in one order.
-/

namespace ProvisionGate

/-- A check that has to pass before anything is launched. -/
inductive Precondition where
  | notYetProvisioned
  | factoryResetProtection
  | encryption
  | network
  deriving DecidableEq

namespace Precondition

/-- The name of a check. -/
def name : Precondition → String
  | notYetProvisioned => "NotYetProvisioned"
  | factoryResetProtection => "FactoryResetProtection"
  | encryption => "Encryption"
  | network => "Network"

/-- The checks in their order. -/
def order : List Precondition :=
  [notYetProvisioned, factoryResetProtection, encryption, network]

/-- A check and those after it. -/
def andFollowing (p : Precondition) : List Precondition :=
  order.dropWhile fun other => other ≠ p

end Precondition

end ProvisionGate
