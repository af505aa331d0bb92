import ProvisionGate.Text.Blank
import ProvisionGate.Text.Lines

/-!
# Component names

A component of an app is named by its package and its class, written flat as `package/class`.  In
the flat form a class that starts with a point is relative to the package.
-/

namespace ProvisionGate

/-- A component of an app. -/
structure Component where
  package : String
  className : String
  deriving DecidableEq

namespace Component

/-- The component named by a flat text: package and class without blanks around them, neither of
them empty, and no slash in the class. -/
def unflatten? (flat : String) : Option Component := do
  let (before, after) ← Text.splitAtFirst (· == '/') flat.toList
  let package := Text.trim before
  let className := Text.trim after
  guard (!package.isEmpty && !className.isEmpty && !className.contains '/')
  return {
    package := String.ofList package
    className := String.ofList (if className.head? = some '.' then package ++ className
      else className) }

/-- The flat form of a component. -/
def flatten (c : Component) : String :=
  c.package ++ "/" ++ c.className

end Component

end ProvisionGate
