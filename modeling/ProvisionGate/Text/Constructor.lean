import ProvisionGate.Text.Quoted

/-!
# Values written as constructor terms

Messages that show a value in full write it as the constructor's name followed by its fields, by
name between braces or by position between parentheses.
-/

namespace ProvisionGate.Text

/-- A constructor with named fields. -/
def namedTerm (name : String) (fields : List (String × String)) : String :=
  let shown := fields.map fun (field, value) => field ++ ": " ++ value
  name ++ " \x7b " ++ ", ".intercalate shown ++ " \x7d"

/-- A constructor with one field by position. -/
def wrappedTerm (name value : String) : String :=
  name ++ "(" ++ value ++ ")"

/-- A value that may be absent. -/
def optionalTerm {α : Type} (show? : α → String) : Option α → String
  | none => "None"
  | some a => wrappedTerm "Some" (show? a)

/-- A truth value. -/
def boolTerm (b : Bool) : String :=
  if b then "true" else "false"

end ProvisionGate.Text
