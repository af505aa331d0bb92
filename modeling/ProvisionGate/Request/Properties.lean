import ProvisionGate.Request.Key
import ProvisionGate.TextMap
import ProvisionGate.Text.Blank
import ProvisionGate.Text.Lines

/-!
# Properties

The body of a tag record is a list of lines.  A line holds a property when it is not a comment and
has a separator: the text before the first `=` or `:` is the key and the rest is the value, both
without blanks around them.  Of several lines with one key the last one counts.
-/

namespace ProvisionGate.Properties

/-- The characters that end a key. -/
def isSeparator (c : Char) : Bool :=
  c == '=' || c == ':'

/-- The characters that begin a comment. -/
def isCommentMark (c : Char) : Bool :=
  c == '#' || c == '!'

/-- The property on a line, if the line holds one. -/
def property? (line : List Char) : Option (String × String) :=
  let line := Text.trim line
  if line.head?.any isCommentMark then none
  else
    (Text.splitAtFirst isSeparator line).map fun (key, value) =>
      (String.ofList (Text.trim key), String.ofList (Text.trim value))

/-- The properties of a body. -/
def parse (body : String) : TextMap String :=
  TextMap.ofPairs ((Text.lines body.toList).filterMap property?)

/-- What a masked value is shown as. -/
def mask : String := "<redacted>"

/-- A line with its value masked if its key is secret. -/
def redactLine (line : List Char) : List Char :=
  match Text.splitAtFirst isSeparator line with
  | some (key, _) =>
    if String.ofList (Text.trim key) ∈ Key.secret then
      Text.trimEnd key ++ '=' :: mask.toList
    else line
  | none => line

/-- A body with the values of secret keys masked. -/
def redact (body : String) : String :=
  String.ofList (Text.joinLines ((Text.lines body.toList).map redactLine))

end ProvisionGate.Properties
