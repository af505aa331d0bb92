import ProvisionGate.Text.ExtendingMark
import ProvisionGate.Text.Filler
import ProvisionGate.Text.Unprintable

/-!
# Quoted texts

A text is quoted for a message between double quotes.  A quote and a backslash get a backslash, the
four usual controls their letter, and every other character without a glyph of its own its code
point in hexadecimal.  Everything else stands for itself.
-/

namespace ProvisionGate.Text

/-- The code point of a character between braces, in lower case hexadecimal. -/
def codePointEscape (c : Char) : List Char :=
  ['\\', 'u', '{'] ++ Nat.toDigits 16 c.toNat ++ ['}']

/-- A character as it stands in a quoted text. -/
def quotedChar (c : Char) : List Char :=
  if c = '"' then ['\\', '"']
  else if c = '\\' then ['\\', '\\']
  else if c = '\n' then ['\\', 'n']
  else if c = '\r' then ['\\', 'r']
  else if c = '\t' then ['\\', 't']
  else if c = '\x00' then ['\\', '0']
  else if isUnprintable c || isFiller c || isExtendingMark c then codePointEscape c
  else [c]

/-- A text between double quotes. -/
def quoted (s : String) : String :=
  String.ofList ('"' :: s.toList.flatMap quotedChar ++ ['"'])

end ProvisionGate.Text
