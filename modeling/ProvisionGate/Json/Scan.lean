import ProvisionGate.Json.Number

/-!
# The leaves of a JSON text

Blank characters, quoted texts and number literals.  A quoted text is first cut into pieces, each a
character or a unit of sixteen bits from an escape; the units then have to pair up.
-/

namespace ProvisionGate.Json

/-- The blank characters between the parts of a JSON text. -/
def isSpace (c : Char) : Bool :=
  c == ' ' || c == '\t' || c == '\n' || c == '\r'

/-- The text from its first character on that is no blank. -/
def skipSpace (s : List Char) : List Char :=
  s.dropWhile isSpace

/-- A piece of a quoted text. -/
inductive Piece where
  | char (c : Char)
  | unit (n : Nat)
  deriving DecidableEq

/-- The value of a hexadecimal digit of either case. -/
def hexValue? (c : Char) : Option Nat :=
  if c.isDigit then some (c.toNat - '0'.toNat)
  else if 'a' ≤ c ∧ c ≤ 'f' then some (c.toNat - 'a'.toNat + 10)
  else if 'A' ≤ c ∧ c ≤ 'F' then some (c.toNat - 'A'.toNat + 10)
  else none

/-- The number written by four hexadecimal digits. -/
def unit? (a b c d : Char) : Option Nat := do
  return (((← hexValue? a) * 16 + (← hexValue? b)) * 16 + (← hexValue? c)) * 16 + (← hexValue? d)

/-- The character that a letter stands for after a backslash. -/
def shortEscape? : Char → Option Char
  | '"' => some '"'
  | '\\' => some '\\'
  | '/' => some '/'
  | 'b' => some '\x08'
  | 'f' => some '\x0c'
  | 'n' => some '\n'
  | 'r' => some '\r'
  | 't' => some '\t'
  | _ => none

/-- The pieces up to the closing quote, and the text after it. -/
def pieces : List Char → Option (List Piece × List Char)
  | [] => none
  | '"' :: rest => some ([], rest)
  | '\\' :: 'u' :: a :: b :: c :: d :: rest => do
    let n ← unit? a b c d
    let (more, after) ← pieces rest
    return (.unit n :: more, after)
  | '\\' :: letter :: rest => do
    let c ← shortEscape? letter
    let (more, after) ← pieces rest
    return (.char c :: more, after)
  | c :: rest => do
    guard (0x20 ≤ c.toNat ∧ c ≠ '\\')
    let (more, after) ← pieces rest
    return (.char c :: more, after)

/-- The unit is the first half of a pair. -/
def isHighUnit (n : Nat) : Bool :=
  0xD800 ≤ n && n < 0xDC00

/-- The unit is the second half of a pair. -/
def isLowUnit (n : Nat) : Bool :=
  0xDC00 ≤ n && n < 0xE000

/-- The characters that the pieces stand for, if every half of a pair has its other half. -/
def joinPieces : List Piece → Option (List Char)
  | [] => some []
  | .char c :: rest => (joinPieces rest).map (c :: ·)
  | .unit high :: .unit low :: rest =>
    if isHighUnit high then
      if isLowUnit low then
        (joinPieces rest).map
          (Char.ofNat (0x10000 + (high - 0xD800) * 0x400 + (low - 0xDC00)) :: ·)
      else none
    else if isLowUnit high then none
    else (joinPieces (.unit low :: rest)).map (Char.ofNat high :: ·)
  | .unit n :: rest =>
    if isHighUnit n || isLowUnit n then none
    else (joinPieces rest).map (Char.ofNat n :: ·)

/-- The text up to the closing quote, and what follows it. -/
def stringBody? (s : List Char) : Option (String × List Char) := do
  let (found, after) ← pieces s
  return (String.ofList (← joinPieces found), after)

/-- A number literal: its sign, its digits before and after the point, its exponent. -/
structure Literal where
  negative : Bool
  whole : List Nat
  fraction : List Nat
  exponent : Option Int

/-- The values of the leading digits, and the text after them. -/
def leadingDigits : List Char → List Nat × List Char
  | [] => ([], [])
  | c :: rest =>
    match Text.digitValue? c with
    | none => ([], c :: rest)
    | some d =>
      let (more, after) := leadingDigits rest
      (d :: more, after)

/-- The digits before the point: a zero stands alone. -/
def wholeDigits? (s : List Char) : Option (List Nat × List Char) :=
  match leadingDigits s with
  | ([], _) => none
  | (0 :: _ :: _, _) => none
  | found => some found

/-- The digits after the point, none if there is no point. -/
def fractionDigits? : List Char → Option (List Nat × List Char)
  | '.' :: rest =>
    match leadingDigits rest with
    | ([], _) => none
    | found => some found
  | s => some ([], s)

/-- The number that a list of digits writes. -/
def ofDigits (ds : List Nat) : Nat :=
  ds.foldl (fun n d => n * 10 + d) 0

/-- The digits of an exponent after its sign. -/
def exponentDigits? (negative : Bool) (s : List Char) : Option (Option Int × List Char) :=
  match leadingDigits s with
  | ([], _) => none
  | (ds, after) =>
    let size : Int := ofDigits ds
    some (some (if negative then -size else size), after)

/-- The exponent of a literal, none if there is none. -/
def exponent? : List Char → Option (Option Int × List Char)
  | 'e' :: '-' :: rest => exponentDigits? true rest
  | 'e' :: '+' :: rest => exponentDigits? false rest
  | 'e' :: rest => exponentDigits? false rest
  | 'E' :: '-' :: rest => exponentDigits? true rest
  | 'E' :: '+' :: rest => exponentDigits? false rest
  | 'E' :: rest => exponentDigits? false rest
  | s => some (none, s)

/-- The literal without its sign. -/
def unsignedLiteral? (negative : Bool) (s : List Char) : Option (Literal × List Char) := do
  let (whole, rest) ← wholeDigits? s
  let (fraction, rest) ← fractionDigits? rest
  let (exponent, rest) ← exponent? rest
  return (⟨negative, whole, fraction, exponent⟩, rest)

/-- The number literal at the start of a text, and what follows it. -/
def literal? : List Char → Option (Literal × List Char)
  | '-' :: rest => unsignedLiteral? true rest
  | s => unsignedLiteral? false s

/-- The text after a given beginning. -/
def dropExact? : List Char → List Char → Option (List Char)
  | [], s => some s
  | c :: word, d :: s => if c = d then dropExact? word s else none
  | _ :: _, [] => none

end ProvisionGate.Json
