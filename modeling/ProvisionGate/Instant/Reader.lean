import ProvisionGate.Instant
import ProvisionGate.Text.Blank
import ProvisionGate.Text.Integer

/-!
# Reading instants

An instant is read from a date, a time and an offset.  Blanks may stand before every number, before
every mark between two numbers, and around the offset.  Only a year with a sign may have more than
four digits, and every other number may have fewer than usual.
-/

namespace ProvisionGate.Instant

/-- Reads at most `width` digits onto a number, and returns the text after them. -/
def takeDigits : Nat → Nat → List Char → Nat × List Char
  | 0, value, s => (value, s)
  | width + 1, value, c :: rest =>
    match Text.digitValue? c with
    | some d => takeDigits width (value * 10 + d) rest
    | none => (value, c :: rest)
  | _ + 1, value, [] => (value, [])

/-- Reads a number of one up to `width` digits. -/
def number? (width : Nat) (s : List Char) : Option (Nat × List Char) :=
  if s.head?.any Char.isDigit then some (takeDigits width 0 s) else none

/-- Reads a number after blanks. -/
def field? (width : Nat) (s : List Char) : Option (Nat × List Char) :=
  number? width (Text.trimStart s)

/-- Reads a year: of four digits at most, or of any number of digits after a sign. -/
def year? (s : List Char) : Option (Int × List Char) :=
  match Text.trimStart s with
  | '-' :: rest => (number? rest.length rest).map fun (n, after) => (-(n : Int), after)
  | '+' :: rest => (number? rest.length rest).map fun (n, after) => ((n : Int), after)
  | rest => (number? 4 rest).map fun (n, after) => ((n : Int), after)

/-- Reads a mark after blanks. -/
def mark? (mark : Char) (s : List Char) : Option (List Char) :=
  match Text.trimStart s with
  | c :: rest => if c = mark then some rest else none
  | [] => none

/-- Reads a date. -/
def date? (s : List Char) : Option (CivilDate × List Char) := do
  let (year, s) ← year? s
  let (month, s) ← field? 2 (← mark? '-' s)
  let (day, s) ← field? 2 (← mark? '-' s)
  return (⟨year, month, day⟩, s)

/-- Reads the fraction of a second in nanoseconds; digits after the ninth do not count. -/
def fraction? : List Char → Option (Nat × List Char)
  | '.' :: s => do
    let (value, after) ← number? 9 s
    return (value * Nat.pow 10 (9 - (s.length - after.length)), after.dropWhile Char.isDigit)
  | s => some (0, s)

/-- Reads a time: the second of the day and the nanoseconds.  Second sixty is a leap second. -/
def time? (s : List Char) : Option (Nat × Nat × List Char) := do
  let (hour, s) ← field? 2 s
  let (minute, s) ← field? 2 (← mark? ':' s)
  let (second, s) ← field? 2 (← mark? ':' s)
  let (nanos, s) ← fraction? s
  guard (hour ≤ 23 ∧ minute ≤ 59 ∧ second ≤ 60)
  let start := hour * 3600 + minute * 60
  if second = 60 then return (start + 59, nanos + 1_000_000_000, s)
  else return (start + second, nanos, s)

/-- Reads exactly two digits. -/
def twoDigits? : List Char → Option (Nat × List Char)
  | a :: b :: rest => do return ((← Text.digitValue? a) * 10 + (← Text.digitValue? b), rest)
  | _ => none

/-- Reads hours and minutes, with colons and blanks between them, in seconds. -/
def hoursAndMinutes? (s : List Char) : Option (Nat × List Char) := do
  let (hours, s) ← twoDigits? s
  let (minutes, s) ← twoDigits? (s.dropWhile fun c => c == ':' || Text.isBlank c)
  guard (hours ≤ 23 ∧ minutes ≤ 59)
  return (hours * 3600 + minutes * 60, s)

/-- Reads an offset in seconds: `UTC`, `Z`, or a signed time. -/
def offset? : List Char → Option (Int × List Char)
  | '+' :: s => (hoursAndMinutes? s).map fun (n, after) => ((n : Int), after)
  | '-' :: s | '−' :: s => (hoursAndMinutes? s).map fun (n, after) => (-(n : Int), after)
  | 'Z' :: s | 'z' :: s => some (0, s)
  | u :: t :: c :: s =>
    if u.toLower = 'u' ∧ t.toLower = 't' ∧ c.toLower = 'c' then some (0, s) else none
  | _ => none

/-- The instant that a text writes. -/
def ofText? (s : List Char) : Option Instant := do
  let (date, s) ← date? s
  match s with
  | separator :: s =>
    guard (separator = 'T' ∨ separator = 't' ∨ separator = ' ')
    let (second, nanos, s) ← time? s
    let (offset, s) ← offset? (Text.trimStart s)
    guard (Text.trimStart s).isEmpty
    ofLocal? date second nanos offset
  | [] => none

end ProvisionGate.Instant
