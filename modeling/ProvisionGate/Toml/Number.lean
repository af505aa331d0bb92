import ProvisionGate.Instant.Reader
import ProvisionGate.Json.Scan
import ProvisionGate.Toml

/-!
# Numbers, dates and times of TOML

Integers have sixty-four bits.  Digits may be grouped by single underscores, and only zero itself
begins with a zero.
-/

namespace ProvisionGate.Toml

/-- The digits at the start of a text, with single underscores between them, and what follows.  A
lone or doubled underscore leaves what follows it unread. -/
def groupedDigits (isDigit : Char → Bool) : List Char → List Char × List Char
  | c :: '_' :: d :: rest =>
    if isDigit c then
      if isDigit d then
        let (more, after) := groupedDigits isDigit (d :: rest)
        (c :: more, after)
      else ([c], '_' :: d :: rest)
    else ([], c :: '_' :: d :: rest)
  | c :: rest =>
    if isDigit c then
      let (more, after) := groupedDigits isDigit rest
      (c :: more, after)
    else ([], c :: rest)
  | [] => ([], [])

/-- The number that digits write in a base. -/
def inBase (base : Nat) (digits : List Char) : Option Nat := do
  return (← digits.mapM Json.hexValue?).foldl (fun n d => n * base + d) 0

/-- An integer, if it fits. -/
def fitting (v : Int) : Option Value :=
  if Text.FitsInt64 v then some (.int (Int64.ofInt v)) else none

/-- A digit below eight. -/
def isOctal (c : Char) : Bool :=
  '0' ≤ c && c ≤ '7'

/-- A digit below two. -/
def isBinary (c : Char) : Bool :=
  c == '0' || c == '1'

/-- An integer in a base other than ten, after its mark. -/
def based? (base : Nat) (isDigit : Char → Bool) (s : List Char) : Option (Value × List Char) := do
  let (digits, after) := groupedDigits isDigit s
  guard (!digits.isEmpty)
  return (← fitting (← inBase base digits), after)

/-- The digits of a decimal number: a zero stands alone. -/
def decimalDigits? (s : List Char) : Option (List Char × List Char) :=
  match s with
  | '0' :: rest => some (['0'], rest)
  | s =>
    match groupedDigits Char.isDigit s with
    | ([], _) => none
    | found => some found

/-- The sign of a number, true for minus, and what follows. -/
def sign : List Char → Bool × List Char
  | '+' :: rest => (false, rest)
  | '-' :: rest => (true, rest)
  | s => (false, s)

/-- A decimal integer. -/
def decimal? (s : List Char) : Option (Value × List Char) := do
  let (negative, s) := sign s
  let (digits, after) ← decimalDigits? s
  let n ← inBase 10 digits
  return (← fitting (if negative then -n else n), after)

/-- An integer. -/
def integer? : List Char → Option (Value × List Char)
  | '0' :: 'x' :: rest => based? 16 (fun c => (Json.hexValue? c).isSome) rest
  | '0' :: 'o' :: rest => based? 8 isOctal rest
  | '0' :: 'b' :: rest => based? 2 isBinary rest
  | s => decimal? s

/-- A decimal `digits * 10 ^ power` is too large for a binary number of sixty-four bits. -/
def overflows (digits : List Char) (power : Int) : Bool :=
  let digits := digits.dropWhile (· == '0')
  let size := (digits.length : Int) + power
  let bound := (1 <<< 1024) - (1 <<< 970)
  if digits.isEmpty || size < 300 then false
  else if 310 < size then true
  else
    match inBase 10 digits with
    | some n => decide (bound * Nat.pow 10 (-power).toNat ≤ n * Nat.pow 10 power.toNat)
    | none => false

/-- The fraction of a float with its point: the digits, none if there is no point. -/
def fraction? : List Char → Option (Option (List Char) × List Char)
  | '.' :: rest =>
    match groupedDigits Char.isDigit rest with
    | ([], _) => none
    | (digits, after) => some (some digits, after)
  | s => some (none, s)

/-- The exponent of a float with its mark, none if there is no mark. -/
def exponent? (s : List Char) : Option (Option Int × List Char) :=
  match s with
  | mark :: rest =>
    if mark = 'e' ∨ mark = 'E' then do
      let (negative, rest) := sign rest
      let (digits, after) := groupedDigits Char.isDigit rest
      guard (!digits.isEmpty)
      let n ← inBase 10 digits
      return (some (if negative then -n else n), after)
    else some (none, s)
  | [] => some (none, s)

/-- What was read of a text before the rest. -/
def readBefore (s after : List Char) : String :=
  String.ofList (s.take (s.length - after.length))

/-- A decimal float: it has a fraction or an exponent, and is not too large.  Below the range it may
lie. -/
def decimalFloat? (s : List Char) : Option (Value × List Char) := do
  let (negative, unsigned) := sign s
  let (whole, after) ← decimalDigits? unsigned
  let (fraction, after) ← fraction? after
  let (exponent, after) ← exponent? after
  guard (fraction.isSome || exponent.isSome)
  let fraction := fraction.getD []
  guard (negative || !overflows (whole ++ fraction) (exponent.getD 0 - fraction.length))
  return (.float (readBefore s after), after)

/-- A float that is infinite or no number. -/
def specialFloat? (s : List Char) : Option (Value × List Char) :=
  match (sign s).2 with
  | 'i' :: 'n' :: 'f' :: after | 'n' :: 'a' :: 'n' :: after =>
    some (.float (readBefore s after), after)
  | _ => none

/-- Two digits with a value in a range. -/
def twoDigitsIn? (low high : Nat) (s : List Char) : Option (Nat × List Char) := do
  let (n, after) ← Instant.twoDigits? s
  guard (low ≤ n ∧ n ≤ high)
  return (n, after)

/-- A date that exists. -/
def date? (s : List Char) : Option (List Char) := do
  let (century, s) ← Instant.twoDigits? s
  let (year, s) ← Instant.twoDigits? s
  let (month, s) ← twoDigitsIn? 1 12 (← Json.dropExact? ['-'] s)
  let (day, s) ← twoDigitsIn? 1 31 (← Json.dropExact? ['-'] s)
  guard (day ≤ CivilDate.daysInMonth (century * 100 + year : Nat) month)
  return s

/-- The text after the fraction of a second, if there is one. -/
def afterFraction (s : List Char) : List Char :=
  match s with
  | '.' :: rest => if rest.head?.any Char.isDigit then rest.dropWhile Char.isDigit else s
  | s => s

/-- A time of day. -/
def time? (s : List Char) : Option (List Char) := do
  let (_, s) ← twoDigitsIn? 0 23 s
  let (_, s) ← twoDigitsIn? 0 59 (← Json.dropExact? [':'] s)
  let (_, s) ← twoDigitsIn? 0 60 (← Json.dropExact? [':'] s)
  return afterFraction s

/-- The text after an offset. -/
def offset? : List Char → Option (List Char)
  | 'Z' :: rest | 'z' :: rest => some rest
  | '+' :: rest | '-' :: rest => do
    let (_, s) ← twoDigitsIn? 0 23 rest
    let (_, s) ← twoDigitsIn? 0 59 (← Json.dropExact? [':'] s)
    return s
  | _ => none

/-- The text after a time that follows a date, with its offset, if there is one. -/
def afterDate (s : List Char) : List Char :=
  match s with
  | separator :: rest =>
    if separator = 'T' ∨ separator = 't' ∨ separator = ' ' then
      match time? rest with
      | some after => (offset? after).getD after
      | none => s
    else s
  | [] => []

/-- A date, a time, or both. -/
def dateTime? (s : List Char) : Option (Value × List Char) := do
  let after ← ((date? s).map afterDate).or (time? s)
  return (.dateTime (readBefore s after), after)

/-- A number, a date or a time. -/
def number? (s : List Char) : Option (Value × List Char) :=
  (dateTime? s).or ((decimalFloat? s).or ((specialFloat? s).or (integer? s)))

end ProvisionGate.Toml
