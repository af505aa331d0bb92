import ProvisionGate.Json.Scan

/-!
# Blanks, comments, keys and texts of TOML
-/

namespace ProvisionGate.Toml

/-- A character that may stand on a line: no control but the tab. -/
def isPlain (c : Char) : Bool :=
  c == '\t' || (0x20 ≤ c.toNat && c.toNat != 0x7F)

/-- A blank inside a line. -/
def isBlank (c : Char) : Bool :=
  c == ' ' || c == '\t'

/-- The text without its leading blanks. -/
def skipBlanks (s : List Char) : List Char :=
  s.dropWhile isBlank

/-- The text after a line end. -/
def newline? : List Char → Option (List Char)
  | '\n' :: rest => some rest
  | '\r' :: '\n' :: rest => some rest
  | _ => none

/-- The text after a line end; the end of a document is one. -/
def lineEnd? : List Char → Option (List Char)
  | [] => some []
  | s => newline? s

/-- The text after a comment, if one stands at its start. -/
def skipComment : List Char → List Char
  | '#' :: rest => rest.dropWhile isPlain
  | s => s

/-- The text after the blanks, the comment and the end of a line. -/
def endOfLine? (s : List Char) : Option (List Char) :=
  lineEnd? (skipComment (skipBlanks s))

/-- The text after blanks, comments and line ends.  The flag says that a comment has begun, which
has to end with its line. -/
def skipTrivia : Bool → List Char → List Char
  | _, [] => []
  | _, '\n' :: rest => skipTrivia false rest
  | _, '\r' :: '\n' :: rest => skipTrivia false rest
  | true, c :: rest => if isPlain c then skipTrivia true rest else c :: rest
  | false, c :: rest =>
    if isBlank c then skipTrivia false rest
    else if c = '#' then skipTrivia true rest
    else c :: rest

/-- The character with a code point. -/
def scalar? (n : Nat) : Option Char :=
  if n.isValidChar then some (Char.ofNat n) else none

/-- The character that a letter stands for after a backslash. -/
def letterEscape? : Char → Option Char
  | 'b' => some '\x08'
  | 'f' => some '\x0c'
  | 'n' => some '\n'
  | 'r' => some '\r'
  | 't' => some '\t'
  | '"' => some '"'
  | '\\' => some '\\'
  | _ => none

/-- The character of an escape after its backslash, and the text after the escape. -/
def escape? : List Char → Option (Char × List Char)
  | 'u' :: a :: b :: c :: d :: rest => do
    return (← scalar? (← Json.unit? a b c d), rest)
  | 'U' :: a :: b :: c :: d :: e :: f :: g :: h :: rest => do
    return (← scalar? ((← Json.unit? a b c d) * 0x10000 + (← Json.unit? e f g h)), rest)
  | letter :: rest => do return (← letterEscape? letter, rest)
  | [] => none

/-- The text up to a closing quote, with its escapes, and what follows.  The first argument is a
longer text, for a bound. -/
def basicBody : List Char → List Char → Option (List Char × List Char)
  | [], _ => none
  | _ :: bound, s =>
    match s with
    | '"' :: rest => some ([], rest)
    | '\\' :: rest => do
      let (c, rest) ← escape? rest
      let (more, after) ← basicBody bound rest
      return (c :: more, after)
    | c :: rest => do
      guard (isPlain c)
      let (more, after) ← basicBody bound rest
      return (c :: more, after)
    | [] => none

/-- The quotes that stand right before three closing quotes: two at most. -/
def closingQuotes (quote : Char) : List Char → List Char × List Char
  | a :: b :: rest =>
    if a ≠ quote then ([], a :: b :: rest)
    else if b = quote then ([a, b], rest)
    else ([a], b :: rest)
  | [a] => if a = quote then ([a], []) else ([], [a])
  | [] => ([], [])

/-- The text from the first character on that is neither blank nor a line end. -/
def skipBlankLines : List Char → List Char
  | '\n' :: rest => skipBlankLines rest
  | '\r' :: '\n' :: rest => skipBlankLines rest
  | c :: rest => if isBlank c then skipBlankLines rest else c :: rest
  | [] => []

/-- The text up to three closing quotes, with its escapes, and what follows.  A backslash at the end
of a line takes away the line end and the blanks and line ends after it. -/
def longBasicBody : List Char → List Char → Option (List Char × List Char)
  | [], _ => none
  | _ :: bound, s =>
    match s with
    | '"' :: '"' :: '"' :: rest => some (closingQuotes '"' rest)
    | '\\' :: rest =>
      match newline? (skipBlanks rest) with
      | some rest => longBasicBody bound (skipBlankLines rest)
      | none => do
        let (c, rest) ← escape? rest
        let (more, after) ← longBasicBody bound rest
        return (c :: more, after)
    | '\r' :: '\n' :: rest => do
      let (more, after) ← longBasicBody bound rest
      return ('\n' :: more, after)
    | c :: rest => do
      guard (isPlain c ∨ c = '\n')
      let (more, after) ← longBasicBody bound rest
      return (c :: more, after)
    | [] => none

/-- The text up to a closing apostrophe, and what follows. -/
def literalBody : List Char → Option (List Char × List Char)
  | [] => none
  | c :: rest =>
    if c = '\'' then some ([], rest)
    else do
      guard (isPlain c)
      let (more, after) ← literalBody rest
      return (c :: more, after)

/-- The text up to three closing apostrophes, and what follows. -/
def longLiteralBody : List Char → Option (List Char × List Char)
  | '\'' :: '\'' :: '\'' :: rest => some (closingQuotes '\'' rest)
  | '\r' :: '\n' :: rest => do
    let (more, after) ← longLiteralBody rest
    return ('\n' :: more, after)
  | c :: rest => do
    guard (isPlain c ∨ c = '\n')
    let (more, after) ← longLiteralBody rest
    return (c :: more, after)
  | [] => none

/-- A text over several lines begins after a line end that follows its opening quotes. -/
def afterOpening (s : List Char) : List Char :=
  (newline? s).getD s

/-- A text on one line. -/
def shortText? : List Char → Option (List Char × List Char)
  | '"' :: rest => basicBody ('"' :: rest) rest
  | '\'' :: rest => literalBody rest
  | _ => none

/-- A text. -/
def text? : List Char → Option (List Char × List Char)
  | '"' :: '"' :: '"' :: rest => longBasicBody ('"' :: rest) (afterOpening rest)
  | '\'' :: '\'' :: '\'' :: rest => longLiteralBody (afterOpening rest)
  | s => shortText? s

/-- A character of a key without quotes. -/
def isKeyChar (c : Char) : Bool :=
  c.isAlphanum || c == '-' || c == '_'

/-- One part of a key. -/
def simpleKey? (s : List Char) : Option (String × List Char) :=
  match s with
  | '"' :: _ | '\'' :: _ => (shortText? s).map fun (key, after) => (String.ofList key, after)
  | s =>
    let key := s.takeWhile isKeyChar
    if key.isEmpty then none else some (String.ofList key, s.dropWhile isKeyChar)

/-- The parts of a key, with points between them and blanks around them: no more parts than a
number. -/
def keyParts? : Nat → List Char → Option (List String × List Char)
  | 0, _ => none
  | bound + 1, s => do
    let (part, after) ← simpleKey? (skipBlanks s)
    match skipBlanks after with
    | '.' :: rest =>
      let (more, after) ← keyParts? bound rest
      return (part :: more, after)
    | after => return ([part], after)

/-- The number of tables, and of parts of a key, that may stand inside each other is below this. -/
def depthLimit : Nat := 80

/-- A key. -/
def key? (s : List Char) : Option (List String × List Char) := do
  let found ← keyParts? depthLimit s
  guard (found.1.length < depthLimit)
  return found

end ProvisionGate.Toml
