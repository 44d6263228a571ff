/-!
# Quoted texts in TOML

A text stands in double quotes, where a backslash starts an escape, or in single quotes, where it does not; three
quotes allow it to run over several lines.  Each reader starts after the opening quotes and gives the text and what
follows the closing quotes.
-/

namespace CarbonAware.Toml.Quoted

/-- A control character other than the tabulator. -/
def isControl (c : Char) : Bool := (c.toNat < 0x20 && c != '\t') || c.toNat == 0x7F

/-- The character of a one-letter escape. -/
def escaped? : Char → Option Char
  | 'b' => some '\x08'
  | 't' => some '\t'
  | 'n' => some '\n'
  | 'f' => some '\x0c'
  | 'r' => some '\r'
  | 'e' => some '\x1b'
  | '"' => some '"'
  | '\\' => some '\\'
  | _ => none

/-- The value of a digit in base sixteen. -/
def hexValue? (c : Char) : Option Nat :=
  if c.isDigit then some (c.toNat - '0'.toNat)
  else if 'a' ≤ c ∧ c ≤ 'f' then some (c.toNat - 'a'.toNat + 10)
  else if 'A' ≤ c ∧ c ≤ 'F' then some (c.toNat - 'A'.toNat + 10)
  else none

/-- The character whose code point is written in base sixteen. -/
def codePoint? (digits : List Char) : Option Char := do
  let n ← digits.foldlM (fun n c => (hexValue? c).map (16 * n + ·)) 0
  if n.isValidChar then return Char.ofNat n else none

/-- A text in double quotes on one line. -/
def basic : List Char → Option (List Char × List Char)
  | [] => none
  | '"' :: rest => some ([], rest)
  | '\\' :: 'x' :: a :: b :: rest => do
    let (text, rest) ← basic rest
    return ((← codePoint? [a, b]) :: text, rest)
  | '\\' :: 'u' :: a :: b :: c :: d :: rest => do
    let (text, rest) ← basic rest
    return ((← codePoint? [a, b, c, d]) :: text, rest)
  | '\\' :: 'U' :: a :: b :: c :: d :: e :: f :: g :: h :: rest => do
    let (text, rest) ← basic rest
    return ((← codePoint? [a, b, c, d, e, f, g, h]) :: text, rest)
  | '\\' :: c :: rest => do
    let (text, rest) ← basic rest
    return ((← escaped? c) :: text, rest)
  | c :: rest => do
    if isControl c then none
    let (text, rest) ← basic rest
    return (c :: text, rest)

/-- A text in single quotes on one line. -/
def literal : List Char → Option (List Char × List Char)
  | [] => none
  | '\x27' :: rest => some ([], rest)
  | c :: rest => do
    if isControl c then none
    let (text, rest) ← literal rest
    return (c :: text, rest)

/-- Whether a line end follows, after blanks at most. -/
def endsLine (text : List Char) : Bool :=
  match text.dropWhile fun c => c == ' ' || c == '\t' with
  | '\n' :: _ | '\r' :: '\n' :: _ => true
  | _ => false

/-- A text in three double quotes; when `skipping`, after a backslash at the end of a line, blanks are left out. -/
def longBasic (skipping : Bool) : List Char → Option (List Char × List Char)
  | [] => none
  | '"' :: '"' :: '"' :: '"' :: '"' :: rest => some (['"', '"'], rest)
  | '"' :: '"' :: '"' :: '"' :: rest => some (['"'], rest)
  | '"' :: '"' :: '"' :: rest => some ([], rest)
  | '\\' :: 'x' :: a :: b :: rest => do
    let (text, rest) ← longBasic false rest
    return ((← codePoint? [a, b]) :: text, rest)
  | '\\' :: 'u' :: a :: b :: c :: d :: rest => do
    let (text, rest) ← longBasic false rest
    return ((← codePoint? [a, b, c, d]) :: text, rest)
  | '\\' :: 'U' :: a :: b :: c :: d :: e :: f :: g :: h :: rest => do
    let (text, rest) ← longBasic false rest
    return ((← codePoint? [a, b, c, d, e, f, g, h]) :: text, rest)
  | '\\' :: c :: rest =>
    if endsLine (c :: rest) then longBasic true rest
    else do
      let (text, rest) ← longBasic false rest
      return ((← escaped? c) :: text, rest)
  | '\r' :: '\n' :: rest => do
    let (text, rest) ← longBasic skipping rest
    return (if skipping then text else '\n' :: text, rest)
  | c :: rest =>
    if skipping ∧ (c = ' ' ∨ c = '\t' ∨ c = '\n') then longBasic true rest
    else do
      if isControl c ∧ c ≠ '\n' then none
      let (text, rest) ← longBasic false rest
      return (c :: text, rest)

/-- A text in three single quotes. -/
def longLiteral : List Char → Option (List Char × List Char)
  | [] => none
  | '\x27' :: '\x27' :: '\x27' :: '\x27' :: '\x27' :: rest => some (['\x27', '\x27'], rest)
  | '\x27' :: '\x27' :: '\x27' :: '\x27' :: rest => some (['\x27'], rest)
  | '\x27' :: '\x27' :: '\x27' :: rest => some ([], rest)
  | '\r' :: '\n' :: rest => do
    let (text, rest) ← longLiteral rest
    return ('\n' :: text, rest)
  | c :: rest => do
    if isControl c ∧ c ≠ '\n' then none
    let (text, rest) ← longLiteral rest
    return (c :: text, rest)

/-- A line end right after three opening quotes is no part of the text. -/
def dropLineEnd : List Char → List Char
  | '\n' :: rest | '\r' :: '\n' :: rest => rest
  | text => text

/-- A quoted text of any kind, with its opening quotes. -/
def quoted : List Char → Option (List Char × List Char)
  | '"' :: '"' :: '"' :: rest => longBasic false (dropLineEnd rest)
  | '\x27' :: '\x27' :: '\x27' :: rest => longLiteral (dropLineEnd rest)
  | '"' :: rest => basic rest
  | '\x27' :: rest => literal rest
  | _ => none

end CarbonAware.Toml.Quoted
