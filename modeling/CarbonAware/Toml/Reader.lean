import CarbonAware.Toml.Quoted
import CarbonAware.Toml.Scalar

/-!
# Reading TOML

`read?` gives the entries of a document, or nothing if the text is not one.  A reader takes a part off the start of a
text; values nest, so their readers spend fuel, of which the length of the text is enough.  Tables in braces are laid
out as freely as arrays are, with line ends and comments anywhere between the names of a key and the brackets.  A
document that nests too deeply is refused (`nestingLimit`).
-/

namespace CarbonAware.Toml

/-- Reads a part off the start of a text. -/
abbrev Reader := StateT (List Char) Option

namespace Reader

/-- The next character, left where it is. -/
def peek : Reader (Option Char) := return (← get).head?

/-- The next character, which must be `c`. -/
def expect (c : Char) : Reader Unit := do
  match ← get with
  | [] => failure
  | d :: rest => if d = c then set rest else failure

/-- The next characters that satisfy `p`. -/
def takeWhile (p : Char → Bool) : Reader (List Char) := do
  let text ← get
  set (text.dropWhile p)
  return text.takeWhile p

/-- Blanks within a line. -/
def skipBlanks : Reader Unit := do
  let _ ← takeWhile fun c => c == ' ' || c == '\t'

/-- What is left of the blanks, line ends and comments at the start of a text. -/
def afterFiller? (inComment : Bool) : List Char → Option (List Char)
  | [] => some []
  | '\n' :: rest | '\r' :: '\n' :: rest => afterFiller? false rest
  | c :: rest =>
    if inComment then (if Quoted.isControl c then none else afterFiller? true rest)
    else if c = ' ' ∨ c = '\t' then afterFiller? false rest
    else if c = '#' then afterFiller? true rest
    else some (c :: rest)

/-- Blanks, line ends and comments. -/
def skipFiller : Reader Unit := do set (← afterFiller? false (← get))

/-- The end of a line, up to which only blanks and a comment may follow. -/
def expectLineEnd : Reader Unit := do
  skipBlanks
  match ← get with
  | [] | '\n' :: _ | '\r' :: '\n' :: _ | '#' :: _ => return
  | _ => failure

/-- A quoted text. -/
def quoted : Reader (List Char) := do
  let (text, rest) ← Quoted.quoted (← get)
  set rest
  return text

/-- A character of a key without quotes. -/
def isKeyChar (c : Char) : Bool := c.isAlphanum || c == '_' || c == '-'

/-- One name of a key; a quoted one stays on its line. -/
def simpleKey : Reader String := do
  match ← get with
  | '"' :: '"' :: '"' :: _ | '\x27' :: '\x27' :: '\x27' :: _ => failure
  | '"' :: _ | '\x27' :: _ => return String.ofList (← quoted)
  | _ =>
    let name ← takeWhile isKeyChar
    if name = [] then failure
    return String.ofList name

/-- How many brackets may be open at a time, and how many names a key may have. -/
def nestingLimit : Nat := 80

/-- Names divided by points. -/
def names : Nat → Reader (List String)
  | 0 => failure
  | fuel + 1 => do
    skipBlanks
    let name ← simpleKey
    skipBlanks
    if (← peek) = some '.' then
      expect '.'
      return name :: (← names fuel)
    return [name]

/-- The names of a key, divided by points. -/
def key (fuel : Nat) : Reader (List String) := do
  let path ← names fuel
  if nestingLimit < path.length then failure
  return path

/-- A character of a value without quotes and brackets. -/
def isScalarChar (c : Char) : Bool := c.isAlphanum || c == '_' || c == '-' || c == '+' || c == '.' || c == ':'

/-- The rest of a time after a date and a blank. -/
def clockAfter (date : List Char) : Reader (List Char) := do
  match ← get with
  | ' ' :: c :: _ =>
    if afterDate? date = some [] ∧ c.isDigit then
      expect ' '
      return ' ' :: (← takeWhile isScalarChar)
    return []
  | _ => return []

/-- A value without quotes and brackets. -/
def scalar : Reader Value := do
  let text ← takeWhile isScalarChar
  let clock ← clockAfter text
  scalar? (text ++ clock)

mutual

/-- A value, in which at most `room` brackets may be open at a time. -/
def value : Nat → Nat → Reader Value
  | 0, _ => failure
  | fuel + 1, room => do
    match ← peek, room with
    | some '"', _ | some '\x27', _ => return .text (String.ofList (← quoted))
    | some '[', room + 1 =>
      expect '['
      return .array (← items fuel room)
    | some '\x7b', room + 1 =>
      expect '\x7b'
      return .table .braces (← pairs fuel room [])
    | _, _ => scalar

/-- The items of an array up to its closing bracket; a comma may follow the last one. -/
def items : Nat → Nat → Reader (List Value)
  | 0, _ => failure
  | fuel + 1, room => do
    skipFiller
    if (← peek) = some ']' then
      expect ']'
      return []
    let item ← value fuel room
    skipFiller
    if (← peek) = some ',' then
      expect ','
      return item :: (← items fuel room)
    expect ']'
    return [item]

/-- The entries of a table in braces up to the closing brace; a comma may follow the last one. -/
def pairs : Nat → Nat → Entries → Reader Entries
  | 0, _, _ => failure
  | fuel + 1, room, entries => do
    skipFiller
    if (← peek) = some '\x7d' then
      expect '\x7d'
      return entries
    let path ← key fuel
    skipFiller
    expect '='
    skipFiller
    let entries ← entries.assign path (← value fuel room)
    skipFiller
    if (← peek) = some ',' then
      expect ','
      pairs fuel room entries
    else
      expect '\x7d'
      return entries

end

/-- A header: the path of the table, and whether it is an element of an array of tables. -/
def header (fuel : Nat) : Reader (Bool × List String) := do
  expect '['
  if (← peek) = some '[' then
    expect '['
    let path ← key fuel
    expect ']'
    expect ']'
    return (true, path)
  let path ← key fuel
  expect ']'
  return (false, path)

/-- The lines of a document, where `current` is the path of the table that the last header opened. -/
def lines : Nat → List String → Entries → Reader Entries
  | 0, _, _ => failure
  | fuel + 1, current, entries => do
    skipFiller
    match ← peek with
    | none => return entries
    | some '[' =>
      let (isElement, path) ← header fuel
      expectLineEnd
      lines fuel path (← if isElement then entries.openElement path else entries.openTable path)
    | some _ =>
      let path ← key fuel
      expect '='
      skipBlanks
      let value ← value fuel nestingLimit
      expectLineEnd
      lines fuel current (← entries.define current path value)

end Reader

/-- A byte order mark at the start of a document is no part of it. -/
def withoutMark : List Char → List Char
  | '\ufeff' :: text => text
  | text => text

/-- The entries of a document. -/
def read? (text : String) : Option Entries :=
  let text := withoutMark text.toList
  (Reader.lines (text.length + 1) [] [] text).map Prod.fst

end CarbonAware.Toml
