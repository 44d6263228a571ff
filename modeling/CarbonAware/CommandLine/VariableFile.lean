import CarbonAware.CommandLine.Flag
import CarbonAware.Text.Alphanumeric
import CarbonAware.Text.Unicode

/-!
# Variable files

A variable file sets environment variables, one `NAME=value` a line, with or without the word `export` before it.
Values may be quoted, and run over several lines then; a comment starts with a number sign after a blank; and outside
single quotes a dollar sign puts in the value of another variable, whose name runs up to the first character that is
no letter or number of any script.  `load` reads a file up to its first mistake.
-/

namespace CarbonAware.VariableFile

/-- Where a line stands between quotes. -/
inductive LineMode where
  | plain
  | escape
  /-- After a blank, where a comment may start. -/
  | blank
  | single
  | singleEscape
  | double
  | doubleEscape
deriving DecidableEq, Repr

namespace LineMode

/-- The mode after a character that is neither quoted nor escaped. -/
def opening (c : Char) : LineMode :=
  if c = '\\' then escape else if c = '"' then double else if c = '\x27' then single else plain

/-- The mode after a character. -/
def next : LineMode → Char → LineMode
  | plain, c => if Text.isBlank c ∧ c ≠ '\n' ∧ c ≠ '\r' then blank else opening c
  | blank, c => opening c
  | escape, _ => plain
  | single, c => if c = '\\' then singleEscape else if c = '\x27' then plain else single
  | singleEscape, _ => single
  | double, c => if c = '\\' then doubleEscape else if c = '"' then plain else double
  | doubleEscape, _ => double

end LineMode

/-- How a line ends: in a mode, or with a comment after some text. -/
inductive LineEnd where
  | mode (mode : LineMode)
  | comment (before : List Char)

/-- How a line that starts in the mode ends. -/
def lineEnd (mode : LineMode) : List Char → LineEnd
  | [] => .mode mode
  | c :: rest =>
    if mode = .blank ∧ c = '#' then .comment []
    else match lineEnd (mode.next c) rest with
      | .comment before => .comment (c :: before)
      | ended => ended

/-- The lines of a text, with their line feeds. -/
def splitLines : List Char → List (List Char)
  | [] => []
  | c :: rest =>
    if c = '\n' then [c] :: splitLines rest
    else match splitLines rest with
      | [] => [[c]]
      | line :: lines => (c :: line) :: lines

/-- Whether a line is a comment as a whole. -/
def isComment (line : List Char) : Bool := (line.dropWhile Text.isBlank).head? == some '#'

/--
Joins the lines that quotes run over; `start` is the text so far of a line that is still open.  A quote that is never
closed gives nothing.
-/
def joinLines (mode : LineMode) (start : List Char) : List (List Char) → List (Option (List Char))
  | [] => if mode = .plain then [] else [none]
  | line :: rest =>
    let text := start ++ line
    if isComment text then joinLines .plain [] rest
    else match lineEnd mode line with
      | .comment before => some (start ++ before) :: joinLines .plain [] rest
      | .mode .plain => some text :: joinLines .plain [] rest
      | .mode mode => joinLines mode text rest

/-- A part of a value. -/
inductive Piece where
  | char (c : Char)
  /-- The value of a variable. -/
  | reference (name : String)
deriving DecidableEq, Repr

/-- Where a value stands between quotes and names. -/
inductive ValueMode where
  | plain
  /-- After the value, where only a comment may follow. -/
  | ended
  | single
  | double
  | escape (inQuotes : Bool)
  | name (inQuotes : Bool) (name : List Char)
  | braces (inQuotes : Bool) (name : List Char)

namespace ValueMode

/-- Inside or outside double quotes. -/
def ofQuotes (inQuotes : Bool) : ValueMode := if inQuotes then double else plain

end ValueMode

/-- The character that a backslash and a character stand for. -/
def unescape? : Char → Option Char
  | 'n' => some '\n'
  | c => if ['\\', '\x27', '"', '$', ' '].contains c then some c else none

/-- The parts of a value. -/
def pieces? : ValueMode → List Char → Option (List Piece)
  | .plain, [] | .ended, [] | .escape false, [] => some []
  | .name false name, [] => some [.reference (String.ofList name)]
  | _, [] => none
  | .ended, c :: rest => if c = ' ' ∨ c = '\t' then pieces? .ended rest else if c = '#' then some [] else none
  | .escape inQuotes, c :: rest => do
    let c ← unescape? c
    return .char c :: (← pieces? (.ofQuotes inQuotes) rest)
  | .single, c :: rest =>
    if c = '\x27' then pieces? .plain rest else (pieces? .single rest).map (.char c :: ·)
  | .name inQuotes name, c :: rest =>
    if Text.isAlphanumeric c then pieces? (.name inQuotes (name ++ [c])) rest
    else if c = '\x7b' ∧ name = [] then pieces? (.braces inQuotes []) rest
    else if c = '$' then (pieces? (.name inQuotes []) rest).map (.reference (String.ofList name) :: ·)
    else (pieces? (.ofQuotes inQuotes) rest).map fun rest => .reference (String.ofList name) :: .char c :: rest
  | .braces inQuotes name, c :: rest =>
    if c = '\x7d' then (pieces? (.ofQuotes inQuotes) rest).map (.reference (String.ofList name) :: ·)
    else pieces? (.braces inQuotes (name ++ [c])) rest
  | .double, c :: rest =>
    if c = '$' then pieces? (.name true []) rest
    else if c = '"' then pieces? .plain rest
    else if c = '\\' then pieces? (.escape true) rest
    else (pieces? .double rest).map (.char c :: ·)
  | .plain, c :: rest =>
    if c = '$' then pieces? (.name false []) rest
    else if c = '"' then pieces? .double rest
    else if c = '\x27' then pieces? .single rest
    else if c = '\\' then pieces? (.escape false) rest
    else if c = ' ' ∨ c = '\t' then pieces? .ended rest
    else (pieces? .plain rest).map (.char c :: ·)

/-- The name at the start of a text, and what follows it after blanks. -/
def name? (text : List Char) : Option (List Char × List Char) :=
  let isNameChar (c : Char) : Bool := c.isAlphanum || c == '_' || c == '.'
  match text with
  | c :: _ =>
    if c.isAlpha ∨ c = '_' then some (text.takeWhile isNameChar, (text.dropWhile isNameChar).dropWhile Text.isBlank)
    else none
  | [] => none

/-- The value after an equals sign. -/
def valueAfter? : List Char → Option (List Piece)
  | '=' :: rest =>
    match rest.dropWhile Text.isBlank with
    | [] | '#' :: _ => some []
    | value => pieces? .plain value
  | _ => none

/-- The name that a line sets and the parts of its value; `export` may be a name or stand before one. -/
def setting? (text : List Char) : Option (String × List Piece) := do
  let (name, rest) ← name? text
  if name = "export".toList ∧ rest.head? ≠ some '=' then
    let (name, rest) ← name? rest
    return (String.ofList name, ← valueAfter? rest)
  else return (String.ofList name, ← valueAfter? rest)

/-- The value of a variable: that of the environment, or else that of the file. -/
def valueOf {m : Type → Type} [Monad m] (environment : String → m (Option String)) (set : Environment)
    (name : String) : m (Option String) := do
  match ← environment name with
  | some value => return some value
  | none => return set.lookup name

/-- Puts the parts of a value together; a variable that is not set gives nothing. -/
def expand {m : Type → Type} [Monad m] (lookup : String → m (Option String)) : List Piece → m String
  | [] => return ""
  | .char c :: rest => return String.singleton c ++ (← expand lookup rest)
  | .reference name :: rest => return (← lookup name).getD "" ++ (← expand lookup rest)

/-- Adds the variables of the lines to those that are set; a variable that has a value keeps it. -/
def setLines {m : Type → Type} [Monad m] (environment : String → m (Option String)) (set : Environment) :
    List (Option (List Char)) → m (Environment)
  | [] | none :: _ => return set
  | some line :: rest => do
    let text := Text.trim Text.isBlank line
    if text = [] ∨ isComment text then setLines environment set rest
    else match setting? text with
      | none => return set
      | some (name, pieces) =>
        let value ← expand (valueOf environment set) pieces
        match ← valueOf environment set name with
        | some _ => setLines environment set rest
        | none => setLines environment ((name, value) :: set) rest

/-- The text of a file, without a byte order mark; of a file that is malformed, the lines before the mistake. -/
def textOf (bytes : List UInt8) : List Char :=
  let text := match Text.Utf8.decodeFrom 0 bytes with
    | .ok text => text
    | .error index => match Text.Utf8.decodeFrom 0 (bytes.take index) with
      | .ok text => (text.reverse.dropWhile (· ≠ '\n')).reverse
      | .error _ => []
  match text with
  | '\ufeff' :: text => text
  | text => text

/-- The variables that a file sets beside those of the environment. -/
def load {m : Type → Type} [Monad m] (environment : String → m (Option String)) (bytes : List UInt8) :
    m (Environment) :=
  setLines environment [] (joinLines .plain [] (splitLines (textOf bytes)))

end CarbonAware.VariableFile
