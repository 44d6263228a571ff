import CarbonAware.CommandLine.Selection

/-!
# Arguments

`Command.ofArguments` reads the command from the words of the command line and from the environment.  The value of a
flag that stands in a word of its own is read only when the next flag or the end is reached, so that a word that is
out of place is reported before a bad value.  A variable counts only where its flag is not given, and what must be
given is checked last.
-/

namespace CarbonAware

/-- What the program is to do. -/
inductive Command where
  | simulate (carbonTrace machineTrace : String) (machineLimit : Option Nat) (outputFolder : Option String)
    (reschedulings : List ReschedulingKind) (adjustments : List AdjustmentKind) (parameters : Parameters)
  /-- List the low-carbon runs. -/
  | windows (carbonTrace : String) (rateThreshold : UInt32)

/-- Why there is no command to run. -/
inductive UsageError where
  | helpWanted
  | versionWanted
  | noCommand
  | unknownCommand
  | unknownArgument (word : String)
  /-- A value is given to a flag that takes none. -/
  | valueUnwanted (flag value : String)
  | givenTwice (flag : Flag)
  | badValue (flag : Flag) (value : String) (cause : ValueError)
  | missing (flags : List Flag)
deriving DecidableEq, Repr

/-- What a word of the command line is by its form. -/
inductive Word where
  /-- Two dashes alone: no flags follow. -/
  | divider
  | long (name : String) (value : Option String)
  | short (letter : Char)
  | plain
deriving DecidableEq, Repr

namespace Word

def ofString (word : String) : Word :=
  match word.toList with
  | ['-', '-'] => divider
  | '-' :: '-' :: text =>
    let name := String.ofList (text.takeWhile (· ≠ '='))
    match text.dropWhile (· ≠ '=') with
    | _ :: value => long name (some (String.ofList value))
    | [] => long name none
  | '-' :: letter :: _ => short letter
  | _ => plain

/-- What the word asks for, if it is one of the two flags that every command has. -/
def wanted? : Word → Option UsageError
  | long "help" none | short 'h' => some .helpWanted
  | long "version" none | short 'V' => some .versionWanted
  | _ => none

/-- A word that starts with a dash, but is no flag of the command. -/
def refuse (word : String) : Word → UsageError
  | long "help" (some value) => .valueUnwanted "--help" value
  | long "version" (some value) => .valueUnwanted "--version" value
  | long name _ => .unknownArgument s!"--{name}"
  | short letter => .unknownArgument s!"-{letter}"
  | _ => .unknownArgument word

end Word

/-- How far the words of a command have been read. -/
structure ArgumentState where
  /-- The flags that are given. -/
  given : List Flag
  selection : Selection
  /-- The last flag, if its values are not read yet, and these values, the last one first. -/
  pending : Option (Flag × List String)

namespace ArgumentState

def init : ArgumentState := ⟨[], default, none⟩

/-- The items of a value. -/
def itemsOf (flag : Flag) (value : String) : List String := if flag.isList then value.splitOn "," else [value]

/-- Sets a flag to the items, one after another. -/
def setItems (s : ArgumentState) (flag : Flag) : List String → Except UsageError ArgumentState
  | [] => .ok s
  | item :: rest => do
    let selection ← (s.selection.set flag (!s.given.contains flag) item).mapError (.badValue flag item)
    setItems { s with selection, given := flag :: s.given } flag rest

/-- Gives a flag its values. -/
def give (s : ArgumentState) (flag : Flag) (values : List String) : Except UsageError ArgumentState :=
  if values = [] then .error (.badValue flag "" .notAllowed)
  else if !flag.isList && s.given.contains flag then .error (.givenTwice flag)
  else s.setItems flag (values.flatMap (itemsOf flag))

/-- Reads the values of the last flag. -/
def settle (s : ArgumentState) : Except UsageError ArgumentState :=
  match s.pending with
  | none => .ok s
  | some (flag, values) => give { s with pending := none } flag values.reverse

/-- Takes a word without dashes as a value of the last flag, if that lacks one. -/
def addValue (s : ArgumentState) (word : String) : Except UsageError ArgumentState :=
  match s.pending with
  | some (flag, values) =>
    if flag.isList || values.isEmpty then .ok { s with pending := some (flag, word :: values) }
    else .error (.unknownArgument word)
  | none => .error (.unknownArgument word)

/-- Takes a word with dashes: a flag of the command, or one of those that every command has. -/
def addFlag (flags : List Flag) (s : ArgumentState) (text : String) (word : Word) :
    Except UsageError ArgumentState :=
  match word.wanted? with
  | some wanted => do
    let _ ← s.settle
    throw wanted
  | none => match word with
    | .long name value => match flags.find? fun flag => flag.name == name with
      | none => .error (word.refuse text)
      | some flag => do
        let s ← s.settle
        match value with
        | some value => s.give flag [value]
        | none => return { s with pending := some (flag, []) }
    | _ => .error (word.refuse text)

/-- Reads the words after the name of a command. -/
def read (flags : List Flag) (s : ArgumentState) : List String → Except UsageError ArgumentState
  | [] => s.settle
  | text :: rest =>
    match Word.ofString text with
    | .divider => match rest with
      | [] => s.settle
      | word :: _ => .error (.unknownArgument word)
    | .plain => do read flags (← s.addValue text) rest
    | word => do read flags (← s.addFlag flags text word) rest

/-- Gives the flags that are not given the values of their variables. -/
def readVariables (environment : Environment) (s : ArgumentState) :
    List Flag → Except UsageError ArgumentState
  | [] => .ok s
  | flag :: rest => do
    let s ← match environment.lookup flag.variableName with
      | some value => if s.given.contains flag then .ok s else s.give flag [value]
      | none => .ok s
    readVariables environment s rest

/-- Reads the words and the variables of a command, which must give the required flags. -/
def selectionOf (flags required : List Flag) (environment : Environment) (words : List String) :
    Except UsageError Selection := do
  let s ← init.read flags words
  let s ← s.readVariables environment flags
  let missing := required.filter fun flag => !s.given.contains flag
  if missing = [] then return s.selection else throw (.missing missing)

end ArgumentState

namespace Command

/-- The names of the commands. -/
def names : List String := ["simulate", "windows", "help"]

/-- The arguments of the command that simulates. -/
def simulateOf (environment : Environment) (words : List String) : Except UsageError Command := do
  let s ← ArgumentState.selectionOf Flag.ofSimulate [.carbonTrace, .machineTrace] environment words
  let reschedulings := ReschedulingKind.all.filter s.reschedulings.contains
  let adjustments := AdjustmentKind.all.filter s.adjustments.contains
  return simulate (s.carbonTrace.getD "") (s.machineTrace.getD "") s.machineLimit s.outputFolder reschedulings
    adjustments s.parameters

/-- The arguments of the command that lists low-carbon runs. -/
def windowsOf (environment : Environment) (words : List String) : Except UsageError Command := do
  let s ← ArgumentState.selectionOf Flag.ofWindows [.carbonTrace] environment words
  return windows (s.carbonTrace.getD "") s.parameters.threshold.rateThreshold

/-- What the words after the command `help` ask for: at most the name of one command. -/
def helpOf : List String → UsageError
  | [] => .helpWanted
  | [word] => if names.contains word then .helpWanted else .unknownCommand
  | _ => .unknownCommand

/-- The command that the words of the command line and the variables of the environment give. -/
def ofArguments (environment : Environment) : List String → Except UsageError Command
  | [] => .error .noCommand
  | text :: rest =>
    match Word.ofString text with
    | .divider => match rest with
      | [] => .error .noCommand
      | word :: _ => .error (if names.contains word then .unknownArgument word else .unknownCommand)
    | .plain =>
      match text with
      | "simulate" => simulateOf environment rest
      | "windows" => windowsOf environment rest
      | "help" => .error (helpOf rest)
      | _ => .error .unknownCommand
    | word => .error (word.wanted?.getD (word.refuse text))

end Command

end CarbonAware
