import CarbonAware.CommandLine.Arguments
import CarbonAware.CommandLine.VariableFile
import CarbonAware.Report.Summary
import CarbonAware.Simulation.Settings
import CarbonAware.Trace.Load
import CarbonAware.Trace.Placements

/-!
# The program

`Program.run` reads the arguments and the environment, runs the command and says what is to be printed.  It works on
any `Storage`.  A simulation prints its table before it saves anything, so that the table is there even if saving
fails.
-/

namespace CarbonAware

/-- Why a command fails. -/
inductive ProgramError where
  | parameters (cause : ParameterError)
  | load (cause : Trace.LoadError)
  | simulation (cause : SimulationError)
  | settings (cause : SettingsError)
  | cannotCreate (path : String) (cause : FileError)
  | cannotWrite (path : String) (cause : FileError)

/-- The messages of the error and its causes, outermost first. -/
def ProgramError.causes : ProgramError → List String
  | .parameters cause => cause.causes
  | .load cause => cause.causes
  | .simulation cause => cause.causes
  | .settings cause => [cause.message]
  | .cannotCreate path cause => [s!"failed to create `{path}`", cause.message]
  | .cannotWrite path cause => [s!"failed to write `{path}`", cause.message]

/-- What is left to the caller when the program ends: its exit status and what it prints. -/
structure Ending where
  status : UInt8
  output : String
  errors : String

namespace Ending

/-- A message with every line after the first moved to the right. -/
def indented (columns : Nat) (message : String) : String :=
  ("\n" ++ Report.repeated columns " ").intercalate (message.splitOn "\n")

/-- The causes of an error, numbered if there are several. -/
def causesText : List String → String
  | [] => ""
  | [cause] => s!"\n\nCaused by:\n    {indented 4 cause}"
  | causes =>
    let numbered := causes.mapIdx fun index cause =>
      let number := Nat.repr index
      "\n" ++ Report.repeated (5 - number.length) " " ++ s!"{number}: {indented 7 cause}"
    "\n\nCaused by:" ++ String.join numbered

/-- The report of a failure. -/
def errorText (e : ProgramError) : String :=
  match e.causes with
  | [] => "Error\n"
  | message :: causes => s!"Error: {message}{causesText causes}\n"

/-- What a command printed before it ended, well or not. -/
def ofResult (output : String) : Except ProgramError Unit → Ending
  | .ok () => ⟨0, output, ""⟩
  | .error e => ⟨1, output, errorText e⟩

end Ending

namespace Program

/-- A table with its line end. -/
def printed {n : Nat} (colours : Report.Colours) (table : Report.Table n) : String := table.draw colours ++ "\n"

/-- The path of a file in a folder. -/
def pathIn (folder name : String) : String :=
  if folder = "" ∨ folder.endsWith "/" then folder ++ name else s!"{folder}/{name}"

variable {m : Type → Type} [Monad m] [Storage m]

/-- Writes the placements of each outcome into the folder. -/
def savePlacements (folder : String) : List Outcome → m (Except ProgramError Unit)
  | [] => return .ok ()
  | o :: rest => do
    let path := pathIn folder s!"{o.scenario}.csv"
    match ← Storage.write path (Trace.placementsText o.placements) with
    | .error cause => return .error (.cannotCreate path cause)
    | .ok () => savePlacements folder rest

/-- Saves the parameters and the placements of each outcome into a folder, which is created if need be. -/
def save (folder : String) (p : Parameters) (outcomes : List Outcome) : m (Except ProgramError Unit) := do
  match ← Storage.createFolder folder with
  | .error cause => return .error (.cannotCreate folder cause)
  | .ok () => match p.toToml with
    | .error cause => return .error (.settings cause)
    | .ok toml =>
      let path := pathIn folder "parameters.toml"
      match ← Storage.write path toml with
      | .error cause => return .error (.cannotWrite path cause)
      | .ok () => savePlacements folder outcomes

/-- Reads the traces and runs all scenarios, up to the first that fails. -/
def outcomes (carbonTrace machineTrace : String) (limit : Option Nat) (scenarios : List Scenario) (p : Parameters) :
    m (Except ProgramError (List Outcome)) := do
  match p.validate with
  | .error cause => return .error (.parameters cause)
  | .ok () => match ← Trace.loadCarbonSeries carbonTrace with
    | .error cause => return .error (.load cause)
    | .ok series => match ← Trace.loadWorkloads machineTrace series limit with
      | .error cause => return .error (.load cause)
      | .ok workloads =>
        let simulation : Simulation := { series, workloads, eligibility := p.eligibility, seed := p.seed }
        return (scenarios.mapM simulation.run).mapError .simulation

/-- Runs a command. -/
def execute (colours : Report.Colours) : Command → m Ending
  | .simulate carbonTrace machineTrace limit folder reschedulings adjustments p => do
    match ← outcomes carbonTrace machineTrace limit (p.scenarios reschedulings adjustments) p with
    | .error e => return .ofResult "" (.error e)
    | .ok outcomes =>
      let table := printed colours (Report.outcomesTable outcomes)
      match folder with
      | none => return .ofResult table (.ok ())
      | some folder => return .ofResult table (← save folder p outcomes)
  | .windows carbonTrace rateThreshold => do
    match ← Trace.loadCarbonSeries carbonTrace with
    | .error cause => return .ofResult "" (.error (.load cause))
    | .ok series =>
      let runs := LowCarbonRun.all series rateThreshold
      return .ofResult (printed colours (Report.lowCarbonTable runs)) (.ok ())

/-- How the program is used. -/
def usage : String :=
  let flags (title : String) (flags : List Flag) := title ++ String.join (flags.map fun flag => s!"\n  {flag.usage}")
  "\n\n".intercalate [
    "Usage: carbon-shift <COMMAND>",
    flags "simulate: run every selected scenario over the traces and compare them" Flag.ofSimulate,
    flags "windows: list the low-carbon windows of the forecast" Flag.ofWindows] ++ "\n"

/-- The message of a mistake in the arguments. -/
def mistake : UsageError → String
  | .helpWanted | .versionWanted | .noCommand => ""
  | .unknownCommand => "unknown command"
  | .unknownArgument word => s!"unexpected argument `{word}`"
  | .valueUnwanted flag value => s!"unexpected value `{value}` for `{flag}`"
  | .givenTwice flag => s!"`{flag.usage}` cannot be given more than once"
  | .badValue flag value .notAllowed => s!"invalid value `{value}` for `{flag.usage}`"
  | .badValue flag value (.unreadable reason) => s!"invalid value `{value}` for `{flag.usage}`: {reason}"
  | .missing flags => "missing " ++ ", ".intercalate (flags.map Flag.usage)

/-- What the program prints instead of running a command. -/
def decline : UsageError → Ending
  | .helpWanted => ⟨0, usage, ""⟩
  | .versionWanted => ⟨0, "carbon-shift 0.1.0\n", ""⟩
  | .noCommand => ⟨2, "", usage⟩
  | e => ⟨2, "", s!"error: {mistake e}\n"⟩

/-- The content of the first of the files that there is. -/
def firstFile : List String → m (List UInt8)
  | [] => return []
  | path :: rest => do
    match ← Storage.read path with
    | .ok (.ok content) => return content
    | .ok (.error _) | .error .notFound => firstFile rest
    | .error _ => return []

/-- The variables of the flags, from the environment or from a variable file. -/
def flagVariables (environment : String → m (Option String)) (set : Environment) : List Flag → m Environment
  | [] => return []
  | flag :: rest => do
    let others ← flagVariables environment set rest
    match ← VariableFile.valueOf environment set flag.variableName with
    | some value => return (flag.variableName, value) :: others
    | none => return others

/-- Colours are hidden from users who set `NO_COLOR` to something. -/
def coloursOf (wish : Option String) : Report.Colours := if wish.getD "" = "" then .shown else .hidden

/-- Runs the program on the words of its command line; the first of the variable files adds to the environment. -/
def run (environment : String → m (Option String)) (variableFiles words : List String) : m Ending := do
  let set ← VariableFile.load environment (← firstFile variableFiles)
  match Command.ofArguments (← flagVariables environment set Flag.ofSimulate) words with
  | .error e => return decline e
  | .ok command => execute (coloursOf (← VariableFile.valueOf environment set "NO_COLOR")) command

end Program

end CarbonAware
