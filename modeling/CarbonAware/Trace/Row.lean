import CarbonAware.Csv.Reader
import CarbonAware.Grid.CarbonSeries

/-!
# Rows of a trace

A row gives numbers by the position of their column.  `RowError` lists everything that can be wrong with a row of
either trace, and `TraceError` why a trace as a whole is refused.
-/

namespace CarbonAware.Trace

/-- What is wrong with a row. -/
inductive RowError where
  | missingColumn (column : Nat)
  | notANumber (column : Nat) (text : String) (cause : Numeral.FloatError)
  | negativeRate (value : Float)
  | invalidWindow (start stop : Float)
  | invalidCores (value : Float)
  | invalidMemory (value : Float)
  | invalidPercentage (column : Nat) (value : Float)
deriving DecidableEq

/-- The messages of the error and its cause, outermost first. -/
def RowError.causes : RowError → List String
  | .missingColumn column => [s!"missing column #{column}"]
  | .notANumber column text cause => [s!"column #{column}: `{text}` is not a number", cause.message]
  | .negativeRate value => [s!"negative MOER: {Numeral.plain value}"]
  | .invalidWindow start stop => [s!"invalid run window: {Numeral.plain start}..{Numeral.plain stop}"]
  | .invalidCores value => [s!"invalid core count: {Numeral.plain value}"]
  | .invalidMemory value => [s!"invalid memory size: {Numeral.plain value}"]
  | .invalidPercentage column value => [s!"column #{column}: invalid percentage {Numeral.plain value}"]

/-- Why a trace is refused. -/
inductive TraceError where
  | record (cause : Csv.RecordError)
  /-- A row of the carbon trace is wrong. -/
  | carbonRow (cause : RowError)
  /-- The row of a machine is wrong. -/
  | machineRow (line : Nat) (cause : RowError)
  /-- There are more machines than numbers for them. -/
  | tooManyMachines
  | series (cause : SeriesError)
deriving DecidableEq

/-- The messages of the error and its causes, outermost first. -/
def TraceError.causes : TraceError → List String
  | .record cause => [cause.message]
  | .carbonRow cause => cause.causes
  | .machineRow line cause => s!"line {line}" :: cause.causes
  | .tooManyMachines => ["out of range integral type conversion attempted"]
  | .series cause => [cause.message]

/-- The number in a column of a row. -/
def number (fields : List String) (column : Nat) : Except RowError Float :=
  match fields[column]? with
  | none => .error (.missingColumn column)
  | some text => (Numeral.float text).mapError (.notANumber column text)

end CarbonAware.Trace
