import CarbonAware.Adoption.Generator
import CarbonAware.Numeral.Print
import CarbonAware.Numeral.Read

/-!
# Acceptance of recommendations

A user adopts a recommendation with a fixed probability.  Every workload has a random generator of its own, made from
the seed of the run, a salt of the policy stage and the id of the workload, so that one decision never depends on
another (`Decisions.generator`).
-/

namespace CarbonAware

/-- A probability. -/
structure AcceptanceRate where
  value : Float
  nonneg : 0.0 ≤ value
  le_one : value ≤ 1.0
deriving DecidableEq

/-- Why a number or text is no acceptance rate. -/
inductive AcceptanceError where
  | outOfRange (value : Float)
  | notANumber (text : String) (cause : Numeral.FloatError)
deriving DecidableEq

/-- The messages of the error and its causes, outermost first. -/
def AcceptanceError.causes : AcceptanceError → List String
  | .outOfRange value =>
    let got := Numeral.plain value
    [s!"acceptance rate must be within `0..=1`, got {got}"]
  | .notANumber text cause => [s!"`{text}` is not a number", cause.message]

namespace AcceptanceRate

def always : AcceptanceRate := ⟨1.0, by decide, by decide⟩

def never : AcceptanceRate := ⟨0.0, by decide, by decide⟩

instance : Inhabited AcceptanceRate := ⟨always⟩

def ofFloat (value : Float) : Except AcceptanceError AcceptanceRate :=
  if h : 0.0 ≤ value ∧ value ≤ 1.0 then .ok ⟨value, h.1, h.2⟩ else .error (.outOfRange value)

def read (text : String) : Except AcceptanceError AcceptanceRate :=
  match Numeral.float text with
  | .ok value => ofFloat value
  | .error cause => .error (.notANumber text cause)

/-- The rate in whole percent. -/
def text (rate : AcceptanceRate) : String :=
  let percent := Numeral.fixed 0 (rate.value * 100.0)
  s!"{percent}%"

/-- A random word below this accepts, unless the rate is one. -/
def threshold (rate : AcceptanceRate) : UInt64 := (rate.value * 18446744073709551616.0).toUInt64

/-- Whether the recommendation is accepted; a rate of one accepts without drawing a random word. -/
def draw (rate : AcceptanceRate) (g : Generator) : Bool × Generator :=
  if rate.value == 1.0 then (true, g)
  else
    let (word, g) := g.next
    (decide (word < rate.threshold), g)

end AcceptanceRate

/-- The acceptance decisions of one policy stage. -/
structure Decisions where
  seed : UInt64
deriving DecidableEq, Repr

namespace Decisions

/-- The decisions of another stage. -/
def salted (d : Decisions) (salt : UInt64) : Decisions := ⟨d.seed ^^^ salt⟩

/-- The seed of a workload's generator: the id in the upper half and the seed of the stage, mixed bit by bit. -/
def seedOf (d : Decisions) (id : UInt32) : UInt64 := d.seed ^^^ rotateLeft id.toUInt64 32

/-- The generator of a workload. -/
def generator (d : Decisions) (id : UInt32) : Generator := .ofSeed (d.seedOf id)

end Decisions

end CarbonAware
