import CarbonAware.Numeral.Print
import CarbonAware.Numeral.Read

/-!
# Quantities

A quantity is a floating-point number of one unit.  Quantities of one unit are added, scaled and totally ordered
(`NaN` above every number); products of two units give a third.  The total of a list starts at negative zero, the
neutral element of floating-point addition.
-/

namespace CarbonAware

/-- The units that quantities are measured in. -/
inductive Measure where
  | watts
  | megawattHours
  | pounds
  | poundsPerMegawattHour
  | dollars
  | dollarsPerHour
  | hours
deriving DecidableEq, Repr

/-- How a unit is written after a number. -/
def Measure.symbol : Measure → String
  | .watts => "W"
  | .megawattHours => "MWh"
  | .pounds => "lbs"
  | .poundsPerMegawattHour => "lbs/MWh"
  | .dollars => "$"
  | .dollarsPerHour => "$/h"
  | .hours => "h"

/-- The decimal places that a quantity of the unit is written with. -/
def Measure.places : Measure → Nat
  | .watts => 1
  | .megawattHours => 6
  | .pounds => 3
  | .poundsPerMegawattHour => 1
  | .dollars => 2
  | .dollarsPerHour => 4
  | .hours => 2

/-- A number of the unit `u`. -/
structure Quantity (u : Measure) where
  value : Float
deriving DecidableEq

abbrev Watts := Quantity .watts
abbrev MegawattHours := Quantity .megawattHours
/-- Pounds of carbon dioxide. -/
abbrev Pounds := Quantity .pounds
/-- A marginal operating emissions rate. -/
abbrev Moer := Quantity .poundsPerMegawattHour
abbrev Dollars := Quantity .dollars
abbrev DollarsPerHour := Quantity .dollarsPerHour
abbrev Hours := Quantity .hours

namespace Quantity

variable {u : Measure}

/-- No amount. -/
def zero : Quantity u := ⟨0.0⟩

instance : Inhabited (Quantity u) := ⟨zero⟩

instance : Add (Quantity u) := ⟨fun a b => ⟨a.value + b.value⟩⟩

instance : Sub (Quantity u) := ⟨fun a b => ⟨a.value - b.value⟩⟩

instance : Neg (Quantity u) := ⟨fun a => ⟨-a.value⟩⟩

instance : HMul (Quantity u) Float (Quantity u) := ⟨fun a factor => ⟨a.value * factor⟩⟩

instance : HDiv (Quantity u) Float (Quantity u) := ⟨fun a divisor => ⟨a.value / divisor⟩⟩

/-- The sum of the list, added up from the left; negative zero if it is empty. -/
def total (amounts : List (Quantity u)) : Quantity u := amounts.foldl (· + ·) ⟨-0.0⟩

/-- The total order of the numbers. -/
instance : Ord (Quantity u) := ⟨fun a b => Numeral.totalCompare a.value b.value⟩

instance : LT (Quantity u) := ltOfOrd

instance : LE (Quantity u) := leOfOrd

/-- The number with the unit's decimal places, a space and the unit. -/
def text (a : Quantity u) : String := s!"{Numeral.fixed u.places a.value} {u.symbol}"

/-- As `text`, without the space. -/
def compactText (a : Quantity u) : String := s!"{Numeral.fixed u.places a.value}{u.symbol}"

/-- Reads the number of a quantity; the unit is not written. -/
def read (text : String) : Except Numeral.FloatError (Quantity u) := (Numeral.float text).map Quantity.mk

end Quantity

/-- Negative powers and `NaN` count as none. -/
def Quantity.nonNegative (power : Watts) : Watts := if 0.0 < power.value then power else .zero

/-- Hours of the given number of seconds. -/
def Quantity.ofSeconds (seconds : Int) : Hours := ⟨Float.ofInt seconds / 3600.0⟩

instance : HMul Watts Hours MegawattHours := ⟨fun power hours => ⟨power.value * hours.value / 1000000.0⟩⟩

instance : HMul Moer MegawattHours Pounds := ⟨fun rate energy => ⟨rate.value * energy.value⟩⟩

instance : HMul MegawattHours Moer Pounds := ⟨fun energy rate => rate * energy⟩

instance : HMul DollarsPerHour Hours Dollars := ⟨fun price hours => ⟨price.value * hours.value⟩⟩

instance : HMul Hours DollarsPerHour Dollars := ⟨fun hours price => price * hours⟩

end CarbonAware
