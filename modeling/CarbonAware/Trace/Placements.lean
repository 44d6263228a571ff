import CarbonAware.Numeral.Print
import CarbonAware.Workload.Basic

/-!
# Written placements

Placements are written one a line, their numbers divided by commas.  The header comes with the first placement, so
that without placements nothing is written.
-/

namespace CarbonAware.Trace

def placementHeader : List Char := "id,start,end,cores,ram_megabytes".toList

/-- The line of a placement, without its end. -/
def placementLine (p : Placement) : List Char :=
  [',' ].intercalate [Numeral.natural p.id.toNat, Numeral.integer p.start, Numeral.integer p.stop,
    Numeral.natural p.cores.toNat, Numeral.natural p.ramMegabytes.toNat]

/-- The lines of the placements and of their header. -/
def placementLines : List Placement → List (List Char)
  | [] => []
  | placements => placementHeader :: placements.map placementLine

/-- The file of the placements. -/
def placementsText (placements : List Placement) : String :=
  String.ofList ((placementLines placements).flatMap (· ++ ['\n']))

end CarbonAware.Trace
