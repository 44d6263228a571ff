import CarbonAware.Main
import CarbonAware.Storage.Memory
import CarbonAware.Proofs.Independence
import CarbonAware.Proofs.Factorisation
import CarbonAware.Proofs.Loading
import CarbonAware.Proofs.Preservation
import CarbonAware.Proofs.ClosedRuns
import CarbonAware.Proofs.Horizon
import CarbonAware.Proofs.Foresight
import CarbonAware.Proofs.Postponements
import CarbonAware.Proofs.MovesInPlace
import CarbonAware.Proofs.Improvements
import CarbonAware.Proofs.Acceptance
import CarbonAware.Proofs.Reading
import CarbonAware.Proofs.Savings
import CarbonAware.Proofs.SavedParameters
import CarbonAware.Proofs.RowLimits
import CarbonAware.Proofs.FewestCores
import CarbonAware.Proofs.RepeatedReductions
import CarbonAware.Proofs.Shortening
import CarbonAware.Proofs.FirstFailure
import CarbonAware.Proofs.LongerLookahead
import CarbonAware.Proofs.Changes
import CarbonAware.Proofs.RunningSums
import CarbonAware.Proofs.Generators
import CarbonAware.Proofs.Rates
import CarbonAware.Proofs.WrittenPlacements
