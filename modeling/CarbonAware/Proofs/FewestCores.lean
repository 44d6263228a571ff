import CarbonAware.Proofs.Outcomes

/-!
# Core reduction takes the fewest cores

The core counts of a valid policy are in order, so that the search cuts off exactly those above the present count, and
the first of the rest on which the workload fits is the least (`CoreReduction.smallestFitting?_eq_some_iff`).  A
workload is changed if and only if it is reduced to some count (`CoreReduction.ReducesTo`) and the user accepts, and then
nothing but its cores and its utilisation is (`CoreReduction.apply_fewest_cores`).
-/

namespace CarbonAware

namespace CoreReduction

/-- On the given number of cores, neither the 95th percentile nor the peak saturates the workload. -/
structure Fits (p : CoreReduction) (w : Workload) (cores : UInt32) : Prop where
  p95_lt : (utilizationOn w cores).p95 < p.p95Threshold
  maximum_le : (utilizationOn w cores).maximum ≤ 1.0

/-- The workload is to have `cores` cores, the fewest of those listed that it fits on, instead of more. -/
structure ReducesTo (p : CoreReduction) (w : Workload) (cores : UInt32) : Prop where
  unsaturated : ¬ p.p95Threshold ≤ w.utilization.p95
  wasteful : ¬ w.waste ≤ p.wasteThreshold
  least : IsLeast {count | count ∈ p.coreCounts ∧ count ≤ w.cores ∧ p.Fits w count} cores
  fewer : cores < w.cores

variable {p : CoreReduction} {w : Workload} {cores : UInt32}

theorem fits_iff : p.fits w cores = true ↔ p.Fits w cores := by
  simp only [fits, Bool.and_eq_true, decide_eq_true_eq]
  exact ⟨fun ⟨hp95, hmaximum⟩ => ⟨hp95, hmaximum⟩, fun ⟨hp95, hmaximum⟩ => ⟨hp95, hmaximum⟩⟩

/-- In an ascending list, what comes before the first count above a bound is what is not above it. -/
private theorem mem_takeWhile_iff {counts : List UInt32} {bound : UInt32} (hordered : counts.Pairwise (· < ·)) :
    cores ∈ counts.takeWhile (· ≤ bound) ↔ cores ∈ counts ∧ cores ≤ bound := by
  induction counts with
  | nil => simp
  | cons first rest ih =>
    rw [List.pairwise_cons] at hordered
    by_cases hfirst : first ≤ bound
    · rw [List.takeWhile_cons_of_pos (by simp [hfirst]), List.mem_cons, List.mem_cons, ih hordered.2]
      constructor
      · rintro (rfl | ⟨hmem, hle⟩)
        · exact ⟨.inl rfl, hfirst⟩
        · exact ⟨.inr hmem, hle⟩
      · rintro ⟨rfl | hmem, hle⟩
        · exact .inl rfl
        · exact .inr ⟨hmem, hle⟩
    · rw [List.takeWhile_cons_of_neg (by simp [hfirst])]
      constructor
      · intro hmem
        cases hmem
      · rintro ⟨hmem, hle⟩
        rcases List.mem_cons.1 hmem with rfl | hlater
        · exact absurd hle hfirst
        · exact absurd (UInt32.le_trans (UInt32.le_of_lt (hordered.1 cores hlater)) hle) hfirst

/-- The search finds the least of the listed counts up to the present one on which the workload fits. -/
theorem smallestFitting?_eq_some_iff (hp : p.validate = .ok ()) : p.smallestFitting? w = some cores ↔
    IsLeast {count | count ∈ p.coreCounts ∧ count ≤ w.cores ∧ p.Fits w count} cores := by
  have hordered := (validate_ok_iff.1 hp).2.2.1
  have htried := (hordered.sublist (List.takeWhile_sublist (· ≤ w.cores))).imp UInt32.lt_iff_toNat_lt.1
  rw [smallestFitting?, find?_eq_some_iff_first UInt32.toNat htried]
  simp only [mem_takeWhile_iff hordered, fits_iff]
  constructor
  · rintro ⟨⟨hmem, hle⟩, hfits, hfirst⟩
    refine ⟨⟨hmem, hle, hfits⟩, fun count hcount => ?_⟩
    obtain ⟨hmem', hle', hfits'⟩ := hcount
    exact UInt32.le_iff_toNat_le.2 (hfirst count ⟨hmem', hle'⟩ hfits')
  · rintro ⟨⟨hmem, hle, hfits⟩, hleast⟩
    refine ⟨⟨hmem, hle⟩, hfits, fun count hcount hfits' => ?_⟩
    exact UInt32.le_iff_toNat_le.1 (hleast ⟨hcount.1, hcount.2, hfits'⟩)

/-- The policy proposes exactly the count that the workload is reduced to. -/
theorem proposal?_eq_reduced_iff (hp : p.validate = .ok ()) {proposal : Workload} :
    p.proposal? w = some proposal ↔
      ∃ cores, p.ReducesTo w cores ∧ proposal = { w with cores, utilization := utilizationOn w cores } := by
  rw [proposal?_eq_some_iff]
  constructor
  · rintro ⟨cores, hunsaturated, hwasteful, hfound, hfewer, hproposal⟩
    exact ⟨cores, ⟨hunsaturated, hwasteful, (smallestFitting?_eq_some_iff hp).1 hfound, hfewer⟩, hproposal⟩
  · rintro ⟨cores, hreduces, hproposal⟩
    have hfound := (smallestFitting?_eq_some_iff hp).2 hreduces.least
    exact ⟨cores, hreduces.unsaturated, hreduces.wasteful, hfound, hreduces.fewer, hproposal⟩

theorem exists_proposal_iff (hp : p.validate = .ok ()) :
    (∃ proposal, (Adjustment.coreReduction p).proposal? w = some proposal) ↔ ∃ cores, p.ReducesTo w cores := by
  constructor
  · rintro ⟨proposal, hproposal⟩
    obtain ⟨cores, hcores, -⟩ := (proposal?_eq_reduced_iff hp).1 hproposal
    exact ⟨cores, hcores⟩
  · rintro ⟨cores, hcores⟩
    exact ⟨_, (proposal?_eq_reduced_iff hp).2 ⟨cores, hcores, rfl⟩⟩

/--
A valid policy changes a workload if and only if it reduces it to some core count and the draw accepts.  Then the
workload has that count, on which it is not saturated, and nothing else changes; otherwise nothing changes at all.  The
generator is consulted if there is a count to reduce to, and left as it is if there is none.
-/
theorem apply_fewest_cores (p : CoreReduction) (w : Workload) (g : Generator) (hp : p.validate = .ok ()) :
    ∃ after g', (Adjustment.coreReduction p).apply w g = (after, g') ∧
      (after.changed = true ↔ (∃ cores, p.ReducesTo w cores) ∧ (p.acceptance.draw g).1 = true) ∧
      (after.changed = true → ∃ cores, p.ReducesTo w cores ∧
        after.workload = { w with cores, utilization := utilizationOn w cores } ∧
        after.workload.utilization.p95 < p.p95Threshold ∧ after.workload.utilization.maximum ≤ 1.0) ∧
      (after.changed = false → after.workload = w) ∧
      ((∃ cores, p.ReducesTo w cores) → g' = (p.acceptance.draw g).2) ∧
      ((∀ cores, ¬ p.ReducesTo w cores) → g' = g) := by
  refine ⟨((Adjustment.coreReduction p).apply w g).1, ((Adjustment.coreReduction p).apply w g).2, rfl,
    ?changed, ?reduced, ?unchanged, ?consulted, ?untouched⟩
  case changed => rw [Adjustment.changed_apply_iff, exists_proposal_iff hp]; rfl
  case reduced =>
    intro hchanged
    obtain ⟨cores, hcores, hworkload⟩ := (proposal?_eq_reduced_iff hp).1 (Adjustment.proposal?_of_changed hchanged)
    obtain ⟨-, -, hfits⟩ := hcores.least.1
    rw [hworkload]
    exact ⟨cores, hcores, rfl, hfits.p95_lt, hfits.maximum_le⟩
  case unchanged =>
    intro hunchanged
    rw [Adjustment.apply_of_unchanged hunchanged]
  case consulted =>
    intro hcores
    obtain ⟨proposal, hproposal⟩ := (exists_proposal_iff hp).2 hcores
    rw [Adjustment.apply_of_some hproposal]
    rfl
  case untouched =>
    intro hnone
    have hproposal : (Adjustment.coreReduction p).proposal? w = none := by
      rw [Option.eq_none_iff_forall_ne_some]
      intro proposal hproposal
      obtain ⟨cores, hcores⟩ := (exists_proposal_iff hp).1 ⟨proposal, hproposal⟩
      exact hnone cores hcores
    rw [Adjustment.apply_of_none hproposal]

/-- Of its eight cores a machine that is mostly idle for a day needs two. -/
theorem apply_fewest_cores_idleMachine :
    let p : CoreReduction := default
    let w := Simulation.idleMachine 1 0 288
    p.validate = .ok () ∧ ∃ after g', (Adjustment.coreReduction p).apply w ⟨1, 2, 3, 4⟩ = (after, g') ∧
      after.changed = true ∧ after.workload.cores = 2 ∧ p.ReducesTo w 2 := by
  intro p w
  obtain ⟨after, g', happly, -, hreduced, -⟩ := apply_fewest_cores p w ⟨1, 2, 3, 4⟩ (by decide)
  have htwo : ((Adjustment.coreReduction p).apply w ⟨1, 2, 3, 4⟩).1.changed = true ∧
      ((Adjustment.coreReduction p).apply w ⟨1, 2, 3, 4⟩).1.workload.cores = 2 := by decide +kernel
  rw [happly] at htwo
  obtain ⟨hchanged, hcores⟩ := htwo
  obtain ⟨cores, hreduces, hworkload, -⟩ := hreduced hchanged
  rw [hworkload] at hcores
  obtain rfl : cores = 2 := hcores
  exact ⟨by decide, after, g', happly, hchanged, by rw [hworkload], hreduces⟩

end CoreReduction

end CarbonAware
