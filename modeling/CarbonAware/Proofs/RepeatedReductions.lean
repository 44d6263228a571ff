import CarbonAware.Proofs.Amounts
import CarbonAware.Proofs.FewestCores

/-!
# Core reductions that are made twice

The first reduction takes the fewest cores that the workload fits on, so that in exact arithmetic a second one would
find nothing.  But the second one starts from a utilisation that is already rounded, and rounds it again on the way to
the same core count.  The two results are within a few roundings of each other (`CoreReduction.scaled_bounds`,
`CoreReduction.le_scaled_twice`), so a count that is rejected once and accepted later is one on which the workload comes
to within these of a limit (`CoreReduction.onEdge_of_fits_again`).  If no listed count is such an edge, the second
reduction changes nothing (`CoreReduction.apply_twice`); on an edge it may (`CoreReduction.exists_reduced_twice`).
-/

namespace CarbonAware

open Numeral (value nearest nearest_nonneg nearest_bounds normal_of_le nearest_le_mul mul_le_nearest roundoff)

namespace CoreReduction

/-! ### Utilisation scaled twice -/

/-- So near to a limit that a few roundings may carry a number across. -/
def AtLimit (q limit : ℚ) : Prop := |q - limit| ≤ limit / 2 ^ 50 + 2 ^ (-1040 : ℤ)

section Scaling

variable {x ratio ratio' limit : ℚ}

/-- Two roundings of a utilisation that is scaled up. -/
theorem scaled_bounds (hx : 0 ≤ x) (hratio : 1 ≤ ratio) :
    x * ratio * (1 - roundoff) ^ 2 - 2 ^ (-1075 : ℤ) ≤ nearest (x * nearest ratio) ∧
      nearest (x * nearest ratio) ≤ x * ratio * (1 + roundoff) ^ 2 + 2 ^ (-1075 : ℤ) := by
  have hlow : 0 ≤ 1 - roundoff := by unfold roundoff; norm_num
  have hhigh : 0 ≤ 1 + roundoff := by unfold roundoff; norm_num
  have hnonneg : 0 ≤ x * nearest ratio := mul_nonneg hx (nearest_nonneg (by linarith))
  obtain ⟨hbelow, habove⟩ := nearest_bounds hnonneg
  constructor
  · calc x * ratio * (1 - roundoff) ^ 2 - 2 ^ (-1075 : ℤ)
        = x * (ratio * (1 - roundoff)) * (1 - roundoff) - 2 ^ (-1075 : ℤ) := by ring
      _ ≤ x * nearest ratio * (1 - roundoff) - 2 ^ (-1075 : ℤ) := by
        have := mul_le_nearest (normal_of_le (le_trans (by norm_num) hratio))
        gcongr
      _ ≤ nearest (x * nearest ratio) := hbelow
  · calc nearest (x * nearest ratio)
        ≤ x * nearest ratio * (1 + roundoff) + 2 ^ (-1075 : ℤ) := habove
      _ ≤ x * (ratio * (1 + roundoff)) * (1 + roundoff) + 2 ^ (-1075 : ℤ) := by
        have := nearest_le_mul (normal_of_le (le_trans (by norm_num) hratio))
        gcongr
      _ = x * ratio * (1 + roundoff) ^ 2 + 2 ^ (-1075 : ℤ) := by ring

/-- Four roundings of a utilisation that is scaled up twice. -/
theorem le_scaled_twice (hx : 0 ≤ x) (hratio : 1 ≤ ratio) (hratio' : 1 ≤ ratio') :
    x * (ratio * ratio') * (1 - roundoff) ^ 4 - 2 ^ (-1075 : ℤ) * (ratio' + 1) ≤
      nearest (nearest (x * nearest ratio) * nearest ratio') := by
  have hleast : (0 : ℚ) < 2 ^ (-1075 : ℤ) := Numeral.two_zpow_pos _
  have hscaled : 0 ≤ nearest (x * nearest ratio) := nearest_nonneg (mul_nonneg hx (nearest_nonneg (by linarith)))
  have hfactor : 0 ≤ ratio' * (1 - roundoff) ^ 2 := mul_nonneg (by linarith) (sq_nonneg _)
  have hfactor' : ratio' * (1 - roundoff) ^ 2 ≤ ratio' := by
    refine mul_le_of_le_one_right (by linarith) ?_
    unfold roundoff
    norm_num
  have hfirst := mul_le_mul_of_nonneg_right (scaled_bounds hx hratio).1 hfactor
  have hsecond := (scaled_bounds hscaled hratio').1
  have hloss := mul_le_mul_of_nonneg_left hfactor' (le_of_lt hleast)
  calc x * (ratio * ratio') * (1 - roundoff) ^ 4 - 2 ^ (-1075 : ℤ) * (ratio' + 1)
      = x * ratio * (1 - roundoff) ^ 2 * (ratio' * (1 - roundoff) ^ 2) - 2 ^ (-1075 : ℤ) * ratio' -
          2 ^ (-1075 : ℤ) := by ring
    _ ≤ (x * ratio * (1 - roundoff) ^ 2 - 2 ^ (-1075 : ℤ)) * (ratio' * (1 - roundoff) ^ 2) - 2 ^ (-1075 : ℤ) := by
      linarith
    _ ≤ nearest (x * nearest ratio) * (ratio' * (1 - roundoff) ^ 2) - 2 ^ (-1075 : ℤ) := by linarith
    _ = nearest (x * nearest ratio) * ratio' * (1 - roundoff) ^ 2 - 2 ^ (-1075 : ℤ) := by ring
    _ ≤ nearest (nearest (x * nearest ratio) * nearest ratio') := hsecond

/-- A number that reaches a limit when it is scaled at once, and does not exceed it when it is scaled twice. -/
theorem atLimit_of_scaled (hx : 0 ≤ x) (hratio : 1 ≤ ratio) (hratio' : 1 ≤ ratio') (hword : ratio' ≤ 2 ^ 32)
    (hlimit : 0 ≤ limit) (hreached : limit ≤ nearest (x * nearest (ratio * ratio')))
    (hkept : nearest (nearest (x * nearest ratio) * nearest ratio') ≤ limit) : AtLimit (x * (ratio * ratio')) limit := by
  have hleast : (0 : ℚ) < 2 ^ (-1075 : ℤ) := Numeral.two_zpow_pos _
  have hmargin : (2 : ℚ) ^ (-1040 : ℤ) = 2 ^ 35 * 2 ^ (-1075 : ℤ) := by
    rw [← zpow_natCast, ← zpow_add₀ (by norm_num)]
    norm_num
  have hproduct : 1 ≤ ratio * ratio' := one_le_mul_of_one_le_of_one_le hratio hratio'
  have habove := le_trans hreached (scaled_bounds hx hproduct).2
  have hbelow := le_trans (le_scaled_twice hx hratio hratio') hkept
  have hwords : (2 : ℚ) ^ (-1075 : ℤ) * (ratio' + 1) ≤ 2 ^ (-1075 : ℤ) * (2 ^ 32 + 1) := by gcongr
  have hexact : 0 ≤ x * (ratio * ratio') := mul_nonneg hx (by linarith)
  rw [AtLimit, hmargin, abs_le]
  unfold roundoff at habove hbelow
  constructor <;> linarith

end Scaling

/-! ### Counts on the edge -/

/-- On this number of cores the 95th percentile or the peak of the workload comes to its limit, but for roundings. -/
def OnEdge (p : CoreReduction) (w : Workload) (cores : UInt32) : Prop :=
  AtLimit (value w.utilization.p95 * (w.cores.toNat / cores.toNat)) (value p.p95Threshold) ∨
    AtLimit (value w.utilization.maximum * (w.cores.toNat / cores.toNat)) 1

variable {p : CoreReduction} {w : Workload} {cores fewer : UInt32}

private theorem threshold_bounds (hp : p.validate = .ok ()) :
    p.p95Threshold.isFinite = true ∧ 0 ≤ value p.p95Threshold := by
  obtain ⟨hpos, hone⟩ := (validate_ok_iff.1 hp).2.2.2.1
  have hfinite := Numeral.isFinite_of_le_of_le (by decide) (by decide) (Numeral.float_le_of_lt hpos) hone
  have hlt := (Numeral.lt_iff (by decide) hfinite).1 hpos
  rw [Numeral.value_zero] at hlt
  exact ⟨hfinite, le_of_lt hlt⟩

/-- A utilisation that reaches a limit on fewer cores, but not when it is computed by way of a core count between. -/
private theorem atLimit_of_computed {x limit : Float} (hx : Workload.IsFraction x) (hfewer : 1 ≤ fewer)
    (hlt : fewer < cores) (hle : cores ≤ w.cores) (hfinite : limit.isFinite = true) (hnonneg : 0 ≤ value limit)
    (hreached : ¬ x * (w.cores.toFloat / fewer.toFloat) < limit)
    (hkept : x * (w.cores.toFloat / cores.toFloat) * (cores.toFloat / fewer.toFloat) ≤ limit) :
    AtLimit (value x * (w.cores.toNat / fewer.toNat)) (value limit) := by
  have hcores : 1 ≤ cores := UInt32.le_trans hfewer (UInt32.le_of_lt hlt)
  have hwithin := Workload.within_of_isFraction hx
  obtain ⟨honce, wonce⟩ := within_scaled hwithin (by norm_num) w.cores hfewer
  obtain ⟨hfirst, wfirst⟩ := within_scaled hwithin (by norm_num) w.cores hcores
  obtain ⟨htwice, wtwice⟩ := within_scaled wfirst (by norm_num) cores hfewer
  have hpos : (1 : ℚ) ≤ fewer.toNat := by exact_mod_cast UInt32.le_iff_toNat_le.1 hfewer
  have hpos' : (1 : ℚ) ≤ cores.toNat := by exact_mod_cast UInt32.le_iff_toNat_le.1 hcores
  have hword : (cores.toNat : ℚ) / fewer.toNat ≤ 2 ^ 32 := by
    refine le_trans (div_le_self (by linarith) hpos) ?_
    exact_mod_cast le_of_lt cores.toNat_lt
  have hratio : (w.cores.toNat : ℚ) / fewer.toNat = w.cores.toNat / cores.toNat * (cores.toNat / fewer.toNat) := by
    rw [div_mul_div_cancel₀ (by linarith)]
  rw [Numeral.lt_iff wonce.isFinite hfinite, not_lt, honce] at hreached
  rw [Numeral.le_iff wtwice.isFinite hfinite, htwice, hfirst] at hkept
  rw [hratio] at hreached ⊢
  exact atLimit_of_scaled (Workload.fraction_bounds hx).1 (one_le_ratio hcores hle)
    (one_le_ratio hfewer (UInt32.le_of_lt hlt)) hword hnonneg hreached hkept

/-- A count that the workload does not fit on, but does after a reduction to more cores, is on the edge. -/
theorem onEdge_of_fits_again (hp : p.validate = .ok ()) (hp95 : Workload.IsFraction w.utilization.p95)
    (hmaximum : Workload.IsFraction w.utilization.maximum) (hfewer : 1 ≤ fewer) (hlt : fewer < cores)
    (hle : cores ≤ w.cores) (hunfit : ¬ p.Fits w fewer)
    (hfits : p.Fits { w with cores, utilization := utilizationOn w cores } fewer) : p.OnEdge w fewer := by
  by_cases hunsaturated : (utilizationOn w fewer).p95 < p.p95Threshold
  · right
    have hexceeds : ¬ (utilizationOn w fewer).maximum < 1.0 :=
      fun hbelow => hunfit ⟨hunsaturated, Numeral.float_le_of_lt hbelow⟩
    have hone : 0 ≤ value 1.0 := by rw [Numeral.value_one]; norm_num
    have hlimit := atLimit_of_computed hmaximum hfewer hlt hle (by decide) hone hexceeds hfits.maximum_le
    rwa [Numeral.value_one] at hlimit
  · left
    obtain ⟨hfinite, hnonneg⟩ := threshold_bounds hp
    exact atLimit_of_computed hp95 hfewer hlt hle hfinite hnonneg hunsaturated (Numeral.float_le_of_lt hfits.p95_lt)

/-! ### A second reduction -/

/-- What a second reduction takes was rejected by the first one, on the edge. -/
theorem onEdge_of_reducesTo (hp : p.validate = .ok ()) (hp95 : Workload.IsFraction w.utilization.p95)
    (hmaximum : Workload.IsFraction w.utilization.maximum) (hfirst : p.ReducesTo w cores)
    (hagain : p.ReducesTo { w with cores, utilization := utilizationOn w cores } fewer) :
    ¬ p.Fits w fewer ∧ p.OnEdge w fewer := by
  obtain ⟨⟨hmem, -, hfits⟩, -⟩ := hagain.least
  have hlt : fewer < cores := hagain.fewer
  have hle : fewer ≤ w.cores := UInt32.le_trans (UInt32.le_of_lt hlt) (UInt32.le_of_lt hfirst.fewer)
  have hunfit : ¬ p.Fits w fewer := by
    intro hfits'
    exact absurd (hfirst.least.2 ⟨hmem, hle, hfits'⟩) (UInt32.not_le.2 hlt)
  exact ⟨hunfit, onEdge_of_fits_again hp hp95 hmaximum (one_le_of_mem hp hmem) hlt (UInt32.le_of_lt hfirst.fewer) hunfit
    hfits⟩

private theorem apply_of_always {a : Adjustment} {proposal : Workload} (halways : a.acceptance = .always)
    (h : a.proposal? w = some proposal) (g : Generator) : a.apply w g = (⟨proposal, true⟩, g) := by
  have hdraw : AcceptanceRate.always.draw g = (true, g) := if_pos (by decide)
  rw [Adjustment.apply_of_some h, halways, hdraw, if_pos rfl]

/--
With a user who always accepts, a workload that the first application leaves alone is left alone by a second one.  If
the second application reduces the workload again, then to a count that the first one rejected on the edge.  So if no
listed count is on the edge, the second application changes nothing.
-/
theorem apply_twice (p : CoreReduction) (w : Workload) (g g' : Generator) (hp : p.validate = .ok ())
    (halways : p.acceptance = .always) (hp95 : Workload.IsFraction w.utilization.p95)
    (hmaximum : Workload.IsFraction w.utilization.maximum) :
    ∃ first again, (Adjustment.coreReduction p).apply w g = (first, g) ∧
      (Adjustment.coreReduction p).apply first.workload g' = (again, g') ∧
      (first.changed = false → again = ⟨w, false⟩) ∧
      (again.changed = false → again = ⟨first.workload, false⟩) ∧
      (again.changed = true → ∃ cores, p.ReducesTo first.workload cores ∧
        again.workload = { first.workload with cores, utilization := utilizationOn first.workload cores } ∧
        ¬ p.Fits w cores ∧ p.OnEdge w cores) ∧
      ((∀ cores ∈ p.coreCounts, ¬ p.OnEdge w cores) → again = ⟨first.workload, false⟩) := by
  cases hproposal : p.proposal? w with
  | none =>
    have hnone (g : Generator) := Adjustment.apply_of_none (a := .coreReduction p) hproposal g
    exact ⟨⟨w, false⟩, ⟨w, false⟩, hnone g, hnone g', fun _ => rfl, fun _ => rfl, nofun, fun _ => rfl⟩
  | some proposal =>
    obtain ⟨cores, hfirst, rfl⟩ := (proposal?_eq_reduced_iff hp).1 hproposal
    have happly := apply_of_always (a := .coreReduction p) halways hproposal g
    cases hproposal' : p.proposal? { w with cores, utilization := utilizationOn w cores } with
    | none =>
      have hnone := Adjustment.apply_of_none (a := .coreReduction p) hproposal' g'
      exact ⟨_, _, happly, hnone, nofun, fun _ => rfl, nofun, fun _ => rfl⟩
    | some proposal' =>
      obtain ⟨fewer, hagain, rfl⟩ := (proposal?_eq_reduced_iff hp).1 hproposal'
      obtain ⟨hunfit, hedge⟩ := onEdge_of_reducesTo hp hp95 hmaximum hfirst hagain
      have happly' := apply_of_always (a := .coreReduction p) halways hproposal' g'
      refine ⟨_, _, happly, happly', nofun, nofun, fun _ => ⟨fewer, hagain, rfl, hunfit, hedge⟩, fun hnone => ?_⟩
      exact absurd hedge (hnone fewer hagain.least.1.1)

/-- Forty cores for a day, busy to 48 percent: on 24 of them it would be 80 percent. -/
def fortyCores : Workload where
  id := 1
  window := ⟨0, 86400⟩
  traceWindow := ⟨0, 86400⟩
  runtime := 86400
  cores := 40
  ramMegabytes := 32000
  utilization := ⟨0.01, 0.48, 0.48⟩

theorem apply_twice_fortyCores :
    let p : CoreReduction := default
    p.validate = .ok () ∧ p.acceptance = .always ∧ Workload.IsFraction fortyCores.utilization.p95 ∧
      Workload.IsFraction fortyCores.utilization.maximum ∧
      ∃ first again, (Adjustment.coreReduction p).apply fortyCores ⟨1, 2, 3, 4⟩ = (first, ⟨1, 2, 3, 4⟩) ∧
        (Adjustment.coreReduction p).apply first.workload ⟨1, 2, 3, 4⟩ = (again, ⟨1, 2, 3, 4⟩) ∧
        again.changed = true ∧ again.workload.cores = 24 ∧ ¬ p.Fits fortyCores 24 ∧ p.OnEdge fortyCores 24 := by
  intro p
  have hp95 : Workload.IsFraction fortyCores.utilization.p95 := ⟨by decide, by decide⟩
  have hmaximum : Workload.IsFraction fortyCores.utilization.maximum := ⟨by decide, by decide⟩
  obtain ⟨first, again, hfirst, hagain, -, -, hedge, -⟩ :=
    apply_twice p fortyCores ⟨1, 2, 3, 4⟩ ⟨1, 2, 3, 4⟩ (by decide) rfl hp95 hmaximum
  have htwice : ((Adjustment.coreReduction p).apply
      ((Adjustment.coreReduction p).apply fortyCores ⟨1, 2, 3, 4⟩).1.workload ⟨1, 2, 3, 4⟩).1.changed = true ∧
      ((Adjustment.coreReduction p).apply
        ((Adjustment.coreReduction p).apply fortyCores ⟨1, 2, 3, 4⟩).1.workload ⟨1, 2, 3, 4⟩).1.workload.cores = 24 := by
    decide +kernel
  rw [hfirst, hagain] at htwice
  obtain ⟨hchanged, hcores⟩ := htwice
  obtain ⟨cores, -, hworkload, hunfit, honEdge⟩ := hedge hchanged
  rw [hworkload] at hcores
  obtain rfl : cores = 24 := hcores
  exact ⟨by decide, rfl, hp95, hmaximum, first, again, hfirst, hagain, hchanged,
    by rw [hworkload], hunfit, honEdge⟩

/-- On the edge a second application may reduce a workload that the first one has already reduced. -/
theorem exists_reduced_twice : ¬ ∀ (p : CoreReduction) (w : Workload) (g g' : Generator), p.validate = .ok () →
    p.acceptance = .always → 1 ≤ w.cores → Workload.IsFraction w.utilization.average →
    Workload.IsFraction w.utilization.maximum → Workload.IsFraction w.utilization.p95 →
    ((Adjustment.coreReduction p).apply ((Adjustment.coreReduction p).apply w g).1.workload g').1 =
      ⟨((Adjustment.coreReduction p).apply w g).1.workload, false⟩ := by
  intro hidempotent
  have hunchanged := hidempotent default fortyCores ⟨1, 2, 3, 4⟩ ⟨1, 2, 3, 4⟩ (by decide) rfl (by decide)
    ⟨by decide, by decide⟩ ⟨by decide, by decide⟩ ⟨by decide, by decide⟩
  have hchanged : ((Adjustment.coreReduction default).apply
      ((Adjustment.coreReduction default).apply fortyCores ⟨1, 2, 3, 4⟩).1.workload ⟨1, 2, 3, 4⟩).1.changed = true := by
    decide +kernel
  rw [hunchanged] at hchanged
  cases hchanged

end CoreReduction

end CarbonAware
