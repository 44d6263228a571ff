import CarbonAware.Proofs.Outcomes
import CarbonAware.Proofs.Numeral.Conversions

/-!
# A higher acceptance rate only adds changes

A rate below one accepts the random words below the rate times `2 ^ 64`, cut off (`AcceptanceRate.draw_eq`), so with
one generator a higher rate accepts whatever a lower rate accepts (`AcceptanceRate.draw_mono`).  A single policy leaves
a workload as it is, or changes it in a way that does not depend on the rate (`Simulation.settled_single`).  Hence the
runs at two rates are coupled: what the lower rate changes ends as at the higher rate (`Simulation.run_coupled`).
-/

namespace CarbonAware

/-! ### One draw -/

namespace AcceptanceRate

open Numeral (isFinite_of_le_of_le le_iff beq_iff value_zero value_one rounds_mul inRange_of_abs_le Rounds IsDyadic
  isDyadic_value nearest_of_isDyadic rounds_literal)

theorem isFinite_value (r : AcceptanceRate) : r.value.isFinite = true :=
  isFinite_of_le_of_le (by decide) (by decide) r.nonneg r.le_one

/-- The rate as a rational number. -/
def probability (r : AcceptanceRate) : ℚ := Numeral.value r.value

theorem probability_nonneg (r : AcceptanceRate) : 0 ≤ r.probability := by
  have := (le_iff (by decide) r.isFinite_value).1 r.nonneg
  rwa [value_zero] at this

theorem probability_le_one (r : AcceptanceRate) : r.probability ≤ 1 := by
  have := (le_iff r.isFinite_value (by decide)).1 r.le_one
  rwa [value_one] at this

theorem probability_mono {r r' : AcceptanceRate} (h : r.value ≤ r'.value) : r.probability ≤ r'.probability :=
  (le_iff r.isFinite_value r'.isFinite_value).1 h

private theorem value_eq_one_iff (r : AcceptanceRate) : (r.value == 1.0) = true ↔ r.probability = 1 := by
  rw [beq_iff r.isFinite_value (by decide), value_one]
  rfl

private theorem two_pow_le : (2 : ℚ) ^ 64 ≤ 2 ^ (1023 : ℤ) := by
  rw [← zpow_natCast]
  exact zpow_le_zpow_right₀ (by norm_num) (by norm_num)

private theorem rounds_scale : Rounds 18446744073709551616.0 (2 ^ 64) := by
  have hscale : ((184467440737095516160 : ℕ) : ℚ) / 10 ^ 1 = 2 ^ 64 := by norm_num
  have hround := rounds_literal (m := 184467440737095516160) (k := 1) (by norm_num)
  rw [hscale] at hround
  exact hround (inRange_of_abs_le (by rw [abs_of_pos (by norm_num)]; exact two_pow_le))

/-- A rate below one is scaled to the random words without a rounding error. -/
theorem toNat_threshold {r : AcceptanceRate} (h : r.probability < 1) :
    (r.threshold.toNat : ℤ) = ⌊r.probability * 2 ^ 64⌋ := by
  have hscale : Numeral.value 18446744073709551616.0 = 2 ^ 64 := by
    rw [rounds_scale.value_eq]
    exact nearest_of_isDyadic (Numeral.isDyadic_two_zpow (e := 64) (by norm_num))
  have hnonneg : 0 ≤ r.probability * 2 ^ 64 := mul_nonneg r.probability_nonneg (by norm_num)
  have hlt : r.probability * 2 ^ 64 < 2 ^ 64 := mul_lt_of_lt_one_left (by norm_num) h
  have hrounds : Rounds (r.value * 18446744073709551616.0) (r.probability * 2 ^ 64) := by
    have := rounds_mul r.isFinite_value rounds_scale.isFinite
    rw [hscale] at this
    refine this (inRange_of_abs_le ?_)
    change |r.probability * 2 ^ 64| ≤ _
    rw [abs_of_nonneg hnonneg]
    exact le_trans (le_of_lt hlt) two_pow_le
  have hexact : Numeral.nearest (r.probability * 2 ^ 64) = r.probability * 2 ^ 64 :=
    nearest_of_isDyadic (IsDyadic.scale (isDyadic_value r.value) 64)
  have htoNat := Numeral.toNat_toUInt64 hrounds.isFinite
  -- scaling by a power of two is exact, so only the cutting off is left
  rw [hrounds.value_eq, hexact, Numeral.integerPart_of_nonneg hnonneg] at htoNat
  change r.threshold.toNat = _ at htoNat
  have hfloor : ⌊r.probability * 2 ^ 64⌋ < 2 ^ 64 := Int.floor_lt.2 (by exact_mod_cast hlt)
  have hfloor' : 0 ≤ ⌊r.probability * 2 ^ 64⌋ := Int.floor_nonneg.2 hnonneg
  omega

/-- A rate of one accepts without a random word, and a lower one the words below the rate times `2 ^ 64`. -/
theorem draw_eq (r : AcceptanceRate) (g : Generator) : r.draw g =
    if r.probability = 1 then (true, g)
    else (decide ((g.next.1.toNat : ℤ) < ⌊r.probability * 2 ^ 64⌋), g.next.2) := by
  unfold draw
  by_cases hone : r.probability = 1
  · rw [if_pos ((value_eq_one_iff r).2 hone), if_pos hone]
  · rw [if_neg (fun h => hone ((value_eq_one_iff r).1 h)), if_neg hone,
      ← toNat_threshold (lt_of_le_of_ne r.probability_le_one hone)]
    simp only [UInt64.lt_iff_toNat_lt, Int.ofNat_lt]

/-- What a rate accepts, a higher rate accepts too. -/
theorem draw_mono {r r' : AcceptanceRate} (h : r.value ≤ r'.value) {g : Generator} (haccepted : (r.draw g).1 = true) :
    (r'.draw g).1 = true := by
  have hle := probability_mono h
  rw [draw_eq] at haccepted ⊢
  by_cases hone' : r'.probability = 1
  · rw [if_pos hone']
  · have hone : r.probability ≠ 1 := fun hone => hone' (le_antisymm r'.probability_le_one (hone ▸ hle))
    rw [if_neg hone] at haccepted
    rw [if_neg hone']
    have hfloor := Int.floor_le_floor (mul_le_mul_of_nonneg_right hle (by norm_num : (0 : ℚ) ≤ 2 ^ 64))
    exact decide_eq_true (lt_of_lt_of_le (of_decide_eq_true haccepted) hfloor)

theorem draw_of_zero {r : AcceptanceRate} (h : r.value ≤ 0.0) (g : Generator) : (r.draw g).1 = false := by
  have hle := (le_iff r.isFinite_value (by decide)).1 h
  rw [value_zero] at hle
  have hzero : r.probability = 0 := le_antisymm hle r.probability_nonneg
  rw [draw_eq, hzero, if_neg (by norm_num), zero_mul, Int.floor_zero]
  exact decide_eq_false (p := (g.next.1.toNat : ℤ) < 0) (by omega)

end AcceptanceRate

/-! ### Scenarios of one policy -/

/-- A policy that leaves the acceptance rate open. -/
inductive SinglePolicy where
  | threshold (policy : ThresholdShift)
  | movingAverage (policy : MovingAverageShift)
  | coreReduction (policy : CoreReduction)
  | shutdown (policy : Shutdown)

/-- The scenario of the policy alone, at the given acceptance rate. -/
def SinglePolicy.scenario (rate : AcceptanceRate) : SinglePolicy → Scenario
  | threshold policy => ⟨.threshold { policy with acceptance := rate }, .none⟩
  | movingAverage policy => ⟨.movingAverage { policy with acceptance := rate }, .none⟩
  | coreReduction policy => ⟨.none, .coreReduction { policy with acceptance := rate }⟩
  | shutdown policy => ⟨.none, .shutdown { policy with acceptance := rate }⟩

/-- Each workload is as it was before, or as in the other outcome. -/
structure Outcome.CoupledTo (o o' : Outcome) (before : List Workload) : Prop where
  length_eq : o.workloads.length = before.length
  length_eq' : o'.workloads.length = before.length
  coupled : ∀ i : Nat, o.workloads[i]? = before[i]? ∨ o.workloads[i]? = o'.workloads[i]?

namespace Simulation

variable (s : Simulation)

/-- The generator of the one draw that the policy makes for the workload. -/
def generatorOf : SinglePolicy → Workload → Generator
  | .threshold _, w | .movingAverage _, w => (Decisions.mk s.seed |>.salted reschedulingSalt).generator w.id
  | .coreReduction _, w | .shutdown _, w => (Decisions.mk s.seed |>.salted adjustmentSalt).generator w.id

/-- What the policy makes of a workload whose user accepts. -/
def changedBy : SinglePolicy → Workload → Workload
  | .threshold p, w => w.inWindow
    (destination? s.eligibility.contains (p.findWindow s.series (LowCarbonRun.all s.series p.rateThreshold)) w)
  | .movingAverage p, w => w.inWindow (destination? s.eligibility.contains (p.findWindow s.series) w)
  | .coreReduction p, w => (p.proposal? w).getD w
  | .shutdown p, w => (p.proposal? w).getD w

variable {s}

private theorem settled_of_rescheduling {r : Rescheduling} {rate : AcceptanceRate} {decisions : Decisions}
    {search : WindowSearch} (h : s.proposals r = Rescheduling.ifAccepted rate decisions search) (w : Workload) :
    (s.settled ⟨r, .none⟩ w).workload = if (rate.draw (decisions.generator w.id)).1
      then w.inWindow (destination? s.eligibility.contains search w) else w := by
  have hsettled : (s.settled ⟨r, .none⟩ w).workload = s.rescheduled r w := rfl
  rw [hsettled, rescheduled, h]
  unfold destination? Rescheduling.ifAccepted
  by_cases haccepted : (rate.draw (decisions.generator w.id)).1 = true
  · simp only [if_pos haccepted]
  · simp only [if_neg haccepted]
    split <;> rfl

private theorem settled_of_adjustment (a : Adjustment) (w : Workload) :
    (s.settled ⟨.none, a⟩ w).workload =
      if (a.acceptance.draw ((Decisions.mk s.seed |>.salted adjustmentSalt).generator w.id)).1
      then (a.proposal? w).getD w else w := by
  have hrescheduled : s.rescheduled .none w = w := by
    unfold rescheduled destination?
    split <;> rfl
  rw [settled, hrescheduled, adjusted, Adjustment.applyOwn, Adjustment.apply]
  -- without a proposal there is no draw, and none is needed
  cases a.proposal? w with
  | none => exact (ite_self w).symm
  | some proposal =>
    simp only [Option.getD_some]
    split <;> rfl

/-- A single policy changes the workload if the user accepts, and the change does not depend on the rate. -/
theorem settled_single (policy : SinglePolicy) (rate : AcceptanceRate) (w : Workload) :
    (s.settled (policy.scenario rate) w).workload =
      if (rate.draw (s.generatorOf policy w)).1 then s.changedBy policy w else w := by
  cases policy with
  | threshold p =>
    have hsearch : s.proposals (.threshold { p with acceptance := rate }) = Rescheduling.ifAccepted rate _
      (p.findWindow s.series (LowCarbonRun.all s.series p.rateThreshold)) := rfl
    exact settled_of_rescheduling hsearch w
  | movingAverage p =>
    have hsearch : s.proposals (.movingAverage { p with acceptance := rate }) =
      Rescheduling.ifAccepted rate _ (p.findWindow s.series) := rfl
    exact settled_of_rescheduling hsearch w
  | coreReduction p => exact settled_of_adjustment (.coreReduction { p with acceptance := rate }) w
  | shutdown p => exact settled_of_adjustment (.shutdown { p with acceptance := rate }) w

private theorem settled_coupled (policy : SinglePolicy) {rate rate' : AcceptanceRate} (h : rate.value ≤ rate'.value)
    (w : Workload) : (s.settled (policy.scenario rate) w).workload = w ∨
      (s.settled (policy.scenario rate) w).workload = (s.settled (policy.scenario rate') w).workload := by
  rw [settled_single, settled_single]
  by_cases haccepted : (rate.draw (s.generatorOf policy w)).1 = true
  · rw [if_pos haccepted, if_pos (AcceptanceRate.draw_mono h haccepted)]
    exact .inr rfl
  · rw [if_neg haccepted]
    exact .inl rfl

private theorem coupled_of_run {policy : SinglePolicy} {rate rate' : AcceptanceRate} {o o' : Outcome}
    (h : rate.value ≤ rate'.value) (ho : s.run (policy.scenario rate) = .ok o)
    (ho' : s.run (policy.scenario rate') = .ok o') : o.CoupledTo o' s.workloads := by
  rw [run_eq_ok ho, run_eq_ok ho']
  refine ⟨List.length_map _, List.length_map _, fun i => ?_⟩
  simp only [outcomeOf, List.getElem?_map]
  cases s.workloads[i]? with
  | none => exact .inl rfl
  | some w => exact (settled_coupled policy h w).imp (congrArg some) (congrArg some)

/--
A higher acceptance rate only adds changes.  In the runs of one policy at two rates, each workload that the lower rate
changes ends as at the higher rate.  So a rate of zero changes nothing, and what any rate changes ends as at a rate of
one.  A draw accepts the random words below the rate times `2 ^ 64`, and needs none if the rate is one.
-/
theorem run_coupled (s : Simulation) (policy : SinglePolicy) :
    (∀ (rate rate' : AcceptanceRate) (o o' : Outcome), rate.value ≤ rate'.value →
      s.run (policy.scenario rate) = .ok o → s.run (policy.scenario rate') = .ok o' → o.CoupledTo o' s.workloads) ∧
    (∀ (rate : AcceptanceRate) (o : Outcome), rate.value ≤ 0.0 → s.run (policy.scenario rate) = .ok o →
      o.workloads = s.workloads) ∧
    (∀ (rate : AcceptanceRate) (o all : Outcome), s.run (policy.scenario rate) = .ok o →
      s.run (policy.scenario .always) = .ok all →
      ∀ i : Nat, o.workloads[i]? ≠ s.workloads[i]? → o.workloads[i]? = all.workloads[i]?) ∧
    ∀ (rate : AcceptanceRate) (g : Generator), rate.draw g =
      if rate.probability = 1 then (true, g)
      else (decide ((g.next.1.toNat : ℤ) < ⌊rate.probability * 2 ^ 64⌋), g.next.2) := by
  refine ⟨fun rate rate' o o' => coupled_of_run, ?_, ?_, AcceptanceRate.draw_eq⟩
  · intro rate o hzero ho
    rw [run_eq_ok ho]
    refine (List.map_congr_left fun w _ => ?_).trans (List.map_id s.workloads)
    rw [settled_single, AcceptanceRate.draw_of_zero hzero]
    rfl
  · intro rate o all ho hall i hne
    have hle : rate.value ≤ AcceptanceRate.always.value := rate.le_one
    exact ((coupled_of_run hle ho hall).coupled i).resolve_left hne

theorem run_coupled_twoMachines :
    let lower : AcceptanceRate := ⟨0.25, by decide, by decide⟩
    let higher : AcceptanceRate := ⟨0.5, by decide, by decide⟩
    let policy : SinglePolicy := .shutdown default
    ∃ none o o' all, twoMachines.run (policy.scenario .never) = .ok none ∧
      twoMachines.run (policy.scenario lower) = .ok o ∧ twoMachines.run (policy.scenario higher) = .ok o' ∧
      twoMachines.run (policy.scenario .always) = .ok all ∧ o.CoupledTo o' twoMachines.workloads ∧
      none.workloads = twoMachines.workloads ∧
      ∀ i : Nat, o.workloads[i]? ≠ twoMachines.workloads[i]? → o.workloads[i]? = all.workloads[i]? := by
  intro lower higher policy
  have hok (rate : AcceptanceRate) : ∃ o, twoMachines.run (policy.scenario rate) = .ok o := by
    have hfloor : (0.0 : Float) ≤ 0.01 ∧ (0.01 : Float) < 1.0 := by decide
    have hvalid : (policy.scenario rate).validate = .ok () := Scenario.validate_ok_iff.2 ⟨rfl, if_pos hfloor⟩
    exact run_ok_of_covered hvalid (by decide) fun w hw => (twoMachines_onGrid w hw).covered
  obtain ⟨none, hnone⟩ := hok .never
  obtain ⟨o, ho⟩ := hok lower
  obtain ⟨o', ho'⟩ := hok higher
  obtain ⟨all, hall⟩ := hok .always
  obtain ⟨hcoupled, hzero, hone, -⟩ := run_coupled twoMachines policy
  exact ⟨none, o, o', all, hnone, ho, ho', hall, hcoupled lower higher o o' (by decide) ho ho',
    hzero .never none (by decide) hnone, hone lower o all ho hall⟩

end Simulation

end CarbonAware
