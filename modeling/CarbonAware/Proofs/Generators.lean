import CarbonAware.Proofs.Outcomes

/-!
# The generators of a run

Every step of the seeding generator's mixing can be undone (`SplitMix.mix_injective`), so each seed gives a state of its
own, and none of them is zero (`Generator.ofSeed_injective`, `Generator.ofSeed_ne_zero`).  The lower half of a
generator's seed tells the stage, and the upper half the workload (`Decisions.lowerHalf_seedOf`,
`Decisions.seedOf_injective`).  Hence no two decisions of a run share a generator (`Simulation.run_generators_differ`).
-/

namespace CarbonAware

/-! ### Mixing words -/

/-- Only zero is left as it is by a shift to the right. -/
private theorem eq_zero_of_eq_shiftRight {word n : UInt64} (hn : 0 < n.toNat % 64) (h : word = word >>> n) :
    word = 0 := by
  have htoNat := congrArg UInt64.toNat h
  rw [UInt64.toNat_shiftRight, Nat.shiftRight_eq_div_pow] at htoNat
  have htwo : 2 ≤ 2 ^ (n.toNat % 64) := Nat.le_self_pow (Nat.ne_of_gt hn) 2
  have hhalf : word.toNat / 2 ^ (n.toNat % 64) ≤ word.toNat / 2 := Nat.div_le_div_left htwo (by norm_num)
  rw [← UInt64.toNat_inj, UInt64.toNat_zero]
  omega

/-- A word can be recovered after a copy of it, shifted to the right, has been mixed in. -/
theorem xor_shiftRight_injective {n : UInt64} (hn : 0 < n.toNat % 64) :
    Function.Injective fun word : UInt64 => word ^^^ word >>> n := by
  intro a b h
  have hmixed : a ^^^ a >>> n = b ^^^ b >>> n := h
  -- the difference of the two words is its own shifted copy
  have hdifference : a ^^^ b = (a ^^^ b) >>> n := by
    rw [UInt64.shiftRight_xor, ← UInt64.xor_eq_zero_iff]
    calc (a ^^^ b) ^^^ (a >>> n ^^^ b >>> n) = (a ^^^ a >>> n) ^^^ (b ^^^ b >>> n) := by ac_rfl
      _ = 0 := UInt64.xor_eq_zero_iff.2 hmixed
  exact UInt64.xor_eq_zero_iff.1 (eq_zero_of_eq_shiftRight hn hdifference)

/-- A factor that has an inverse can be divided by. -/
theorem mul_injective_of_inverse {factor inverse : UInt64} (h : factor * inverse = 1) :
    Function.Injective fun word : UInt64 => word * factor := by
  intro a b hab
  have hcancel : a * factor * inverse = b * factor * inverse := congrArg (· * inverse) hab
  rwa [UInt64.mul_assoc, UInt64.mul_assoc, h, UInt64.mul_one, UInt64.mul_one] at hcancel

namespace SplitMix

theorem mix_injective : Function.Injective mix := by
  have hfirst : (0xbf58476d1ce4e5b9 : UInt64) * 0x96de1b173f119089 = 1 := by decide
  have hsecond : (0x94d049bb133111eb : UInt64) * 0x319642b2d24d8ec3 = 1 := by decide
  have hstart := (mul_injective_of_inverse hfirst).comp (xor_shiftRight_injective (n := 30) (by decide))
  have hmiddle := (mul_injective_of_inverse hsecond).comp
    ((xor_shiftRight_injective (n := 27) (by decide)).comp hstart)
  exact (xor_shiftRight_injective (n := 31) (by decide)).comp hmiddle

theorem mix_eq_zero_iff {state : UInt64} : mix state = 0 ↔ state = 0 := by
  have hzero : mix 0 = 0 := by decide
  rw [← hzero, mix_injective.eq_iff, hzero]

end SplitMix

/-! ### Generators and their seeds -/

namespace Generator

/-- Already the first word of the state tells the seed. -/
theorem ofSeed_injective : Function.Injective ofSeed := by
  intro seed seed' h
  have hfirst : SplitMix.mix (seed + SplitMix.increment) = SplitMix.mix (seed' + SplitMix.increment) :=
    congrArg Generator.s0 h
  exact (UInt64.add_left_inj _).1 (SplitMix.mix_injective hfirst)

/-- Two words in a row cannot both come from the state zero, which is left by the next increment. -/
theorem ofSeed_ne_zero (seed : UInt64) : ofSeed seed ≠ ⟨0, 0, 0, 0⟩ := by
  intro h
  have hfirst : seed + SplitMix.increment = 0 := SplitMix.mix_eq_zero_iff.1 (congrArg Generator.s0 h)
  have hsecond : seed + 2 * SplitMix.increment = 0 := SplitMix.mix_eq_zero_iff.1 (congrArg Generator.s1 h)
  rw [← hfirst] at hsecond
  exact absurd ((UInt64.add_right_inj _).1 hsecond) (by decide)

end Generator

namespace Decisions

/-- The number of a workload is moved to the upper half of a word. -/
private theorem toNat_rotateLeft (id : UInt32) : (rotateLeft id.toUInt64 32).toNat = id.toNat * 2 ^ 32 := by
  have hlt := id.toNat_lt
  have hempty : id.toUInt64 >>> (64 - 32) = 0 := by
    rw [← UInt64.toNat_inj, UInt64.toNat_shiftRight, Nat.shiftRight_eq_div_pow]
    exact Nat.div_eq_of_lt hlt
  rw [rotateLeft, hempty, UInt64.or_zero, UInt64.toNat_shiftLeft, Nat.shiftLeft_eq]
  change id.toNat * 2 ^ 32 % 2 ^ 64 = _
  exact Nat.mod_eq_of_lt (by omega)

/-- The lower half of a generator's seed does not hang on the workload. -/
theorem lowerHalf_seedOf (d : Decisions) (id : UInt32) : (d.seedOf id).toUInt32 = d.seed.toUInt32 := by
  have hlower : (rotateLeft id.toUInt64 32).toUInt32 = 0 := by
    rw [← UInt32.toNat_inj, UInt64.toNat_toUInt32, toNat_rotateLeft, Nat.mul_mod_left]
    rfl
  rw [seedOf, UInt64.toUInt32_xor, hlower, UInt32.xor_zero]

/-- Within a stage, the upper half tells the workload. -/
theorem seedOf_injective (d : Decisions) : Function.Injective d.seedOf := by
  intro id id' h
  have hrotated := congrArg UInt64.toNat ((UInt64.xor_right_inj _).1 h)
  rw [toNat_rotateLeft, toNat_rotateLeft] at hrotated
  exact UInt32.toNat_inj.1 (Nat.eq_of_mul_eq_mul_right (by norm_num) hrotated)

end Decisions

/-! ### The decisions of a run -/

/-- A policy stage of a run. -/
inductive Stage where
  | rescheduling
  | adjustment
deriving DecidableEq, Repr

namespace Stage

/-- What the decisions of the stage are salted with. -/
def salt : Stage → UInt64
  | rescheduling => Simulation.reschedulingSalt
  | adjustment => Simulation.adjustmentSalt

/-- Already the lower halves of the salts are different. -/
theorem eq_of_lowerHalf_salt {stage stage' : Stage} (h : stage.salt.toUInt32 = stage'.salt.toUInt32) :
    stage = stage' := by
  cases stage <;> cases stage' <;> first | rfl | exact absurd h (by decide)

end Stage

/-- A pass depends on the proposals for the workloads that it goes through. -/
theorem reschedule_congr {selected : Workload → Bool} {propose propose' : WindowSearch} {ws : List Workload}
    (h : ∀ w ∈ ws, propose w = propose' w) (delays : Delays) :
    reschedule selected propose delays ws = reschedule selected propose' delays ws := by
  induction ws generalizing delays with
  | nil => rfl
  | cons w rest ih =>
    rw [List.forall_mem_cons] at h
    have hrest := ih h.2
    simp only [reschedule, h.1, hrest]

/-- A pass leaves the workloads in order, each with its number. -/
theorem map_id_reschedule (selected : Workload → Bool) (propose : WindowSearch) (delays : Delays)
    (ws : List Workload) : (reschedule selected propose delays ws).1.map (·.id) = ws.map (·.id) := by
  rw [← List.forall₂_eq_eq_eq, List.forall₂_map_left_iff, List.forall₂_map_right_iff]
  refine ((forall₂_reschedule delays ws).imp fun w later hlater => ?_).flip
  rcases hlater with rfl | ⟨window, -, rfl⟩
  · rfl
  · rfl

namespace Simulation

/-- The decisions of a stage. -/
def decisions (s : Simulation) (stage : Stage) : Decisions := (Decisions.mk s.seed).salted stage.salt

/-- Whether the user of a workload accepts what the policy of a stage recommends. -/
def accepts (s : Simulation) (scenario : Scenario) : Stage → Workload → Bool
  | .rescheduling, w => scenario.rescheduling.accepts (s.decisions .rescheduling) w
  | .adjustment, w => (scenario.adjustment.acceptance.draw ((s.decisions .adjustment).generator w.id)).1

/-- The same simulation with another seed. -/
def reseeded (s : Simulation) (seed : UInt64) : Simulation := { s with seed }

variable {s : Simulation}

/-- The seed of a decision's generator tells the stage and the workload. -/
theorem seedOf_decisions_injective {stage stage' : Stage} {id id' : UInt32}
    (h : (s.decisions stage).seedOf id = (s.decisions stage').seedOf id') : stage = stage' ∧ id = id' := by
  have hlower := congrArg UInt64.toUInt32 h
  rw [Decisions.lowerHalf_seedOf, Decisions.lowerHalf_seedOf] at hlower
  change (s.seed ^^^ stage.salt).toUInt32 = (s.seed ^^^ stage'.salt).toUInt32 at hlower
  rw [UInt64.toUInt32_xor, UInt64.toUInt32_xor, UInt32.xor_right_inj] at hlower
  obtain rfl := Stage.eq_of_lowerHalf_salt hlower
  exact ⟨rfl, Decisions.seedOf_injective _ h⟩

/-! ### What the seed decides -/

section Reseeded

variable {scenario : Scenario} {seed : UInt64}
  (h : ∀ w ∈ s.workloads, ∀ stage, (s.reseeded seed).accepts scenario stage w = s.accepts scenario stage w)
include h

private theorem reschedule_reseeded :
    (s.reseeded seed).reschedule scenario.rescheduling = s.reschedule scenario.rescheduling := by
  refine reschedule_congr (fun w hw => ?_) .none
  have haccepts : scenario.rescheduling.accepts ((s.reseeded seed).decisions .rescheduling) w =
    scenario.rescheduling.accepts (s.decisions .rescheduling) w := h w hw .rescheduling
  change scenario.rescheduling.proposals s.series (scenario.rescheduling.runs s.series)
      ((s.reseeded seed).decisions .rescheduling) w =
    scenario.rescheduling.proposals s.series (scenario.rescheduling.runs s.series) (s.decisions .rescheduling) w
  rw [Rescheduling.proposals_eq, Rescheduling.proposals_eq, haccepts]

/-- A policy that a workload has been moved by has not changed whose decision the adjustment is. -/
private theorem applyOwn_reseeded {w later : Workload} (hw : w ∈ s.workloads) (hlater : later.id = w.id) :
    scenario.adjustment.applyOwn ((s.reseeded seed).decisions .adjustment) later =
      scenario.adjustment.applyOwn (s.decisions .adjustment) later := by
  have haccepts : (scenario.adjustment.acceptance.draw (((s.reseeded seed).decisions .adjustment).generator w.id)).1 =
    (scenario.adjustment.acceptance.draw ((s.decisions .adjustment).generator w.id)).1 := h w hw .adjustment
  rw [← hlater] at haccepts
  unfold Adjustment.applyOwn
  cases hproposal : scenario.adjustment.proposal? later with
  | none => rw [Adjustment.apply_of_none hproposal, Adjustment.apply_of_none hproposal]
  | some proposal => rw [Adjustment.apply_of_some hproposal, Adjustment.apply_of_some hproposal, haccepts]

private theorem adjust_reseeded :
    (s.reseeded seed).adjust scenario.adjustment (s.reschedule scenario.rescheduling).1 =
      s.adjust scenario.adjustment (s.reschedule scenario.rescheduling).1 := by
  refine List.map_congr_left fun later hlater => ?_
  have hid : later.id ∈ s.workloads.map (·.id) := by
    rw [← map_id_reschedule]
    exact List.mem_map_of_mem hlater
  obtain ⟨w, hw, hsame⟩ := List.mem_map.1 hid
  exact applyOwn_reseeded h hw hsame.symm

/-- A seed that leads to the same decisions leads to the same run. -/
theorem run_reseeded : (s.reseeded seed).run scenario = s.run scenario := by
  unfold run
  rw [reschedule_reseeded h]
  simp only [adjust_reseeded h]
  rfl

end Reseeded

/--
No two decisions of a run share a generator: for different stages or workloads, both the seeds and the states of the
generators are different, and no state is zero.  The seed of the run matters only for the first draws of these
generators, so a run with another seed that leads to the same decisions is the same run.
-/
theorem run_generators_differ (s : Simulation) :
    (∀ stage id stage' id', (stage, id) ≠ (stage', id') →
      (s.decisions stage).seedOf id ≠ (s.decisions stage').seedOf id' ∧
      (s.decisions stage).generator id ≠ (s.decisions stage').generator id') ∧
    (∀ stage id, (s.decisions stage).generator id ≠ ⟨0, 0, 0, 0⟩) ∧
    ∀ (seed : UInt64) (scenario : Scenario),
      (∀ w ∈ s.workloads, ∀ stage, (s.reseeded seed).accepts scenario stage w = s.accepts scenario stage w) →
        (s.reseeded seed).run scenario = s.run scenario := by
  refine ⟨fun stage id stage' id' hne => ?_, fun stage id => Generator.ofSeed_ne_zero _, ?_⟩
  · have hseeds : (s.decisions stage).seedOf id ≠ (s.decisions stage').seedOf id' := by
      intro heq
      obtain ⟨rfl, rfl⟩ := seedOf_decisions_injective heq
      exact hne rfl
    exact ⟨hseeds, fun heq => hseeds (Generator.ofSeed_injective heq)⟩
  · exact fun seed scenario h => run_reseeded h

/-- Of the four decisions over two machines, the seeds 7 and 18 accept the same one. -/
theorem run_generators_differ_twoMachines :
    let half : AcceptanceRate := ⟨0.5, by decide, by decide⟩
    let scenario : Scenario :=
      ⟨.threshold { (default : ThresholdShift) with acceptance := half },
        .shutdown { (default : Shutdown) with acceptance := half }⟩
    (twoMachines.decisions .rescheduling).generator 1 ≠ (twoMachines.decisions .adjustment).generator 1 ∧
      (twoMachines.decisions .adjustment).generator 1 ≠ (twoMachines.decisions .adjustment).generator 2 ∧
      (twoMachines.decisions .adjustment).generator 1 ≠ ⟨0, 0, 0, 0⟩ ∧
      (twoMachines.reseeded 18).run scenario = twoMachines.run scenario := by
  intro half scenario
  obtain ⟨hdiffer, hnonzero, hrun⟩ := run_generators_differ twoMachines
  refine ⟨(hdiffer _ _ _ _ (by decide)).2, (hdiffer _ _ _ _ (by decide)).2, hnonzero _ _, hrun 18 scenario ?_⟩
  intro w hw stage
  rcases List.mem_pair.1 hw with rfl | rfl
  · cases stage <;> decide +kernel
  · cases stage <;> decide +kernel

end Simulation

end CarbonAware
