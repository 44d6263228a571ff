import CarbonAware.Proofs.Searches
import CarbonAware.Proofs.SecondsLeft

/-!
# The two stages of a scenario

A rescheduling pass without a failure moves every workload by itself, and what it counts is a sum over the workloads
(`reschedule_eq`, `tally_append`).  An adjustment changes a workload if it has a proposal for it and the draw accepts
(`Adjustment.changed_apply_iff`).  What it can do to a workload is listed in `Adjustment.applyOwn_cases`; on the grid it
does the same wherever the workload starts (`Adjustment.applyOwn_startingAt`).
-/

namespace CarbonAware

/-! ### The rescheduling of a list of workloads -/

namespace Workload

/-- The workload in the window that it is moved to, if it is moved. -/
def inWindow (w : Workload) : Option Window → Workload
  | none => w
  | some window => { w with window }

/-- The seconds by which a move postpones the workload. -/
def postponement (w : Workload) : Option Window → Int
  | none => 0
  | some window => Numeral.wrapInt64 (window.start - w.window.start)

end Workload

namespace Delays

/-- The counts of two passes together. -/
instance : Add Delays :=
  ⟨fun a b => ⟨a.eligible + b.eligible, a.moved + b.moved, Numeral.wrapInt64 (a.totalSeconds + b.totalSeconds)⟩⟩

theorem add_def (a b : Delays) : a + b =
    ⟨a.eligible + b.eligible, a.moved + b.moved, Numeral.wrapInt64 (a.totalSeconds + b.totalSeconds)⟩ := rfl

theorem add_assoc (a b c : Delays) : a + b + c = a + (b + c) := by
  simp only [add_def, Nat.add_assoc, Numeral.wrapInt64_add_left, Numeral.wrapInt64_add_right, Int.add_assoc]

/-- The total is a 64-bit number. -/
def Fits (d : Delays) : Prop := Numeral.wrapInt64 d.totalSeconds = d.totalSeconds

theorem fits_none : none.Fits := rfl

theorem fits_add (a b : Delays) : (a + b).Fits := Numeral.wrapInt64_wrapInt64 _

theorem add_none {d : Delays} (h : d.Fits) : d + none = d := by
  unfold Fits at h
  simp only [add_def, none, Nat.add_zero, Int.add_zero, h]

theorem none_add {d : Delays} (h : d.Fits) : none + d = d := by
  unfold Fits at h
  simp only [add_def, none, Nat.zero_add, Int.zero_add, h]

end Delays

section Pass

section Step

variable {selected : Workload → Bool} {propose : WindowSearch} {w : Workload}

theorem reschedule_of_not_selected (hselected : ¬ selected w = true) (delays : Delays) (rest : List Workload) :
    reschedule selected propose delays (w :: rest) =
      (w :: (reschedule selected propose delays rest).1, (reschedule selected propose delays rest).2) := by
  rw [reschedule, if_neg hselected]

theorem reschedule_of_error (hselected : selected w = true) {e : SeriesError} (hproposed : propose w = .error e)
    (delays : Delays) (rest : List Workload) :
    reschedule selected propose delays (w :: rest) = (w :: rest, .error e) := by
  rw [reschedule, if_pos hselected, hproposed]

theorem reschedule_of_ok (hselected : selected w = true) {found : Option Window} (hproposed : propose w = .ok found)
    (delays : Delays) (rest : List Workload) :
    reschedule selected propose delays (w :: rest) =
      ((w.moved delays.consider found).1 ::
          (reschedule selected propose (w.moved delays.consider found).2 rest).1,
        (reschedule selected propose (w.moved delays.consider found).2 rest).2) := by
  rw [reschedule, if_pos hselected, hproposed]

end Step

variable (selected : Workload → Bool) (propose : WindowSearch)

/-- Where a pass moves the workload: nowhere if it is not selected. -/
def destination? (w : Workload) : Option Window := if selected w then (propose w).toOption.join else none

/-- What a pass counts on the workloads. -/
def tally (ws : List Workload) : Delays where
  eligible := ws.countP selected
  moved := ws.countP fun w => (destination? selected propose w).isSome
  totalSeconds := Numeral.wrapInt64 (ws.map fun w => w.postponement (destination? selected propose w)).sum

theorem fits_tally (ws : List Workload) : (tally selected propose ws).Fits := Numeral.wrapInt64_wrapInt64 _

theorem tally_append (ws ws' : List Workload) :
    tally selected propose (ws ++ ws') = tally selected propose ws + tally selected propose ws' := by
  simp only [tally, Delays.add_def, List.countP_append, List.map_append, List.sum_append, Numeral.wrapInt64_add_left,
    Numeral.wrapInt64_add_right]

variable {selected propose}

private theorem destination?_of_ok {w : Workload} (hselected : selected w = true) {found : Option Window}
    (hfound : propose w = .ok found) : destination? selected propose w = found := by
  rw [destination?, if_pos hselected, hfound]
  rfl

private theorem tally_not_selected {w : Workload} (hselected : ¬ selected w = true) :
    tally selected propose [w] = .none := by
  have hdest : destination? selected propose w = none := if_neg hselected
  simp [tally, hselected, hdest, Workload.postponement, Delays.none, Numeral.wrapInt64]

/-- One step of a pass: the workload is moved, and counted by itself. -/
private theorem moved_eq {w : Workload} (hselected : selected w = true) {found : Option Window}
    (hfound : propose w = .ok found) {delays : Delays} (hfits : delays.Fits) :
    w.moved delays.consider found =
      (w.inWindow (destination? selected propose w), delays + tally selected propose [w]) := by
  have hdest := destination?_of_ok hselected hfound
  unfold Delays.Fits at hfits
  cases found with
  | none => simp [Workload.moved, Workload.inWindow, Workload.postponement, Delays.consider, Delays.add_def, tally,
      hselected, hdest, Numeral.wrapInt64_add_right, hfits]
  | some window => simp [Workload.moved, Workload.inWindow, Workload.postponement, Delays.consider, Delays.record,
      Delays.add_def, tally, hselected, hdest, Numeral.wrapInt64_add_right]

private theorem reschedule_from {ws : List Workload} {delays : Delays} (hfits : delays.Fits)
    (h : ∀ w ∈ ws, selected w = true → ∃ found, propose w = .ok found) :
    reschedule selected propose delays ws =
      (ws.map fun w => w.inWindow (destination? selected propose w), .ok (delays + tally selected propose ws)) := by
  induction ws generalizing delays with
  | nil => exact congrArg (fun d => ([], Except.ok d)) (Delays.add_none hfits).symm
  | cons w rest ih =>
    rw [List.forall_mem_cons] at h
    rw [List.map_cons, ← List.singleton_append, tally_append, ← Delays.add_assoc]
    by_cases hselected : selected w = true
    · obtain ⟨found, hfound⟩ := h.1 hselected
      rw [List.singleton_append, reschedule_of_ok hselected hfound, moved_eq hselected hfound hfits,
        ih (Delays.fits_add _ _) h.2]
    · have hdest : destination? selected propose w = none := if_neg hselected
      rw [List.singleton_append, reschedule_of_not_selected hselected, ih hfits h.2, tally_not_selected hselected,
        Delays.add_none hfits, hdest]
      rfl

/-- A pass without a failure moves every workload to its destination, each on its own. -/
theorem reschedule_eq {ws : List Workload}
    (h : ∀ w ∈ ws, selected w = true → ∃ found, propose w = .ok found) :
    reschedule selected propose .none ws =
      (ws.map fun w => w.inWindow (destination? selected propose w), .ok (tally selected propose ws)) := by
  rw [reschedule_from Delays.fits_none h, Delays.none_add (fits_tally _ _ _)]

private theorem proposed_of_reschedule_ok {ws : List Workload} {delays counted : Delays}
    (h : (reschedule selected propose delays ws).2 = .ok counted) :
    ∀ w ∈ ws, selected w = true → ∃ found, propose w = .ok found := by
  induction ws generalizing delays with
  | nil => exact fun _ hw => absurd hw List.not_mem_nil
  | cons w rest ih =>
    rw [List.forall_mem_cons]
    by_cases hselected : selected w = true
    · cases hfound : propose w with
      | error e =>
        rw [reschedule_of_error hselected hfound] at h
        cases h
      | ok found =>
        rw [reschedule_of_ok hselected hfound] at h
        exact ⟨fun _ => ⟨found, rfl⟩, ih h⟩
    · rw [reschedule_of_not_selected hselected] at h
      exact ⟨fun hs => absurd hs hselected, ih h⟩

/-- A pass succeeds if and only if the proposals for all selected workloads do. -/
theorem reschedule_ok_iff (ws : List Workload) :
    (∃ counted, (reschedule selected propose .none ws).2 = .ok counted) ↔
      ∀ w ∈ ws, selected w = true → ∃ found, propose w = .ok found :=
  ⟨fun ⟨_, h⟩ => proposed_of_reschedule_ok h, fun h => ⟨_, congrArg Prod.snd (reschedule_eq h)⟩⟩

/-- A pass leaves every workload as it is or moves it to the window proposed for it, also if the pass fails midway. -/
theorem forall₂_reschedule (delays : Delays) (ws : List Workload) :
    List.Forall₂ (fun w later => later = w ∨ ∃ window, propose w = .ok (some window) ∧ later = { w with window })
      ws (reschedule selected propose delays ws).1 := by
  induction ws generalizing delays with
  | nil => exact .nil
  | cons w rest ih =>
    by_cases hselected : selected w = true
    · cases hproposed : propose w with
      | error cause =>
        rw [reschedule_of_error hselected hproposed]
        exact List.forall₂_same.2 fun _ _ => .inl rfl
      | ok found =>
        rw [reschedule_of_ok hselected hproposed]
        refine .cons ?_ (ih _)
        cases found with
        | none => exact .inl rfl
        | some window => exact .inr ⟨window, hproposed, rfl⟩
    · rw [reschedule_of_not_selected hselected]
      exact .cons (.inl rfl) (ih _)

end Pass

/-! ### The adjustment of one workload -/

/-- The workload moved along to start at `start`. -/
def Workload.startingAt (w : Workload) (start : Int) : Workload := { w with window := w.window.startingAt start }

theorem Workload.cost_startingAt (w : Workload) (start : Int) : (w.startingAt start).cost = w.cost := by
  simp only [cost, price, startingAt, Window.hours, Window.duration_startingAt]

theorem Workload.waste_startingAt (w : Workload) (start : Int) : (w.startingAt start).waste = w.waste := by
  rw [waste, cost_startingAt]
  rfl

namespace CoreReduction

theorem validate_ok_iff {p : CoreReduction} :
    p.validate = .ok () ↔ p.coreCounts ≠ [] ∧ 0 ∉ p.coreCounts ∧ p.coreCounts.Pairwise (· < ·) ∧
      (0.0 < p.p95Threshold ∧ p.p95Threshold ≤ 1.0) ∧ ¬ p.wasteThreshold < .zero := by
  unfold validate
  split_ifs <;> simp_all

theorem one_le_of_mem {p : CoreReduction} (hp : p.validate = .ok ()) {cores : UInt32}
    (h : cores ∈ p.coreCounts) : 1 ≤ cores := by
  have hne : cores ≠ 0 := fun heq => (validate_ok_iff.1 hp).2.1 (heq ▸ h)
  rw [ne_eq, ← UInt32.toNat_inj] at hne
  rw [UInt32.le_iff_toNat_le]
  exact Nat.one_le_iff_ne_zero.2 hne

/-- There is a proposal if the workload is neither saturated nor thrifty, and the search finds fewer cores. -/
theorem proposal?_eq_some_iff {p : CoreReduction} {w proposal : Workload} : p.proposal? w = some proposal ↔
    ∃ cores, ¬ p.p95Threshold ≤ w.utilization.p95 ∧ ¬ w.waste ≤ p.wasteThreshold ∧
      p.smallestFitting? w = some cores ∧ cores < w.cores ∧
      proposal = { w with cores, utilization := utilizationOn w cores } := by
  unfold proposal?
  by_cases hsaturated : p.p95Threshold ≤ w.utilization.p95
  · simp [hsaturated]
  by_cases hthrifty : w.waste ≤ p.wasteThreshold
  · simp [hsaturated, hthrifty]
  rw [if_neg hsaturated, if_neg hthrifty]
  cases p.smallestFitting? w with
  | none => simp
  | some found =>
    dsimp only
    by_cases hfew : w.cores ≤ found
    · rw [if_pos hfew]
      constructor
      · intro h
        cases h
      · rintro ⟨cores, -, -, hfound, hfewer, -⟩
        cases hfound
        exact absurd hfew (UInt32.not_le.2 hfewer)
    · rw [if_neg hfew]
      constructor
      · intro h
        cases h
        exact ⟨found, hsaturated, hthrifty, rfl, UInt32.not_le.1 hfew, rfl⟩
      · rintro ⟨cores, -, -, hfound, -, rfl⟩
        cases hfound
        rfl

theorem proposal?_eq_some {p : CoreReduction} {w proposal : Workload} (h : p.proposal? w = some proposal) :
    ∃ cores ∈ p.coreCounts, cores < w.cores ∧
      proposal = { w with cores, utilization := utilizationOn w cores } := by
  obtain ⟨cores, -, -, hfound, hfewer, hproposal⟩ := proposal?_eq_some_iff.1 h
  exact ⟨cores, (List.takeWhile_sublist _).mem (List.mem_of_find?_eq_some hfound), hfewer, hproposal⟩

/-- A core reduction does not look at the start of the workload. -/
theorem proposal?_startingAt (p : CoreReduction) (w : Workload) (start : Int) :
    p.proposal? (w.startingAt start) = (p.proposal? w).map (·.startingAt start) := by
  have hfitting : p.smallestFitting? (w.startingAt start) = p.smallestFitting? w := rfl
  have hp95 : (w.startingAt start).utilization.p95 = w.utilization.p95 := rfl
  have hcores : (w.startingAt start).cores = w.cores := rfl
  rw [proposal?, proposal?, w.waste_startingAt, hfitting, hp95, hcores]
  by_cases hsaturated : p.p95Threshold ≤ w.utilization.p95
  · simp only [if_pos hsaturated, Option.map_none]
  · by_cases hthrifty : w.waste ≤ p.wasteThreshold
    · simp only [if_neg hsaturated, if_pos hthrifty, Option.map_none]
    · simp only [if_neg hsaturated, if_neg hthrifty]
      cases p.smallestFitting? w with
      | none => rfl
      | some cores =>
        by_cases hfew : w.cores ≤ cores
        · simp only [if_pos hfew, Option.map_none]
        · simp only [if_neg hfew]
          rfl

end CoreReduction

namespace Shutdown

/-- The workload with the given number of seconds left, all of them at its peak. -/
def atPeak (w : Workload) (seconds : Int) : Workload := { w with
  window := w.window.truncated seconds
  utilization := ⟨w.utilization.maximum, w.utilization.maximum, w.utilization.maximum⟩ }

theorem proposal?_eq_some_iff {p : Shutdown} {w proposal : Workload} : p.proposal? w = some proposal ↔
    minPeakRatio < (w.utilization.maximum - p.idleFloor) / (w.utilization.average - p.idleFloor) ∧
      proposal = atPeak w (secondsLeft p w) := by
  simp only [proposal?]
  split
  · rename_i hratio
    rw [Option.some.injEq, eq_comm, and_iff_right hratio]
    rfl
  · rename_i hratio
    simp only [hratio, false_and, reduceCtorEq]

/-- On the grid, a shutdown leaves the same duration wherever the workload starts. -/
theorem proposal?_startingAt (p : Shutdown) {length : Nat} (hlength : length ≤ maxBuckets) {w : Workload}
    (hw : w.window.OnGrid length) {start : Int} (hmoved : (w.startingAt start).window.OnGrid length) :
    p.proposal? (w.startingAt start) = (p.proposal? w).map (·.startingAt start) := by
  by_cases hratio : minPeakRatio < (w.utilization.maximum - p.idleFloor) / (w.utilization.average - p.idleFloor)
  · have hcut : atPeak (w.startingAt start) (secondsLeft p w) = (atPeak w (secondsLeft p w)).startingAt start := by
      have hwindow := hw.truncated_startingAt hlength (abs_secondsLeft_le hratio) hmoved
      simp only [atPeak, Workload.startingAt, hwindow]
    have hproposal : p.proposal? w = some (atPeak w (secondsLeft p w)) := proposal?_eq_some_iff.2 ⟨hratio, rfl⟩
    have hproposal' : p.proposal? (w.startingAt start) = some (atPeak (w.startingAt start) (secondsLeft p w)) :=
      proposal?_eq_some_iff.2 ⟨hratio, rfl⟩
    rw [hproposal, hproposal', hcut, Option.map_some]
  · have hnone : p.proposal? w = none := if_neg hratio
    have hnone' : p.proposal? (w.startingAt start) = none := if_neg hratio
    rw [hnone, hnone', Option.map_none]

end Shutdown

namespace Adjustment

theorem apply_of_none {a : Adjustment} {w : Workload} (h : a.proposal? w = .none) (g : Generator) :
    a.apply w g = (⟨w, false⟩, g) := by
  rw [apply, h]

theorem apply_of_some {a : Adjustment} {w proposal : Workload} (h : a.proposal? w = some proposal) (g : Generator) :
    a.apply w g = (if (a.acceptance.draw g).1 then ⟨proposal, true⟩ else ⟨w, false⟩, (a.acceptance.draw g).2) := by
  rw [apply, h]

/-- An adjustment changes the workload if and only if it has a proposal and the draw accepts it. -/
theorem changed_apply_iff {a : Adjustment} {w : Workload} {g : Generator} :
    (a.apply w g).1.changed = true ↔ (∃ proposal, a.proposal? w = some proposal) ∧ (a.acceptance.draw g).1 = true := by
  cases h : a.proposal? w with
  | none => simp [apply_of_none h]
  | some proposal =>
    rw [apply_of_some h]
    by_cases haccepted : (a.acceptance.draw g).1 = true <;> simp [haccepted]

theorem proposal?_of_changed {a : Adjustment} {w : Workload} {g : Generator}
    (h : (a.apply w g).1.changed = true) : a.proposal? w = some (a.apply w g).1.workload := by
  obtain ⟨⟨proposal, hproposal⟩, haccepted⟩ := changed_apply_iff.1 h
  rw [apply_of_some hproposal, if_pos haccepted, hproposal]

theorem apply_of_unchanged {a : Adjustment} {w : Workload} {g : Generator}
    (h : (a.apply w g).1.changed = false) : (a.apply w g).1 = ⟨w, false⟩ := by
  cases hproposal : a.proposal? w with
  | none => rw [apply_of_none hproposal]
  | some proposal =>
    rw [apply_of_some hproposal] at h ⊢
    split at h
    · cases h
    · rename_i hrejected
      exact if_neg hrejected

section Grid

variable {length : Nat} (hlength : length ≤ maxBuckets) {w : Workload} (hw : w.window.OnGrid length) {start : Int}
  (hmoved : (w.startingAt start).window.OnGrid length)

include hlength hw hmoved

theorem proposal?_startingAt (a : Adjustment) :
    a.proposal? (w.startingAt start) = (a.proposal? w).map (·.startingAt start) := by
  cases a with
  | none => rfl
  | coreReduction policy => exact policy.proposal?_startingAt w start
  | shutdown policy => exact policy.proposal?_startingAt hlength hw hmoved

/-- On the grid, an adjustment and a move along the grid may be made in either order. -/
theorem applyOwn_startingAt (a : Adjustment) (decisions : Decisions) :
    a.applyOwn decisions (w.startingAt start) =
      ⟨(a.applyOwn decisions w).workload.startingAt start, (a.applyOwn decisions w).changed⟩ := by
  have hid : (w.startingAt start).id = w.id := rfl
  simp only [applyOwn, apply, proposal?_startingAt hlength hw hmoved, hid]
  cases a.proposal? w with
  | none => rfl
  | some proposal =>
    simp only [Option.map_some]
    split <;> rfl

end Grid

/-- An adjustment leaves the workload as it is, allots fewer of the listed cores, or cuts the window short. -/
theorem applyOwn_cases (a : Adjustment) (decisions : Decisions) (w : Workload) :
    a.applyOwn decisions w = ⟨w, false⟩ ∨
      (∃ p, a = .coreReduction p ∧ ∃ cores ∈ p.coreCounts, cores < w.cores ∧ a.applyOwn decisions w =
        ⟨{ w with cores, utilization := CoreReduction.utilizationOn w cores }, true⟩) ∨
      ∃ p, a = .shutdown p ∧ ∃ seconds, |seconds| ≤ 2 ^ 60 ∧ a.applyOwn decisions w = ⟨{ w with
        window := w.window.truncated seconds
        utilization := ⟨w.utilization.maximum, w.utilization.maximum, w.utilization.maximum⟩ }, true⟩ := by
  cases hchanged : (a.applyOwn decisions w).changed with
  | false => exact .inl (apply_of_unchanged hchanged)
  | true =>
    right
    have hproposal : a.proposal? w = some (a.applyOwn decisions w).workload := proposal?_of_changed hchanged
    have hadjusted : a.applyOwn decisions w = ⟨(a.applyOwn decisions w).workload, true⟩ := by rw [← hchanged]
    cases a with
    | none => cases hproposal
    | coreReduction p =>
      obtain ⟨cores, hmem, hfewer, hworkload⟩ := CoreReduction.proposal?_eq_some hproposal
      exact .inl ⟨p, rfl, cores, hmem, hfewer, by rw [hadjusted, hworkload]⟩
    | shutdown p =>
      obtain ⟨hratio, hworkload⟩ := Shutdown.proposal?_eq_some_iff.1 hproposal
      exact .inr ⟨p, rfl, _, Shutdown.abs_secondsLeft_le hratio, by rw [hadjusted, hworkload]; rfl⟩

end Adjustment

end CarbonAware
