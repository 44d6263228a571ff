import CarbonAware.Proofs.Grid
import CarbonAware.Grid.LowCarbonRun

/-!
# The low-carbon runs of a series

The runs found in a forecast are not empty, end within the series, are in order and do not touch
(`LowCarbonRun.mem_all_bounds`, `LowCarbonRun.all_pairwise`).  So the search by halving finds exactly those that start
at a given bucket or later (`LowCarbonRun.startingFrom_eq_filter`).
-/

namespace CarbonAware

namespace LowCarbonRun

/-- The first bucket that a scan can still report: that of the open run, or the next one. -/
def scanStart (index : Nat) : Option OpenRun → Nat
  | none => index
  | some run => run.start

/-- A run found by a scan starts where the scan may start, is not empty, and ends before the last value. -/
theorem scan_bounds {threshold : UInt32} {index : Nat} {current : Option OpenRun} {values : List UInt32}
    (hcurrent : ∀ run, current = some run → run.start < index) :
    ∀ run ∈ scan threshold index current values,
      scanStart index current ≤ run.buckets.start ∧ run.buckets.start < run.buckets.stop ∧
        run.buckets.stop < index + values.length := by
  induction values generalizing index current with
  | nil => intro run hrun; cases current <;> cases hrun
  | cons value rest ih =>
    intro run hrun
    rw [List.length_cons]
    cases current with
    | none =>
      simp only [scan] at hrun
      split at hrun
      · have := ih (by rintro _ ⟨⟩; exact Nat.lt_succ_self index) run hrun
        simp only [scanStart] at this ⊢
        omega
      · have := ih (by rintro _ ⟨⟩) run hrun
        simp only [scanStart] at this ⊢
        omega
    | some start =>
      have hlt := hcurrent start rfl
      simp only [scan] at hrun
      split at hrun
      · have := ih (by rintro _ ⟨⟩; exact Nat.lt_succ_of_lt hlt) run hrun
        simp only [scanStart] at this ⊢
        omega
      · rcases List.mem_cons.1 hrun with rfl | hrun
        · simp only [scanStart, close]
          omega
        · have := ih (by rintro _ ⟨⟩) run hrun
          simp only [scanStart] at this ⊢
          omega

/-- The runs found by a scan are in order and do not touch. -/
theorem scan_pairwise {threshold : UInt32} {index : Nat} {current : Option OpenRun} {values : List UInt32}
    (hcurrent : ∀ run, current = some run → run.start < index) :
    (scan threshold index current values).Pairwise fun left right => left.buckets.stop < right.buckets.start := by
  induction values generalizing index current with
  | nil => cases current <;> exact List.Pairwise.nil
  | cons value rest ih =>
    cases current with
    | none =>
      simp only [scan]
      split
      · exact ih (by rintro _ ⟨⟩; exact Nat.lt_succ_self index)
      · exact ih (by rintro _ ⟨⟩)
    | some start =>
      have hlt := hcurrent start rfl
      simp only [scan]
      split
      · exact ih (by rintro _ ⟨⟩; exact Nat.lt_succ_of_lt hlt)
      · -- the scan goes on without an open run, so the next run starts after the closing bucket
        refine List.Pairwise.cons (fun run hrun => ?_) (ih (by rintro _ ⟨⟩))
        exact (scan_bounds (by rintro _ ⟨⟩) run hrun).1

theorem mem_all_bounds {series : CarbonSeries} {threshold : UInt32} {run : LowCarbonRun}
    (h : run ∈ (all series threshold).toList) :
    run.buckets.start < run.buckets.stop ∧ run.buckets.stop < series.length := by
  have hlen : (series.values .forecast).length = series.length := series.size_track .forecast
  have hbounds := scan_bounds (by rintro _ ⟨⟩) run (h : run ∈ scan threshold 0 none (series.values .forecast))
  omega

theorem all_separated (series : CarbonSeries) (threshold : UInt32) :
    (all series threshold).toList.Pairwise fun left right => left.buckets.stop < right.buckets.start :=
  scan_pairwise (by rintro _ ⟨⟩)

theorem all_pairwise (series : CarbonSeries) (threshold : UInt32) :
    (all series threshold).toList.Pairwise fun left right => left.buckets.start < right.buckets.start := by
  refine (all_separated series threshold).imp_of_mem fun {left right} hleft _ hlt => ?_
  exact Nat.lt_trans (mem_all_bounds hleft).1 hlt

/-! ### The search by halving -/

/-- Elements before `lo` satisfy the test, and those from `hi` on do not. -/
def Separates {α : Type} (isBefore : α → Bool) (xs : Array α) (lo hi : Nat) : Prop :=
  (∀ i (h : i < xs.size), i < lo → isBefore xs[i] = true) ∧
    ∀ i (h : i < xs.size), hi ≤ i → isBefore xs[i] = false

/-- If the elements that satisfy the test come first, the search ends where they end. -/
theorem boundary_separates {α : Type} (isBefore : α → Bool) {xs : Array α}
    (hfirst : ∀ i j (hj : j < xs.size) (hij : i ≤ j), isBefore xs[j] = true → isBefore xs[i] = true)
    {lo hi : Nat} (h : hi ≤ xs.size) (hle : lo ≤ hi) (hsep : Separates isBefore xs lo hi) :
    Separates isBefore xs (boundary isBefore xs lo hi h) (boundary isBefore xs lo hi h) := by
  fun_induction boundary isBefore xs lo hi h with
  | case1 lo hi h hlt middle hbefore ih =>
    have hmiddle : middle < hi := by simp only [middle]; omega
    refine ih (by omega) ⟨fun i hi' hi => ?_, hsep.2⟩
    exact hfirst i middle (by omega) (by omega) hbefore
  | case2 lo hi h hlt middle hafter ih =>
    have hmiddle : lo ≤ middle ∧ middle < hi := by simp only [middle]; omega
    refine ih (by omega) ⟨hsep.1, fun i hi' hle => ?_⟩
    refine Bool.eq_false_iff.2 fun hbefore => hafter ?_
    exact hfirst middle i hi' hle hbefore
  | case3 lo hi h hge =>
    have heq : hi = lo := by omega
    subst heq
    exact hsep

private theorem drop_eq_filter {α : Type} {isBefore : α → Bool} {xs : Array α} {n : Nat}
    (h : Separates isBefore xs n n) : xs.toList.drop n = xs.toList.filter fun x => !isBefore x := by
  have htake : (xs.toList.take n).filter (fun x => !isBefore x) = [] := by
    rw [List.filter_eq_nil_iff]
    intro x hx
    obtain ⟨i, hi, rfl⟩ := List.getElem_of_mem hx
    rw [List.length_take] at hi
    rw [List.getElem_take]
    simpa using h.1 i (by simp at hi; omega) (by omega)
  have hdrop : (xs.toList.drop n).filter (fun x => !isBefore x) = xs.toList.drop n := by
    rw [List.filter_eq_self]
    intro x hx
    obtain ⟨i, hi, rfl⟩ := List.getElem_of_mem hx
    rw [List.length_drop] at hi
    rw [List.getElem_drop]
    simpa using h.2 (n + i) (by simp at hi; omega) (by omega)
  conv_rhs => rw [← List.take_append_drop n xs.toList]
  rw [List.filter_append, htake, hdrop, List.nil_append]

/-- Of runs in order, those found from a bucket on are the ones that start there or later. -/
theorem startingFrom_eq_filter {runs : Array LowCarbonRun}
    (hordered : runs.toList.Pairwise fun left right => left.buckets.start < right.buckets.start) (bucket : Nat) :
    startingFrom runs bucket = runs.toList.filter fun run => decide (bucket ≤ run.buckets.start) := by
  have hfirst : ∀ i j (hj : j < runs.size) (hij : i ≤ j),
      decide (runs[j].buckets.start < bucket) = true → decide (runs[i].buckets.start < bucket) = true := by
    intro i j hj hij hbefore
    rw [decide_eq_true_eq] at hbefore ⊢
    rcases Nat.lt_or_eq_of_le hij with hlt | rfl
    · have := List.pairwise_iff_getElem.1 hordered i j (by simp; omega) (by simpa using hj) hlt
      simp only [Array.getElem_toList] at this
      omega
    · exact hbefore
  -- the whole array is searched, so nothing lies outside of the bounds yet
  have hsep := boundary_separates (fun run => decide (run.buckets.start < bucket)) hfirst (Nat.le_refl runs.size)
    (Nat.zero_le _) ⟨fun _ _ h => absurd h (Nat.not_lt_zero _), fun _ hi hle => absurd hi (Nat.not_lt_of_le hle)⟩
  rw [startingFrom, drop_eq_filter hsep]
  congr 1
  funext run
  rw [← decide_not, decide_eq_decide, Nat.not_lt]

theorem startingFrom_all (series : CarbonSeries) (threshold : UInt32) (bucket : Nat) :
    startingFrom (all series threshold) bucket =
      (all series threshold).toList.filter fun run => decide (bucket ≤ run.buckets.start) :=
  startingFrom_eq_filter (all_pairwise series threshold) bucket

/-- The runs that a search from a bucket on is given. -/
theorem mem_startingFrom_all {series : CarbonSeries} {threshold : UInt32} {bucket : Nat} {run : LowCarbonRun}
    (h : run ∈ startingFrom (all series threshold) bucket) :
    bucket ≤ run.buckets.start ∧ run.buckets.start < run.buckets.stop ∧ run.buckets.stop < series.length := by
  rw [startingFrom_all, List.mem_filter, decide_eq_true_eq] at h
  exact ⟨h.2, mem_all_bounds h.1⟩

end LowCarbonRun

end CarbonAware
