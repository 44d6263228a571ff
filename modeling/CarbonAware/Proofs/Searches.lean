import CarbonAware.Policy.Rescheduling
import CarbonAware.Proofs.Fallible
import CarbonAware.Proofs.LowCarbonRuns

/-!
# What the searches of the rescheduling policies find

A search through elements in order finds the least one that passes its test (`find?_eq_some_iff_first`).  Both searches
succeed on every workload that the series covers.  A window that they find has as many buckets as the workload's, starts
no earlier and lies within the series (`Rescheduling.proposals_ok`).
-/

namespace CarbonAware

/-- Of elements in the order of their keys, the first one that passes a test is the passing one of the least key. -/
theorem find?_eq_some_iff_first {α : Type} (key : α → Nat) {l : List α} {test : α → Bool} {a : α}
    (hordered : l.Pairwise fun left right => key left < key right) :
    l.find? test = some a ↔ a ∈ l ∧ test a = true ∧ ∀ b ∈ l, test b = true → key a ≤ key b := by
  induction l with
  | nil => simp
  | cons first rest ih =>
    rw [List.pairwise_cons] at hordered
    rw [List.find?_cons]
    cases hfirst : test first with
    | true =>
      simp only [Option.some.injEq]
      constructor
      · rintro rfl
        refine ⟨List.mem_cons_self, hfirst, ?_⟩
        rw [List.forall_mem_cons]
        exact ⟨fun _ => le_rfl, fun b hb _ => Nat.le_of_lt (hordered.1 b hb)⟩
      · rintro ⟨hmem, -, hleast⟩
        rcases List.mem_cons.1 hmem with rfl | hlater
        · rfl
        · -- a later element does not come first
          have hlt := hordered.1 a hlater
          have hle := hleast first List.mem_cons_self hfirst
          omega
    | false =>
      have hskip : ¬ test first = true := by rw [hfirst]; exact Bool.false_ne_true
      rw [ih hordered.2, List.forall_mem_cons, List.mem_cons]
      constructor
      · rintro ⟨hmem, htest, hleast⟩
        exact ⟨.inr hmem, htest, fun h => absurd h hskip, hleast⟩
      · rintro ⟨rfl | hmem, htest, -, hleast⟩
        · exact absurd htest hskip
        · exact ⟨hmem, htest, hleast⟩

/-- As many buckets as `w` has, from its first bucket on or later, all within a series of `length` buckets. -/
def Window.Postponed (length : Nat) (w later : Window) : Prop :=
  ∃ start : Nat, w.buckets.start ≤ start ∧ start + w.buckets.length ≤ length ∧
    later = ofBuckets start w.buckets.length

theorem Window.Postponed.covered {length : Nat} {w later : Window} (h : w.Postponed length later) :
    later.Covered length := by
  obtain ⟨start, -, hstop, rfl⟩ := h
  exact (onGrid_ofBuckets hstop).covered

/-- A window on the grid is postponed along the grid, in one piece. -/
theorem Window.Postponed.startingAt_of_onGrid {length : Nat} {w later : Window} (h : w.Postponed length later)
    (hw : w.OnGrid length) : ∃ start, w.start ≤ start ∧ later = w.startingAt start ∧ later.OnGrid length := by
  obtain ⟨first, count, -, rfl⟩ := hw.eq_ofBuckets
  obtain ⟨start, hstart, hstop, rfl⟩ := h
  have hcount : (ofBuckets first count).buckets.length = count := by
    simp only [buckets_ofBuckets, BucketRange.length]; omega
  simp only [buckets_ofBuckets] at hstart
  rw [hcount] at hstop ⊢
  refine ⟨start * bucketSeconds, ?_, ?_, onGrid_ofBuckets hstop⟩
  · simp only [ofBuckets, bucketSeconds]; omega
  · simp only [startingAt, ofBuckets, bucketSeconds, Window.mk.injEq, true_and]; omega

/-! ### The search for a low-carbon run -/

namespace ThresholdShift

theorem firstFit_eq_some {horizon length : Nat} {current : Moer} {runs : List LowCarbonRun} {run : LowCarbonRun}
    (h : firstFit horizon length current runs = some run) :
    run ∈ runs ∧ length ≤ run.length ∧ ¬ current ≤ run.average ∧ run.buckets.stop ≤ horizon := by
  induction runs with
  | nil => cases h
  | cons first rest ih =>
    rw [firstFit] at h
    split at h
    · cases h
    · rename_i hhorizon
      split at h
      · obtain ⟨hmem, hrest⟩ := ih h
        exact ⟨List.mem_cons_of_mem _ hmem, hrest⟩
      · rename_i hskip
        cases h
        rw [not_or, Nat.not_lt] at hskip
        rw [not_or, Nat.not_lt] at hhorizon
        exact ⟨List.mem_cons_self, hskip.1, hskip.2, hhorizon.2⟩

/-- Of runs that do not touch, the search finds the first fitting one among those that end within the horizon. -/
theorem firstFit_eq_find? {horizon length : Nat} {current : Moer} {runs : List LowCarbonRun}
    (hpos : ∀ run ∈ runs, run.buckets.start < run.buckets.stop)
    (hordered : runs.Pairwise fun left right => left.buckets.stop < right.buckets.start) :
    firstFit horizon length current runs = (runs.filter fun run => decide (run.buckets.stop ≤ horizon)).find?
      fun run => decide (length ≤ run.length ∧ ¬ current ≤ run.average) := by
  induction runs with
  | nil => rfl
  | cons run rest ih =>
    rw [List.forall_mem_cons] at hpos
    rw [List.pairwise_cons] at hordered
    rw [firstFit]
    split
    · -- the run ends beyond the horizon, and so do all later ones
      rename_i hbeyond
      have hnone : (run :: rest).filter (fun run => decide (run.buckets.stop ≤ horizon)) = [] := by
        rw [List.filter_eq_nil_iff, List.forall_mem_cons]
        refine ⟨by simp only [decide_eq_true_eq]; omega, fun later hlater => ?_⟩
        have hafter := hordered.1 later hlater
        have hlt := hpos.2 later hlater
        simp only [decide_eq_true_eq]
        omega
      rw [hnone, List.find?_nil]
    · rename_i hwithin
      have hstop : run.buckets.stop ≤ horizon := by omega
      rw [List.filter_cons, if_pos (decide_eq_true hstop), List.find?_cons, ih hpos.2 hordered.2]
      split
      · rename_i hskip
        have hunfit : ¬ (length ≤ run.length ∧ ¬ current ≤ run.average) := by
          rintro ⟨hlength, habove⟩
          exact hskip.elim (Nat.not_lt.2 hlength) habove
        rw [decide_eq_false hunfit]
      · rename_i hfit
        rw [not_or, Nat.not_lt] at hfit
        rw [decide_eq_true hfit]

theorem firstFit_startingFrom (series : CarbonSeries) (threshold : UInt32) (bucket horizon length : Nat)
    (current : Moer) :
    firstFit horizon length current (LowCarbonRun.startingFrom (LowCarbonRun.all series threshold) bucket) =
      ((LowCarbonRun.startingFrom (LowCarbonRun.all series threshold) bucket).filter
        fun run => decide (run.buckets.stop ≤ horizon)).find?
          fun run => decide (length ≤ run.length ∧ ¬ current ≤ run.average) := by
  refine firstFit_eq_find? (fun run hrun => (LowCarbonRun.mem_startingFrom_all hrun).2.1) ?_
  rw [LowCarbonRun.startingFrom_all]
  exact (LowCarbonRun.all_separated series threshold).filter _

theorem findWindow_ok (p : ThresholdShift) {series : CarbonSeries} {w : Workload}
    (h : w.window.Covered series.length) :
    ∃ found, p.findWindow series (LowCarbonRun.all series p.rateThreshold) w = .ok found ∧
      ∀ window, found = some window → w.window.Postponed series.length window := by
  rw [findWindow, Workload.averageRate_eq h]
  refine ⟨_, rfl, ?_⟩
  intro window hwindow
  obtain ⟨run, hrun, rfl⟩ := Option.map_eq_some_iff.1 hwindow
  obtain ⟨hmem, hlength, -, -⟩ := firstFit_eq_some hrun
  obtain ⟨hstart, hlt, hstop⟩ := LowCarbonRun.mem_startingFrom_all hmem
  simp only [LowCarbonRun.length, BucketRange.length] at hlength
  refine ⟨run.buckets.start, hstart, ?_, rfl⟩
  simp only [BucketRange.length]
  omega

end ThresholdShift

/-! ### The search for a dip of the moving average -/

namespace MovingAverageShift

theorem mem_starts {buckets : BucketRange} {bound start : Nat} :
    start ∈ starts buckets bound ↔ buckets.start < start ∧ start + buckets.length + 1 < bound := by
  rw [starts, List.mem_range'_1]
  omega

/-- Whether the mean forecast over `length` buckets from `start` on is a dip below the target. -/
def isForecastDip (series : CarbonSeries) (length : Nat) (target : Moer) (start : Nat) : Bool :=
  let mean (start : Nat) := series.meanOver .forecast ⟨start, start + length⟩
  decide (mean start < target ∧ mean start ≤ mean (start - 1) ∧ mean start ≤ mean (start + 1))

/-- Where the window and its neighbours lie in the series, the test for a dip compares their means. -/
theorem isDip_eq {series : CarbonSeries} {length start : Nat} (target : Moer) (hlength : 0 < length)
    (hstart : 0 < start) (hstop : start + length + 1 ≤ series.length) :
    isDip (fun start => series.average .forecast ⟨start, start + length⟩) target start =
      .ok (isForecastDip series length target start) := by
  have hmean (j : Nat) (hj : j + length ≤ series.length) : series.average .forecast ⟨j, j + length⟩ =
      .ok (series.meanOver .forecast ⟨j, j + length⟩) :=
    series.average_eq_meanOver .forecast (by show j < j + length; omega) hj
  simp only [isDip, isForecastDip]
  rw [hmean start (by omega), hmean (start - 1) (by omega), hmean (start + 1) (by omega)]
  simp only [bind, Except.bind]
  split
  · rename_i hbelow
    split
    · rename_i hbefore
      simp [hbelow, hbefore, pure, Except.pure]
    · rename_i hbefore
      simp [hbefore, pure, Except.pure]
  · rename_i habove
    simp [habove, pure, Except.pure]

/-- The search asks only for the means at the starts that it tries and at their neighbours. -/
theorem firstDip_congr {meanAt meanAt' : Nat → Except SeriesError Moer} {target : Moer} {starts : List Nat}
    (h : ∀ start ∈ starts, ∀ near, start - 1 ≤ near → near ≤ start + 1 → meanAt near = meanAt' near) :
    firstDip meanAt target starts = firstDip meanAt' target starts := by
  induction starts with
  | nil => rfl
  | cons start rest ih =>
    rw [List.forall_mem_cons] at h
    obtain ⟨hstart, hrest⟩ := h
    have hdip : isDip meanAt target start = isDip meanAt' target start := by
      simp only [isDip]
      rw [hstart start (by omega) (by omega), hstart (start - 1) (by omega) (by omega),
        hstart (start + 1) (by omega) (by omega)]
    rw [firstDip, firstDip, hdip, ih hrest]

theorem firstDip_eq_find? {meanAt : Nat → Except SeriesError Moer} {target : Moer} {isDipAt : Nat → Bool}
    {starts : List Nat} (h : ∀ start ∈ starts, isDip meanAt target start = .ok (isDipAt start)) :
    firstDip meanAt target starts = .ok (starts.find? isDipAt) := by
  induction starts with
  | nil => rfl
  | cons start rest ih =>
    rw [firstDip, h start List.mem_cons_self, List.find?_cons]
    have hrest := ih fun other hother => h other (List.mem_cons_of_mem _ hother)
    cases isDipAt start with
    | true => rfl
    | false => exact hrest

/-- The starts that the search tries for a workload. -/
def triedStarts (p : MovingAverageShift) (series : CarbonSeries) (w : Workload) : List Nat :=
  starts w.window.buckets (min (forecastHorizon w.window.buckets.start p.lookahead) series.length)

/-- The mean forecast that a postponement of a workload must fall below. -/
def target (p : MovingAverageShift) (series : CarbonSeries) (w : Workload) : Moer :=
  series.meanOver .forecast w.window.buckets - p.confidence

/-- On a workload of at least one bucket, the search finds the first dip among the starts that it tries. -/
theorem findWindow_eq (p : MovingAverageShift) {series : CarbonSeries} {w : Workload}
    (h : w.window.Covered series.length) (hlength : 0 < w.window.buckets.length) :
    p.findWindow series w =
      .ok (((p.triedStarts series w).find?
        (isForecastDip series w.window.buckets.length (p.target series w))).map
          fun start : Nat => Window.ofBuckets start w.window.buckets.length) := by
  rw [findWindow, if_neg (Nat.ne_of_gt hlength), Workload.averageRate_eq_meanOver h hlength]
  simp only [bind, Except.bind]
  have hdips : ∀ start ∈ p.triedStarts series w,
      isDip (fun start => series.average .forecast ⟨start, start + w.window.buckets.length⟩) (p.target series w)
        start = .ok (isForecastDip series w.window.buckets.length (p.target series w) start) := by
    intro start hstart
    have := mem_starts.1 hstart
    exact isDip_eq _ hlength (by omega) (by omega)
  have hfirst := firstDip_eq_find? hdips
  unfold triedStarts target at hfirst ⊢
  rw [hfirst]
  cases (starts _ _).find? _ <;> rfl

theorem findWindow_ok (p : MovingAverageShift) {series : CarbonSeries} {w : Workload}
    (h : w.window.Covered series.length) :
    ∃ found, p.findWindow series w = .ok found ∧
      ∀ window, found = some window → w.window.Postponed series.length window := by
  by_cases hlength : w.window.buckets.length = 0
  · refine ⟨none, ?_, fun _ hwindow => by cases hwindow⟩
    rw [findWindow, if_pos hlength]
    rfl
  · refine ⟨_, p.findWindow_eq h (by omega), ?_⟩
    intro window hwindow
    obtain ⟨start, hfound, rfl⟩ := Option.map_eq_some_iff.1 hwindow
    obtain ⟨hstart, hstop⟩ := mem_starts.1 (List.mem_of_find?_eq_some hfound)
    exact ⟨start, by omega, by omega, rfl⟩

end MovingAverageShift

/-! ### The proposals of a policy -/

namespace Rescheduling

/-- Whether the user of the workload accepts what the policy recommends. -/
def accepts (r : Rescheduling) (decisions : Decisions) (w : Workload) : Bool :=
  match r with
  | none => false
  | threshold policy => (policy.acceptance.draw (decisions.generator w.id)).1
  | movingAverage policy => (policy.acceptance.draw (decisions.generator w.id)).1

/-- The window that the policy finds for a workload, whether or not its user accepts it. -/
def search (r : Rescheduling) (series : CarbonSeries) : WindowSearch :=
  match r with
  | none => fun _ => .ok .none
  | threshold policy => policy.findWindow series (LowCarbonRun.all series policy.rateThreshold)
  | movingAverage policy => policy.findWindow series

theorem proposals_eq (r : Rescheduling) (series : CarbonSeries) (decisions : Decisions) (w : Workload) :
    r.proposals series (r.runs series) decisions w =
      if r.accepts decisions w then r.search series w else .ok .none := by
  cases r <;> rfl

theorem ifAccepted_eq_some {rate : AcceptanceRate} {decisions : Decisions} {search : WindowSearch} {w : Workload}
    {window : Window} : ifAccepted rate decisions search w = .ok (some window) ↔
      (rate.draw (decisions.generator w.id)).1 = true ∧ search w = .ok (some window) := by
  unfold ifAccepted
  split
  · rename_i haccepted
    simp only [haccepted, true_and]
  · rename_i hrejected
    simp [hrejected]

theorem proposals_eq_some {r : Rescheduling} {series : CarbonSeries} {decisions : Decisions} {w : Workload}
    {window : Window} : r.proposals series (r.runs series) decisions w = .ok (some window) ↔
      r.accepts decisions w = true ∧ r.search series w = .ok (some window) := by
  cases r with
  | none =>
    constructor
    · intro h
      cases h
    · rintro ⟨h, -⟩
      cases h
  | threshold policy => exact ifAccepted_eq_some
  | movingAverage policy => exact ifAccepted_eq_some

theorem search_ok (r : Rescheduling) {series : CarbonSeries} {w : Workload} (h : w.window.Covered series.length) :
    ∃ found, r.search series w = .ok found ∧
      ∀ window, found = some window → w.window.Postponed series.length window := by
  cases r with
  | none => exact ⟨.none, rfl, fun _ hwindow => by cases hwindow⟩
  | threshold policy => exact policy.findWindow_ok h
  | movingAverage policy => exact policy.findWindow_ok h

/-- Proposals for a workload that the series covers succeed, and postpone it within the series. -/
theorem proposals_ok (r : Rescheduling) {series : CarbonSeries} (decisions : Decisions) {w : Workload}
    (h : w.window.Covered series.length) :
    ∃ found, r.proposals series (r.runs series) decisions w = .ok found ∧
      ∀ window, found = some window → w.window.Postponed series.length window := by
  rw [proposals_eq]
  split
  · exact r.search_ok h
  · exact ⟨.none, rfl, fun _ hwindow => by cases hwindow⟩

end Rescheduling

end CarbonAware
