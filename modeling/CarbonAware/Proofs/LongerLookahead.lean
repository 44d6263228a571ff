import CarbonAware.Proofs.FirstFailure

/-!
# Moves under a longer lookahead

A longer lookahead only appends to what a search tries: a farther horizon cuts off fewer runs
(`ThresholdShift.firstFit_mono`) and admits more starts (`MovingAverageShift.exists_starts_append`).  So what is found
under a shorter lookahead is found under every longer one, and a workload that a pass moves is moved to the same place
(`Rescheduling.moves_stay_under_longer_lookahead`).
-/

namespace CarbonAware

theorem forecastHorizon_mono (start : Nat) {near far : Nat} (h : near ≤ far) :
    forecastHorizon start near ≤ forecastHorizon start far := by
  unfold forecastHorizon
  omega

/-! ### The searches -/

section Searches

variable {series : CarbonSeries} {w : Workload} {window : Window} {near far : Nat}

namespace ThresholdShift

theorem firstFit_mono {horizon horizon' length : Nat} {current : Moer} {runs : List LowCarbonRun} {run : LowCarbonRun}
    (h : horizon ≤ horizon') (hfound : firstFit horizon length current runs = some run) :
    firstFit horizon' length current runs = some run := by
  induction runs with
  | nil => cases hfound
  | cons first rest ih =>
    rw [firstFit] at hfound ⊢
    split at hfound
    · cases hfound
    · rename_i hwithin
      rw [if_neg (by omega)]
      split at hfound
      · rename_i hskip
        rw [if_pos hskip]
        exact ih hfound
      · rename_i hfit
        rw [if_neg hfit]
        exact hfound

theorem findWindow_mono (p : ThresholdShift) {runs : Array LowCarbonRun} (h : near ≤ far)
    (hfound : { p with lookahead := near }.findWindow series runs w = .ok (some window)) :
    { p with lookahead := far }.findWindow series runs w = .ok (some window) := by
  obtain ⟨current, hcurrent, hfound⟩ := map_eq_ok.1 hfound
  obtain ⟨run, hrun, rfl⟩ := Option.map_eq_some_iff.1 hfound
  have hrun' := firstFit_mono (forecastHorizon_mono w.window.buckets.start h) hrun
  exact map_eq_ok.2 ⟨current, hcurrent, Option.map_eq_some_iff.2 ⟨run, hrun', rfl⟩⟩

end ThresholdShift

namespace MovingAverageShift

theorem exists_starts_append (buckets : BucketRange) {bound bound' : Nat} (h : bound ≤ bound') :
    ∃ later, starts buckets bound' = starts buckets bound ++ later := by
  obtain ⟨more, hmore⟩ : ∃ more, bound' - (buckets.length + 1) - (buckets.start + 1) =
      bound - (buckets.length + 1) - (buckets.start + 1) + more := ⟨_, (Nat.add_sub_of_le (by omega)).symm⟩
  unfold starts
  rw [hmore, ← List.range'_append_1]
  exact ⟨_, rfl⟩

theorem firstDip_append {meanAt : Nat → Except SeriesError Moer} {target : Moer} {tried : List Nat} {start : Nat}
    (hfound : firstDip meanAt target tried = .ok (some start)) (later : List Nat) :
    firstDip meanAt target (tried ++ later) = .ok (some start) := by
  induction tried with
  | nil => cases hfound
  | cons first rest ih =>
    rw [List.cons_append]
    rw [firstDip] at hfound ⊢
    obtain ⟨dips, hdips, hfound⟩ := bind_eq_ok.1 hfound
    refine bind_eq_ok.2 ⟨dips, hdips, ?_⟩
    cases dips with
    | true => exact hfound
    | false => exact ih hfound

theorem findWindow_mono (p : MovingAverageShift) (h : near ≤ far)
    (hfound : { p with lookahead := near }.findWindow series w = .ok (some window)) :
    { p with lookahead := far }.findWindow series w = .ok (some window) := by
  rw [findWindow] at hfound ⊢
  split at hfound
  · cases hfound
  · rename_i hlength
    rw [if_neg hlength]
    obtain ⟨current, hcurrent, hfound⟩ := bind_eq_ok.1 hfound
    obtain ⟨found, hdip, hfound⟩ := bind_eq_ok.1 hfound
    refine bind_eq_ok.2 ⟨current, hcurrent, bind_eq_ok.2 ⟨found, ?_, hfound⟩⟩
    -- a window was found, so the search did not run to the end of its starts
    obtain ⟨start, rfl⟩ : ∃ start, found = some start := by
      cases found with
      | none => cases hfound
      | some start => exact ⟨start, rfl⟩
    have hbound : min (forecastHorizon w.window.buckets.start near) series.length ≤
        min (forecastHorizon w.window.buckets.start far) series.length := by
      have := forecastHorizon_mono w.window.buckets.start h
      omega
    obtain ⟨later, hlater⟩ := exists_starts_append w.window.buckets hbound
    dsimp only
    rw [hlater]
    exact firstDip_append hdip later

end MovingAverageShift

end Searches

/-! ### The passes -/

section Pass

variable {selected : Workload → Bool} {near far : WindowSearch}

/-- Of two searches that fail on the same workloads, the one that finds more moves what the other one moves. -/
theorem reschedule_mono (hfails : ∀ w, selected w = true → (∃ found, near w = .ok found) → ∃ found, far w = .ok found)
    (hfound : ∀ w window, near w = .ok (some window) → far w = .ok (some window)) (delays delays' : Delays)
    (ws : List Workload) (i : Nat) (hmoved : (reschedule selected near delays ws).1[i]? ≠ ws[i]?) :
    (reschedule selected far delays' ws).1[i]? = (reschedule selected near delays ws).1[i]? := by
  induction ws generalizing delays delays' i with
  | nil => exact absurd rfl hmoved
  | cons w rest ih =>
    by_cases hselected : selected w = true
    · cases hnear : near w with
      | error e =>
        rw [reschedule_of_error hselected hnear] at hmoved
        exact absurd rfl hmoved
      | ok found =>
        obtain ⟨found', hfar⟩ := hfails w hselected ⟨found, hnear⟩
        rw [reschedule_of_ok hselected hnear] at hmoved ⊢
        rw [reschedule_of_ok hselected hfar]
        cases i with
        | zero =>
          cases found with
          | none => exact absurd rfl hmoved
          | some window =>
            rw [hfound w window hnear, Except.ok.injEq] at hfar
            subst hfar
            rfl
        | succ i => exact ih _ _ i hmoved
    · rw [reschedule_of_not_selected hselected] at hmoved ⊢
      rw [reschedule_of_not_selected hselected]
      cases i with
      | zero => exact absurd rfl hmoved
      | succ i => exact ih _ _ i hmoved

end Pass

namespace Rescheduling

/-- The policy with another lookahead. -/
def withLookahead (r : Rescheduling) (lookahead : Nat) : Rescheduling :=
  match r with
  | none => none
  | threshold policy => threshold { policy with lookahead }
  | movingAverage policy => movingAverage { policy with lookahead }

variable {r : Rescheduling} {series : CarbonSeries} {decisions : Decisions} {near far : Nat}

theorem accepts_withLookahead (r : Rescheduling) (lookahead : Nat) (decisions : Decisions) (w : Workload) :
    (r.withLookahead lookahead).accepts decisions w = r.accepts decisions w := by
  cases r <;> rfl

theorem isFailing_withLookahead_iff {lookahead : Nat} {selected : Workload → Bool} {w : Workload} :
    (r.withLookahead lookahead).IsFailing series decisions selected w ↔ r.IsFailing series decisions selected w := by
  constructor
  · rintro ⟨hselected, haccepted, hbuckets, hbeyond⟩
    exact ⟨hselected, by rwa [accepts_withLookahead] at haccepted, hbuckets, hbeyond⟩
  · rintro ⟨hselected, haccepted, hbuckets, hbeyond⟩
    exact ⟨hselected, by rwa [accepts_withLookahead], hbuckets, hbeyond⟩

theorem search_mono (r : Rescheduling) (h : near ≤ far) {w : Workload} {window : Window}
    (hfound : (r.withLookahead near).search series w = .ok (some window)) :
    (r.withLookahead far).search series w = .ok (some window) := by
  cases r with
  | none => cases hfound
  | threshold policy => exact policy.findWindow_mono h hfound
  | movingAverage policy => exact policy.findWindow_mono h hfound

/--
What a search finds under a lookahead it finds under every longer one, and a pass moves what it moves to the same place
under both.  Neither pass fails unless the other one does.
-/
theorem moves_stay_under_longer_lookahead (r : Rescheduling) (series : CarbonSeries) {near far : Nat}
    (h : near ≤ far) :
    (∀ w window, (r.withLookahead near).search series w = .ok (some window) →
      (r.withLookahead far).search series w = .ok (some window)) ∧
    ∀ (decisions : Decisions) (selected : Workload → Bool) (ws : List Workload),
      let short := (r.withLookahead near).apply series decisions selected ws
      let long := (r.withLookahead far).apply series decisions selected ws
      ((∃ counted, short.2 = .ok counted) ↔ ∃ counted, long.2 = .ok counted) ∧
      ∀ i : Nat, short.1[i]? ≠ ws[i]? → long.1[i]? = short.1[i]? := by
  refine ⟨fun w window => r.search_mono h, fun decisions selected ws => ⟨?_, fun i => ?_⟩⟩
  · simp only [apply_ok_iff, isFailing_withLookahead_iff]
  · refine reschedule_mono (fun w hselected hnear => ?_) (fun w window hnear => ?_) _ _ ws i
    · have hfailing : ¬ (r.withLookahead near).IsFailing series decisions selected w :=
        proposals_ok_iff.1 fun _ => hnear
      rw [isFailing_withLookahead_iff] at hfailing
      exact proposals_ok_iff.2 (mt isFailing_withLookahead_iff.1 hfailing) hselected
    · rw [proposals_eq_some, accepts_withLookahead] at hnear ⊢
      exact ⟨hnear.1, r.search_mono h hnear.2⟩

/-- The dip of the series lies just within six buckets, and both policies move a machine there. -/
theorem moves_stay_under_longer_lookahead_sixBuckets :
    let w := Simulation.idleMachine 1 0 2
    6 ≤ Numeral.maxUInt64 ∧ ∀ r ∈ [Rescheduling.threshold default, Rescheduling.movingAverage default],
      (r.withLookahead 6).search Simulation.dippingSeries w = .ok (some (.ofBuckets 2 2)) ∧
      (r.withLookahead Numeral.maxUInt64).search Simulation.dippingSeries w = .ok (some (.ofBuckets 2 2)) ∧
      ((r.withLookahead Numeral.maxUInt64).apply Simulation.dippingSeries ⟨7⟩ (fun _ => true) [w]).1[0]? =
        some { w with window := .ofBuckets 2 2 } := by
  intro w
  have hle : 6 ≤ Numeral.maxUInt64 := by decide
  refine ⟨hle, fun r hr => ?_⟩
  obtain ⟨hsearch, hpass⟩ := moves_stay_under_longer_lookahead r Simulation.dippingSeries hle
  have hsix : (r.withLookahead 6).search Simulation.dippingSeries w = .ok (some (.ofBuckets 2 2)) ∧
      ((r.withLookahead 6).apply Simulation.dippingSeries ⟨7⟩ (fun _ => true) [w]).1 =
        [{ w with window := .ofBuckets 2 2 }] := by
    rcases List.mem_pair.1 hr with rfl | rfl
    · decide +kernel
    · decide +kernel
  refine ⟨hsix.1, hsearch w _ hsix.1, ?_⟩
  obtain ⟨-, hmoves⟩ := hpass ⟨7⟩ (fun _ => true) [w]
  rw [hmoves 0 (by rw [hsix.2]; decide), hsix.2]
  rfl

end Rescheduling

end CarbonAware
