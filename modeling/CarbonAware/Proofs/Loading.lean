import CarbonAware.Trace.Machines
import CarbonAware.Proofs.Outcomes

/-!
# Simulations of loaded traces

Reading a trace keeps at most one machine of each record (`Trace.readMachines_cons`), and every machine that it keeps
comes from a row of the trace and ends within the series (`Trace.mem_of_readMachines`), so the series covers it.  With
valid parameters, no scenario over such machines can fail (`Simulation.run_of_loaded`).
-/

namespace CarbonAware

namespace Trace

/-- The machine of a record, if it is kept, after `count` machines have been kept. -/
def keptMachine? (series : CarbonSeries) (count : Nat) (record : Except Csv.RecordError Csv.Record) :
    Except TraceError (Option Workload) := do
  let record ← record.mapError .record
  if ¬isComplete record.fields then return none
  else if Numeral.maxUInt32 < count then throw .tooManyMachines
  else
    let w ← (machineRow count.toUInt32 record.fields).mapError (.machineRow record.line)
    return if series.length < w.window.buckets.stop then none else some w

variable {series : CarbonSeries} {limit : Option Nat}

/-- Reading takes the records one by one, and keeps at most one machine of each. -/
theorem readMachines_cons (kept : Array Workload) (record : Except Csv.RecordError Csv.Record)
    (rest : List (Except Csv.RecordError Csv.Record)) :
    readMachines series limit kept (record :: rest) =
      if limit.any (· ≤ kept.size) then .ok kept
      else keptMachine? series kept.size record >>= fun found =>
        match found with
        | none => readMachines series limit kept rest
        | some w => readMachines series limit (kept.push w) rest := by
  rw [readMachines]
  split
  · rfl
  · unfold keptMachine?
    cases record with
    | error cause => rfl
    | ok row =>
      simp only [Except.mapError, bind, Except.bind]
      split
      · rfl
      · split
        · rfl
        · cases machineRow kept.size.toUInt32 row.fields with
          | error cause => rfl
          | ok w =>
            simp only [pure, Except.pure]
            split <;> rfl

theorem keptMachine?_eq_some {count : Nat} {record : Except Csv.RecordError Csv.Record} {w : Workload}
    (h : keptMachine? series count record = .ok (some w)) :
    ∃ row, record = .ok row ∧ machineRow count.toUInt32 row.fields = .ok w ∧
      w.window.buckets.stop ≤ series.length := by
  obtain ⟨row, hrow, h⟩ := bind_eq_ok.1 h
  rw [mapError_eq_ok] at hrow
  split at h
  · cases h
  · split at h
    · cases h
    · obtain ⟨machine, hmachine, h⟩ := bind_eq_ok.1 h
      rw [mapError_eq_ok] at hmachine
      split at h
      · cases h
      · rename_i hwithin
        cases h
        exact ⟨row, hrow, hmachine, Nat.not_lt.1 hwithin⟩

/-- What a kept machine is: one that was kept before, or the machine of a row that ends within the series. -/
theorem mem_of_readMachines {kept ws : Array Workload} {records : List (Except Csv.RecordError Csv.Record)}
    (h : readMachines series limit kept records = .ok ws) {w : Workload} (hw : w ∈ ws) :
    w ∈ kept ∨ ∃ row, .ok row ∈ records ∧ ∃ id, machineRow id row.fields = .ok w ∧
      w.window.buckets.stop ≤ series.length := by
  induction records generalizing kept with
  | nil =>
    cases h
    exact .inl hw
  | cons record rest ih =>
    rw [readMachines_cons] at h
    split at h
    · cases h
      exact .inl hw
    · obtain ⟨found, hfound, h⟩ := bind_eq_ok.1 h
      -- the machine was kept so far, is that of this record, or comes from a later one
      have hcases : w ∈ kept ∨ found = some w ∨ ∃ row, .ok row ∈ rest ∧ ∃ id, machineRow id row.fields = .ok w ∧
          w.window.buckets.stop ≤ series.length := by
        cases found with
        | none =>
          rcases ih h with hkept | hlater
          · exact .inl hkept
          · exact .inr (.inr hlater)
        | some machine =>
          rcases ih h with hkept | hlater
          · rcases Array.mem_push.1 hkept with hkept | rfl
            · exact .inl hkept
            · exact .inr (.inl rfl)
          · exact .inr (.inr hlater)
      rcases hcases with hkept | rfl | ⟨row, hmem, hrow⟩
      · exact .inl hkept
      · obtain ⟨row, rfl, hrow⟩ := keptMachine?_eq_some hfound
        exact .inr ⟨row, List.mem_cons_self, _, hrow⟩
      · exact .inr ⟨row, List.mem_cons_of_mem _ hmem, hrow⟩

/-- The series covers all machines that are read against it. -/
theorem covered_of_mem_workloads {ws : List Workload} {records : List (Except Csv.RecordError Csv.Record)}
    (h : workloads series limit records = .ok ws) {w : Workload} (hw : w ∈ ws) :
    w.window.Covered series.length := by
  obtain ⟨kept, hkept, rfl⟩ := map_eq_ok.1 h
  rcases mem_of_readMachines hkept (Array.mem_toList_iff.1 hw) with hnone | ⟨row, -, id, -, hstop⟩
  · exact absurd hnone (Array.not_mem_empty w)
  · exact fun _ => hstop

end Trace

namespace Parameters

variable {p : Parameters}

theorem validate_ok_iff : p.validate = .ok () ↔ p.eligibility.validate = .ok () ∧ p.threshold.validate = .ok () ∧
    p.movingAverage.validate = .ok () ∧ p.coreReduction.validate = .ok () ∧ p.shutdown.validate = .ok () := by
  unfold validate
  rw [check_eq_ok, check_eq_ok, check_eq_ok, check_eq_ok, mapError_eq_ok]

theorem rescheduling_validate (h : p.validate = .ok ()) (kind : ReschedulingKind) :
    (p.rescheduling kind).validate = .ok () := by
  obtain ⟨-, hthreshold, hmovingAverage, -, -⟩ := validate_ok_iff.1 h
  cases kind with
  | none => rfl
  | threshold => exact hthreshold
  | movingAverage => exact hmovingAverage

theorem adjustment_validate (h : p.validate = .ok ()) (kind : AdjustmentKind) :
    (p.adjustment kind).validate = .ok () := by
  obtain ⟨-, -, -, hcoreReduction, hshutdown⟩ := validate_ok_iff.1 h
  cases kind with
  | none => rfl
  | coreReduction => exact hcoreReduction
  | shutdown => exact hshutdown

/-- All scenarios of valid parameters are valid. -/
theorem scenario_validate (h : p.validate = .ok ()) {reschedulings : List ReschedulingKind}
    {adjustments : List AdjustmentKind} {scenario : Scenario}
    (hs : scenario ∈ p.scenarios reschedulings adjustments) : scenario.validate = .ok () := by
  obtain ⟨rescheduling, -, hs⟩ := List.mem_flatMap.1 hs
  obtain ⟨adjustment, -, rfl⟩ := List.mem_map.1 hs
  exact Scenario.validate_ok_iff.2 ⟨rescheduling_validate h rescheduling, adjustment_validate h adjustment⟩

end Parameters

namespace Simulation

/--
A simulation of a loaded trace cannot fail.  With valid parameters, every scenario over the machines that were read
against a series, with any limit, has an outcome.
-/
theorem run_of_loaded (series : CarbonSeries) (records : List (Except Csv.RecordError Csv.Record))
    (limit : Option Nat) (workloads : List Workload)
    (hworkloads : Trace.workloads series limit records = .ok workloads) (p : Parameters)
    (hp : p.validate = .ok ()) (reschedulings : List ReschedulingKind) (adjustments : List AdjustmentKind) :
    ∀ scenario ∈ p.scenarios reschedulings adjustments, ∃ o,
      Simulation.run { series, workloads, eligibility := p.eligibility, seed := p.seed } scenario = .ok o := by
  intro scenario hscenario
  have hvalid := Parameters.scenario_validate hp hscenario
  have heligibility := (Parameters.validate_ok_iff.1 hp).1
  exact run_ok_of_covered hvalid heligibility fun w hw => Trace.covered_of_mem_workloads hworkloads hw

/-- The rows of a machine that is kept, of one without a core count, and of one that runs past the series. -/
def threeRows : List (Except Csv.RecordError Csv.Record) :=
  [.ok ⟨2, ["0", "650.5", "20", "1.25", "15", "8", "32"]⟩, .ok ⟨3, ["300", "600", "20", "1.25", "15", "", "32"]⟩,
    .ok ⟨4, ["300", "2400", "20", "1.25", "15", "8", "32"]⟩]

theorem run_of_loaded_threeRows :
    let p : Parameters := { (default : Parameters) with eligibility := ⟨600, 86100⟩ }
    ∃ w, Trace.workloads dippingSeries none threeRows = .ok [w] ∧ p.validate = .ok () ∧
      ∀ scenario ∈ p.scenarios ReschedulingKind.all AdjustmentKind.all, ∃ o,
        Simulation.run ⟨dippingSeries, [w], p.eligibility, p.seed⟩ scenario = .ok o := by
  intro p
  have hp : p.validate = .ok () := by decide
  have hrows : Trace.workloads dippingSeries none threeRows = .ok [{ idleMachine 0 0 2 with runtime := 650 }] := by
    decide +kernel
  exact ⟨_, hrows, hp, run_of_loaded _ _ _ _ hrows p hp ReschedulingKind.all AdjustmentKind.all⟩

end Simulation

end CarbonAware
