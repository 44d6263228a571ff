import CarbonAware.Proofs.Loading

/-!
# Reading a limited number of machines

A limit counts the machines that are kept, and is checked before a record is looked at.  So, as long as there is no
error, what is read under a limit is the first part of what is read without one (`Trace.readMachines_limit`); an error
is met under the limits that are not reached before it, and under no others (`Trace.workloads_limit`).
-/

namespace CarbonAware.Trace

variable {series : CarbonSeries} {kept ws : Array Workload} {e : TraceError}
  {records : List (Except Csv.RecordError Csv.Record)}

/-- Reading without a limit takes a record after the other. -/
private theorem readMachines_unlimited (record : Except Csv.RecordError Csv.Record) :
    readMachines series none kept (record :: records) =
      keptMachine? series kept.size record >>= fun found =>
        readMachines series none (found.elim kept kept.push) records := by
  rw [readMachines_cons, if_neg (by simp)]
  refine congrArg _ (funext fun found => ?_)
  cases found <;> rfl

/-- Reading ends at a record with an error. -/
private theorem readMachines_error {record : Except Csv.RecordError Csv.Record}
    (h : keptMachine? series kept.size record = .error e) :
    readMachines series none kept (record :: records) = .error e := by
  rw [readMachines_unlimited, h]
  rfl

/-- Below the limit, a record is read as if there were none. -/
private theorem readMachines_limited (record : Except Csv.RecordError Csv.Record) {n : Nat} (h : kept.size < n) :
    readMachines series (some n) kept (record :: records) =
      keptMachine? series kept.size record >>= fun found =>
        readMachines series (some n) (found.elim kept kept.push) records := by
  rw [readMachines_cons, if_neg (by simpa using h)]
  refine congrArg _ (funext fun found => ?_)
  cases found <;> rfl

/-- At the limit, the records that are left are not looked at. -/
theorem readMachines_full {n : Nat} (h : n ≤ kept.size) : readMachines series (some n) kept records = .ok kept := by
  cases records with
  | nil => rfl
  | cons record rest => rw [readMachines_cons, if_pos (by simpa using h)]

theorem readMachines_append (before after : List (Except Csv.RecordError Csv.Record)) :
    readMachines series none kept (before ++ after) =
      readMachines series none kept before >>= fun found => readMachines series none found after := by
  induction before generalizing kept with
  | nil => rfl
  | cons record rest ih =>
    rw [List.cons_append, readMachines_unlimited, readMachines_unlimited]
    cases keptMachine? series kept.size record with
    | error cause => rfl
    | ok found => exact ih

/-- What was kept before stays at the front. -/
private theorem take_of_readMachines (h : readMachines series none kept records = .ok ws) :
    kept.size ≤ ws.size ∧ ws.take kept.size = kept := by
  induction records generalizing kept with
  | nil =>
    cases h
    simp
  | cons record rest ih =>
    rw [readMachines_unlimited] at h
    obtain ⟨found, -, h⟩ := bind_eq_ok.1 h
    obtain ⟨hsize, htake⟩ := ih h
    cases found with
    | none => exact ⟨hsize, htake⟩
    | some w =>
      simp only [Option.elim_some, Array.size_push] at hsize htake
      refine ⟨by omega, ?_⟩
      have hprefix := congrArg (Array.take · kept.size) htake
      simpa using hprefix

/-- What is read before the limit is reached is read as without a limit; then nothing more is looked at. -/
theorem readMachines_limit (h : readMachines series none kept records = .ok ws) {n : Nat} (hn : kept.size ≤ n)
    (later : List (Except Csv.RecordError Csv.Record)) : readMachines series (some n) kept (records ++ later) =
      if n ≤ ws.size then .ok (ws.take n) else readMachines series (some n) ws later := by
  induction records generalizing kept with
  | nil =>
    cases h
    split
    · rename_i hfull
      obtain rfl : n = ws.size := Nat.le_antisymm hfull hn
      rw [readMachines_full hfull, Array.take_eq_extract, Array.extract_size]
    · rfl
  | cons record rest ih =>
    rcases Nat.lt_or_eq_of_le hn with hlt | rfl
    · rw [readMachines_unlimited] at h
      obtain ⟨found, hfound, h⟩ := bind_eq_ok.1 h
      rw [List.cons_append, readMachines_limited record hlt, hfound]
      refine ih h ?_
      cases found with
      | none => exact hn
      | some w => simpa using hlt
    · obtain ⟨hsize, htake⟩ := take_of_readMachines h
      rw [readMachines_full (le_refl _), if_pos hsize, htake]

/-- An error is that of one record, at which the records before it have been read. -/
private theorem readMachines_eq_error (h : readMachines series none kept records = .error e) :
    ∃ before record after ws, records = before ++ record :: after ∧
      readMachines series none kept before = .ok ws ∧ keptMachine? series ws.size record = .error e := by
  induction records generalizing kept with
  | nil => cases h
  | cons record rest ih =>
    rw [readMachines_unlimited] at h
    cases hfound : keptMachine? series kept.size record with
    | error cause =>
      rw [hfound] at h
      cases h
      exact ⟨[], record, rest, kept, rfl, rfl, hfound⟩
    | ok found =>
      rw [hfound] at h
      obtain ⟨before, bad, after, ws, rfl, hbefore, hbad⟩ := ih h
      refine ⟨record :: before, bad, after, ws, rfl, ?_, hbad⟩
      rw [readMachines_unlimited, hfound]
      exact hbefore

/-! ### The machines of a trace -/

/-- Reading the records ends with the error `e` of one of them, after `ws` have been kept of those before it. -/
def FailsAfter (series : CarbonSeries) (records : List (Except Csv.RecordError Csv.Record)) (ws : List Workload)
    (e : TraceError) : Prop :=
  ∃ before record after, records = before ++ record :: after ∧ workloads series none before = .ok ws ∧
    workloads series none (before ++ [record]) = .error e

private theorem map_eq_error {x : Except TraceError (Array Workload)} :
    x.map Array.toList = .error e ↔ x = .error e := by
  cases x <;> simp [Except.map]

private theorem failsAfter_iff {machines : List Workload} : FailsAfter series records machines e ↔
    ∃ before record after ws, records = before ++ record :: after ∧ readMachines series none #[] before = .ok ws ∧
      keptMachine? series ws.size record = .error e ∧ ws.toList = machines := by
  constructor
  · rintro ⟨before, record, after, hrecords, hbefore, herror⟩
    obtain ⟨ws, hws, rfl⟩ := map_eq_ok.1 hbefore
    rw [workloads, map_eq_error, readMachines_append, hws] at herror
    refine ⟨before, record, after, ws, hrecords, hws, ?_, rfl⟩
    change readMachines series none ws [record] = _ at herror
    rw [readMachines_unlimited] at herror
    cases hfound : keptMachine? series ws.size record with
    | error cause =>
      rw [hfound] at herror
      cases herror
      rfl
    | ok found =>
      rw [hfound] at herror
      cases herror
  · rintro ⟨before, record, after, ws, hrecords, hbefore, herror, rfl⟩
    refine ⟨before, record, after, hrecords, map_eq_ok.2 ⟨ws, hbefore, rfl⟩, ?_⟩
    rw [workloads, map_eq_error, readMachines_append, hbefore]
    exact readMachines_error herror

/--
A limit gives the first machines of the trace.  If all records can be read, the limit `n` leaves the first `n`
machines.  Otherwise there is a first record that cannot be read, and a number of machines before it: limits up to this
number leave as many of them, and all higher ones meet the error.
-/
theorem workloads_limit (series : CarbonSeries) (records : List (Except Csv.RecordError Csv.Record)) :
    (∀ ws, workloads series none records = .ok ws → ∀ n, workloads series (some n) records = .ok (ws.take n)) ∧
    (∀ e, workloads series none records = .error e ↔ ∃ ws, FailsAfter series records ws e) ∧
    ∀ ws e, FailsAfter series records ws e → ∀ n, workloads series (some n) records =
      if n ≤ ws.length then .ok (ws.take n) else .error e := by
  refine ⟨?_, ?_, ?_⟩
  · intro ws h n
    obtain ⟨machines, hmachines, rfl⟩ := map_eq_ok.1 h
    have hlimit := readMachines_limit hmachines (Nat.zero_le n) []
    rw [List.append_nil] at hlimit
    rw [workloads, hlimit]
    split
    · simp [Except.map]
    · rename_i hfew
      have htake : machines.toList.take n = machines.toList := List.take_of_length_le (by simpa using by omega)
      rw [htake]
      rfl
  · intro e
    constructor
    · intro h
      obtain ⟨before, record, after, ws, hrecords, hbefore, herror⟩ := readMachines_eq_error (map_eq_error.1 h)
      exact ⟨_, failsAfter_iff.2 ⟨before, record, after, ws, hrecords, hbefore, herror, rfl⟩⟩
    · rintro ⟨machines, hfails⟩
      obtain ⟨before, record, after, ws, rfl, hbefore, herror, rfl⟩ := failsAfter_iff.1 hfails
      rw [workloads, map_eq_error, readMachines_append, hbefore]
      exact readMachines_error herror
  · intro machines e hfails n
    obtain ⟨before, record, after, ws, rfl, hbefore, herror, rfl⟩ := failsAfter_iff.1 hfails
    rw [workloads, readMachines_limit hbefore (Nat.zero_le n), Array.length_toList]
    split
    · simp [Except.map]
    · rename_i hlimit
      rw [readMachines_limited record (by omega), herror]
      rfl

/-- Two machines, a row without a core count between them, and after them one of half a core. -/
def rowsOfHalfCore : List (Except Csv.RecordError Csv.Record) :=
  [.ok ⟨2, ["0", "600", "20", "1.25", "15", "8", "32"]⟩, .ok ⟨3, ["300", "600", "20", "1.25", "15", "", "32"]⟩,
    .ok ⟨4, ["300", "600", "20", "1.25", "15", "8", "32"]⟩, .ok ⟨5, ["300", "600", "20", "1.25", "15", "0.5", "32"]⟩]

theorem workloads_limit_rowsOfHalfCore : ∃ w w', workloads Simulation.dippingSeries none (rowsOfHalfCore.take 3) =
      .ok [w, w'] ∧ workloads Simulation.dippingSeries (some 1) (rowsOfHalfCore.take 3) = .ok [w] ∧
    FailsAfter Simulation.dippingSeries rowsOfHalfCore [w, w'] (.machineRow 5 (.invalidCores 0.5)) ∧
    workloads Simulation.dippingSeries (some 2) rowsOfHalfCore = .ok [w, w'] ∧
    workloads Simulation.dippingSeries (some 3) rowsOfHalfCore = .error (.machineRow 5 (.invalidCores 0.5)) := by
  have hrows : workloads Simulation.dippingSeries none (rowsOfHalfCore.take 3) =
      .ok [Simulation.idleMachine 0 0 2, Simulation.idleMachine 1 1 1] := by decide +kernel
  have herror : workloads Simulation.dippingSeries none rowsOfHalfCore =
      .error (.machineRow 5 (.invalidCores 0.5)) := by decide +kernel
  have hfails : FailsAfter Simulation.dippingSeries rowsOfHalfCore
      [Simulation.idleMachine 0 0 2, Simulation.idleMachine 1 1 1] (.machineRow 5 (.invalidCores 0.5)) :=
    ⟨rowsOfHalfCore.take 3, .ok ⟨5, ["300", "600", "20", "1.25", "15", "0.5", "32"]⟩, [], rfl, hrows, herror⟩
  obtain ⟨-, -, hlimit⟩ := workloads_limit Simulation.dippingSeries rowsOfHalfCore
  exact ⟨_, _, hrows, (workloads_limit _ _).1 _ hrows 1, hfails, hlimit _ _ hfails 2, hlimit _ _ hfails 3⟩

end CarbonAware.Trace
