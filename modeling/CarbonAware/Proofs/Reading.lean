import CarbonAware.Proofs.Loading
import CarbonAware.Proofs.Numeral.Conversions

/-!
# What a machine trace says

A machine trace without a limit is refused for its first defect, and otherwise read to the machines of its complete
rows that end within the series, numbered from zero on (`Trace.workloads_eq`).  A complete row has a defect unless its
seven numbers are in range (`Trace.rowErrors_eq_none_iff`), so that every machine that is read satisfies what the
simulation relies on (`Figures.Valid.loaded`).
-/

namespace CarbonAware

namespace Workload

/-- The workload with the number `count`. -/
def numbered (w : Workload) (count : Nat) : Workload := { w with id := count.toUInt32 }

/-- A number from zero to one. -/
def IsFraction (x : Float) : Prop := 0.0 ≤ x ∧ x ≤ 1.0

/-- What holds of every workload that has been read against the series. -/
structure Loaded (series : CarbonSeries) (w : Workload) : Prop where
  onGrid : w.window.OnGrid series.length
  /-- Seconds are 64-bit numbers. -/
  stop_le : w.window.stop ≤ Numeral.maxInt64
  traceWindow : w.traceWindow = w.window
  one_le_cores : 1 ≤ w.cores
  average : IsFraction w.utilization.average
  maximum : IsFraction w.utilization.maximum
  p95 : IsFraction w.utilization.p95

end Workload

namespace Trace

/-! ### The numbers of a row -/

/-- The numbers in the used columns of a row. -/
structure Figures where
  start : Float
  stop : Float
  maximum : Float
  average : Float
  p95 : Float
  cores : Float
  ramGigabytes : Float

/-- The number in a column. -/
def figure? (fields : List String) (column : Column) : Option Float :=
  fields[column.index]?.bind fun text => (Numeral.float text).toOption

/-- The numbers of a row, if it has all of them. -/
def figures? (fields : List String) : Option Figures := do
  return {
    start := ← figure? fields .start
    stop := ← figure? fields .stop
    maximum := ← figure? fields .maximum
    average := ← figure? fields .average
    p95 := ← figure? fields .p95
    cores := ← figure? fields .cores
    ramGigabytes := ← figure? fields .ramGigabytes }

def IsPercentage (x : Float) : Prop := 0.0 ≤ x ∧ x ≤ 100.0

/-- The numbers that describe a machine. -/
structure Figures.Valid (f : Figures) : Prop where
  start_nonneg : 0.0 ≤ f.start
  start_le_stop : f.start ≤ f.stop
  stop_finite : f.stop.isFinite = true
  one_le_cores : 1.0 ≤ f.cores
  memory_nonneg : 0.0 ≤ f.ramGigabytes
  average : IsPercentage f.average
  maximum : IsPercentage f.maximum
  p95 : IsPercentage f.p95

/-- The machine that the numbers describe. -/
def Figures.machine (f : Figures) (id : UInt32) : Workload where
  id := id
  window := .aligned (secondsOf f.start) (secondsOf f.stop)
  traceWindow := .aligned (secondsOf f.start) (secondsOf f.stop)
  runtime := Numeral.wrapInt64 (secondsOf f.stop - secondsOf f.start)
  cores := f.cores.toUInt32
  ramMegabytes := megabytesOf f.ramGigabytes.toUInt32
  utilization := .ofPercentages f.average f.maximum f.p95

/-! ### What can be wrong with a row -/

/-- What is wrong with the text in a column. -/
def textError? (fields : List String) (column : Column) : Option RowError :=
  match fields[column.index]? with
  | none => some (.missingColumn column.index)
  | some text => match Numeral.float text with
    | .ok _ => none
    | .error cause => some (.notANumber column.index text cause)

/-- What is wrong with the number in a column. -/
def rangeError? (fields : List String) (column : Column) (valid : Float → Bool) (error : Float → RowError) :
    Option RowError :=
  ((figure? fields column).filter (!valid ·)).map error

/-- What is wrong with the two time stamps. -/
def windowError? (fields : List String) : Option RowError := do
  let start ← figure? fields .start
  let stop ← figure? fields .stop
  if 0.0 ≤ start ∧ start ≤ stop ∧ stop.isFinite then none else some (.invalidWindow start stop)

def percentageError? (fields : List String) (column : Column) : Option RowError :=
  rangeError? fields column (fun x => 0.0 ≤ x && x ≤ 100.0) (.invalidPercentage column.index)

/-- What the checks of a row find, in the order in which they are made. -/
def rowErrors (fields : List String) : List (Option RowError) :=
  [textError? fields .start, textError? fields .stop, windowError? fields,
    textError? fields .cores, rangeError? fields .cores (1.0 ≤ ·) .invalidCores,
    textError? fields .ramGigabytes, rangeError? fields .ramGigabytes (0.0 ≤ ·) .invalidMemory,
    textError? fields .average, percentageError? fields .average,
    textError? fields .maximum, percentageError? fields .maximum,
    textError? fields .p95, percentageError? fields .p95]

/-- The computation fails with the first of the errors, and succeeds if there is none. -/
def Reports {ε α : Type} (x : Except ε α) (errors : List (Option ε)) : Prop :=
  match errors.findSome? id with
  | some e => x = .error e
  | none => ∃ a, x = .ok a

private theorem Reports.bind {ε α β : Type} {x : Except ε α} {f : α → Except ε β} {errors errors' : List (Option ε)}
    (hx : Reports x errors) (hf : ∀ a, x = .ok a → Reports (f a) errors') :
    Reports (x >>= f) (errors ++ errors') := by
  unfold Reports at hx ⊢
  rw [List.findSome?_append]
  cases herror : errors.findSome? id with
  | some e =>
    rw [herror] at hx
    simp only [Option.some_or, hx]
    rfl
  | none =>
    rw [herror] at hx
    obtain ⟨a, rfl⟩ := hx
    exact hf a rfl

private theorem reports_pure {ε α : Type} (a : α) : Reports (pure a : Except ε α) [] := ⟨a, rfl⟩

/-- A check after which the computation goes on. -/
private theorem Reports.check {ε β : Type} {c : Prop} [Decidable c] {e : ε} {error? : Option ε}
    {errors : List (Option ε)} {f : Unit → Except ε β} (h : error? = if c then none else some e)
    (hf : c → Reports (f ()) errors) : Reports (if c then f () else throw e >>= f) (error? :: errors) := by
  rw [h]
  by_cases hc : c
  · simp only [if_pos hc]
    exact hf hc
  · simp only [if_neg hc]
    rfl

private theorem unless_eq_ok {ε β : Type} {c : Prop} [Decidable c] {e : ε} {f : Unit → Except ε β} {b : β} :
    (if c then f () else throw e >>= f) = .ok b ↔ c ∧ f () = .ok b := by
  by_cases hc : c
  · rw [if_pos hc]
    exact ⟨fun h => ⟨hc, h⟩, And.right⟩
  · rw [if_neg hc]
    exact ⟨fun h => (nomatch h), fun h => absurd h.1 hc⟩

variable {fields : List String}

theorem number_eq_ok {column : Column} {x : Float} :
    number fields column.index = .ok x ↔ figure? fields column = some x := by
  unfold number figure?
  cases fields[column.index]? with
  | none => simp
  | some text =>
    simp only [mapError_eq_ok, Option.bind_some]
    cases Numeral.float text <;> simp [Except.toOption]

private theorem reports_number (column : Column) :
    Reports (number fields column.index) [textError? fields column] := by
  unfold number textError?
  cases fields[column.index]? with
  | none => rfl
  | some text =>
    cases hx : Numeral.float text with
    | error cause => simp only [hx]; rfl
    | ok x => simp only [hx]; exact ⟨x, rfl⟩

private theorem rangeError?_eq {column : Column} {valid : Float → Bool} {error : Float → RowError} {x : Float}
    (hx : figure? fields column = some x) :
    rangeError? fields column valid error = if valid x then none else some (error x) := by
  rw [rangeError?, hx]
  cases hvalid : valid x <;> simp [Option.filter, hvalid]

private theorem windowError?_eq {start stop : Float} (hstart : figure? fields .start = some start)
    (hstop : figure? fields .stop = some stop) :
    windowError? fields =
      if 0.0 ≤ start ∧ start ≤ stop ∧ stop.isFinite then none else some (.invalidWindow start stop) := by
  rw [windowError?, hstart, hstop]
  rfl

theorem percentage_eq_ok {column : Column} {x : Float} :
    percentage fields column = .ok x ↔ figure? fields column = some x ∧ IsPercentage x := by
  unfold percentage
  rw [bind_eq_ok]
  constructor
  · rintro ⟨value, hvalue, h⟩
    split at h
    · rename_i hrange
      cases h
      exact ⟨number_eq_ok.1 hvalue, hrange⟩
    · cases h
  · rintro ⟨hx, hrange⟩
    exact ⟨x, number_eq_ok.2 hx, if_pos hrange⟩

private theorem reports_percentage (column : Column) :
    Reports (percentage fields column) [textError? fields column, percentageError? fields column] := by
  refine (reports_number column).bind fun x hx => ?_
  rw [percentageError?, rangeError?_eq (number_eq_ok.1 hx)]
  by_cases hrange : 0.0 ≤ x ∧ x ≤ 100.0
  · rw [if_pos hrange, if_pos (by simpa using hrange)]
    exact ⟨x, rfl⟩
  · rw [if_neg hrange, if_neg (by simpa using hrange)]
    rfl

/-- A row is refused for the first thing that is wrong with it. -/
theorem reports_machineRow (id : UInt32) (fields : List String) :
    Reports (machineRow id fields) (rowErrors fields) := by
  unfold machineRow rowErrors
  -- one step for each check, in the order of the row
  refine (reports_number .start).bind fun start hstart => ?_
  refine (reports_number .stop).bind fun stop hstop => ?_
  refine .check (windowError?_eq (number_eq_ok.1 hstart) (number_eq_ok.1 hstop)) fun _ => ?_
  refine (reports_number .cores).bind fun cores hcores => ?_
  refine .check (by simp [rangeError?_eq (number_eq_ok.1 hcores)]) fun _ => ?_
  refine (reports_number .ramGigabytes).bind fun ramGigabytes hram => ?_
  refine .check (by simp [rangeError?_eq (number_eq_ok.1 hram)]) fun _ => ?_
  refine (reports_percentage .average).bind fun average _ => ?_
  refine (reports_percentage .maximum).bind fun maximum _ => ?_
  exact (reports_percentage .p95).bind fun p95 _ => reports_pure _

/-- A row describes a machine if its seven numbers are in range. -/
theorem machineRow_eq_ok {id : UInt32} {w : Workload} :
    machineRow id fields = .ok w ↔ ∃ f, figures? fields = some f ∧ f.Valid ∧ w = f.machine id := by
  constructor
  · intro h
    obtain ⟨start, hstart, h⟩ := bind_eq_ok.1 h
    obtain ⟨stop, hstop, h⟩ := bind_eq_ok.1 h
    obtain ⟨⟨hnonneg, hle, hfinite⟩, h⟩ := unless_eq_ok.1 h
    obtain ⟨cores, hcores, h⟩ := bind_eq_ok.1 h
    obtain ⟨hleast, h⟩ := unless_eq_ok.1 h
    obtain ⟨ramGigabytes, hram, h⟩ := bind_eq_ok.1 h
    obtain ⟨hmemory, h⟩ := unless_eq_ok.1 h
    obtain ⟨average, haverage, h⟩ := bind_eq_ok.1 h
    obtain ⟨maximum, hmaximum, h⟩ := bind_eq_ok.1 h
    obtain ⟨p95, hp95, h⟩ := bind_eq_ok.1 h
    cases h
    rw [number_eq_ok] at hstart hstop hcores hram
    rw [percentage_eq_ok] at haverage hmaximum hp95
    refine ⟨⟨start, stop, maximum, average, p95, cores, ramGigabytes⟩, ?_,
      ⟨hnonneg, hle, hfinite, hleast, hmemory, haverage.2, hmaximum.2, hp95.2⟩, rfl⟩
    rw [figures?, hstart, hstop, hmaximum.1, haverage.1, hp95.1, hcores, hram]
    rfl
  · rintro ⟨f, hf, hvalid, rfl⟩
    simp only [figures?, Option.bind_eq_bind, Option.bind_eq_some_iff] at hf
    obtain ⟨start, hstart, stop, hstop, maximum, hmaximum, average, haverage, p95, hp95, cores, hcores, ramGigabytes,
      hram, hf⟩ := hf
    cases hf
    obtain ⟨hnonneg, hle, hfinite, hleast, hmemory, haverage', hmaximum', hp95'⟩ := hvalid
    rw [machineRow, number_eq_ok.2 hstart, number_eq_ok.2 hstop, number_eq_ok.2 hcores, number_eq_ok.2 hram,
      percentage_eq_ok.2 ⟨haverage, haverage'⟩, percentage_eq_ok.2 ⟨hmaximum, hmaximum'⟩,
      percentage_eq_ok.2 ⟨hp95, hp95'⟩]
    simp only [bind, Except.bind, pure, Except.pure]
    rw [if_pos ⟨hnonneg, hle, hfinite⟩, if_pos hleast, if_pos hmemory]
    rfl

/-! ### The machines of a trace -/

/-- Every used column has a text that is not empty. -/
def Complete (fields : List String) : Prop := ∀ column : Column, ∃ text, fields[column.index]? = some text ∧ text ≠ ""

theorem isComplete_iff {fields : List String} : isComplete fields = true ↔ Complete fields := by
  unfold isComplete Complete
  rw [List.all_eq_true]
  constructor
  · intro h column
    have hcolumn := h column (by cases column <;> decide)
    split at hcolumn
    · rename_i text htext
      exact ⟨text, htext, by simpa using hcolumn⟩
    · cases hcolumn
  · intro h column _
    obtain ⟨text, htext, hne⟩ := h column
    rw [htext]
    simpa using hne

instance (fields : List String) : Decidable (Complete fields) := decidable_of_iff _ isComplete_iff

/-- The error of a record that cannot be read, or of a complete row with something wrong in it. -/
def defect? : Except Csv.RecordError Csv.Record → Option TraceError
  | .error cause => some (.record cause)
  | .ok row => if Complete row.fields then ((rowErrors row.fields).findSome? id).map (.machineRow row.line) else none

variable (series : CarbonSeries)

/-- The machine of a complete row, if it ends within the series, not yet numbered. -/
def machine? : Except Csv.RecordError Csv.Record → Option Workload
  | .error _ => none
  | .ok row =>
    if Complete row.fields then
      ((figures? row.fields).map (·.machine 0)).filter fun w => w.window.buckets.stop ≤ series.length
    else none

/-- The numbers of a complete row without an error. -/
private theorem rowErrors_cases (fields : List String) :
    ((rowErrors fields).findSome? id = none ∧ ∃ f, figures? fields = some f ∧ f.Valid ∧
      ∀ id, machineRow id fields = .ok (f.machine id)) ∨
    ∃ e, (rowErrors fields).findSome? id = some e ∧ ∀ id, machineRow id fields = .error e := by
  have hreports (number : UInt32) := reports_machineRow number fields
  unfold Reports at hreports
  cases hfirst : (rowErrors fields).findSome? id with
  | some e =>
    rw [hfirst] at hreports
    exact .inr ⟨e, rfl, hreports⟩
  | none =>
    rw [hfirst] at hreports
    obtain ⟨w, hw⟩ := hreports 0
    obtain ⟨f, hf, hvalid, -⟩ := machineRow_eq_ok.1 hw
    exact .inl ⟨rfl, f, hf, hvalid, fun id => machineRow_eq_ok.2 ⟨f, hf, hvalid, rfl⟩⟩

/-- A complete row has nothing wrong in it if and only if its seven numbers are in range. -/
theorem rowErrors_eq_none_iff {fields : List String} :
    (rowErrors fields).findSome? id = none ↔ ∃ f, figures? fields = some f ∧ f.Valid := by
  rcases rowErrors_cases fields with ⟨hnone, f, hf, hvalid, -⟩ | ⟨e, hsome, herror⟩
  · exact ⟨fun _ => ⟨f, hf, hvalid⟩, fun _ => hnone⟩
  · constructor
    · intro hnone
      rw [hnone] at hsome
      cases hsome
    · rintro ⟨f, hf, hvalid⟩
      have hok : machineRow 0 fields = .ok (f.machine 0) := machineRow_eq_ok.2 ⟨f, hf, hvalid, rfl⟩
      rw [herror] at hok
      cases hok

variable {series}

private theorem machine?_of_figures {row : Csv.Record} {f : Figures} (hcomplete : Complete row.fields)
    (h : figures? row.fields = some f) : machine? series (.ok row) =
      if (f.machine 0).window.buckets.stop ≤ series.length then some (f.machine 0) else none := by
  rw [machine?, if_pos hcomplete, h, Option.map_some, Option.filter_some]
  simp only [decide_eq_true_eq]

/-- One record: it ends the reading with its defect, or gives its machine the next number. -/
private theorem keptMachine?_eq {count : Nat} (hcount : count ≤ Numeral.maxUInt32)
    (record : Except Csv.RecordError Csv.Record) : keptMachine? series count record =
      match defect? record with
      | some e => .error e
      | none => .ok ((machine? series record).map fun w => w.numbered count) := by
  unfold keptMachine? defect?
  cases record with
  | error cause => rfl
  | ok row =>
    simp only [Except.mapError, bind, Except.bind, isComplete_iff]
    by_cases hcomplete : Complete row.fields
    · rw [if_neg (not_not.2 hcomplete), if_neg (Nat.not_lt.2 hcount), if_pos hcomplete]
      rcases rowErrors_cases row.fields with ⟨hnone, f, hf, -, hok⟩ | ⟨e, hsome, herror⟩
      · rw [hnone, hok, machine?_of_figures hcomplete hf]
        -- the number does not enter the window, by which a machine is kept
        have hwindow (id : UInt32) : (f.machine id).window = (f.machine 0).window := rfl
        simp only [Option.map_none, pure, Except.pure, hwindow count.toUInt32]
        by_cases hwithin : (f.machine 0).window.buckets.stop ≤ series.length
        · rw [if_pos hwithin, if_neg (Nat.not_lt.2 hwithin)]
          rfl
        · rw [if_neg hwithin, if_pos (Nat.not_le.1 hwithin)]
          rfl
      · rw [hsome, herror]
        rfl
    · rw [if_pos hcomplete, if_neg hcomplete, machine?, if_neg hcomplete]
      rfl

/-- Reading without a limit is a pass over the records. -/
private theorem readMachines_eq (kept : Array Workload) (records : List (Except Csv.RecordError Csv.Record))
    (h : kept.size + records.length ≤ Numeral.maxUInt32) : readMachines series none kept records =
      match records.findSome? defect? with
      | some e => .error e
      | none => .ok (kept ++ ((records.filterMap (machine? series)).mapIdx fun i w =>
          w.numbered (kept.size + i)).toArray) := by
  induction records generalizing kept with
  | nil => simp [readMachines]
  | cons record rest ih =>
    rw [List.length_cons] at h
    rw [readMachines_cons, if_neg (by simp), keptMachine?_eq (by omega), List.findSome?_cons, List.filterMap_cons]
    -- the induction is over the records, for any machines read before them
    cases defect? record with
    | some e => rfl
    | none =>
      cases machine? series record with
      | none =>
        change readMachines series none kept rest = _
        rw [ih kept (by omega)]
      | some w =>
        change readMachines series none (kept.push (w.numbered kept.size)) rest = _
        rw [ih _ (by rw [Array.size_push]; omega)]
        cases rest.findSome? defect? with
        | some e => rfl
        | none =>
          have hnext (i : Nat) : kept.size + 1 + i = kept.size + (i + 1) := by omega
          simp only [List.mapIdx_cons, Array.size_push, Nat.add_zero, hnext]
          congr 1
          apply Array.toList_inj.1
          simp

/-! ### What is known of the machines -/

theorem isFinite_start {f : Figures} (h : f.Valid) : f.start.isFinite = true :=
  Numeral.isFinite_of_le_of_le (by decide) h.stop_finite h.start_nonneg h.start_le_stop

/-- The whole seconds of valid time stamps are in order. -/
private theorem secondsOf_le {f : Figures} (h : f.Valid) :
    0 ≤ secondsOf f.start ∧ secondsOf f.start ≤ secondsOf f.stop ∧ secondsOf f.stop ≤ Numeral.maxInt64 := by
  have hzero : secondsOf 0.0 = 0 := by decide
  refine ⟨?_, Numeral.truncate_mono (isFinite_start h) h.stop_finite h.start_le_stop _ _, ?_⟩
  · rw [← hzero]
    exact Numeral.truncate_mono (by decide) (isFinite_start h) h.start_nonneg _ _
  · unfold secondsOf Numeral.truncate
    have : Numeral.minInt64 ≤ Numeral.maxInt64 := by decide
    omega

/-- A percentage as a fraction lies between zero and one. -/
private theorem isFraction_of_isPercentage {x : Float} (h : IsPercentage x) :
    Workload.IsFraction (x / 100.0) := by
  have hx := Numeral.isFinite_of_le_of_le (by decide) (by decide) h.1 h.2
  have hlo := (Numeral.le_iff (by decide) hx).1 h.1
  have hhi := (Numeral.le_iff hx (by decide)).1 h.2
  have hhundred : Numeral.value 100.0 = 100 := Numeral.value_literal (n := 100) (by norm_num) (by norm_num)
  rw [Numeral.value_zero] at hlo
  rw [hhundred] at hhi
  have hrounds := Numeral.rounds_div hx (y := 100.0) (by decide)
  rw [hhundred] at hrounds
  have hle : Numeral.value x / 100 ≤ 1 := by rw [div_le_one (by norm_num)]; exact hhi
  have hnonneg : 0 ≤ Numeral.value x / 100 := div_nonneg hlo (by norm_num)
  obtain ⟨hfinite, hvalue⟩ := hrounds (by norm_num) (Numeral.inRange_of_abs_le (by
    rw [abs_of_nonneg hnonneg]
    exact le_trans hle (one_le_zpow₀ (by norm_num) (by norm_num))))
  rw [Workload.IsFraction, Numeral.le_iff (by decide) hfinite, Numeral.le_iff hfinite (by decide), hvalue,
    Numeral.value_one, Numeral.value_zero]
  exact ⟨Numeral.nearest_nonneg hnonneg, Numeral.nearest_le Numeral.isDyadic_one hle⟩

/-- Valid numbers describe a machine that the simulation accepts, if it ends within the series. -/
theorem Figures.Valid.loaded {f : Figures} (h : f.Valid) (id : UInt32)
    (hstop : (f.machine id).window.buckets.stop ≤ series.length) : (f.machine id).Loaded series := by
  obtain ⟨hnonneg, hle, hmax⟩ := secondsOf_le h
  unfold Numeral.maxInt64 at hmax
  have hgrid : (f.machine id).window.OnGrid series.length := Window.onGrid_aligned hnonneg hle (by omega) hstop
  have hbounds := hgrid.bounds series.length_le
  constructor
  · exact hgrid
  · unfold Numeral.maxInt64
    omega
  · rfl
  · exact Numeral.one_le_toUInt32 h.one_le_cores
  · exact isFraction_of_isPercentage h.average
  · exact isFraction_of_isPercentage h.maximum
  · exact isFraction_of_isPercentage h.p95

/-- The runtime of valid numbers does not wrap around. -/
private theorem runtime_eq {f : Figures} (h : f.Valid) (id : UInt32) :
    (f.machine id).runtime = secondsOf f.stop - secondsOf f.start := by
  obtain ⟨hnonneg, hle, hmax⟩ := secondsOf_le h
  unfold Numeral.maxInt64 at hmax
  exact Numeral.wrapInt64_of_mem (by omega) (by omega)

/-- The runtime is close to the duration of the aligned window. -/
private theorem runtime_near {f : Figures} (h : f.Valid) (id : UInt32) : 0 ≤ (f.machine id).runtime ∧
    |(f.machine id).runtime - (f.machine id).window.duration| < bucketSeconds := by
  obtain ⟨hnonneg, hle, hmax⟩ := secondsOf_le h
  unfold Numeral.maxInt64 at hmax
  have hduration := Window.duration_aligned hnonneg hle (by omega)
  change (f.machine id).window.duration = _ at hduration
  rw [hduration, runtime_eq h, abs_lt]
  unfold bucketSeconds
  omega

/-! ### The whole trace -/

private theorem mem_machines {records : List (Except Csv.RecordError Csv.Record)}
    (hdefect : records.findSome? defect? = none) {w : Workload} (hw : w ∈ records.filterMap (machine? series)) :
    ∃ row f, .ok row ∈ records ∧ figures? row.fields = some f ∧ f.Valid ∧ w = f.machine 0 ∧
      w.window.buckets.stop ≤ series.length := by
  obtain ⟨record, hmem, hrecord⟩ := List.mem_filterMap.1 hw
  have hnone := List.findSome?_eq_none_iff.1 hdefect record hmem
  cases record with
  | error cause => cases hrecord
  | ok row =>
    by_cases hcomplete : Complete row.fields
    · rw [defect?, if_pos hcomplete, Option.map_eq_none_iff] at hnone
      obtain ⟨f, hf, hvalid⟩ := rowErrors_eq_none_iff.1 hnone
      rw [machine?_of_figures hcomplete hf] at hrecord
      split at hrecord
      · rename_i hwithin
        cases hrecord
        exact ⟨row, f, hmem, hf, hvalid, rfl, hwithin⟩
      · cases hrecord
    · rw [machine?, if_neg hcomplete] at hrecord
      cases hrecord

theorem workloads_eq (series : CarbonSeries) (records : List (Except Csv.RecordError Csv.Record))
    (h : records.length < 2 ^ 32) :
    workloads series none records =
      match records.findSome? defect? with
      | some e => .error e
      | none => .ok ((records.filterMap (machine? series)).mapIdx fun i w => w.numbered i) := by
  rw [workloads, readMachines_eq #[] records (by change 0 + records.length ≤ 2 ^ 32 - 1; omega)]
  cases records.findSome? defect? with
  | some e => rfl
  | none => simp [Except.map]

private theorem numbers_of_mapIdx {machines : List Workload} (h : machines.length ≤ 2 ^ 32) :
    (machines.mapIdx fun i w => w.numbered i).map (·.id.toNat) = List.range machines.length := by
  apply List.ext_getElem
  · rw [List.length_map, List.length_mapIdx, List.length_range]
  · intro i hi _
    rw [List.length_map, List.length_mapIdx] at hi
    rw [List.getElem_map, List.getElem_mapIdx, List.getElem_range]
    exact Nat.mod_eq_of_lt (by omega)

/--
Reading a machine trace is a pass over its records.  It fails with the error of the first record that cannot be read,
or that is complete but malformed: its seven numbers are not all in range.  Otherwise it gives the machines of the
complete rows that end within the series, in order and numbered from zero on, and these are in order for a simulation.
-/
theorem workloads_pipeline (series : CarbonSeries) (records : List (Except Csv.RecordError Csv.Record))
    (h : records.length < 2 ^ 32) :
    (workloads series none records =
      match records.findSome? defect? with
      | some e => .error e
      | none => .ok ((records.filterMap (machine? series)).mapIdx fun i w => w.numbered i)) ∧
    (∀ row : Csv.Record, Complete row.fields →
      (defect? (.ok row) = none ↔ ∃ f, figures? row.fields = some f ∧ f.Valid)) ∧
    ∀ ws, workloads series none records = .ok ws → ws.map (·.id.toNat) = List.range ws.length ∧
      ∀ w ∈ ws, w.Loaded series ∧ 0 ≤ w.runtime ∧ |w.runtime - w.window.duration| < bucketSeconds ∧
        ∃ row f, .ok row ∈ records ∧ figures? row.fields = some f ∧ f.Valid ∧ w = f.machine w.id ∧
          w.runtime = secondsOf f.stop - secondsOf f.start := by
  have heq := workloads_eq series records h
  refine ⟨heq, ?_, ?_⟩
  · intro row hcomplete
    rw [defect?, if_pos hcomplete, Option.map_eq_none_iff, rowErrors_eq_none_iff]
  · intro ws hws
    cases hdefect : records.findSome? defect? with
    | some e =>
      rw [heq, hdefect] at hws
      cases hws
    | none =>
      rw [heq, hdefect] at hws
      cases hws
      have hlength : (records.filterMap (machine? series)).length ≤ 2 ^ 32 :=
        le_trans (List.length_filterMap_le _ _) (le_of_lt h)
      refine ⟨by rw [numbers_of_mapIdx hlength, List.length_mapIdx], fun w hw => ?_⟩
      obtain ⟨i, hi, rfl⟩ := List.mem_mapIdx.1 hw
      obtain ⟨row, f, hmem, hf, hvalid, hmachine, hstop⟩ := mem_machines hdefect (List.getElem_mem hi)
      have hnumbered : ((records.filterMap (machine? series))[i]).numbered i = f.machine i.toUInt32 := by
        rw [hmachine]
        rfl
      rw [hmachine] at hstop
      rw [hnumbered]
      obtain ⟨hnonneg, hnear⟩ := runtime_near hvalid i.toUInt32
      exact ⟨hvalid.loaded _ hstop, hnonneg, hnear, row, f, hmem, hf, hvalid, rfl, runtime_eq hvalid _⟩

theorem workloads_pipeline_threeRows :
    ∃ w, workloads Simulation.dippingSeries none Simulation.threeRows = .ok [w] ∧ w.id = 0 ∧ w.runtime = 650 ∧
      w.Loaded Simulation.dippingSeries ∧ |w.runtime - w.window.duration| < bucketSeconds := by
  obtain ⟨-, -, hread⟩ := workloads_pipeline Simulation.dippingSeries Simulation.threeRows (by decide)
  have hrows : workloads Simulation.dippingSeries none Simulation.threeRows =
      .ok [{ Simulation.idleMachine 0 0 2 with runtime := 650 }] := by decide +kernel
  obtain ⟨-, hmachines⟩ := hread _ hrows
  obtain ⟨hloaded, -, hnear, -⟩ := hmachines _ List.mem_cons_self
  exact ⟨_, hrows, rfl, rfl, hloaded, hnear⟩

end Trace

end CarbonAware
