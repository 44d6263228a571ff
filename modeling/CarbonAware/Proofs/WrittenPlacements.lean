import CarbonAware.Trace.Placements
import CarbonAware.Proofs.Numeral.Integers

/-!
# Written placements read back

The lines of a written file are those that were written, since no line holds a line end (`Trace.linesOf_text`), and a
line read at its commas gives back its placement (`Trace.placementOf?_placementLine`).  So the placements can be read
back from the lines after the header; the header itself is missing from the file of no placements
(`Trace.placementsText_restores`).
-/

namespace CarbonAware

/-- The seconds of the placement are 64-bit numbers. -/
structure Placement.Storable (p : Placement) : Prop where
  start : Numeral.minInt64 ≤ p.start ∧ p.start ≤ Numeral.maxInt64
  stop : Numeral.minInt64 ≤ p.stop ∧ p.stop ≤ Numeral.maxInt64

namespace Trace

/-! ### Reading lines and fields -/

/-- The lines of a text, each of which a line feed ends. -/
def linesOf (text : String) : List (List Char) := (text.toList.splitOn '\n').dropLast

/-- The integer from `lo` to `hi` that a field gives. -/
def integerOf? (lo hi : Int) (field : List Char) : Option Int :=
  (Numeral.boundedInteger lo hi (String.ofList field)).toOption

def wordOf? (field : List Char) : Option UInt32 := (integerOf? 0 Numeral.maxUInt32 field).map (·.toNat.toUInt32)

def secondsOf? (field : List Char) : Option Int := integerOf? Numeral.minInt64 Numeral.maxInt64 field

/-- The placement that a line of five fields gives. -/
def placementOf? (line : List Char) : Option Placement :=
  match line.splitOn ',' with
  | [id, start, stop, cores, ramMegabytes] => do
    return {
      id := ← wordOf? id
      start := ← secondsOf? start
      stop := ← secondsOf? stop
      cores := ← wordOf? cores
      ramMegabytes := ← wordOf? ramMegabytes }
  | _ => none

/-! ### One line -/

theorem secondsOf?_integer {n : Int} (h : Numeral.minInt64 ≤ n ∧ n ≤ Numeral.maxInt64) :
    secondsOf? (Numeral.integer n) = some n := by
  rw [secondsOf?, integerOf?, Numeral.boundedInteger_integer (by decide) (by decide) h]
  rfl

theorem wordOf?_natural (n : UInt32) : wordOf? (Numeral.natural n.toNat) = some n := by
  have hmax : (n.toNat : Int) ≤ Numeral.maxUInt32 := by
    have := n.toNat_lt
    change (n.toNat : Int) ≤ (4294967295 : Nat)
    omega
  have hread := @Numeral.boundedInteger_integer 0 Numeral.maxUInt32 n.toNat (by decide) (by decide) ⟨by omega, hmax⟩
  change Numeral.boundedInteger 0 Numeral.maxUInt32 (String.ofList (Numeral.natural n.toNat)) = _ at hread
  rw [wordOf?, integerOf?, hread]
  change some (n.toNat.toUInt32) = some n
  exact congrArg some (UInt32.ofNat_toNat)

/-- The fields of a placement's line. -/
def placementFields (p : Placement) : List (List Char) :=
  [Numeral.natural p.id.toNat, Numeral.integer p.start, Numeral.integer p.stop, Numeral.natural p.cores.toNat,
    Numeral.natural p.ramMegabytes.toNat]

/-- A number is written in digits and a minus sign. -/
private theorem not_mem_integer {c : Char} (hdigit : c.isDigit = false) (hminus : c ≠ '-') (n : Int) :
    c ∉ Numeral.integer n := by
  have hnatural (n : Nat) : c ∉ Numeral.natural n := fun hc => by
    rw [Numeral.isDigit_of_mem_natural hc] at hdigit
    cases hdigit
  cases n with
  | ofNat n => exact hnatural n
  | negSucc n => exact List.not_mem_cons_of_ne_of_not_mem hminus (hnatural (n + 1))

private theorem not_mem_placementFields {c : Char} (hdigit : c.isDigit = false) (hminus : c ≠ '-') (p : Placement) :
    ∀ field ∈ placementFields p, c ∉ field := by
  have hinteger := not_mem_integer hdigit hminus
  unfold placementFields
  simp only [List.forall_mem_cons]
  exact ⟨hinteger p.id.toNat, hinteger p.start, hinteger p.stop, hinteger p.cores.toNat,
    hinteger p.ramMegabytes.toNat, fun _ h => nomatch h⟩

theorem placementOf?_placementLine {p : Placement} (h : p.Storable) : placementOf? (placementLine p) = some p := by
  have hsplit : (placementLine p).splitOn ',' = placementFields p :=
    List.splitOn_intercalate ',' (not_mem_placementFields (by decide) (by decide) p) (List.cons_ne_nil _ _)
  unfold placementOf?
  rw [hsplit, placementFields]
  simp only [wordOf?_natural, secondsOf?_integer h.start, secondsOf?_integer h.stop]
  rfl

/-! ### The lines of a file -/

private theorem not_mem_placementLine (p : Placement) : '\n' ∉ placementLine p := by
  have hfields := not_mem_placementFields (c := '\n') (by decide) (by decide) p
  have hcomma : '\n' ∉ [','] := by decide
  unfold placementFields at hfields
  simp only [List.forall_mem_cons] at hfields
  obtain ⟨hid, hstart, hstop, hcores, hram, -⟩ := hfields
  simp only [placementLine, List.intercalate_cons_cons, List.intercalate_singleton, List.mem_append, not_or]
  exact ⟨⟨hid, hcomma⟩, ⟨hstart, hcomma⟩, ⟨hstop, hcomma⟩, ⟨hcores, hcomma⟩, hram⟩

private theorem not_mem_placementLines {placements : List Placement} :
    ∀ line ∈ placementLines placements, '\n' ∉ line := by
  cases placements with
  | nil => exact fun _ h => nomatch h
  | cons p rest =>
    unfold placementLines
    rw [List.forall_mem_cons]
    refine ⟨by decide, fun line hline => ?_⟩
    obtain ⟨p, -, rfl⟩ := List.mem_map.1 hline
    exact not_mem_placementLine p

/-- Lines that hold no line end are the lines of their text. -/
theorem linesOf_text {lines : List (List Char)} (h : ∀ line ∈ lines, '\n' ∉ line) :
    linesOf (String.ofList (lines.flatMap (· ++ ['\n']))) = lines := by
  have hsplit : (lines.flatMap (· ++ ['\n'])).splitOn '\n' = lines ++ [[]] := by
    induction lines with
    | nil => exact List.splitOn_nil '\n'
    | cons line rest ih =>
      rw [List.forall_mem_cons] at h
      rw [List.flatMap_cons, List.append_assoc, List.singleton_append,
        List.splitOn_append_cons_self_of_not_mem h.1, ih h.2]
      rfl
  rw [linesOf, String.toList_ofList, hsplit, List.dropLast_concat]

theorem linesOf_placementsText (placements : List Placement) :
    linesOf (placementsText placements) = placementLines placements :=
  linesOf_text not_mem_placementLines

private theorem mapM_placementOf? {placements : List Placement} (h : ∀ p ∈ placements, p.Storable) :
    (placements.map placementLine).mapM placementOf? = some placements := by
  induction placements with
  | nil => rfl
  | cons p rest ih =>
    rw [List.forall_mem_cons] at h
    rw [List.map_cons, List.mapM_cons, placementOf?_placementLine h.1, ih h.2]
    rfl

/--
Written placements read back.  The text consists of its lines, and the lines after the first one give back the
placements, for any numbers that a placement can hold.  The lines are the header and one for each placement in order,
if there are any placements; without placements nothing is written at all, not even the header.
-/
theorem placementsText_restores (placements : List Placement) (h : ∀ p ∈ placements, p.Storable) :
    (placementsText placements).toList = (linesOf (placementsText placements)).flatMap (· ++ ['\n']) ∧
    (placements ≠ [] → linesOf (placementsText placements) = placementHeader :: placements.map placementLine) ∧
    (placementsText placements = "" ↔ placements = []) ∧
    (linesOf (placementsText placements)).tail.mapM placementOf? = some placements := by
  have hlines := linesOf_placementsText placements
  cases placements with
  | nil => exact ⟨rfl, fun hne => absurd rfl hne, ⟨fun _ => rfl, fun _ => rfl⟩, rfl⟩
  | cons p rest =>
    have htext : (placementsText (p :: rest)).toList = (placementLines (p :: rest)).flatMap (· ++ ['\n']) :=
      String.toList_ofList
    refine ⟨by rw [hlines, htext], fun _ => hlines, ⟨fun hempty => ?_, fun hnil => nomatch hnil⟩, ?_⟩
    · rw [hempty] at hlines
      cases hlines
    · rw [hlines]
      exact mapM_placementOf? h

/-- The least and the greatest numbers of seconds. -/
theorem placementsText_restores_extremes :
    let p : Placement := ⟨4294967295, Numeral.minInt64, Numeral.maxInt64, 0, 32000⟩
    p.Storable ∧ linesOf (placementsText [p]) = placementHeader :: [placementLine p] ∧
      (linesOf (placementsText [p])).tail.mapM placementOf? = some [p] := by
  intro p
  have hp : p.Storable := ⟨by decide, by decide⟩
  obtain ⟨-, hlines, -, hread⟩ := placementsText_restores [p] (List.forall_mem_singleton.2 hp)
  exact ⟨hp, hlines (List.cons_ne_nil p []), hread⟩

/-- A simulation without workloads leaves a file without a header. -/
theorem linesOf_withoutPlacements_ne_header :
    linesOf (placementsText []) ≠ placementHeader :: ([] : List Placement).map placementLine := by
  decide

end Trace

end CarbonAware
