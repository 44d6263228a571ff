import CarbonAware.Proofs.Toml.Readers

/-!
# Settings files read back

A reader goes over a document line by line, and `Reader.Finishes` says that it reads the rest of one to the end.  Each
line that is written takes it one step further (`Reader.Finishes.setting`, `Reader.Finishes.header`), so by induction
over the settings and over the sections, a file whose names are plain and distinct is read as its entries
(`SettingsFile.read?_text`).
-/

namespace CarbonAware.Toml

/-! ### Settings -/

namespace Setting

/-- Whether the integers are of 64 bits, or somewhat larger. -/
def IsReadable : Setting → Prop
  | integer n => |n| ≤ 2 ^ 64
  | float _ => True
  | integers items => ∀ n ∈ items, n ≤ 2 ^ 64

/-- The value that the setting is read as. -/
def value : Setting → Value
  | integer n => .integer n
  | float x => .float x
  | integers items => .array (items.map fun n : ℕ => Value.integer n)

end Setting

namespace Reader

/-- A text is long enough to pay for the fuel that its items need. -/
private theorem length_arrayText (ns : List ℕ) : ns.length + 2 ≤ (arrayText ns).length := by
  have hlines (ns : List ℕ) :
      ns.length ≤ (ns.flatMap fun n => "    ".toList ++ Numeral.natural n ++ ",\n".toList).length := by
    induction ns with
    | nil => exact le_refl _
    | cons n ns ih =>
      have hpos : 0 < (Numeral.natural n).length := Nat.length_toDigits_pos
      rw [List.flatMap_cons, List.length_append, List.length_append, List.length_append, List.length_cons]
      omega
  unfold arrayText
  split
  · exact le_refl _
  · rename_i n
    have hpos : 0 < (Numeral.natural n).length := Nat.length_toDigits_pos
    rw [List.length_append, List.length_cons]
    change 1 + 2 ≤ _ + 1 + 1
    omega
  · have := hlines ns
    rw [List.length_append, List.length_append, List.length_singleton]
    change _ ≤ 2 + _ + 1
    omega

theorem value_setting {s : Setting} (hs : s.IsReadable) {fuel : ℕ} (hfuel : s.text.length < fuel) (rest : List Char) :
    value fuel nestingLimit (s.text ++ '\n' :: rest) = some (s.value, '\n' :: rest) := by
  obtain ⟨fuel, rfl⟩ : ∃ k, fuel = k + 1 := ⟨fuel - 1, by omega⟩
  cases s with
  | integer n => exact value_scalar (scalar?_integer hs) (isScalarChar_integer n) rfl (by simp) fuel nestingLimit
  | float x => exact value_scalar (scalar?_floatText x) (isScalarChar_floatText x) rfl (by simp) fuel nestingLimit
  | integers ns =>
    have hlength := length_arrayText ns
    change (arrayText ns).length < fuel + 1 at hfuel
    exact @value_arrayText (fuel + 1) 79 ns hs (by omega) _

private theorem setting_head {s : Setting} (hs : s.IsReadable) : ∃ c cs, s.text = c :: cs ∧ isSolid c = true := by
  have hscalar {body : List Char} (hne : body ≠ []) (h : ∀ c ∈ body, isScalarChar c = true) :
      ∃ c cs, body = c :: cs ∧ isSolid c = true := by
    obtain ⟨c, cs, rfl⟩ := List.exists_cons_of_ne_nil hne
    exact ⟨c, cs, rfl, isSolid_of_class (p := isScalarChar) (by decide) (h c List.mem_cons_self)⟩
  cases s with
  | integer n => exact hscalar (ne_nil_of_scalar? (scalar?_integer hs)) (isScalarChar_integer n)
  | float x => exact hscalar (ne_nil_of_scalar? (scalar?_floatText x)) (isScalarChar_floatText x)
  | integers ns =>
    change ∃ c cs, arrayText ns = c :: cs ∧ isSolid c = true
    unfold arrayText
    split <;> exact ⟨'[', _, rfl, by decide⟩

section Lines

variable {name : String} {s : Setting} {current : List String} {entries entries' : Entries} {rest : List Char} {fuel : ℕ}

theorem lines_newline : lines (fuel + 1) current entries ('\n' :: rest) = lines (fuel + 1) current entries rest := by
  unfold lines
  change (skipFiller ('\n' :: rest)).bind _ = (skipFiller rest).bind _
  rw [skipFiller_newline]

/-- A line that is no header. -/
private theorem lines_entry {c : Char} (hsolid : isSolid c = true) (hc : c ≠ '[') (text : List Char) :
    lines (fuel + 1) current entries (c :: text) = (do
      let path ← key fuel
      expect '='
      skipBlanks
      let value ← value fuel nestingLimit
      expectLineEnd
      lines fuel current (← entries.define current path value) : Reader Entries) (c :: text) := by
  have hheader : some c ≠ some '[' := fun heq => hc (Option.some.inj heq)
  have hsome : some c ≠ none := Option.some_ne_none c
  conv_lhs => unfold lines
  refine (bind_eq (skipFiller_solid hsolid text)).trans ((bind_eq (a := some c) rfl).trans ?_)
  generalize c :: text = line
  generalize some c = first at hheader hsome ⊢
  split
  · exact absurd rfl hsome
  · exact absurd rfl hheader
  · rfl

/-- The line of a setting. -/
theorem lines_setting (hname : IsName name) (hs : s.IsReadable) (hfuel : s.text.length < fuel)
    (hdefine : entries.define current [name] s.value = some entries') :
    lines (fuel + 1) current entries (settingLine (name, s) ++ rest) = lines fuel current entries' ('\n' :: rest) := by
  obtain ⟨c, cs, hcs, hc⟩ := hname.head
  obtain ⟨d, ds, hds, hd⟩ := setting_head hs
  have htext : settingLine (name, s) ++ rest = name.toList ++ ' ' :: '=' :: ' ' :: (s.text ++ '\n' :: rest) := by
    unfold settingLine
    rw [List.append_assoc, List.append_assoc, List.append_assoc]
    rfl
  have hkey : key fuel (name.toList ++ ' ' :: '=' :: ' ' :: (s.text ++ '\n' :: rest)) =
      some ([name], '=' :: ' ' :: (s.text ++ '\n' :: rest)) := by
    obtain ⟨fuel, rfl⟩ : ∃ k, fuel = k + 1 := ⟨fuel - 1, by omega⟩
    exact key_eq hname rfl (skipBlanks_space rfl) (by simp) fuel
  have hblank : skipBlanks (' ' :: (s.text ++ '\n' :: rest)) = some ((), s.text ++ '\n' :: rest) := by
    rw [hds]
    exact skipBlanks_space (takeWhile_blank hd _)
  have hentry := @lines_entry current entries fuel c (isSolid_of_isKeyChar hc) (ne_of_false hc (by decide))
    (cs ++ ' ' :: '=' :: ' ' :: (s.text ++ '\n' :: rest))
  rw [← List.cons_append, ← hcs] at hentry
  rw [htext, hentry]
  refine (bind_eq hkey).trans ((bind_eq (expect_eq '=' _)).trans ((bind_eq hblank).trans ?_))
  refine (bind_eq (value_setting hs hfuel rest)).trans ((bind_eq (expectLineEnd_eq rest)).trans ?_)
  exact bind_eq (lift_eq hdefine _)

/-- The header of a section. -/
theorem lines_header (hname : IsName name) (hopen : entries.openTable [name] = some entries') :
    lines (fuel + 1 + 1) current entries ('[' :: (name.toList ++ ']' :: '\n' :: rest)) =
      lines (fuel + 1) [name] entries' ('\n' :: rest) := by
  obtain ⟨c, cs, hcs, hc⟩ := hname.head
  have hkey : key (fuel + 1) (name.toList ++ ']' :: '\n' :: rest) = some ([name], ']' :: '\n' :: rest) :=
    key_eq hname rfl (skipBlanks_eq rfl) (by simp) fuel
  have hheader : header (fuel + 1) ('[' :: (name.toList ++ ']' :: '\n' :: rest)) = some ((false, [name]), '\n' :: rest) := by
    have hfirst : (name.toList ++ ']' :: '\n' :: rest).head? ≠ some '[' := by
      rw [hcs]
      exact fun heq => ne_of_false hc (by decide) (Option.some.inj heq)
    unfold header
    refine (bind_eq (expect_eq '[' _)).trans ((bind_eq (a := (name.toList ++ ']' :: '\n' :: rest).head?) rfl).trans ?_)
    rw [if_neg hfirst]
    exact (bind_eq hkey).trans (bind_eq (expect_eq ']' _))
  conv_lhs => unfold lines
  refine (bind_eq (skipFiller_solid (by decide) _)).trans ((bind_eq (a := some '[') rfl).trans ?_)
  refine (bind_eq hheader).trans ((bind_eq (expectLineEnd_eq rest)).trans ?_)
  exact bind_eq (lift_eq hopen _)

end Lines

/-! ### Runs over the lines -/

/-- With fuel for the text, the rest of a document is read to the end, and these are the entries. -/
def Finishes (current : List String) (entries : Entries) (text : List Char) (result : Entries) : Prop :=
  ∀ fuel, text.length < fuel → lines fuel current entries text = some (result, [])

section Runs

variable {name : String} {s : Setting} {current : List String} {entries entries' result : Entries} {rest : List Char}

theorem finishes_nil : Finishes current entries [] entries := by
  intro fuel hfuel
  obtain ⟨fuel, rfl⟩ : ∃ k, fuel = k + 1 := ⟨fuel - 1, by omega⟩
  have hfiller : skipFiller [] = some ((), []) := by rw [skipFiller_eq, afterFiller?]; rfl
  unfold lines
  exact (bind_eq hfiller).trans (bind_eq (a := none) rfl)

theorem Finishes.newline (h : Finishes current entries rest result) : Finishes current entries ('\n' :: rest) result := by
  intro fuel hfuel
  rw [List.length_cons] at hfuel
  obtain ⟨fuel, rfl⟩ : ∃ k, fuel = k + 1 := ⟨fuel - 1, by omega⟩
  rw [lines_newline]
  exact h (fuel + 1) (by omega)

theorem Finishes.setting (hname : IsName name) (hs : s.IsReadable)
    (hdefine : entries.define current [name] s.value = some entries') (h : Finishes current entries' rest result) :
    Finishes current entries (settingLine (name, s) ++ rest) result := by
  intro fuel hfuel
  have hlength : (settingLine (name, s)).length = name.toList.length + 3 + s.text.length + 1 := by
    unfold settingLine
    rw [List.length_append, List.length_append, List.length_append]
    rfl
  rw [List.length_append] at hfuel
  obtain ⟨fuel, rfl⟩ : ∃ k, fuel = k + 1 := ⟨fuel - 1, by omega⟩
  -- a line costs one unit of fuel, and leaves its end to the next one
  rw [lines_setting hname hs (by omega) hdefine]
  exact h.newline fuel (by rw [List.length_cons]; omega)

theorem Finishes.header (hname : IsName name) (hopen : entries.openTable [name] = some entries')
    (h : Finishes [name] entries' rest result) :
    Finishes current entries ('[' :: (name.toList ++ ']' :: '\n' :: rest)) result := by
  intro fuel hfuel
  rw [List.length_cons, List.length_append, List.length_cons, List.length_cons] at hfuel
  obtain ⟨fuel, rfl⟩ : ∃ k, fuel = k + 1 + 1 := ⟨fuel - 2, by omega⟩
  rw [lines_header hname hopen]
  exact h.newline (fuel + 1) (by rw [List.length_cons]; omega)

end Runs

end Reader

/-! ### Entries that are new -/

namespace Entries

variable {key : String} {entries before inner : Entries}

theorem update_fresh (h : key ∉ entries.map Prod.fst) (change : Option Value → Option Value) :
    update key change entries = (change none).map fun value => entries ++ [(key, value)] := by
  induction entries with
  | nil => rfl
  | cons entry rest ih =>
    rw [List.map_cons, List.mem_cons, not_or] at h
    rw [update, if_neg fun heq => h.1 heq.symm, ih h.2, Option.map_map]
    rfl

theorem update_last (h : key ∉ before.map Prod.fst) (change : Option Value → Option Value) (value : Value) :
    update key change (before ++ [(key, value)]) = (change (some value)).map fun value => before ++ [(key, value)] := by
  induction before with
  | nil =>
    rw [List.nil_append, update, if_pos rfl]
    rfl
  | cons entry rest ih =>
    rw [List.map_cons, List.mem_cons, not_or] at h
    rw [List.cons_append, update, if_neg fun heq => h.1 heq.symm, ih h.2, Option.map_map]
    rfl

/-- A new key of the top of a document. -/
theorem define_top (h : key ∉ entries.map Prod.fst) (value : Value) :
    entries.define [] [key] value = some (entries ++ [(key, value)]) :=
  update_fresh h _

/-- A new key of the last section. -/
theorem define_section {name : String} (hname : name ∉ before.map Prod.fst) (h : key ∉ inner.map Prod.fst)
    (value : Value) : define [name] [key] value (before ++ [(name, .table .header inner)]) =
      some (before ++ [(name, .table .header (inner ++ [(key, value)]))]) := by
  have hinner : assign [key] value inner = some (inner ++ [(key, value)]) := update_fresh h _
  refine (update_last hname _ _).trans ?_
  change ((assign [key] value inner).map (Value.table .header)).map _ = _
  rw [hinner]
  rfl

theorem openTable_fresh (h : key ∉ entries.map Prod.fst) :
    entries.openTable [key] = some (entries ++ [(key, .table .header [])]) :=
  update_fresh h _

end Entries

/-! ### Settings files -/

/-- The names of the settings are plain and distinct, and their values can be read. -/
structure Settings.WellFormed (settings : Settings) : Prop where
  isName : ∀ e ∈ settings, Reader.IsName e.1
  isReadable : ∀ e ∈ settings, e.2.IsReadable
  nodup : (settings.map Prod.fst).Nodup

/-- What the settings are read as. -/
def Settings.entries (settings : Settings) : Entries := settings.map fun e => (e.1, e.2.value)

theorem Settings.WellFormed.tail {e : String × Setting} {settings : Settings}
    (h : Settings.WellFormed (e :: settings)) : Settings.WellFormed settings :=
  ⟨fun e he => h.isName e (List.mem_cons_of_mem _ he), fun e he => h.isReadable e (List.mem_cons_of_mem _ he),
    (List.nodup_cons.1 h.nodup).2⟩

private theorem not_mem_of_nodup {names names' : List String} {name : String} (h : (names ++ name :: names').Nodup) :
    name ∉ names := fun hmem => (List.nodup_append.1 h).2.2 name hmem name List.mem_cons_self rfl

theorem Settings.keys_entries (settings : Settings) : settings.entries.map Prod.fst = settings.map Prod.fst := by
  rw [entries, List.map_map]
  rfl

namespace SettingsFile

/-- The names at the top and the names of the sections are distinct. -/
structure WellFormed (file : SettingsFile) : Prop where
  top : file.top.WellFormed
  sections : ∀ s ∈ file.sections, Reader.IsName s.1 ∧ s.2.WellFormed
  nodup : (file.top.map Prod.fst ++ file.sections.map Prod.fst).Nodup

/-- What the file is read as. -/
def entries (file : SettingsFile) : Entries :=
  file.top.entries ++ file.sections.map fun s => (s.1, .table .header s.2.entries)

end SettingsFile

namespace Reader

variable {current : List String} {rest : List Char} {result : Entries}

section Settings

-- The document around the entries below the last header.
variable {context : Entries → Entries}
  (hcontext : ∀ (inner : Entries) (key : String) (value : Value), key ∉ inner.map Prod.fst →
    (context inner).define current [key] value = some (context (inner ++ [(key, value)])))
  {added : Settings} (hadded : added.WellFormed)

include hcontext hadded

private theorem settings_after {inner : Entries}
    (hnew : (inner.map Prod.fst ++ added.map Prod.fst).Nodup)
    (h : Finishes current (context (inner ++ added.entries)) rest result) :
    Finishes current (context inner) (added.flatMap settingLine ++ rest) result := by
  induction added generalizing inner with
  | nil =>
    rw [Settings.entries, List.map_nil, List.append_nil] at h
    exact h
  | cons e added ih =>
    have hfresh : e.1 ∉ inner.map Prod.fst := not_mem_of_nodup hnew
    rw [List.flatMap_cons, List.append_assoc]
    refine Finishes.setting (hadded.isName e List.mem_cons_self) (hadded.isReadable e List.mem_cons_self)
      (hcontext inner e.1 e.2.value hfresh) (ih hadded.tail ?_ ?_)
    · rw [List.map_append, List.append_assoc]
      exact hnew
    · rw [List.append_assoc]
      exact h

/-- The lines of settings with new names below the last header. -/
theorem Finishes.settings (h : Finishes current (context added.entries) rest result) :
    Finishes current (context []) (added.flatMap settingLine ++ rest) result :=
  settings_after hcontext hadded hadded.nodup h

end Settings

/-- The sections of a file. -/
theorem finishes_sections {sections : List (String × Settings)}
    (hsections : ∀ s ∈ sections, IsName s.1 ∧ s.2.WellFormed) {before : Entries}
    (hnew : (before.map Prod.fst ++ sections.map Prod.fst).Nodup) :
    Finishes current before (sections.flatMap sectionText)
      (before ++ sections.map fun s => (s.1, .table .header s.2.entries)) := by
  induction sections generalizing before current with
  | nil =>
    rw [List.map_nil, List.append_nil]
    exact finishes_nil
  | cons s sections ih =>
    obtain ⟨hname, hsettings⟩ := hsections s List.mem_cons_self
    have hfresh : s.1 ∉ before.map Prod.fst := not_mem_of_nodup hnew
    have htext : (s :: sections).flatMap sectionText = '\n' :: '[' :: (s.1.toList ++ ']' :: '\n' ::
        (s.2.flatMap settingLine ++ sections.flatMap sectionText)) := by
      rw [List.flatMap_cons, sectionText, List.append_assoc, List.append_assoc, List.append_assoc]
      rfl
    have hnew' : ((before ++ [(s.1, Value.table .header s.2.entries)]).map Prod.fst ++ sections.map Prod.fst).Nodup := by
      rw [List.map_append, List.append_assoc]
      exact hnew
    have hrest := @ih [s.1] (fun s hs => hsections s (List.mem_cons_of_mem _ hs)) _ hnew'
    rw [List.append_assoc] at hrest
    rw [htext]
    refine Finishes.newline (Finishes.header hname (Entries.openTable_fresh hfresh) ?_)
    have hcontext (inner : Entries) (key : String) (value : Value) (h : key ∉ inner.map Prod.fst) :=
      Entries.define_section hfresh h value
    exact Finishes.settings hcontext hsettings hrest

end Reader

private theorem withoutMark_eq {text : List Char} (h : text.head? ≠ some '\ufeff') : withoutMark text = text := by
  unfold withoutMark
  split
  · exact absurd rfl h
  · rfl

/-- A settings file starts with a name or with the empty line before a section. -/
private theorem SettingsFile.head?_text {file : SettingsFile} (h : file.WellFormed) :
    (file.top.flatMap settingLine ++ file.sections.flatMap sectionText).head? ≠ some '\ufeff' := by
  obtain ⟨top, sections⟩ := file
  cases top with
  | nil =>
    cases sections with
    | nil => exact nofun
    | cons s sections => exact fun heq => absurd (Option.some.inj heq) (show '\n' ≠ '\ufeff' by decide)
  | cons e top =>
    obtain ⟨c, cs, hcs, hc⟩ := (h.top.isName e List.mem_cons_self).head
    have hhead : (settingLine e).head? = some c := by
      unfold settingLine
      rw [hcs]
      rfl
    have hne : settingLine e ≠ [] := fun hnil => by rw [hnil] at hhead; cases hhead
    rw [List.flatMap_cons, List.append_assoc, List.head?_append_of_ne_nil _ hne, hhead]
    exact fun heq => Reader.ne_of_false hc (by decide) (Option.some.inj heq)

/-- A settings file reads back. -/
theorem SettingsFile.read?_text {file : SettingsFile} (h : file.WellFormed) : read? file.text = some file.entries := by
  have hfinishes : Reader.Finishes [] [] (file.top.flatMap settingLine ++ file.sections.flatMap sectionText)
      file.entries := by
    have hcontext (entries : Entries) (key : String) (value : Value) (h : key ∉ entries.map Prod.fst) :
        (id entries).define [] [key] value = some (id (entries ++ [(key, value)])) := Entries.define_top h value
    refine Reader.Finishes.settings hcontext h.top (Reader.finishes_sections h.sections ?_)
    rw [id, Settings.keys_entries]
    exact h.nodup
  have hmark : withoutMark (file.top.flatMap settingLine ++ file.sections.flatMap sectionText) =
      file.top.flatMap settingLine ++ file.sections.flatMap sectionText := withoutMark_eq (head?_text h)
  simp only [read?, text, String.toList_ofList, hmark]
  rw [hfinishes _ (Nat.lt_succ_self _)]
  rfl

end CarbonAware.Toml
