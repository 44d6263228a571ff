import CarbonAware.Proofs.Toml.Scalars

/-!
# Readers on what has been written

What a reader of values leaves and gives on a text that starts with what has been written: a name, a scalar or an
array (`Reader.key_eq`, `Reader.value_scalar`, `Reader.value_arrayText`).  Readers are followed step by step
(`Reader.bind_eq`).
-/

namespace CarbonAware.Toml

namespace Reader

section Steps

variable {α β : Type} {text rest body : List Char}

/-- A reader goes on with what another one has left. -/
theorem bind_eq {r : Reader α} {f : α → Reader β} {a : α} (h : r text = some (a, rest)) : (r >>= f) text = f a rest := by
  change (r text).bind _ = _
  rw [h]
  rfl

theorem takeWhile_eq {p : Char → Bool} (h : ∀ c ∈ body, p c = true) (hrest : rest.takeWhile p = []) :
    takeWhile p (body ++ rest) = some (body, rest) := by
  obtain ⟨htake, hdrop⟩ := Numeral.takeWhile_dropWhile_append h hrest
  change some ((body ++ rest).takeWhile p, (body ++ rest).dropWhile p) = _
  rw [htake, hdrop]

theorem expect_eq (c : Char) (rest : List Char) : expect c (c :: rest) = some ((), rest) := by
  change (if c = c then set rest else failure : Reader Unit) _ = _
  rw [if_pos rfl]
  rfl

theorem lift_eq {x : Option α} {a : α} (h : x = some a) (text : List Char) : (liftM x : Reader α) text = some (a, text) := by
  rw [h]
  rfl

/-- Blanks that are not there are skipped. -/
theorem skipBlanks_eq (h : text.takeWhile (fun c => c == ' ' || c == '\t') = []) : skipBlanks text = some ((), text) := by
  have hnone : takeWhile (fun c => c == ' ' || c == '\t') ([] ++ text) = some ([], text) :=
    takeWhile_eq (fun c hc => absurd hc List.not_mem_nil) h
  exact bind_eq hnone

theorem skipBlanks_space (h : text.takeWhile (fun c => c == ' ' || c == '\t') = []) :
    skipBlanks (' ' :: text) = some ((), text) := by
  have hone : takeWhile (fun c => c == ' ' || c == '\t') ([' '] ++ text) = some ([' '], text) :=
    takeWhile_eq (List.all_eq_true.1 rfl) h
  exact bind_eq hone

/-! ### Blanks, line ends and comments -/

theorem skipFiller_eq (text : List Char) : skipFiller text = (afterFiller? false text).map fun rest => ((), rest) := by
  change ((afterFiller? false text).bind fun t => some (t, text)).bind (fun p => some ((), p.1)) = _
  cases afterFiller? false text <;> rfl

theorem skipFiller_newline (rest : List Char) : skipFiller ('\n' :: rest) = skipFiller rest := by
  rw [skipFiller_eq, skipFiller_eq, afterFiller?]

theorem skipFiller_space (rest : List Char) : skipFiller (' ' :: rest) = skipFiller rest := by
  rw [skipFiller_eq, skipFiller_eq, afterFiller?]
  all_goals simp

/-- A character that is no blank, line end or comment sign. -/
def isSolid (c : Char) : Bool := c != '\n' && c != '\r' && c != ' ' && c != '\t' && c != '#'

theorem skipFiller_solid {c : Char} (h : isSolid c = true) (rest : List Char) :
    skipFiller (c :: rest) = some ((), c :: rest) := by
  simp only [isSolid, Bool.and_eq_true, bne_iff_ne, ne_eq] at h
  obtain ⟨⟨⟨⟨hline, hreturn⟩, hspace⟩, htab⟩, hcomment⟩ := h
  rw [skipFiller_eq, afterFiller?]
  · rw [if_neg Bool.false_ne_true, if_neg (not_or.2 ⟨hspace, htab⟩), if_neg hcomment]
    rfl
  · exact hline
  · exact fun _ heq => absurd heq hreturn

theorem ne_of_false {p : Char → Bool} {c d : Char} (hc : p c = true) (hd : p d = false) : c ≠ d := by
  rintro rfl
  rw [hc] at hd
  cases hd

/-- No character of a class without blanks, line ends and the comment sign is filler. -/
theorem isSolid_of_class {p : Char → Bool} (hp : (p '\n' || p '\r' || p ' ' || p '\t' || p '#') = false) {c : Char}
    (hc : p c = true) : isSolid c = true := by
  simp only [Bool.or_eq_false_iff] at hp
  obtain ⟨⟨⟨⟨hline, hreturn⟩, hspace⟩, htab⟩, hcomment⟩ := hp
  simp only [isSolid, Bool.and_eq_true, bne_iff_ne]
  exact ⟨⟨⟨⟨ne_of_false hc hline, ne_of_false hc hreturn⟩, ne_of_false hc hspace⟩, ne_of_false hc htab⟩,
    ne_of_false hc hcomment⟩

theorem takeWhile_blank {c : Char} (h : isSolid c = true) (rest : List Char) :
    (c :: rest).takeWhile (fun c => c == ' ' || c == '\t') = [] := by
  simp only [isSolid, Bool.and_eq_true, bne_iff_ne, ne_eq] at h
  obtain ⟨⟨⟨⟨-, -⟩, hspace⟩, htab⟩, -⟩ := h
  rw [List.takeWhile_cons_of_neg]
  simp [hspace, htab]

theorem expectLineEnd_eq (rest : List Char) : expectLineEnd ('\n' :: rest) = some ((), '\n' :: rest) :=
  bind_eq (skipBlanks_eq rfl)

end Steps

/-! ### Keys -/

/-- A name that needs no quotes. -/
structure IsName (name : String) : Prop where
  ne_nil : name.toList ≠ []
  isKeyChar : ∀ c ∈ name.toList, isKeyChar c = true

section Keys

variable {name : String} {rest : List Char}

theorem IsName.head (h : IsName name) : ∃ c cs, name.toList = c :: cs ∧ Reader.isKeyChar c = true := by
  obtain ⟨c, cs, hname⟩ := List.exists_cons_of_ne_nil h.ne_nil
  exact ⟨c, cs, hname, h.isKeyChar c (by rw [hname]; exact List.mem_cons_self)⟩

theorem simpleKey_eq (h : IsName name) (hrest : rest.takeWhile isKeyChar = []) :
    simpleKey (name.toList ++ rest) = some (name, rest) := by
  obtain ⟨c, cs, hname, hc⟩ := h.head
  have hunquoted {d : Char} {tail : List Char} (hd : Reader.isKeyChar d = false) : name.toList ++ rest ≠ d :: tail := by
    rw [hname]
    rintro heq
    cases heq
    rw [hc] at hd
    cases hd
  have hname' := takeWhile_eq h.isKeyChar hrest
  -- the first four cases are the ways to start a quoted name
  generalize htext : name.toList ++ rest = text at hunquoted hname' ⊢
  refine (bind_eq (a := text) rfl).trans ?_
  split
  · exact absurd rfl (hunquoted rfl)
  · exact absurd rfl (hunquoted rfl)
  · exact absurd rfl (hunquoted rfl)
  · exact absurd rfl (hunquoted rfl)
  · refine (bind_eq hname').trans ?_
    dsimp only
    rw [if_neg h.ne_nil, String.ofList_toList]
    rfl

theorem isSolid_of_isKeyChar {c : Char} (h : isKeyChar c = true) : isSolid c = true :=
  isSolid_of_class (p := Reader.isKeyChar) (by decide) h

theorem key_eq (h : IsName name) (hrest : rest.takeWhile isKeyChar = []) {rest' : List Char}
    (hblank : skipBlanks rest = some ((), rest')) (hpoint : rest'.head? ≠ some '.') (fuel : ℕ) :
    key (fuel + 1) (name.toList ++ rest) = some ([name], rest') := by
  obtain ⟨c, cs, hname, hc⟩ := h.head
  have hfirst : skipBlanks (name.toList ++ rest) = some ((), name.toList ++ rest) := by
    refine skipBlanks_eq ?_
    rw [hname]
    exact takeWhile_blank (isSolid_of_isKeyChar hc) _
  have hnames : names (fuel + 1) (name.toList ++ rest) = some ([name], rest') := by
    unfold names
    refine (bind_eq hfirst).trans ((bind_eq (simpleKey_eq h hrest)).trans ((bind_eq hblank).trans ?_))
    refine (bind_eq (a := rest'.head?) rfl).trans ?_
    rw [if_neg hpoint]
    rfl
  unfold key
  refine (bind_eq hnames).trans ?_
  dsimp only
  rw [if_neg (show ¬nestingLimit < [name].length from (by decide : ¬nestingLimit < 1))]
  rfl

end Keys

/-! ### Values -/

section Values

variable {body rest : List Char} {v : Value}

theorem scalar_eq (hv : scalar? body = some v) (hbody : ∀ c ∈ body, isScalarChar c = true)
    (hrest : rest.takeWhile isScalarChar = []) (hspace : rest.head? ≠ some ' ') :
    scalar (body ++ rest) = some (v, rest) := by
  have hclock : clockAfter body rest = some ([], rest) := by
    refine (bind_eq (a := rest) rfl).trans ?_
    split
    · exact absurd rfl hspace
    · rfl
  unfold scalar
  refine (bind_eq (takeWhile_eq hbody hrest)).trans ((bind_eq hclock).trans ?_)
  rw [List.append_nil]
  exact lift_eq hv rest

theorem ne_nil_of_scalar? (hv : scalar? body = some v) : body ≠ [] := by
  rintro rfl
  cases hv

theorem value_scalar (hv : scalar? body = some v) (hbody : ∀ c ∈ body, isScalarChar c = true)
    (hrest : rest.takeWhile isScalarChar = []) (hspace : rest.head? ≠ some ' ') (fuel room : ℕ) :
    value (fuel + 1) room (body ++ rest) = some (v, rest) := by
  obtain ⟨c, cs, rfl⟩ := List.exists_cons_of_ne_nil (ne_nil_of_scalar? hv)
  have hc := hbody c List.mem_cons_self
  have hbracket {d : Char} (hd : isScalarChar d = false) : some c ≠ some d := fun heq =>
    ne_of_false hc hd (Option.some.inj heq)
  have hscalar := scalar_eq hv hbody hrest hspace
  unfold value
  refine (bind_eq (a := some c) rfl).trans ?_
  -- a scalar starts with no quote and no bracket
  generalize c :: cs ++ rest = text at hscalar ⊢
  generalize some c = first at hbracket ⊢
  split
  · exact absurd rfl (hbracket (by decide))
  · exact absurd rfl (hbracket (by decide))
  · exact absurd rfl (hbracket (by decide))
  · exact absurd rfl (hbracket (by decide))
  · exact hscalar

end Values

/-! ### Arrays -/

section Arrays

variable {fuel room : ℕ} {text rest : List Char} {v : Value} {vs : List Value}

theorem items_newline : items (fuel + 1) room ('\n' :: text) = items (fuel + 1) room text := by
  unfold items
  change (skipFiller ('\n' :: text)).bind _ = (skipFiller text).bind _
  rw [skipFiller_newline]

theorem items_space : items (fuel + 1) room (' ' :: text) = items (fuel + 1) room text := by
  unfold items
  change (skipFiller (' ' :: text)).bind _ = (skipFiller text).bind _
  rw [skipFiller_space]

theorem items_nil : items (fuel + 1) room (']' :: rest) = some ([], rest) := by
  unfold items
  refine (bind_eq (skipFiller_solid (by decide) rest)).trans ((bind_eq (a := some ']') rfl).trans ?_)
  rw [if_pos rfl]
  exact bind_eq (expect_eq ']' rest)

section Item

variable {c : Char} (hsolid : isSolid c = true) (hc : c ≠ ']')

include hsolid hc

/-- An item of an array that another one follows. -/
theorem items_cons (hv : value fuel room (c :: text) = some (v, ',' :: rest)) {rest' : List Char}
    (hvs : items fuel room rest = some (vs, rest')) : items (fuel + 1) room (c :: text) = some (v :: vs, rest') := by
  unfold items
  refine (bind_eq (skipFiller_solid hsolid text)).trans ((bind_eq (a := some c) rfl).trans ?_)
  rw [if_neg fun heq => hc (Option.some.inj heq)]
  refine (bind_eq hv).trans ((bind_eq (skipFiller_solid (by decide) rest)).trans ((bind_eq (a := some ',') rfl).trans ?_))
  rw [if_pos rfl]
  exact (bind_eq (expect_eq ',' rest)).trans (bind_eq hvs)

/-- The last item of an array. -/
theorem items_last (hv : value fuel room (c :: text) = some (v, ']' :: rest)) :
    items (fuel + 1) room (c :: text) = some ([v], rest) := by
  unfold items
  refine (bind_eq (skipFiller_solid hsolid text)).trans ((bind_eq (a := some c) rfl).trans ?_)
  rw [if_neg fun heq => hc (Option.some.inj heq)]
  refine (bind_eq hv).trans ((bind_eq (skipFiller_solid (by decide) rest)).trans ((bind_eq (a := some ']') rfl).trans ?_))
  rw [if_neg (by decide)]
  exact bind_eq (expect_eq ']' rest)

end Item

theorem value_open (h : items fuel room text = some (vs, rest)) :
    value (fuel + 1) (room + 1) ('[' :: text) = some (.array vs, rest) := by
  unfold value
  refine (bind_eq (a := some '[') rfl).trans ?_
  exact (bind_eq (expect_eq '[' text)).trans (bind_eq h)

/-- A natural number of 64 bits, or a somewhat larger one. -/
theorem value_natural {n : ℕ} (hn : n ≤ 2 ^ 64) (hrest : rest.takeWhile isScalarChar = [])
    (hspace : rest.head? ≠ some ' ') : value (fuel + 1) room (Numeral.natural n ++ rest) = some (.integer n, rest) := by
  have hscalar : scalar? (Numeral.natural n) = some (.integer n) := by
    refine scalar?_integer (n := n) ?_
    rw [Nat.abs_cast]
    exact_mod_cast hn
  exact value_scalar hscalar (isScalarChar_natural n) hrest hspace fuel room

private theorem natural_head (n : ℕ) : ∃ c cs, Numeral.natural n = c :: cs ∧ isSolid c = true ∧ c ≠ ']' := by
  obtain ⟨c, cs, hn⟩ := List.exists_cons_of_ne_nil (Numeral.natural_ne_nil n)
  have hc := isScalarChar_natural n c (by rw [hn]; exact List.mem_cons_self)
  exact ⟨c, cs, hn, isSolid_of_class (p := isScalarChar) (by decide) hc, ne_of_false hc (by decide)⟩

/-- One item of an array a line. -/
private theorem items_lines {ns : List ℕ} (hns : ∀ n ∈ ns, n ≤ 2 ^ 64) (hfuel : ns.length + 1 < fuel) :
    items fuel room ('\n' :: (ns.flatMap (fun n => "    ".toList ++ Numeral.natural n ++ ",\n".toList) ++ ']' :: rest)) =
      some (ns.map fun n : ℕ => Value.integer n, rest) := by
  induction ns generalizing fuel with
  | nil =>
    obtain ⟨fuel, rfl⟩ : ∃ k, fuel = k + 1 := ⟨fuel - 1, by omega⟩
    rw [items_newline]
    exact items_nil
  | cons n ns ih =>
    obtain ⟨fuel, rfl⟩ : ∃ k, fuel = k + 1 + 1 := ⟨fuel - 2, by rw [List.length_cons] at hfuel; omega⟩
    obtain ⟨c, cs, hn, hsolid, hc⟩ := natural_head n
    -- each item leaves the end of its line to the next one
    obtain ⟨tail, htail⟩ : ∃ tail, tail = '\n' ::
        (ns.flatMap (fun n => "    ".toList ++ Numeral.natural n ++ ",\n".toList) ++ ']' :: rest) := ⟨_, rfl⟩
    have htext : (n :: ns).flatMap (fun n => "    ".toList ++ Numeral.natural n ++ ",\n".toList) ++ ']' :: rest =
        ' ' :: ' ' :: ' ' :: ' ' :: (Numeral.natural n ++ ',' :: tail) := by
      rw [htail, List.flatMap_cons, List.append_assoc, List.append_assoc, List.append_assoc]
      rfl
    have hv : value (fuel + 1) room (Numeral.natural n ++ ',' :: tail) = some (.integer n, ',' :: tail) :=
      value_natural (hns n List.mem_cons_self) rfl (by simp)
    have hvs := @ih (fuel + 1) (fun n hn => hns n (List.mem_cons_of_mem _ hn)) (by
      rw [List.length_cons] at hfuel
      omega)
    rw [← htail] at hvs
    rw [htext, items_newline, items_space, items_space, items_space, items_space]
    rw [hn] at hv ⊢
    exact items_cons hsolid hc hv hvs

/-- Arrays of natural numbers read back. -/
theorem value_arrayText {ns : List ℕ} (hns : ∀ n ∈ ns, n ≤ 2 ^ 64) (hfuel : ns.length + 2 < fuel) (rest : List Char) :
    value fuel (room + 1) (arrayText ns ++ rest) = some (.array (ns.map fun n : ℕ => Value.integer n), rest) := by
  obtain ⟨fuel, rfl⟩ : ∃ k, fuel = k + 1 + 1 := ⟨fuel - 2, by omega⟩
  unfold arrayText
  split
  · exact value_open items_nil
  · rename_i n
    obtain ⟨c, cs, hn, hsolid, hc⟩ := natural_head n
    obtain ⟨fuel, rfl⟩ : ∃ k, fuel = k + 1 := ⟨fuel - 1, by rw [List.length_singleton] at hfuel; omega⟩
    have hv : value (fuel + 1) room (Numeral.natural n ++ ']' :: rest) = some (.integer n, ']' :: rest) :=
      value_natural (hns n (List.mem_singleton.2 rfl)) rfl (by simp)
    have htext : '[' :: Numeral.natural n ++ [']'] ++ rest = '[' :: (Numeral.natural n ++ ']' :: rest) := by simp
    rw [htext]
    rw [hn] at hv ⊢
    exact value_open (items_last hsolid hc hv)
  · have htext : "[\n".toList ++ ns.flatMap (fun n => "    ".toList ++ Numeral.natural n ++ ",\n".toList) ++ [']'] ++ rest =
        '[' :: '\n' :: (ns.flatMap (fun n => "    ".toList ++ Numeral.natural n ++ ",\n".toList) ++ ']' :: rest) := by
      rw [List.append_assoc, List.append_assoc]
      rfl
    rw [htext]
    exact value_open (@items_lines (fuel + 1) room rest ns hns (by omega))

end Arrays

end Reader

end CarbonAware.Toml
