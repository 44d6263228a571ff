import Mathlib

/-!
# Computations that may fail

When a computation that can end in an error succeeds: a sequence of two does if both parts do (`bind_eq_ok`), a pass
over a list if every step of it does (`foldlM_ok_iff`).
-/

namespace CarbonAware

variable {ε α β : Type}

theorem bind_eq_ok {x : Except ε α} {f : α → Except ε β} {b : β} :
    (x >>= f) = .ok b ↔ ∃ a, x = .ok a ∧ f a = .ok b := by
  cases x <;> simp [bind, Except.bind]

theorem map_eq_ok {x : Except ε α} {f : α → β} {b : β} : x.map f = .ok b ↔ ∃ a, x = .ok a ∧ f a = b := by
  cases x <;> simp [Except.map]

theorem toOption_map_eq_some {x : Except ε α} {f : α → β} {b : β} :
    x.toOption.map f = some b ↔ ∃ a, x = .ok a ∧ f a = b := by
  cases x <;> simp [Except.toOption]

theorem mapError_eq_ok {ε' : Type} {x : Except ε α} {f : ε → ε'} {a : α} : x.mapError f = .ok a ↔ x = .ok a := by
  cases x <;> simp [Except.mapError]

/-- A check that goes first has to pass. -/
theorem check_eq_ok {ε' : Type} {x : Except ε Unit} {f : ε → ε'} {rest : Except ε' α} {a : α} :
    (x.mapError f >>= fun _ => rest) = .ok a ↔ x = .ok () ∧ rest = .ok a := by
  rw [bind_eq_ok]
  constructor
  · rintro ⟨⟨⟩, hx, hrest⟩
    exact ⟨mapError_eq_ok.1 hx, hrest⟩
  · rintro ⟨hx, hrest⟩
    exact ⟨(), mapError_eq_ok.2 hx, hrest⟩

/-- A pass succeeds if and only if every step does, where the success of a step hangs on the element alone. -/
theorem foldlM_ok_iff {f : β → α → Except ε β} {p : α → Prop} (h : ∀ b a, (∃ b', f b a = .ok b') ↔ p a)
    (l : List α) (b : β) : (∃ b', l.foldlM f b = .ok b') ↔ ∀ a ∈ l, p a := by
  induction l generalizing b with
  | nil => exact ⟨fun _ _ ha => absurd ha List.not_mem_nil, fun _ => ⟨b, rfl⟩⟩
  | cons a l ih =>
    rw [List.foldlM_cons, List.forall_mem_cons]
    constructor
    · rintro ⟨b', hb'⟩
      obtain ⟨b₁, hfirst, hrest⟩ := bind_eq_ok.1 hb'
      exact ⟨(h b a).1 ⟨b₁, hfirst⟩, (ih b₁).1 ⟨b', hrest⟩⟩
    · rintro ⟨ha, hl⟩
      obtain ⟨b₁, hfirst⟩ := (h b a).2 ha
      obtain ⟨b', hrest⟩ := (ih b₁).2 hl
      exact ⟨b', bind_eq_ok.2 ⟨b₁, hfirst, hrest⟩⟩

end CarbonAware
