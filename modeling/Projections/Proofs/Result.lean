/-! Computations that give a value or fail, taken apart at their steps. -/

namespace Projections.Result

variable {ε α β : Type}

@[simp] theorem ok_bind (a : α) (f : α → Except ε β) : (Except.ok a >>= f) = f a := rfl

@[simp] theorem error_bind (e : ε) (f : α → Except ε β) :
    ((Except.error e : Except ε α) >>= f) = .error e := rfl

/-- A sequence of two steps gives a value when both do. -/
theorem bind_eq_ok_iff {x : Except ε α} {f : α → Except ε β} {b : β} :
    x >>= f = .ok b ↔ ∃ a, x = .ok a ∧ f a = .ok b := by
  cases x <;> simp

/-- A value that is changed on the way changes no failure. -/
theorem mapError_map_eq_error_iff {δ : Type} {x : Except ε α} {f : α → β} {g : ε → δ} {d : δ} :
    (x.map f).mapError g = .error d ↔ ∃ e, x = .error e ∧ d = g e := by
  cases x with
  | error e =>
    change Except.error (g e) = .error d ↔ _
    simp [eq_comm]
  | ok a =>
    change Except.ok (f a) = .error d ↔ _
    simp

end Projections.Result
