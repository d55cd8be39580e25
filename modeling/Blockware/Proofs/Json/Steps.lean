import Mathlib.Data.List.Basic

/-!
# Steps that may fail

Computations of several steps, each of which answers with a result or an error.

- `Json.bind_eq_ok`: two steps succeed if both do.
- `Json.foldlM_invariant`, `Json.foldlM_congr`: runs of steps along a list.
- `Json.toOption_bind`, `Json.toOption_foldlM`: such computations when nobody asks for the error.
-/

namespace Blockware.Json

variable {ε α β σ : Type}

/-- Two steps succeed if the first one does, and the second one after it. -/
theorem bind_eq_ok {x : Except ε α} {f : α → Except ε β} {b : β} :
    (x >>= f) = .ok b ↔ ∃ a, x = .ok a ∧ f a = .ok b := by
  cases x with
  | error e => simp [bind, Except.bind]
  | ok a => simp [bind, Except.bind]

theorem map_eq_ok {x : Except ε α} {f : α → β} {b : β} :
    (f <$> x) = .ok b ↔ ∃ a, x = .ok a ∧ f a = b := by
  cases x with
  | error e => simp [Functor.map, Except.map]
  | ok a => simp [Functor.map, Except.map]

theorem mapError_eq_ok {ε' : Type} {x : Except ε α} {f : ε → ε'} {a : α} :
    x.mapError f = .ok a ↔ x = .ok a := by
  cases x with
  | error e => simp [Except.mapError]
  | ok b => simp [Except.mapError]

/-- What every step keeps, a run of steps keeps. -/
theorem foldlM_invariant {P : σ → Prop} {f : σ → α → Except ε σ} {xs : List α}
    (step : ∀ a ∈ xs, ∀ s t, P s → f s a = .ok t → P t) {s t : σ} (start : P s)
    (h : xs.foldlM f s = .ok t) : P t := by
  induction xs generalizing s with
  | nil =>
    cases h
    exact start
  | cons x rest ih =>
    rw [List.foldlM_cons] at h
    obtain ⟨u, hu, h⟩ := bind_eq_ok.mp h
    exact ih (fun a ha => step a (List.mem_cons_of_mem x ha))
      (step x List.mem_cons_self s u start hu) h

/-- Steps that agree on the elements of a list run alike. -/
theorem foldlM_congr {m : Type → Type} [Monad m] {f g : σ → α → m σ} {xs : List α}
    (same : ∀ x ∈ xs, ∀ s, f s x = g s x) (s : σ) : xs.foldlM f s = xs.foldlM g s := by
  induction xs generalizing s with
  | nil => rfl
  | cons x rest ih =>
    rw [List.foldlM_cons, List.foldlM_cons, same x List.mem_cons_self]
    congr 1
    funext next
    exact ih (fun y hy => same y (List.mem_cons_of_mem x hy)) next

/-! ### Results without the error -/

theorem toOption_bind (x : Except ε α) (f : α → Except ε β) :
    (x >>= f).toOption = x.toOption.bind fun a => (f a).toOption := by
  cases x <;> rfl

theorem toOption_map (x : Except ε α) (f : α → β) :
    (f <$> x).toOption = x.toOption.map f := by
  cases x <;> rfl

theorem toOption_mapError {ε' : Type} (x : Except ε α) (f : ε → ε') :
    (x.mapError f).toOption = x.toOption := by
  cases x <;> rfl

theorem toOption_foldlM (f : σ → α → Except ε σ) (xs : List α) (s : σ) :
    (xs.foldlM f s).toOption = xs.foldlM (fun s a => (f s a).toOption) s := by
  induction xs generalizing s with
  | nil => rfl
  | cons x rest ih =>
    rw [List.foldlM_cons, List.foldlM_cons, toOption_bind]
    exact Option.bind_congr fun t _ => ih t

end Blockware.Json
