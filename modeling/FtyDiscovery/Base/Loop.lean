import Mathlib.Logic.Basic

/-! A loop whose body either goes on with a new state or leaves with a result. -/

namespace FtyDiscovery.Base.Loop

variable {State Result : Type}

/-- At most so many iterations of the body. -/
def run (body : State → State ⊕ Result) : Nat → State → State ⊕ Result
  | 0, s => .inl s
  | n + 1, s =>
      match body s with
      | .inl next => run body n next
      | .inr result => .inr result

variable {body : State → State ⊕ Result}

theorem run_continue {s next : State} (step : body s = .inl next) (n : Nat) :
    run body (n + 1) s = run body n next := by
  simp only [run, step]

theorem run_leave {s : State} {result : Result} (step : body s = .inr result) (n : Nat) :
    run body (n + 1) s = .inr result := by
  simp only [run, step]

theorem run_add (m n : Nat) (s : State) :
    run body (m + n) s =
      match run body m s with
      | .inl next => run body n next
      | .inr result => .inr result := by
  induction m generalizing s with
  | zero => simp only [Nat.zero_add, run]
  | succ m ih =>
    rw [Nat.add_right_comm]
    cases step : body s with
    | inl next => rw [run_continue step, run_continue step, ih]
    | inr result => simp only [run_leave step]

theorem run_succ {n : Nat} {s mid : State} (reached : run body n s = .inl mid) :
    run body (n + 1) s = body mid := by
  rw [run_add, reached]
  cases step : body mid with
  | inl next => exact run_continue step 0
  | inr result => exact run_leave step 0

theorem run_mono {m n : Nat} (le : m ≤ n) {s : State} {result : Result}
    (left : run body m s = .inr result) : run body n s = .inr result := by
  obtain ⟨k, rfl⟩ := Nat.exists_eq_add_of_le le
  rw [run_add, left]

theorem result_unique {m n : Nat} {s : State} {r r' : Result}
    (left : run body m s = .inr r) (left' : run body n s = .inr r') : r = r' := by
  have first := run_mono (Nat.le_max_left m n) left
  rw [run_mono (Nat.le_max_right m n) left'] at first
  exact (Sum.inr.inj first).symm

/-- What the body establishes on leaving, from what it keeps, holds of the result. -/
theorem run_result (Inv : State → Prop) (Post : Result → Prop)
    (keeps : ∀ s next, Inv s → body s = .inl next → Inv next)
    (leaves : ∀ s result, Inv s → body s = .inr result → Post result)
    {n : Nat} {s : State} {result : Result} (start : Inv s) (left : run body n s = .inr result) :
    Post result := by
  induction n generalizing s with
  | zero => cases left
  | succ n ih =>
    cases step : body s with
    | inl next =>
      rw [run_continue step] at left
      exact ih (keeps s next start step) left
    | inr early =>
      rw [run_leave step] at left
      obtain rfl := Sum.inr.inj left
      exact leaves s early start step

theorem run_diverges (Inv : State → Prop)
    (goesOn : ∀ s, Inv s → ∃ next, body s = .inl next ∧ Inv next)
    (n : Nat) (s : State) (start : Inv s) : ∃ final, run body n s = .inl final ∧ Inv final := by
  induction n generalizing s with
  | zero => exact ⟨s, rfl, start⟩
  | succ n ih =>
    obtain ⟨next, step, kept⟩ := goesOn s start
    obtain ⟨final, reached, held⟩ := ih next kept
    exact ⟨final, run_continue step n ▸ reached, held⟩

end FtyDiscovery.Base.Loop
