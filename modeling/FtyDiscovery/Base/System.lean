import Mathlib.Algebra.GroupWithZero.Nat
import Mathlib.Order.Basic
import Mathlib.Tactic.ByContra

/-! Transition systems and the invariant rule over their runs. -/

namespace FtyDiscovery.Base

universe u v

structure System (State : Type u) where
  init : State
  Step : State → State → Prop

namespace System

variable {State : Type u} {system : System State}

inductive Reachable (system : System State) : State → Prop where
  | init : Reachable system system.init
  | step {s next : State} (before : Reachable system s) (taken : system.Step s next) : Reachable system next

/-- What holds at the start and is kept by every step holds in every reachable state. -/
theorem invariant (Inv : State → Prop) (start : Inv system.init)
    (keeps : ∀ s next, Inv s → system.Step s next → Inv next) {s : State}
    (reachable : system.Reachable s) : Inv s := by
  induction reachable with
  | init => exact start
  | step _ taken ih => exact keeps _ _ ih taken

/-- Where each step is one of another system on what is seen of the states, or shows nothing, what is
seen of a reachable state is reachable there. -/
theorem reachable_view {Seen : Type v} {other : System Seen} (view : State → Seen)
    (start : view system.init = other.init)
    (follows : ∀ s next, system.Step s next → view next = view s ∨ other.Step (view s) (view next))
    {s : State} (reachable : system.Reachable s) : other.Reachable (view s) := by
  induction reachable with
  | init => exact start ▸ .init
  | step _ taken ih =>
    rcases follows _ _ taken with unseen | seen
    · exact unseen ▸ ih
    · exact .step ih seen

theorem reachable_matched {Seen : Type v} {other : System Seen} (view : State → Seen)
    (start : view system.init = other.init)
    (follows : ∀ s next, system.Reachable s → system.Step s next →
      view next = view s ∨ other.Step (view s) (view next))
    {s : State} (reachable : system.Reachable s) : other.Reachable (view s) := by
  induction reachable with
  | init => exact start ▸ .init
  | step before taken ih =>
    rcases follows _ _ before taken with unseen | seen
    · exact unseen ▸ ih
    · exact .step ih seen

end System

inductive Steps {State : Type u} (Step : State → State → Prop) : Nat → State → State → Prop where
  | none (s : State) : Steps Step 0 s s
  | more {n : Nat} {s next last : State} (taken : Step s next) (rest : Steps Step n next last) :
      Steps Step (n + 1) s last

namespace Steps

variable {State : Type u} {Step : State → State → Prop}

theorem reachable {system : System State} (steps : ∀ s next, Step s next → system.Step s next) {n : Nat}
    {s last : State} (run : Steps Step n s last) (start : system.Reachable s) : system.Reachable last := by
  induction run with
  | none => exact start
  | more taken _ ih => exact ih (.step start (steps _ _ taken))

theorem mono {More : State → State → Prop} (steps : ∀ s next, Step s next → More s next) {n : Nat}
    {s last : State} (run : Steps Step n s last) : Steps More n s last := by
  induction run with
  | none s => exact .none s
  | more taken _ ih => exact .more (steps _ _ taken) ih

theorem keeps {Kept : State → Prop} (kept : ∀ s next, Step s next → Kept s → Kept next) {n : Nat} {s last : State}
    (run : Steps Step n s last) (start : Kept s) : Kept last := by
  induction run with
  | none => exact start
  | more taken _ ih => exact ih (kept _ _ taken start)

theorem le_rank {rank : State → Nat} (lowers : ∀ s next, Step s next → rank next < rank s) {n : Nat}
    {s last : State} (run : Steps Step n s last) : n + rank last ≤ rank s := by
  induction run with
  | none => omega
  | more taken _ ih =>
    have lower := lowers _ _ taken
    omega

/-- Where every step lowers a rank, some steps lead to a state without a next one. -/
theorem comes_to_rest {rank : State → Nat} (lowers : ∀ s next, Step s next → rank next < rank s) (s : State) :
    ∃ n last, Steps Step n s last ∧ ∀ next, ¬Step last next := by
  induction bound : rank s using Nat.strongRecOn generalizing s with
  | ind r ih =>
    by_cases rests : ∀ next, ¬Step s next
    · exact ⟨0, s, .none s, rests⟩
    · push Not at rests
      obtain ⟨next, taken⟩ := rests
      obtain ⟨n, last, run, ends⟩ := ih (rank next) (bound ▸ lowers s next taken) next rfl
      exact ⟨n + 1, last, .more taken run, ends⟩

end Steps

/-- Workers of one kind that act on shared state: each step is a step of one of them. -/
structure Workers (Worker : Type u) (Shared : Type v) where
  list : List Worker
  shared : Shared

namespace Workers

variable {Worker : Type u} {Shared : Type v}

def update (s : Workers Worker Shared) (i : Nat) (worker : Worker) (shared : Shared) :
    Workers Worker Shared where
  list := s.list.set i worker
  shared := shared

def Each (s : Workers Worker Shared) (Good : Nat → Worker → Shared → Prop) : Prop :=
  ∀ i worker, s.list[i]? = some worker → Good i worker s.shared

theorem update_update (s : Workers Worker Shared) (i : Nat) (first second : Worker) (before after : Shared) :
    (s.update i first before).update i second after = s.update i second after := by
  simp only [update, List.set_set]

theorem update_self {s : Workers Worker Shared} {i : Nat} {worker : Worker} (found : s.list[i]? = some worker)
    (next : Worker) (shared : Shared) : (s.update i next shared).list[i]? = some next := by
  obtain ⟨bound, -⟩ := List.getElem?_eq_some_iff.mp found
  exact List.getElem?_set_self bound

theorem update_same {s : Workers Worker Shared} {i : Nat} {worker : Worker} (found : s.list[i]? = some worker) :
    s.update i worker s.shared = s := by
  obtain ⟨bound, rfl⟩ := List.getElem?_eq_some_iff.mp found
  rw [update, List.set_getElem_self]

variable {s : Workers Worker Shared} {Good : Nat → Worker → Shared → Prop}

/-- A step of one worker keeps a property of each of them when it keeps its own, and changes
nothing that the property of another place looks at. -/
theorem each_update (each : s.Each Good) {i : Nat} {worker : Worker} {shared : Shared}
    (own : Good i worker shared)
    (frame : ∀ j other, j ≠ i → Good j other s.shared → Good j other shared) :
    (s.update i worker shared).Each Good := by
  intro j other found
  by_cases here : j = i
  · subst here
    have bound : j < s.list.length := by
      by_contra outside
      simp [update, outside] at found
    simp only [update, List.getElem?_set_self bound, Option.some.injEq] at found
    exact found ▸ own
  · simp only [update, List.getElem?_set_ne (Ne.symm here)] at found
    exact frame j other here (each j other found)

theorem each_append (each : s.Each Good) {worker : Worker} (own : Good s.list.length worker s.shared) :
    Each ⟨s.list ++ [worker], s.shared⟩ Good := by
  intro i other found
  rcases Nat.lt_trichotomy i s.list.length with earlier | rfl | later
  · exact each i other (List.getElem?_append_left earlier ▸ found)
  · rw [List.getElem?_append_right (Nat.le_refl _), Nat.sub_self] at found
    exact Option.some.inj found ▸ own
  · rw [List.getElem?_eq_none (by simp; omega)] at found
    cases found

theorem sum_update_lt (rank : Worker → Nat) {i : Nat} {worker next : Worker} (found : s.list[i]? = some worker)
    (lower : rank next < rank worker) (shared : Shared) :
    ((s.update i next shared).list.map rank).sum < (s.list.map rank).sum := by
  rw [update]
  generalize s.list = list at found
  induction list generalizing i with
  | nil => cases found
  | cons head tail ih =>
    cases i with
    | zero =>
      obtain rfl := Option.some.inj found
      simp only [List.set_cons_zero, List.map_cons, List.sum_cons]
      omega
    | succ i =>
      have smaller := ih found
      simp only [List.set_cons_succ, List.map_cons, List.sum_cons] at smaller ⊢
      omega

end Workers

end FtyDiscovery.Base
