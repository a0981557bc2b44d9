import Mathlib.Logic.Basic

/-! Computations that leave a trace of events and can fail; what happened before a failure
stays in the trace. -/

namespace FtyDiscovery.Base

structure Traced (Event Fail α : Type) where
  events : List Event
  result : Except Fail α

namespace Traced

variable {Event Fail α β : Type}

instance : Monad (Traced Event Fail) where
  pure value := ⟨[], .ok value⟩
  bind x f :=
    match x.result with
    | .ok value => ⟨x.events ++ (f value).events, (f value).result⟩
    | .error fail => ⟨x.events, .error fail⟩

def emit (event : Event) : Traced Event Fail Unit := ⟨[event], .ok ()⟩

def fail (reason : Fail) : Traced Event Fail α := ⟨[], .error reason⟩

def lift (result : Except Fail α) : Traced Event Fail α := ⟨[], result⟩

theorem pure_bind (a : α) (f : α → Traced Event Fail β) : pure a >>= f = f a := rfl

theorem bind_assoc {γ : Type} (x : Traced Event Fail α) (f : α → Traced Event Fail β) (g : β → Traced Event Fail γ) :
    x >>= f >>= g = x >>= fun a => f a >>= g := by
  rcases x with ⟨before, result⟩
  cases result with
  | error reason => rfl
  | ok a =>
    rcases ended : f a with ⟨after, value⟩
    cases value with
    | error reason => simp only [bind, ended]
    | ok b => simp only [bind, ended, List.append_assoc]

theorem bind_congr {x : Traced Event Fail α} {f g : α → Traced Event Fail β}
    (same : ∀ a, x.result = .ok a → f a = g a) : x >>= f = x >>= g := by
  rcases x with ⟨before, result⟩
  cases result with
  | error reason => rfl
  | ok a => simp only [bind, same a rfl]

theorem bind_eq_ok_iff {x : Traced Event Fail α} {f : α → Traced Event Fail β} {events : List Event} {b : β} :
    x >>= f = ⟨events, .ok b⟩ ↔
      ∃ before a after, x = ⟨before, .ok a⟩ ∧ f a = ⟨after, .ok b⟩ ∧ events = before ++ after := by
  rcases x with ⟨before, result⟩
  cases result with
  | error reason => simp [bind]
  | ok a =>
    constructor
    · intro whole
      have ends : (f a).result = .ok b := congrArg Traced.result whole
      have events_eq : before ++ (f a).events = events := congrArg Traced.events whole
      exact ⟨before, a, (f a).events, rfl, by rw [← ends], events_eq.symm⟩
    · intro ⟨_, _, after, first, second, events_eq⟩
      cases first
      simp only [bind, second, events_eq]

theorem mem_bind_iff {x : Traced Event Fail α} {f : α → Traced Event Fail β} {event : Event} :
    event ∈ (x >>= f).events ↔
      event ∈ x.events ∨ ∃ a, x = ⟨x.events, .ok a⟩ ∧ event ∈ (f a).events := by
  rcases x with ⟨before, result⟩
  cases result with
  | error reason => simp [bind]
  | ok a => simp [bind]

theorem result_bind (x : Traced Event Fail α) (f : α → Traced Event Fail β) :
    (x >>= f).result = x.result.bind (fun a => (f a).result) := by
  rcases x with ⟨before, result⟩
  cases result <;> rfl

theorem eq_of_result {x : Traced Event Fail α} {result : Except Fail α} (ends : x.result = result) :
    x = ⟨x.events, result⟩ := by
  rw [← ends]

theorem result_bind_ok_iff {x : Traced Event Fail α} {f : α → Traced Event Fail β} {b : β} :
    (x >>= f).result = .ok b ↔ ∃ a, x.result = .ok a ∧ (f a).result = .ok b := by
  rw [result_bind]
  cases x.result <;> simp [Except.bind]

@[simp] theorem result_pure (a : α) : (pure a : Traced Event Fail α).result = .ok a := rfl

@[simp] theorem result_emit (event : Event) : (emit event : Traced Event Fail Unit).result = .ok () := rfl

@[simp] theorem result_lift (result : Except Fail α) : (lift result : Traced Event Fail α).result = result := rfl

theorem pure_eq_ok_iff {a b : α} {events : List Event} :
    (pure a : Traced Event Fail α) = ⟨events, .ok b⟩ ↔ events = [] ∧ a = b := by
  simp [pure, eq_comm]

theorem emit_eq_ok_iff {event : Event} {events : List Event} {value : Unit} :
    (emit event : Traced Event Fail Unit) = ⟨events, .ok value⟩ ↔ events = [event] := by
  simp [emit, eq_comm]

theorem lift_eq_ok_iff {result : Except Fail α} {events : List Event} {value : α} :
    (lift result : Traced Event Fail α) = ⟨events, .ok value⟩ ↔ events = [] ∧ result = .ok value := by
  simp [lift, eq_comm]

theorem fail_ne_ok {reason : Fail} {events : List Event} {value : α} :
    (fail reason : Traced Event Fail α) ≠ ⟨events, .ok value⟩ := by
  simp [fail]

/-- The computation ends with a value of which the postcondition holds, or fails for a reason that is
allowed. -/
def Ends (allowed : Fail → Prop) (post : α → Prop) (x : Traced Event Fail α) : Prop :=
  match x.result with
  | .ok value => post value
  | .error reason => allowed reason

variable {allowed : Fail → Prop} {post : α → Prop}

theorem ends_emit (event : Event) : Ends allowed (fun _ => True) (emit event : Traced Event Fail Unit) := trivial

theorem ends_bind {between : α → Prop} {post : β → Prop} {x : Traced Event Fail α} {f : α → Traced Event Fail β}
    (first : Ends allowed between x) (second : ∀ a, between a → Ends allowed post (f a)) :
    Ends allowed post (x >>= f) := by
  rcases x with ⟨before, result⟩
  cases result with
  | ok a => exact second a first
  | error reason => exact first

/-- Two computations end alike as long as what is done in them is answered alike: with values that are
related, or for one reason. -/
def Agree (answered : Event → Event → Prop) (related : α → β → Prop) (x : Traced Event Fail α)
    (y : Traced Event Fail β) : Prop :=
  (∀ event ∈ x.events, ∀ other ∈ y.events, answered event other) →
    (∃ a b, x.result = .ok a ∧ y.result = .ok b ∧ related a b) ∨
      ∃ reason, x.result = .error reason ∧ y.result = .error reason

variable {answered : Event → Event → Prop} {related : α → β → Prop}

theorem agree_refl (x : Traced Event Fail α) : Agree answered Eq x x := by
  intro _
  cases result : x.result with
  | ok a => exact .inl ⟨a, a, rfl, rfl, rfl⟩
  | error reason => exact .inr ⟨reason, rfl, rfl⟩

theorem agree_pure {a : α} {b : β} (same : related a b) :
    Agree answered related (pure a : Traced Event Fail α) (pure b) := fun _ => .inl ⟨a, b, rfl, rfl, same⟩

theorem agree_fail (reason : Fail) :
    Agree answered related (fail reason : Traced Event Fail α) (fail reason : Traced Event Fail β) :=
  fun _ => .inr ⟨reason, rfl, rfl⟩

theorem agree_emit (event other : Event) : Agree answered (fun _ _ => answered event other)
    (emit event : Traced Event Fail Unit) (emit other : Traced Event Fail Unit) :=
  fun alike => .inl ⟨(), (), rfl, rfl,
    alike event (List.mem_singleton_self event) other (List.mem_singleton_self other)⟩

theorem events_subset_bind (x : Traced Event Fail α) (f : α → Traced Event Fail β) : x.events ⊆ (x >>= f).events :=
  fun _ member => mem_bind_iff.mpr (.inl member)

theorem agree_bind {γ δ : Type} {later : γ → δ → Prop} {x : Traced Event Fail α} {y : Traced Event Fail β}
    {f : α → Traced Event Fail γ} {g : β → Traced Event Fail δ} (first : Agree answered related x y)
    (second : ∀ a b, related a b → Agree answered later (f a) (g b)) : Agree answered later (x >>= f) (y >>= g) := by
  intro alike
  have before := first (fun event member other there =>
    alike event (events_subset_bind x f member) other (events_subset_bind y g there))
  rcases before with ⟨a, b, left, right, same⟩ | ⟨reason, left, right⟩
  · have after := second a b same (fun event member other there =>
      alike event (mem_bind_iff.mpr (.inr ⟨a, eq_of_result left, member⟩)) other
        (mem_bind_iff.mpr (.inr ⟨b, eq_of_result right, there⟩)))
    rw [result_bind, result_bind, left, right]
    exact after
  · exact .inr ⟨reason, by rw [result_bind, left]; rfl, by rw [result_bind, right]; rfl⟩

theorem result_eq_of_agree {x y : Traced Event Fail α} (agree : Agree answered Eq x y)
    (alike : ∀ event ∈ x.events, ∀ other ∈ y.events, answered event other) : x.result = y.result := by
  rcases agree alike with ⟨a, b, left, right, rfl⟩ | ⟨reason, left, right⟩
  · rw [left, right]
  · rw [left, right]

end Traced

end FtyDiscovery.Base
