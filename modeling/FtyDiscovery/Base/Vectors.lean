import Mathlib.Data.List.Range
import Mathlib.Order.Basic

/-! Growable vectors with addresses: growing may move the elements of a vector, which leaves
the pointers to where they were behind. -/

namespace FtyDiscovery.Base.Vectors

variable {α : Type}

/-- Whether `emplace_back` onto so many elements moves them. -/
abbrev Policy := Nat → Bool

/-- Growing by doubling, as `std::vector` of libstdc++ does: at zero and at the powers of two. -/
def doubling : Policy := fun n => n &&& (n - 1) == 0

def generations (moves : Policy) (n : Nat) : Nat := ((List.range n).filter moves).length

/-- An address: the vector, how often it had been moved when the address was taken, the place. -/
structure Ptr where
  vec : Nat
  generation : Nat
  index : Nat
  deriving DecidableEq, Repr

abbrev Heap (α : Type) := List (List α)

/-- A pointer from before a move points nowhere. -/
def load (moves : Policy) (heap : Heap α) (p : Ptr) : Option α :=
  match heap[p.vec]? with
  | none => none
  | some items => if p.generation = generations moves items.length then items[p.index]? else none

def address (moves : Policy) (vec index : Nat) : Ptr := ⟨vec, generations moves (index + 1), index⟩

def emplaceBack (moves : Policy) (heap : Heap α) (vec : Nat) (x : α) : Option (Heap α × Ptr) :=
  match heap[vec]? with
  | none => none
  | some items => some (heap.set vec (items ++ [x]), address moves vec items.length)

def Stays (moves : Policy) (index total : Nat) : Prop := ∀ k < total, index < k → moves k = false

instance (moves : Policy) (index total : Nat) : Decidable (Stays moves index total) := by
  unfold Stays
  infer_instance

theorem generations_succ (moves : Policy) (n : Nat) :
    generations moves (n + 1) = generations moves n + if moves n then 1 else 0 := by
  rw [generations, List.range_succ, List.filter_append, List.length_append, generations]
  cases moved : moves n <;> simp [moved]

theorem generations_mono (moves : Policy) {m n : Nat} (le : m ≤ n) :
    generations moves m ≤ generations moves n := by
  induction le with
  | refl => exact Nat.le_refl _
  | step _ ih =>
    rw [generations_succ]
    omega

theorem generations_eq_iff (moves : Policy) {index total : Nat} (within : index < total) :
    generations moves (index + 1) = generations moves total ↔ Stays moves index total := by
  induction total with
  | zero => omega
  | succ total ih =>
    rcases Nat.lt_succ_iff_lt_or_eq.mp within with earlier | rfl
    · have below := generations_mono moves (Nat.succ_le_of_lt earlier)
      rw [generations_succ moves total]
      constructor
      · intro same
        have last : moves total = false := by
          cases moved : moves total with
          | false => rfl
          | true =>
            rw [moved, if_pos rfl] at same
            simp only [Nat.succ_eq_add_one] at below
            omega
        rw [last] at same
        intro k less later
        rcases Nat.lt_succ_iff_lt_or_eq.mp less with before | rfl
        · exact (ih earlier).mp (by simpa using same) k before later
        · exact last
      · intro stays
        rw [stays total (Nat.lt_succ_self _) earlier]
        simpa using (ih earlier).mpr (fun k less later => stays k (by omega) later)
    · refine ⟨fun _ k less later => ?_, fun _ => rfl⟩
      omega

theorem load_address (moves : Policy) {heap : Heap α} {vec index : Nat} {items : List α}
    (here : heap[vec]? = some items) (within : index < items.length) :
    load moves heap (address moves vec index) = if Stays moves index items.length then items[index]? else none := by
  simp only [load, address, here, generations_eq_iff moves within]

theorem load_last (moves : Policy) {heap : Heap α} {vec : Nat} {items : List α} {item : α}
    (here : heap[vec]? = some (items ++ [item])) : load moves heap (address moves vec items.length) = some item := by
  rw [load_address moves here (by simp), if_pos, List.getElem?_concat_length]
  intro k less later
  rw [List.length_append, List.length_singleton] at less
  omega

theorem load_of_vec_eq (moves : Policy) {heap heap' : Heap α} {p : Ptr} (same : heap'[p.vec]? = heap[p.vec]?) :
    load moves heap' p = load moves heap p := by
  simp only [load, same]

end FtyDiscovery.Base.Vectors
