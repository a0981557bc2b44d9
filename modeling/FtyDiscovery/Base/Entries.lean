import Mathlib

/-! Entries in the strict order of their keys, as a sorted map lists them. -/

namespace FtyDiscovery.Base.Entries

variable {K V : Type} [Ord K]

def Ordered (entries : List (K × V)) : Prop := entries.Pairwise (fun a b => compare a.1 b.1 = .lt)

theorem ordered_filter {entries : List (K × V)} (ordered : Ordered entries) (p : K × V → Bool) :
    Ordered (entries.filter p) := List.Pairwise.filter p ordered

variable [Std.TransOrd K]

theorem nodup_of_ordered {keys : List K} (ordered : keys.Pairwise (fun a b => compare a b = .lt)) : keys.Nodup := by
  refine ordered.imp (fun below same => ?_)
  rw [same, Std.ReflOrd.compare_self] at below
  cases below

theorem Ordered.nodup_keys {entries : List (K × V)} (ordered : Ordered entries) : (entries.map Prod.fst).Nodup :=
  nodup_of_ordered (List.pairwise_map.mpr ordered)

theorem eq_of_mem_iff {l l' : List (K × V)} (ordered : Ordered l) (ordered' : Ordered l')
    (same : ∀ entry, entry ∈ l ↔ entry ∈ l') : l = l' := by
  have irrefl : Std.Irrefl (fun a b : K × V => compare a.1 b.1 = .lt) :=
    ⟨fun a below => by simp [Std.ReflOrd.compare_self] at below⟩
  have antisymm : Std.Antisymm (fun a b : K × V => compare a.1 b.1 = .lt) :=
    ⟨fun a b below above => by
      have loop := Std.TransCmp.lt_trans below above
      simp [Std.ReflOrd.compare_self] at loop⟩
  exact ordered.eq_of_mem_iff ordered' same

theorem ordered_toList (map : Std.ExtTreeMap K V) : Ordered map.toList := Std.ExtTreeMap.ordered_keys_toList

variable [Std.LawfulEqOrd K] {map map' : Std.ExtTreeMap K V}

/-- Maps that agree on some keys list the same entries with these keys. -/
theorem filter_toList_congr {p : K → Bool} (agree : ∀ key, p key = true → map[key]? = map'[key]?) :
    map.toList.filter (fun entry => p entry.1) = map'.toList.filter (fun entry => p entry.1) := by
  apply eq_of_mem_iff (ordered_filter (ordered_toList map) _) (ordered_filter (ordered_toList map') _)
  intro entry
  simp only [List.mem_filter]
  refine and_congr_left (fun kept => ?_)
  rw [Std.ExtTreeMap.mem_toList_iff_getElem?_eq_some, Std.ExtTreeMap.mem_toList_iff_getElem?_eq_some,
    agree entry.1 kept]

theorem compare_append {α : Type} [Ord α] [Std.ReflOrd α] (start a b : List α) :
    compare (start ++ a) (start ++ b) = compare a b := by
  induction start with
  | nil => rfl
  | cons c start ih =>
    rw [List.compare_eq_compareLex] at ih ⊢
    rw [List.cons_append, List.cons_append, List.compareLex_cons_cons, Std.ReflOrd.compare_self, ih]
    rfl

theorem lookup_perm {α β : Type} [BEq α] [LawfulBEq α] {l l' : List (α × β)} (perm : l'.Perm l)
    (distinct : (l.map Prod.fst).Nodup) (key : α) : l'.lookup key = l.lookup key := by
  induction perm with
  | nil => rfl
  | cons entry _ ih =>
    obtain ⟨-, rest⟩ := List.nodup_cons.mp distinct
    rw [List.lookup_cons, List.lookup_cons, ih rest]
  | swap first second rest =>
    obtain ⟨apart, -⟩ := List.nodup_cons.mp distinct
    have other : first.1 ≠ second.1 := fun same => apart (by simp [same])
    rcases first with ⟨k, v⟩
    rcases second with ⟨k', v'⟩
    by_cases here : key = k
    · simp [List.lookup_cons, here, beq_eq_false_iff_ne.mpr other]
    · have elsewhere : (key == k) = false := by simpa using here
      simp [List.lookup_cons, elsewhere]
  | trans _ second ih₁ ih₂ => rw [ih₁ ((second.map Prod.fst).nodup_iff.mpr distinct), ih₂ distinct]

end FtyDiscovery.Base.Entries
