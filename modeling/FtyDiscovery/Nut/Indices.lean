import Mathlib.Data.Nat.Find
import FtyDiscovery.Nut.Mapper

/-! The mapper by the components of a key: the last number between two dots is the index. -/

namespace FtyDiscovery.Nut.Mapper

open Base

def components (key : Text) : List Text := key.splitOn '.'

def join (parts : List Text) : Text := ['.'].intercalate parts

def IsNumber (part : Text) : Prop := part ≠ [] ∧ ∀ c ∈ part, c.isDigit = true

-- The instance over the list is named: a search over all characters would be one too.
instance (part : Text) : Decidable (IsNumber part) := @instDecidableAnd _ _ _ (List.decidableBAll _ _)

/-- A number that is neither the first component nor the last. -/
def IsIndex (parts : List Text) (j : Nat) : Prop :=
  0 < j ∧ j + 1 < parts.length ∧ IsNumber (parts.getD j [])

instance (parts : List Text) (j : Nat) : Decidable (IsIndex parts j) := inferInstanceAs (Decidable (_ ∧ _))

def lastIndex (parts : List Text) : Option Nat :=
  let last := Nat.findGreatest (IsIndex parts) parts.length
  if last = 0 then none else some last

/-- The lookup that is generic in the index: under the key with `#` for the last index, if the table
has a text there, and under the key itself else. -/
def lookup (inventoryMapping : Mapping) (key : Text) : Text :=
  match lastIndex (components key) with
  | some j =>
      let mapped := map inventoryMapping (join ((components key).set j ['#']))
      if mapped ≠ [] then putIndex ((components key).getD j []) mapped else map inventoryMapping key
  | none => map inventoryMapping key

theorem join_append {before after : List Text} (some_before : before ≠ []) (some_after : after ≠ []) :
    join (before ++ after) = join before ++ '.' :: join after := by
  induction before with
  | nil => exact (some_before rfl).elim
  | cons first before ih =>
    cases before with
    | nil =>
      obtain ⟨next, rest, rfl⟩ := List.exists_cons_of_ne_nil some_after
      simp [join, List.intercalate]
    | cons second before =>
      have rest := ih (List.cons_ne_nil _ _)
      simp only [join, List.intercalate, List.cons_append, List.intersperse_cons_cons, List.flatten_cons] at rest ⊢
      rw [rest]
      simp

theorem join_components (key : Text) : join (components key) = key := List.intercalate_splitOn '.'

theorem components_join {parts : List Text} (some_part : parts ≠ []) (undotted : ∀ part ∈ parts, '.' ∉ part) :
    components (join parts) = parts := List.splitOn_intercalate '.' undotted some_part

theorem components_append (before after : Text) :
    components (before ++ '.' :: after) = components before ++ components after := by
  simp only [components, List.splitOn_eq_splitOnP]
  exact List.splitOnP_append_cons before after (by decide)

theorem components_ne_nil (key : Text) : components key ≠ [] := List.splitOn_ne_nil '.' key

theorem components_undotted {part : Text} (undotted : '.' ∉ part) : components part = [part] :=
  by simpa [join, List.intercalate] using
    @components_join [part] (List.cons_ne_nil _ _) (by simpa using undotted)

theorem IsNumber.undotted {part : Text} (number : IsNumber part) : '.' ∉ part := by
  intro member
  have digit := number.2 '.' member
  revert digit
  decide

def Cut (key before num after : Text) : Prop :=
  key = before ++ '.' :: (num ++ '.' :: after) ∧ IsNumber num

theorem Cut.components {key before num after : Text} (cut : Cut key before num after) :
    components key = components before ++ num :: components after := by
  rw [cut.1, components_append, components_append, components_undotted cut.2.undotted, List.singleton_append]

theorem Cut.isIndex {key before num after : Text} (cut : Cut key before num after) :
    IsIndex (Mapper.components key) (Mapper.components before).length := by
  rw [cut.components]
  refine ⟨List.length_pos_of_ne_nil (components_ne_nil before), ?_, ?_⟩
  · have more := List.length_pos_of_ne_nil (components_ne_nil after)
    rw [List.length_append, List.length_cons]
    omega
  · simpa using cut.2

theorem cut_of_isIndex {key : Text} {j : Nat} (index : IsIndex (components key) j) :
    Cut key (join ((components key).take j)) ((components key).getD j []) (join ((components key).drop (j + 1))) := by
  obtain ⟨inside, within, number⟩ := index
  have here : j < (components key).length := by omega
  have before : (components key).take j ≠ [] := by
    rw [← List.length_pos_iff, List.length_take]
    omega
  have after : (components key).drop (j + 1) ≠ [] := by
    rw [← List.length_pos_iff, List.length_drop]
    omega
  refine ⟨?_, number⟩
  calc key
      = join ((components key).take j ++ (components key)[j] :: (components key).drop (j + 1)) := by
        rw [← List.drop_eq_getElem_cons here, List.take_append_drop, join_components]
    _ = join ((components key).take j) ++ '.' :: join ([(components key)[j]] ++ (components key).drop (j + 1)) :=
        join_append before (List.cons_ne_nil _ _)
    _ = _ := by
        rw [join_append (List.cons_ne_nil _ _) after]
        simp [join, List.intercalate, List.getElem?_eq_getElem here]

theorem join_take_lt {parts : List Text} {j k : Nat} (positive : 0 < j) (less : j < k) (within : k < parts.length) :
    (join (parts.take j)).length < (join (parts.take k)).length := by
  have split : parts.take k = parts.take j ++ (parts.take k).drop j := by
    rw [← List.take_append_drop j (parts.take k), List.take_take, Nat.min_eq_left less.le, List.drop_left']
    rw [List.length_take]
    omega
  have before : parts.take j ≠ [] := by
    rw [← List.length_pos_iff, List.length_take]
    omega
  have after : (parts.take k).drop j ≠ [] := by
    rw [← List.length_pos_iff, List.length_drop, List.length_take]
    omega
  rw [split, join_append before after, List.length_append, List.length_cons]
  omega

theorem lastIndex_eq_some_iff (parts : List Text) (j : Nat) :
    lastIndex parts = some j ↔ IsIndex parts j ∧ ∀ k, j < k → ¬IsIndex parts k := by
  have found : Nat.findGreatest (IsIndex parts) parts.length = j ↔ _ := Nat.findGreatest_eq_iff
  unfold lastIndex
  constructor
  · intro last
    simp only at last
    split at last
    next => cases last
    next positive =>
      obtain ⟨-, index, none_later⟩ := found.mp (Option.some.inj last)
      rw [Option.some.inj last] at positive
      exact ⟨index positive, fun k later other => none_later later (by have := other.2.1; omega) other⟩
  · intro ⟨index, none_later⟩
    have within := index.2.1
    rw [found.mpr ⟨by omega, fun _ => index, fun k later _ => none_later k later⟩]
    simp only [if_neg (Nat.ne_of_gt index.1)]

theorem lastIndex_eq_none {parts : List Text} (unindexed : ∀ k, ¬IsIndex parts k) : lastIndex parts = none := by
  cases last : lastIndex parts with
  | none => rfl
  | some j => exact (unindexed j ((lastIndex_eq_some_iff parts j).mp last).1).elim

theorem lastIndex_of_longest {key before num after : Text} (cut : Cut key before num after)
    (longest : ∀ before' num' after', Cut key before' num' after' → before'.length ≤ before.length) :
    lastIndex (components key) = some (components before).length := by
  rw [lastIndex_eq_some_iff]
  refine ⟨cut.isIndex, fun k later index => ?_⟩
  have more := longest _ _ _ (cut_of_isIndex index)
  have less := @join_take_lt (components key) _ _ (List.length_pos_of_ne_nil (components_ne_nil before)) later
    (by have := index.2.1; omega)
  rw [cut.components, List.take_left, join_components, ← cut.components] at less
  omega

theorem Cut.join_set {key before num after : Text} (cut : Cut key before num after) (part : Text) :
    join ((Mapper.components key).set (Mapper.components before).length part) =
      before ++ '.' :: (part ++ '.' :: after) := by
  have rest := @join_append [part] _ (List.cons_ne_nil _ _) (components_ne_nil after)
  rw [cut.components, List.set_append_right _ _ (Nat.le_refl _), Nat.sub_self, List.set_cons_zero,
    join_append (components_ne_nil before) (List.cons_ne_nil _ _), join_components]
  rw [List.singleton_append, join_components] at rest
  rw [rest]
  simp [join, List.intercalate]

/-- `(.*\.)`. -/
def upToDot : Regex.Pattern Char := .group 1 (.seq (.many Text.notLineEnd) (Regex.literal ['.']))

/-- `(\d+)(\..*)`. -/
def numberAndRest : Regex.Pattern Char :=
  .seq (.group 2 (Regex.plus Char.isDigit)) (.group 3 (.seq (Regex.literal ['.']) (.many Text.notLineEnd)))

theorem greedy_upToDot : Regex.Greedy upToDot := by
  apply Regex.greedy_group
  apply Regex.greedy_seq (Regex.greedy_many Text.notLineEnd) (n := 1)
  intro text captures parsed
  rw [((Regex.parses_literal _ _ _).mp parsed).1]
  rfl

theorem parses_upToDot (text : Text) (captures : Regex.Captures Char) :
    Regex.Parses upToDot text captures ↔
      ∃ before, text = before ++ ['.'] ∧ (∀ c ∈ before, Text.notLineEnd c = true) ∧ captures = [(1, text)] := by
  simp only [upToDot, Regex.Parses, Regex.parses_literal]
  constructor
  · intro parsed
    rcases parsed with ⟨_, ⟨before, _, _, _, ⟨plain, rfl⟩, ⟨rfl, rfl⟩, rfl, rfl⟩, rfl⟩
    exact ⟨before, rfl, plain, rfl⟩
  · intro given
    rcases given with ⟨before, rfl, plain, rfl⟩
    exact ⟨_, ⟨before, _, _, _, ⟨plain, rfl⟩, ⟨rfl, rfl⟩, rfl, rfl⟩, rfl⟩

theorem parses_numberAndRest (text : Text) (captures : Regex.Captures Char) :
    Regex.Parses numberAndRest text captures ↔ ∃ num after, text = num ++ '.' :: after ∧ IsNumber num ∧
      (∀ c ∈ after, Text.notLineEnd c = true) ∧ captures = [(2, num), (3, '.' :: after)] := by
  simp only [numberAndRest, Regex.Parses, Regex.parses_plus, Regex.parses_literal]
  constructor
  · intro parsed
    rcases parsed with ⟨num, _, _, _, ⟨_, ⟨present, digits, rfl⟩, rfl⟩,
      ⟨_, ⟨_, after, _, _, ⟨rfl, rfl⟩, ⟨plain, rfl⟩, rfl, rfl⟩, rfl⟩, rfl, rfl⟩
    exact ⟨num, after, rfl, ⟨present, digits⟩, plain, rfl⟩
  · intro given
    rcases given with ⟨num, after, rfl, ⟨present, digits⟩, plain, rfl⟩
    exact ⟨num, _, _, _, ⟨_, ⟨present, digits, rfl⟩, rfl⟩,
      ⟨_, ⟨['.'], after, _, _, ⟨rfl, rfl⟩, ⟨plain, rfl⟩, rfl, rfl⟩, rfl⟩, rfl, rfl⟩

theorem fullMatch_numberAndRest {num after : Text} (number : IsNumber num)
    (plain : ∀ c ∈ after, Text.notLineEnd c = true) :
    Regex.fullMatch numberAndRest (num ++ '.' :: after) = some [(2, num), (3, '.' :: after)] := by
  apply Regex.fullMatch_of_unique
  · exact (parses_numberAndRest _ _).mpr ⟨num, after, rfl, number, plain, rfl⟩
  · intro others parsed
    obtain ⟨num', after', split, number', -, rfl⟩ := (parses_numberAndRest _ _).mp parsed
    obtain ⟨rfl, rest⟩ := Regex.run_unique number.2 number'.2 (by simp) (by simp) split
    rw [rest]

theorem fullMatch_indexed {key : Text} {captures : Regex.Captures Char}
    (plain : ∀ c ∈ key, Text.notLineEnd c = true) (matched : Regex.fullMatch indexed key = some captures) :
    ∃ before num after, Cut key before num after ∧
      captures = [(1, before ++ ['.']), (2, num), (3, '.' :: after)] ∧
      ∀ before' num' after', Cut key before' num' after' → before'.length ≤ before.length := by
  obtain ⟨s, t, cs, ds, split, parsed, rest, rfl, longest⟩ :=
    Regex.longest_of_greedy greedy_upToDot (show Regex.fullMatch (.seq upToDot numberAndRest) key = _ from matched)
  obtain ⟨before, rfl, -, rfl⟩ := (parses_upToDot _ _).mp parsed
  obtain ⟨num, after, rfl, number, -, rfl⟩ := (parses_numberAndRest _ _).mp (Regex.fullMatch_sound rest)
  refine ⟨before, num, after, ⟨by simpa using split, number⟩, rfl, fun before' num' after' cut => ?_⟩
  have inside (c : Char) (member : c ∈ before' ++ '.' :: (num' ++ '.' :: after')) : Text.notLineEnd c = true :=
    plain c (cut.1 ▸ member)
  have less := longest (before' ++ ['.']) (num' ++ '.' :: after') [(1, before' ++ ['.'])] (by simpa using cut.1)
    ((parses_upToDot _ _).mpr ⟨before', rfl, fun c member => inside c (by simp [member]), rfl⟩)
    (by rw [fullMatch_numberAndRest cut.2 (fun c member => inside c (by simp [member]))]; rfl)
  simpa using less

theorem not_cut_of_unmatched {key : Text} (plain : ∀ c ∈ key, Text.notLineEnd c = true)
    (unmatched : Regex.fullMatch indexed key = none) (before num after : Text) : ¬Cut key before num after := by
  intro cut
  have inside (c : Char) (member : c ∈ before ++ '.' :: (num ++ '.' :: after)) : Text.notLineEnd c = true :=
    plain c (cut.1 ▸ member)
  have parsed : Regex.Parses indexed key ([(1, before ++ ['.'])] ++ [(2, num), (3, '.' :: after)]) := by
    refine ⟨before ++ ['.'], num ++ '.' :: after, _, _, ?_, ?_, by simpa using cut.1, rfl⟩
    · exact (parses_upToDot _ _).mpr ⟨before, rfl, fun c member => inside c (by simp [member]), rfl⟩
    · exact (parses_numberAndRest _ _).mpr
        ⟨num, after, rfl, cut.2, fun c member => inside c (by simp [member]), rfl⟩
  have complete := Regex.fullMatch_complete parsed
  rw [unmatched] at complete
  cases complete

theorem mapKey_eq_lookup (inventoryMapping : Mapping) {key : Text}
    (plain : ∀ c ∈ key, Text.notLineEnd c = true) :
    mapKey inventoryMapping key = lookup inventoryMapping key := by
  cases matched : Regex.fullMatch indexed key with
  | none =>
    have unindexed := lastIndex_eq_none (fun k index =>
      not_cut_of_unmatched plain matched _ _ _ (cut_of_isIndex index))
    rw [mapKey_of_not_indexed matched, lookup, unindexed]
  | some captures =>
    obtain ⟨before, num, after, cut, rfl, longest⟩ := fullMatch_indexed plain matched
    have number : (components key).getD (components before).length [] = num := by
      rw [cut.components]
      simp
    rw [lookup, lastIndex_of_longest cut longest, mapKey, matched]
    simp only [cut.join_set, number, Regex.capture, List.lookup_cons]
    simp

theorem notLineEnd_of_isDigit {c : Char} (digit : c.isDigit = true) : Text.notLineEnd c = true := by
  have other (d : Char) (word : d.isDigit = false) : c ≠ d := by
    intro same
    rw [same, word] at digit
    cases digit
  simp [Text.notLineEnd, other '\n' (by decide), other '\r' (by decide)]

theorem lastIndex_set {key num' : Text} {j : Nat} (last : lastIndex (components key) = some j)
    (number' : IsNumber num') : lastIndex ((components key).set j num') = some j := by
  obtain ⟨index, none_later⟩ := (lastIndex_eq_some_iff _ _).mp last
  rw [lastIndex_eq_some_iff]
  have within : j < (components key).length := by
    have bound := index.2.1
    omega
  constructor
  · exact ⟨index.1, by simpa using index.2.1, by simpa [List.getElem?_set_self within] using number'⟩
  · intro k later other
    refine none_later k later ⟨other.1, by simpa using other.2.1, ?_⟩
    simpa [List.getElem?_set_ne (Nat.ne_of_lt later)] using other.2.2

theorem Cut.components_set {key before num after num' : Text} (cut : Cut key before num after)
    (number' : IsNumber num') :
    Mapper.components (join ((Mapper.components key).set (Mapper.components before).length num')) =
      (Mapper.components key).set (Mapper.components before).length num' := by
  have cut' : Cut (join ((Mapper.components key).set (Mapper.components before).length num')) before num' after :=
    ⟨cut.join_set num', number'⟩
  rw [cut'.components, cut.components, List.set_append_right _ _ (Nat.le_refl _), Nat.sub_self, List.set_cons_zero]

theorem Cut.plain_set {key before num after num' : Text} (cut : Cut key before num after)
    (number' : IsNumber num') (plain : ∀ c ∈ key, Text.notLineEnd c = true) :
    ∀ c ∈ join ((Mapper.components key).set (Mapper.components before).length num'), Text.notLineEnd c = true := by
  rw [cut.1] at plain
  rw [cut.join_set num']
  intro c member
  simp only [List.mem_append, List.mem_cons] at member plain
  rcases member with inside | dot | number | dot' | inside
  · exact plain c (.inl inside)
  · exact plain c (.inr (.inl dot))
  · exact notLineEnd_of_isDigit (number'.2 c number)
  · exact plain c (.inr (.inl dot'))
  · exact plain c (.inr (.inr (.inr (.inr inside))))

/-- The mapper is the lookup by components; keys that differ in their last index only are mapped,
under the row with `#` for it, to texts that differ in that index only. -/
theorem mapKey_generic (inventoryMapping : Mapping) {key : Text} (plain : ∀ c ∈ key, Text.notLineEnd c = true) :
    mapKey inventoryMapping key = lookup inventoryMapping key ∧
      ∀ j, lastIndex (components key) = some j →
        ∀ mapped, map inventoryMapping (join ((components key).set j ['#'])) = mapped → mapped ≠ [] →
          mapKey inventoryMapping key = putIndex ((components key).getD j []) mapped ∧
            ∀ num', IsNumber num' →
              mapKey inventoryMapping (join ((components key).set j num')) = putIndex num' mapped := by
  refine ⟨mapKey_eq_lookup inventoryMapping plain, ?_⟩
  intro j last mapped row present
  have index := ((lastIndex_eq_some_iff _ _).mp last).1
  constructor
  · rw [mapKey_eq_lookup inventoryMapping plain, lookup, last]
    simp only [row, if_pos present]
  · intro num' number'
    cases matched : Regex.fullMatch indexed key with
    | none => exact (not_cut_of_unmatched plain matched _ _ _ (cut_of_isIndex index)).elim
    | some captures =>
      obtain ⟨before, num, after, cut, -, longest⟩ := fullMatch_indexed plain matched
      obtain rfl := Option.some.inj ((lastIndex_of_longest cut longest).symm.trans last)
      have parts := cut.components_set number'
      have plain' := cut.plain_set number' plain
      rw [mapKey_eq_lookup inventoryMapping plain', lookup, parts, lastIndex_set last number']
      simp only [List.set_set, row, if_pos present]
      rw [List.getD, List.getElem?_set_self (by have bound := index.2.1; omega), Option.getD_some]

def sampleMapping : Mapping := fun key =>
  [("outlet.#.name".toList, "outlet.#.label".toList), ("outlet.2.name".toList, "second".toList)].lookup key

theorem sampleMapping_generic :
    mapKey sampleMapping "outlet.2.name".toList = "outlet.2.label".toList ∧
      mapKey sampleMapping "outlet.17.name".toList = "outlet.17.label".toList := by
  have last : lastIndex (components "outlet.2.name".toList) = some 1 := by decide
  have row : map sampleMapping (join ((components "outlet.2.name".toList).set 1 ['#'])) = "outlet.#.label".toList := by
    decide
  obtain ⟨-, indexed⟩ := @mapKey_generic sampleMapping "outlet.2.name".toList (List.all_eq_true.mp rfl)
  obtain ⟨own, others⟩ := indexed 1 last _ row (by decide)
  exact ⟨own, others "17".toList (by decide)⟩

end FtyDiscovery.Nut.Mapper
