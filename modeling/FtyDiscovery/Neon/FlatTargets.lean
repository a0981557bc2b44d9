import FtyDiscovery.Neon.ObjectLists

/-! Targets with lists of children of the root element only: they are filled whatever the vectors do,
also from a document that breaks off. -/

namespace FtyDiscovery.Neon

open Base Vectors

/-- What there is of a content after so many callbacks, with the open elements closed. -/
def Content.cut : Content → Nat → Content
  | .nil, _ => .nil
  | .text pieces next, n => .text (pieces.take n) (next.cut (n - pieces.length))
  | .element _ _ _ _, 0 => .nil
  | .element name attrs inner next, n + 1 =>
      .element name attrs (inner.cut n) (next.cut (n - (inner.callbacks.length + 1)))

def Document.cut (doc : Document) (n : Nat) : Document := { doc with inner := doc.inner.cut n }

namespace Fields

def plain : Fields → Bool
  | .nil => true
  | .value _ next => next.plain
  | .node _ inner next => inner.plain && next.plain
  | .list _ _ _ => false

/-- Lists are only of children of the root element, and these are not mistaken for attributes or
texts; there are no lists below. -/
def flat : Fields → Bool
  | .nil => true
  | .value _ next => next.flat
  | .node _ inner next => inner.plain && next.flat
  | .list key item next => key ≠ "cdata".toList && !"a::".toList.isPrefixOf key && item.plain && next.flat

end Fields

variable {moves : Policy}

theorem cut_zero (content : Content) : (content.cut 0).callbacks = [] := by
  induction content with
  | nil => rfl
  | text pieces next ih =>
    rw [Content.cut, Nat.zero_sub, Content.callbacks, ih]
    rfl
  | element name attrs inner next => rfl

theorem cut_whole {content : Content} {n : Nat} (whole : content.callbacks.length ≤ n) : content.cut n = content := by
  induction content generalizing n with
  | nil => rfl
  | text pieces next ih =>
    rw [Content.callbacks, List.length_append, List.length_map] at whole
    rw [Content.cut, List.take_of_length_le (by omega), ih (by omega)]
  | element name attrs inner next ih₁ ih₂ =>
    rw [Content.callbacks, List.length_cons, List.length_append, List.length_cons] at whole
    cases n with
    | zero => omega
    | succ n => rw [Content.cut, ih₁ (by omega), ih₂ (by omega)]

theorem cut_callbacks (content : Content) (n : Nat) :
    ∃ names : List Text, (content.cut n).callbacks = content.callbacks.take n ++ names.map .endEl := by
  induction content generalizing n with
  | nil => exact ⟨[], by simp [Content.cut, Content.callbacks]⟩
  | text pieces next ih =>
    obtain ⟨names, behind⟩ := ih (n - pieces.length)
    refine ⟨names, ?_⟩
    rw [Content.cut, Content.callbacks, Content.callbacks, behind, List.take_append, List.length_map, List.map_take,
      List.append_assoc]
  | element name attrs inner next ih₁ ih₂ =>
    cases n with
    | zero => exact ⟨[], rfl⟩
    | succ n =>
      rw [Content.cut, Content.callbacks, Content.callbacks, List.take_succ_cons, List.take_append]
      by_cases open_inside : n ≤ inner.callbacks.length
      · obtain ⟨names, inside⟩ := ih₁ n
        refine ⟨names ++ [name], ?_⟩
        rw [inside, Nat.sub_eq_zero_of_le open_inside, Nat.sub_eq_zero_of_le (by omega), cut_zero, List.take_zero]
        simp
      · obtain ⟨more, rfl⟩ : ∃ more, n = inner.callbacks.length + 1 + more :=
          ⟨n - (inner.callbacks.length + 1), by omega⟩
        obtain ⟨names, behind⟩ := ih₂ more
        have rest : inner.callbacks.length + 1 + more - inner.callbacks.length = more + 1 := by omega
        have inside : inner.callbacks.take (inner.callbacks.length + 1 + more) = inner.callbacks :=
          List.take_of_length_le (by omega)
        refine ⟨names, ?_⟩
        rw [cut_whole (by omega), Nat.add_sub_cancel_left, behind, inside, rest, List.take_succ_cons]
        simp

theorem heap_run_ends {names : List Text} {parser parser' : Parser}
    (ran : run moves (names.map .endEl) parser = some parser') : parser'.heap = parser.heap := by
  induction names generalizing parser with
  | nil => exact congrArg Parser.heap (Option.some.inj ran).symm
  | cons name names ih =>
    rw [List.map_cons, run, callback, endEl, Option.bind_eq_some_iff] at ran
    obtain ⟨next, ended, ran⟩ := ran
    obtain ⟨current, -, ended⟩ := Option.bind_eq_some_iff.mp ended
    split at ended
    next =>
      obtain rfl := Option.some.inj ended
      have same := ih ran
      exact same
    next => cases ended

theorem deserialize_cut (moves : Policy) (doc : Document) (n : Nat) (fields : Fields) :
    deserialize moves (doc.content.callbacks.take (n + 1)) fields =
      deserialize moves (doc.cut n).content.callbacks fields := by
  obtain ⟨names, closed⟩ := cut_callbacks doc.content (n + 1)
  have whole : (doc.cut n).content.callbacks = doc.content.callbacks.take (n + 1) ++ names.map .endEl := closed
  obtain ⟨heap, added, ran, -⟩ := run_content (doc.cut n).content (start_at moves)
  rw [whole, run_append] at ran
  obtain ⟨broken, first, ends⟩ := Option.bind_eq_some_iff.mp ran
  have kept := heap_run_ends ends
  rw [deserialize, deserialize, whole, run_append, first, Option.bind_some, Option.bind_some, ends, Option.bind_some,
    ← kept]

theorem sound_of_plain {fields : Fields} (plain : fields.plain = true) (stays : Bool) (forest : Forest) :
    Sound moves fields stays forest := by
  induction fields generalizing stays forest with
  | nil => trivial
  | value key next ih => exact ih plain stays forest
  | node key inner next ih₁ ih₂ =>
    obtain ⟨inside, behind⟩ := Bool.and_eq_true_iff.mp plain
    exact ⟨fun first _ => ih₁ inside _ _, ih₂ behind stays forest⟩
  | list key item next => cases plain

theorem leaf_name {doc : Document} {child : Child} (member : child ∈ doc.forest.toList)
    (leaf : child.element = false) : "a::".toList <+: child.name ∨ child.name = "cdata".toList := by
  have inside (content : Content) (here : child ∈ (build content).toList) : child.name = "cdata".toList := by
    induction content with
    | nil => cases here
    | text pieces next ih =>
      rw [build, Forest.toList_append, Forest.toList_leaves] at here
      rcases List.mem_append.mp here with piece | later
      · obtain ⟨field, made, rfl⟩ := List.mem_map.mp piece
        obtain ⟨data, -, rfl⟩ := List.mem_map.mp made
        rfl
      · exact ih later
    | element name attrs inner next _ ih =>
      rw [build, Forest.toList] at here
      rcases List.mem_cons.mp here with rfl | later
      · cases leaf
      · exact ih later
  rw [Document.forest, Forest.toList_append, Forest.toList_leaves] at member
  rcases List.mem_append.mp member with attr | here
  · obtain ⟨field, made, rfl⟩ := List.mem_map.mp attr
    obtain ⟨given, -, rfl⟩ := List.mem_map.mp made
    exact .inl (List.prefix_append _ _)
  · exact .inr (inside doc.inner here)

theorem sound_of_flat {fields : Fields} (flat : fields.flat = true) (doc : Document) :
    Sound moves fields true doc.forest := by
  induction fields with
  | nil => trivial
  | value key next ih => exact ih flat
  | node key inner next _ ih =>
    obtain ⟨inside, behind⟩ := Bool.and_eq_true_iff.mp flat
    exact ⟨fun first _ => sound_of_plain inside _ _, ih behind⟩
  | list key item next _ ih =>
    simp only [Fields.flat, Bool.and_eq_true, decide_eq_true_eq, Bool.not_eq_true'] at flat
    obtain ⟨⟨⟨text, marked⟩, inside⟩, behind⟩ := flat
    refine ⟨fun child member => ⟨rfl, ?_, sound_of_plain inside _ _⟩, ih behind⟩
    have here : child.1 ∈ (doc.forest.named key).map Prod.fst := List.mem_map_of_mem member
    rw [Forest.map_named] at here
    obtain ⟨listed, named⟩ := List.mem_filter.mp here
    obtain rfl := of_decide_eq_true named
    cases element : child.1.element with
    | true => rfl
    | false =>
      rcases leaf_name listed element with attr | cdata
      · rw [List.isPrefixOf_iff_prefix.mpr attr] at marked
        cases marked
      · exact (text cdata).elim

def Document.fillCut (doc : Document) (fields : Fields) : Nat → Filled
  | 0 => fields.declared
  | n + 1 => (doc.cut n).fill fields

/-- A flat target is filled completely from what there is of a document, wherever it breaks off and
whatever the vectors do. -/
theorem flat_fills (moves : Policy) (doc : Document) {fields : Fields} (flat : fields.flat = true) (n : Nat) :
    deserialize moves (doc.content.callbacks.take n) fields = some (doc.fillCut fields n) := by
  cases n with
  | zero => rfl
  | succ n =>
    rw [deserialize_cut]
    exact (deserialize_fills_iff moves (doc.cut n) fields).mpr (sound_of_flat flat (doc.cut n))

namespace Document

def attr (doc : Document) (name : Text) : Text :=
  ((doc.attrs.find? (fun given => given.1 = name)).map Prod.snd).getD []

def first (doc : Document) (name : Text) : Option Document := (doc.children name).head?

end Document

theorem value_of_build {content : Content} {child : Child} (member : child ∈ (build content).toList)
    (other : child.name ≠ "cdata".toList) : child.value = [] := by
  induction content with
  | nil => cases member
  | text pieces next ih =>
    rw [build, Forest.toList_append, Forest.toList_leaves] at member
    rcases List.mem_append.mp member with piece | later
    · obtain ⟨field, made, rfl⟩ := List.mem_map.mp piece
      obtain ⟨data, -, rfl⟩ := List.mem_map.mp made
      exact (other rfl).elim
    · exact ih later
  | element name attrs inner next _ ih =>
    rw [build, Forest.toList] at member
    rcases List.mem_cons.mp member with rfl | later
    · rfl
    · exact ih later

theorem value_attr (doc : Document) (name : Text) :
    (doc.forest.named ("a::".toList ++ name)).head?.elim [] (fun found => found.1.value) = doc.attr name := by
  have listed : (doc.forest.named ("a::".toList ++ name)).head?.elim [] (fun found => found.1.value) =
      (doc.forest.toList.find? (fun child => child.name = "a::".toList ++ name)).elim [] Child.value := by
    rw [← List.head?_filter, ← Forest.map_named, List.head?_map]
    cases (doc.forest.named ("a::".toList ++ name)).head? <;> rfl
  have behind : ((build doc.inner).toList.find? (fun child => child.name = "a::".toList ++ name)).elim [] Child.value =
      [] := by
    cases found : (build doc.inner).toList.find? (fun child => child.name = "a::".toList ++ name) with
    | none => rfl
    | some child =>
      have named : child.name = "a::".toList ++ name := by simpa using List.find?_some found
      refine value_of_build (List.mem_of_find?_eq_some found) (fun text => ?_)
      rw [named] at text
      cases text
  rw [listed, Document.forest, Forest.toList_append, Forest.toList_leaves, List.find?_append, List.map_map,
    List.find?_map, Document.attr]
  have same : (fun child : Child => decide (child.name = "a::".toList ++ name)) ∘
      ((fun field : Text × Text => (⟨false, field.1, field.2, .nil⟩ : Child)) ∘ attrName) =
        fun given => decide (given.1 = name) := by
    funext given
    simp [attrName]
  rw [same]
  cases doc.attrs.find? (fun given => decide (given.1 = name)) with
  | none => exact behind
  | some given => rfl

theorem firstChild_element (doc : Document) {key : Text} (text : key ≠ "cdata".toList)
    (unmarked : ¬"a::".toList <+: key) : doc.firstChild key = doc.first key := by
  have elements := named_children doc key
  unfold Document.firstChild Document.first
  cases named : doc.forest.named key with
  | nil =>
    rw [named, List.filter_nil, List.map_nil] at elements
    rw [List.map_eq_nil_iff.mp elements.symm]
    rfl
  | cons found rest =>
    have here : found.1 ∈ (doc.forest.named key).map Prod.fst := by simp [named]
    rw [Forest.map_named] at here
    obtain ⟨member, same⟩ := List.mem_filter.mp here
    have same := of_decide_eq_true same
    cases element : found.1.element with
    | true => simp [element]
    | false =>
      rcases leaf_name member element with attr | cdata
      · exact (unmarked (same ▸ attr)).elim
      · exact (text (same ▸ cdata)).elim

end FtyDiscovery.Neon
