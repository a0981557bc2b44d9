import FtyDiscovery.Neon.Deserialize

/-! Which object lists are filled: those whose owner stayed where it was when its children were
added. -/

namespace FtyDiscovery.Neon

open Base Vectors

def Content.elements : Content → List Document
  | .nil => []
  | .text _ next => next.elements
  | .element name attrs inner next => ⟨name, attrs, inner⟩ :: next.elements

namespace Document

def children (doc : Document) (key : Text) : List Document :=
  doc.inner.elements.filter (fun child : Document => child.name = key)

def firstChild (doc : Document) (key : Text) : Option Document :=
  match (doc.forest.named key).head? with
  | some first => if (first : Child × Nat).1.element then (doc.children key).head? else none
  | none => none

/-- The target as it is to be: a list has one item for each child element with its key. -/
def fill : Fields → Document → Filled
  | .nil, _ => .nil
  | .value key next, doc =>
      .value ((doc.forest.named key).head?.elim [] (fun found => found.1.value)) (fill next doc)
  | .node key inner next, doc =>
      .node ((doc.firstChild key).elim inner.declared (fun child => fill inner child)) (fill next doc)
  | .list key item next, doc =>
      .list ((doc.children key).map (fun child : Document => fill item child)) (fill next doc)

def child (doc : Document) : Child := ⟨true, doc.name, [], doc.forest⟩

end Document

variable (moves : Policy)

/-- The owners of all lists that have a child under their key stayed where they were, and no
attribute or text goes under such a key. -/
def Sound : Fields → Bool → Forest → Prop
  | .nil, _, _ => True
  | .value _ next, stays, forest => Sound next stays forest
  | .node key inner next, stays, forest =>
      (∀ first ∈ (forest.named key).head?,
        Sound inner (Stays moves first.2 forest.length) first.1.children) ∧
      Sound next stays forest
  | .list key item next, stays, forest =>
      (∀ child ∈ forest.named key,
        stays = true ∧ child.1.element = true ∧
          Sound item (Stays moves child.2 forest.length) child.1.children) ∧
      Sound next stays forest

def fillForest : Fields → Forest → Filled
  | .nil, _ => .nil
  | .value key next, forest =>
      .value ((forest.named key).head?.elim [] (fun found => found.1.value)) (fillForest next forest)
  | .node key inner next, forest =>
      .node ((forest.named key).head?.elim inner.declared (fun first => fillForest inner first.1.children))
        (fillForest next forest)
  | .list key item next, forest =>
      .list (((forest.named key).filter (fun child => child.1.element)).map
        (fun child : Child × Nat => fillForest item child.1.children)) (fillForest next forest)

variable {moves}

theorem mapM_eq_some_iff {α β : Type} (f : α → Option β) (l : List α) (r : List β) :
    l.mapM f = some r ↔ l.map f = r.map some := by
  induction l generalizing r with
  | nil => cases r <;> simp
  | cons a l ih =>
    rw [List.mapM_cons, List.map_cons]
    cases f a with
    | none => cases r <;> simp
    | some b =>
      cases r with
      | nil => cases l.mapM f <;> simp
      | cons c r =>
        rw [List.map_cons, List.cons.injEq, ← ih r]
        cases l.mapM f <;> simp

theorem mapM_eq_some_map_filter_iff {α β : Type} (f : α → Option β) (g : α → β) (keep : α → Bool) (l : List α) :
    l.mapM f = some ((l.filter keep).map g) ↔ ∀ a ∈ l, keep a = true ∧ f a = some (g a) := by
  rw [mapM_eq_some_iff, List.map_map]
  constructor
  · intro mapped
    have size : (l.filter keep).length = l.length := by simpa using (congrArg List.length mapped).symm
    have kept := List.length_filter_eq_length_iff.mp size
    rw [List.filter_eq_self.mpr kept] at mapped
    exact fun a member => ⟨kept a member, List.map_inj_left.mp mapped a member⟩
  · intro each
    rw [List.filter_eq_self.mpr (fun a member => (each a member).1)]
    exact List.map_inj_left.mpr (fun a member => (each a member).2)

theorem itemsOf_eq_iff {α β : Type} (f : α → Option β) (g : α → β) (keep : α → Bool) (stays : Bool) (l : List α) :
    itemsOf stays f l = some ((l.filter keep).map g) ↔
      ∀ a ∈ l, stays = true ∧ keep a = true ∧ f a = some (g a) := by
  cases l with
  | nil => simp [itemsOf]
  | cons first rest =>
    cases stays with
    | false => simpa [itemsOf] using ⟨first, fun other => absurd rfl other⟩
    | true =>
      rw [itemsOf, if_pos rfl, mapM_eq_some_map_filter_iff]
      simp only [true_and]

theorem bind_map_eq_some_iff {α β γ : Type} {f : α → β → γ} (injective : Function.Injective2 f)
    (first : Option α) (second : Option β) (a : α) (b : β) :
    first.bind (fun x => second.map (f x)) = some (f a b) ↔ first = some a ∧ second = some b := by
  cases first <;> cases second <;> simp [injective.eq_iff]

theorem visitForest_eq_iff (fields : Fields) (stays : Bool) (forest : Forest) :
    visitForest moves fields stays forest = some (fillForest fields forest) ↔ Sound moves fields stays forest := by
  induction fields generalizing stays forest with
  | nil => simp only [visitForest, fillForest, Sound]
  | value key next ih =>
    rw [visitForest, fillForest, Sound, ← ih]
    cases visitForest moves next stays forest <;> simp
  | node key inner next ih₁ ih₂ =>
    have injective : Function.Injective2 Filled.node := fun _ _ _ _ => Filled.node.inj
    rw [visitForest, fillForest, Sound, ← ih₂, bind_map_eq_some_iff injective]
    cases (forest.named key).head? with
    | none => simp
    | some first => simp only [Option.elim_some, Option.mem_some_iff, forall_eq', ← ih₁]
  | list key item next ih₁ ih₂ =>
    have injective : Function.Injective2 Filled.list := fun _ _ _ _ => Filled.list.inj
    rw [visitForest, fillForest, Sound, ← ih₂, bind_map_eq_some_iff injective]
    refine and_congr ((itemsOf_eq_iff _ _ _ stays (forest.named key)).trans ?_) Iff.rfl
    simp only [ih₁]

theorem leaf_of_mem_leaves {fields : List (Text × Text)} {child : Child}
    (member : child ∈ (Forest.leaves fields).toList) : child.element = false ∧ child.children = .nil := by
  rw [Forest.toList_leaves] at member
  obtain ⟨field, -, rfl⟩ := List.mem_map.mp member
  exact ⟨rfl, rfl⟩

theorem filter_element_leaves (fields : List (Text × Text)) (rest : Forest) :
    ((Forest.leaves fields).append rest).toList.filter Child.element = rest.toList.filter Child.element := by
  rw [Forest.toList_append, List.filter_append, List.filter_eq_nil_iff.mpr, List.nil_append]
  intro child member
  rw [(leaf_of_mem_leaves member).1]
  exact Bool.false_ne_true

theorem leaf_of_mem_build {content : Content} {child : Child} (member : child ∈ (build content).toList)
    (leaf : child.element = false) : child.children = .nil := by
  induction content with
  | nil => cases member
  | text pieces next ih =>
    rw [build, Forest.toList_append] at member
    rcases List.mem_append.mp member with piece | later
    · exact (leaf_of_mem_leaves piece).2
    · exact ih later
  | element name attrs inner next _ ih =>
    rw [build, Forest.toList] at member
    rcases List.mem_cons.mp member with rfl | later
    · cases leaf
    · exact ih later

theorem leaf_of_mem_forest {doc : Document} {child : Child} (member : child ∈ doc.forest.toList)
    (leaf : child.element = false) : child.children = .nil := by
  rw [Document.forest, Forest.toList_append] at member
  rcases List.mem_append.mp member with attr | inner
  · exact (leaf_of_mem_leaves attr).2
  · exact leaf_of_mem_build inner leaf

theorem filter_element_build (content : Content) :
    (build content).toList.filter Child.element = content.elements.map Document.child := by
  induction content with
  | nil => rfl
  | text pieces next ih => rw [build, filter_element_leaves, ih, Content.elements]
  | element name attrs inner next _ ih =>
    rw [build, Forest.toList, List.filter_cons_of_pos rfl, ih, Content.elements, List.map_cons]
    rfl

theorem named_children (doc : Document) (key : Text) :
    ((doc.forest.named key).filter (fun child => child.1.element)).map Prod.fst =
      (doc.children key).map Document.child := by
  have elements : doc.forest.toList.filter Child.element = doc.inner.elements.map Document.child := by
    rw [Document.forest, filter_element_leaves, filter_element_build]
  calc
    _ = ((doc.forest.named key).map Prod.fst).filter Child.element := by
        rw [List.filter_map]
        rfl
    _ = (doc.inner.elements.map Document.child).filter (fun child => child.name = key) := by
        rw [Forest.map_named, List.filter_comm, elements]
    _ = (doc.children key).map Document.child := by
        rw [List.filter_map]
        rfl

theorem fillForest_nil (fields : Fields) : fillForest fields .nil = fields.declared := by
  induction fields with
  | nil => rfl
  | value key next ih => rw [fillForest, ih]; rfl
  | node key inner next _ ih => rw [fillForest, ih]; rfl
  | list key item next _ ih => rw [fillForest, ih]; rfl

theorem firstChild_eq (doc : Document) (key : Text) :
    (doc.forest.named key = [] ∧ doc.firstChild key = none) ∨
      ∃ first rest, doc.forest.named key = first :: rest ∧
        (doc.firstChild key = none ∧ first.1.children = .nil ∨
          ∃ child, doc.firstChild key = some child ∧ first.1 = child.child) := by
  have elements := named_children doc key
  unfold Document.firstChild
  cases named : doc.forest.named key with
  | nil => exact .inl ⟨rfl, rfl⟩
  | cons first rest =>
    refine .inr ⟨first, rest, rfl, ?_⟩
    have member : first.1 ∈ doc.forest.toList := by
      have listed := Forest.map_named doc.forest key
      rw [named, List.map_cons] at listed
      exact List.mem_of_mem_filter (listed ▸ List.mem_cons_self)
    cases element : first.1.element with
    | false => exact .inl ⟨by simp [element], leaf_of_mem_forest member element⟩
    | true =>
      rw [named, List.filter_cons, if_pos element, List.map_cons] at elements
      cases children : doc.children key with
      | nil => rw [children] at elements; cases elements
      | cons child others =>
        rw [children, List.map_cons] at elements
        exact .inr ⟨child, by simp [element], (List.cons.inj elements).1⟩

theorem fillForest_forest (fields : Fields) (doc : Document) : fillForest fields doc.forest = doc.fill fields := by
  induction fields generalizing doc with
  | nil => rfl
  | value key next ih => rw [fillForest, Document.fill, ih]
  | node key inner next ih₁ ih₂ =>
    rw [fillForest, Document.fill, ih₂]
    congr 1
    rcases firstChild_eq doc key with
      ⟨missing, none⟩ | ⟨first, rest, named, ⟨none, leaf⟩ | ⟨child, found, same⟩⟩
    · rw [missing, none]
      rfl
    · rw [named, none, List.head?_cons, Option.elim_some, leaf, fillForest_nil]
      rfl
    · rw [named, found, List.head?_cons, Option.elim_some, same, Option.elim_some]
      exact ih₁ child
  | list key item next ih₁ ih₂ =>
    rw [fillForest, Document.fill, ih₂]
    congr 1
    calc
      _ = (((doc.forest.named key).filter (fun child => child.1.element)).map Prod.fst).map
            (fun child => fillForest item child.children) := by
          rw [List.map_map]
          rfl
      _ = (doc.children key).map (fun child : Document => child.fill item) := by
          rw [named_children, List.map_map]
          exact List.map_congr_left (fun child _ => ih₁ child)

/-- The lists of a target are filled completely, whatever the vectors do, exactly when the owner
of each list that has items was not moved after its children got its address. -/
theorem deserialize_fills_iff (moves : Policy) (doc : Document) (fields : Fields) :
    deserialize moves doc.content.callbacks fields = some (doc.fill fields) ↔
      Sound moves fields true doc.forest := by
  rw [deserialize_eq, ← fillForest_forest, visitForest_eq_iff]

def siblings : Document where
  name := "r".toList
  attrs := []
  inner := .element "a".toList [] (.element "b".toList [] .nil .nil) (.element "a".toList [] .nil .nil)

def listOfLists : Fields := .list "a".toList (.list "b".toList .nil .nil) .nil

theorem sibling_moves_owner :
    deserialize doubling siblings.content.callbacks listOfLists = none ∧
      siblings.fill listOfLists = .list [.list [.nil] .nil, .list [] .nil] .nil ∧
      deserialize doubling siblings.content.callbacks listOfLists ≠ some (siblings.fill listOfLists) := by
  have lost : deserialize doubling siblings.content.callbacks listOfLists = none := by rfl
  refine ⟨lost, by rfl, ?_⟩
  rw [lost]
  exact (Option.some_ne_none _).symm

end FtyDiscovery.Neon
