import Mathlib.Data.List.Forall2
import FtyDiscovery.Neon.Build

/-! Filling a target from the nodes, over the vectors and over the nodes alone. -/

namespace FtyDiscovery.Neon

open Base Vectors

inductive Fields where
  | nil
  | value (key : Text) (next : Fields)
  | node (key : Text) (inner next : Fields)
  | list (key : Text) (item next : Fields)
  deriving DecidableEq, Repr

inductive Filled where
  | nil
  | value (text : Text) (next : Filled)
  | node (inner next : Filled)
  | list (items : List Filled) (next : Filled)

def Fields.declared : Fields → Filled
  | .nil => .nil
  | .value _ next => .value [] next.declared
  | .node _ inner next => .node inner.declared next.declared
  | .list _ _ next => .list [] next.declared

variable (moves : Policy)

def childrenOf (heap : Heap NeonNode) (neon : NeonNode) : List NeonNode := (heap[neon.children]?).getD []

def findChild (heap : Heap NeonNode) (neon : NeonNode) (key : Text) : Option NeonNode :=
  (childrenOf heap neon).find? (fun child : NeonNode => child.name = key)

/-- `visit`: a node goes to the first child under each key; a list goes on to the parent of that
child and takes all children of the parent with the name. -/
def visit (heap : Heap NeonNode) : Fields → NeonNode → Option Filled
  | .nil, _ => some .nil
  | .value key next, neon =>
      (visit heap next neon).map (fun rest =>
        .value ((findChild heap neon key).elim [] (fun found => found.value)) rest)
  | .node key inner next, neon =>
      (match findChild heap neon key with
        | some found => visit heap inner found
        | none => some inner.declared).bind (fun filled =>
      (visit heap next neon).map (fun rest => .node filled rest))
  | .list key item next, neon =>
      (match findChild heap neon key with
        | some found =>
            match found.parent with
            | none => some []
            | some parent =>
                (load moves heap parent).bind (fun owner =>
                  ((childrenOf heap owner).filter (fun child : NeonNode => child.name = found.name)).mapM
                    (fun child : NeonNode => visit heap item child))
        | none => some []).bind (fun items =>
      (visit heap next neon).map (fun rest => .list items rest))

def deserialize (calls : List Callback) (fields : Fields) : Option Filled :=
  (run moves calls (start moves)).bind (fun parser =>
    match (parser.heap[1]?).getD [] with
    | [] => some fields.declared
    | first :: _ => visit moves parser.heap fields first)

def itemsOf {α β : Type} (stays : Bool) (visits : α → Option β) : List α → Option (List β)
  | [] => some []
  | first :: rest => if stays then (first :: rest).mapM visits else none

/-- `visit` over the nodes alone: a list can be filled as long as its owner was not moved. -/
def visitForest : Fields → Bool → Forest → Option Filled
  | .nil, _, _ => some .nil
  | .value key next, stays, forest =>
      (visitForest next stays forest).map (fun rest =>
        .value ((forest.named key).head?.elim [] (fun found => found.1.value)) rest)
  | .node key inner next, stays, forest =>
      (match (forest.named key).head? with
        | some found => visitForest inner (Stays moves found.2 forest.length) found.1.children
        | none => some inner.declared).bind (fun filled =>
      (visitForest next stays forest).map (fun rest => .node filled rest))
  | .list key item next, stays, forest =>
      (itemsOf stays (fun child : Child × Nat =>
        visitForest item (Stays moves child.2 forest.length) child.1.children) (forest.named key)).bind (fun items =>
      (visitForest next stays forest).map (fun rest => .list items rest))

variable {moves}

structure Node (moves : Policy) (heap : Heap NeonNode) (vec : Nat) (parent : Ptr) (whole : List NeonNode)
    (c : NeonNode) (child : Child × Nat) : Prop where
  place : whole[child.2]? = some c
  name : c.name = child.1.name
  value : c.value = child.1.value
  parent : c.parent = some parent
  below : ∃ lo hi inner, heap[c.children]? = some inner ∧
    Stored moves heap lo hi c.children (address moves vec child.2) 0 inner child.1.children

theorem node_of_stored {heap : Heap NeonNode} {lo hi vec index : Nat} {parent : Ptr}
    {whole items : List NeonNode} {forest : Forest} (rest : whole.drop index = items)
    (stored : Stored moves heap lo hi vec parent index items forest) :
    List.Forall₂ (Node moves heap vec parent whole) items (forest.toList.zipIdx index) := by
  induction forest generalizing index items with
  | nil =>
    obtain rfl : items = [] := stored
    exact .nil
  | node element name value children next _ ih =>
    obtain ⟨c, more, inner, rfl, named, valued, owned, -, -, here, inside, behind⟩ := stored
    rw [Forest.toList, List.zipIdx_cons]
    refine .cons ⟨?_, named, valued, owned, lo, hi, inner, here, inside⟩ (ih ?_ behind)
    · rw [← List.head?_drop, rest, List.head?_cons]
    · rw [← List.tail_drop, rest, List.tail_cons]

theorem load_child {heap : Heap NeonNode} {lo hi vec : Nat} {parent : Ptr} {whole : List NeonNode}
    {forest : Forest} {c : NeonNode} {child : Child × Nat} (here : heap[vec]? = some whole)
    (stored : Stored moves heap lo hi vec parent 0 whole forest) (node : Node moves heap vec parent whole c child) :
    load moves heap (address moves vec child.2) =
      if decide (Stays moves child.2 forest.length) then some c else none := by
  have within := (List.getElem?_eq_some_iff.mp node.place).1
  rw [load_address moves here within, stored_length stored, node.place]
  simp only [decide_eq_true_eq]

theorem mapM_congr_forall₂ {α β γ : Type} {R : α → β → Prop} {f : α → Option γ} {g : β → Option γ}
    {l : List α} {l' : List β} (related : List.Forall₂ R l l') (agree : ∀ a b, R a b → f a = g b) :
    l.mapM f = l'.mapM g := by
  induction related with
  | nil => rfl
  | cons first _ ih => rw [List.mapM_cons, List.mapM_cons, agree _ _ first, ih]

theorem named_related {heap : Heap NeonNode} {vec : Nat} {parent : Ptr} {whole : List NeonNode} {forest : Forest}
    (related : List.Forall₂ (Node moves heap vec parent whole) whole forest.toList.zipIdx) (key : Text) :
    List.Forall₂ (Node moves heap vec parent whole)
      (whole.filter (fun child : NeonNode => child.name = key)) (forest.named key) := by
  refine List.rel_filter (fun c child node => ?_) related
  simp only [decide_eq_true_eq, node.name]

theorem first_related {heap : Heap NeonNode} {c : NeonNode} {parent : Ptr} {inner : List NeonNode} {forest : Forest}
    (here : heap[c.children]? = some inner)
    (related : List.Forall₂ (Node moves heap c.children parent inner) inner forest.toList.zipIdx) (key : Text) :
    findChild heap c key = none ∧ forest.named key = [] ∨
      ∃ found first rest, findChild heap c key = some found ∧ forest.named key = first :: rest ∧
        found.name = key ∧ Node moves heap c.children parent inner found first := by
  have named := named_related related key
  rw [findChild, childrenOf, here, Option.getD_some, ← List.head?_filter]
  generalize listed : inner.filter (fun child : NeonNode => child.name = key) = l at named ⊢
  generalize forest.named key = l' at named ⊢
  cases named with
  | nil => exact .inl ⟨rfl, rfl⟩
  | @cons found first more rest node _ =>
    refine .inr ⟨found, first, rest, rfl, rfl, ?_, node⟩
    have member : found ∈ inner.filter (fun child : NeonNode => child.name = key) := by simp [listed]
    simpa using (List.mem_filter.mp member).2

theorem value_eq {heap : Heap NeonNode} {lo hi : Nat} {c : NeonNode} {owner : Ptr} {inner : List NeonNode}
    {forest : Forest} (here : heap[c.children]? = some inner)
    (stored : Stored moves heap lo hi c.children owner 0 inner forest) (key : Text) :
    (findChild heap c key).elim [] (fun found => found.value) =
      (forest.named key).head?.elim [] (fun found => found.1.value) := by
  rcases first_related here (node_of_stored rfl stored) key with
    ⟨missing, none⟩ | ⟨found, first, rest, is_found, named, -, node⟩
  · rw [missing, none]
    rfl
  · rw [is_found, named, List.head?_cons, Option.elim_some, Option.elim_some, node.value]

theorem visit_eq (fields : Fields) {heap : Heap NeonNode} {lo hi : Nat} {c : NeonNode} {owner : Ptr}
    {inner : List NeonNode} {forest : Forest} {stays : Bool} (here : heap[c.children]? = some inner)
    (stored : Stored moves heap lo hi c.children owner 0 inner forest)
    (good : load moves heap owner = if stays then some c else none) :
    visit moves heap fields c = visitForest moves fields stays forest := by
  induction fields generalizing c owner inner forest stays lo hi with
  | nil => rfl
  | value key next ih =>
    rw [visit, visitForest, ih here stored good, value_eq here stored]
  | node key inside next ih₁ ih₂ =>
    rw [visit, visitForest, ih₂ here stored good]
    rcases first_related here (node_of_stored rfl stored) key with
      ⟨missing, none⟩ | ⟨found, first, rest, is_found, named, -, node⟩
    · rw [missing, none]
      rfl
    · obtain ⟨lo', hi', below, place, under⟩ := node.below
      rw [is_found, named, List.head?_cons]
      simp only
      rw [ih₁ place under (load_child here stored node)]
  | list key item next ih₁ ih₂ =>
    have related := node_of_stored (List.drop_zero : inner.drop 0 = inner) stored
    rw [visit, visitForest, ih₂ here stored good]
    rcases first_related here related key with
      ⟨missing, none⟩ | ⟨found, first, rest, is_found, named, key_eq, node⟩
    · rw [missing, none]
      rfl
    · rw [is_found, named, itemsOf, ← named]
      simp only [node.parent, key_eq, good]
      cases stays with
      | false => rfl
      | true =>
        simp only [if_true, Option.bind_some, childrenOf, here, Option.getD_some]
        congr 1
        refine mapM_congr_forall₂ (named_related related key) (fun c' child node' => ?_)
        obtain ⟨lo', hi', below, place, under⟩ := node'.below
        exact ih₁ place under (load_child here stored node')

/-- The owner of each list with a child under its key is still where its children point to, so that no list
is read from freed memory. -/
def Reaches (moves : Policy) : Fields → Bool → Forest → Prop
  | .nil, _, _ => True
  | .value _ next, stays, forest => Reaches moves next stays forest
  | .node key inner next, stays, forest =>
      (∀ first ∈ (forest.named key).head?,
        Reaches moves inner (Stays moves first.2 forest.length) first.1.children) ∧
      Reaches moves next stays forest
  | .list key item next, stays, forest =>
      (∀ child ∈ forest.named key,
        stays = true ∧ Reaches moves item (Stays moves child.2 forest.length) child.1.children) ∧
      Reaches moves next stays forest

theorem mapM_defined_iff {α β : Type} (f : α → Option β) (l : List α) :
    (∃ r, l.mapM f = some r) ↔ ∀ a ∈ l, ∃ b, f a = some b := by
  induction l with
  | nil => simp
  | cons a l ih =>
    rw [List.mapM_cons, List.forall_mem_cons, ← ih]
    cases f a with
    | none => simp
    | some b => cases l.mapM f <;> simp

theorem itemsOf_defined_iff {α β : Type} (stays : Bool) (f : α → Option β) (l : List α) :
    (∃ items, itemsOf stays f l = some items) ↔ ∀ a ∈ l, stays = true ∧ ∃ b, f a = some b := by
  cases l with
  | nil => simp [itemsOf]
  | cons first rest =>
    cases stays with
    | false => simpa [itemsOf] using ⟨first, fun other => absurd rfl other⟩
    | true => simp only [itemsOf, if_true, mapM_defined_iff, true_and]

theorem bind_map_defined_iff {α β γ : Type} {f : α → β → γ} (first : Option α) (second : Option β) :
    (∃ c, first.bind (fun x => second.map (f x)) = some c) ↔ (∃ a, first = some a) ∧ ∃ b, second = some b := by
  cases first <;> cases second <;> simp

theorem visitForest_defined_iff (fields : Fields) (stays : Bool) (forest : Forest) :
    (∃ filled, visitForest moves fields stays forest = some filled) ↔ Reaches moves fields stays forest := by
  induction fields generalizing stays forest with
  | nil => simp [visitForest, Reaches]
  | value key next ih =>
    rw [visitForest, Reaches, ← ih]
    cases visitForest moves next stays forest <;> simp
  | node key inner next ih₁ ih₂ =>
    rw [visitForest, Reaches, ← ih₂, bind_map_defined_iff]
    cases (forest.named key).head? with
    | none => simp
    | some first => simp only [Option.mem_some_iff, forall_eq', ← ih₁]
  | list key item next ih₁ ih₂ =>
    rw [visitForest, Reaches, ← ih₂, bind_map_defined_iff, itemsOf_defined_iff]
    simp only [ih₁]

def Document.forest (doc : Document) : Forest :=
  (Forest.leaves (doc.attrs.map attrName)).append (build doc.inner)

/-- The root element is alone in its vector and is never moved, so a target is filled from the
nodes below it. -/
theorem deserialize_eq (doc : Document) (fields : Fields) :
    deserialize moves doc.content.callbacks fields = visitForest moves fields true doc.forest := by
  obtain ⟨heap, added, ran, grown⟩ := run_content doc.content (start_at moves)
  have here := grown.here
  obtain ⟨c, rest, inner, rfl, -, -, -, -, -, place, under, last⟩ := grown.stored
  obtain rfl : rest = [] := last
  rw [deserialize, ran, Option.bind_some, here]
  refine visit_eq fields place under ?_
  rw [List.nil_append] at here
  change load moves heap (address moves 1 0) = some c
  rw [load_address moves here Nat.zero_lt_one, if_pos]
  · rfl
  · intro k less later
    rw [List.length_singleton] at less
    omega

end FtyDiscovery.Neon
