import FtyDiscovery.Neon.Parser

/-! Documents as the XML parser delivers them, and the nodes that the callbacks make of them. -/

namespace FtyDiscovery.Neon

open Base Vectors

/-- What is between two tags: elements, and runs of character data in the pieces in which they
are delivered. -/
inductive Content where
  | nil
  | text (pieces : List Text) (next : Content)
  | element (name : Text) (attrs : List (Text × Text)) (inner next : Content)
  deriving DecidableEq, Repr

namespace Content

def callbacks : Content → List Callback
  | .nil => []
  | .text pieces next => pieces.map .valueEl ++ next.callbacks
  | .element name attrs inner next =>
      .startEl name attrs :: (inner.callbacks ++ .endEl name :: next.callbacks)

def ownText : Content → Text
  | .nil => []
  | .text pieces next => pieces.flatten ++ next.ownText
  | .element _ _ _ next => next.ownText

end Content

structure Document where
  name : Text
  attrs : List (Text × Text)
  inner : Content
  deriving DecidableEq, Repr

def Document.content (doc : Document) : Content := .element doc.name doc.attrs doc.inner .nil

/-- The nodes of a vector and all below them; a node is that of an element, or of an attribute
or a piece of text. -/
inductive Forest where
  | nil
  | node (element : Bool) (name value : Text) (children next : Forest)
  deriving DecidableEq, Repr

structure Child where
  element : Bool
  name : Text
  value : Text
  children : Forest
  deriving DecidableEq, Repr

namespace Forest

def append : Forest → Forest → Forest
  | .nil, after => after
  | .node element name value children next, after => .node element name value children (append next after)

def length : Forest → Nat
  | .nil => 0
  | .node _ _ _ _ next => next.length + 1

def leaves : List (Text × Text) → Forest
  | [] => .nil
  | (name, value) :: rest => .node false name value .nil (leaves rest)

def toList : Forest → List Child
  | .nil => []
  | .node element name value children next => ⟨element, name, value, children⟩ :: next.toList

def named (forest : Forest) (key : Text) : List (Child × Nat) :=
  forest.toList.zipIdx.filter (fun child => child.1.name = key)

theorem toList_append (before after : Forest) :
    (before.append after).toList = before.toList ++ after.toList := by
  induction before with
  | nil => rfl
  | node element name value children next _ ih => rw [append, toList, ih, toList, List.cons_append]

theorem toList_leaves (fields : List (Text × Text)) :
    (leaves fields).toList = fields.map (fun field => ⟨false, field.1, field.2, .nil⟩) := by
  induction fields with
  | nil => rfl
  | cons field fields ih => rw [leaves, toList, ih, List.map_cons]

theorem map_named (forest : Forest) (key : Text) :
    (forest.named key).map Prod.fst = forest.toList.filter (fun child => child.name = key) := by
  rw [named, ← List.zipIdx_map_fst 0 forest.toList, List.filter_map, List.zipIdx_map_fst]
  rfl

end Forest

def pieceNodes (pieces : List Text) : List (Text × Text) :=
  ((pieces.map Text.trim).filter (fun data => !data.isEmpty)).map (fun data => ("cdata".toList, data))

def build : Content → Forest
  | .nil => .nil
  | .text pieces next => (Forest.leaves (pieceNodes pieces)).append (build next)
  | .element name attrs inner next =>
      .node true name [] ((Forest.leaves (attrs.map attrName)).append (build inner)) (build next)

variable (moves : Policy)

/-- The nodes of a vector from some place on are these, each with the vector it is in as it was
when its children came, and all below them is in vectors from `lo` up to `hi`. -/
def Stored (heap : Heap NeonNode) (lo hi : Nat) : Nat → Ptr → Nat → List NeonNode → Forest → Prop
  | _, _, _, items, .nil => items = []
  | vec, parent, index, items, .node _ name value children next =>
      ∃ c rest inner, items = c :: rest ∧ c.name = name ∧ c.value = value ∧ c.parent = some parent ∧
        lo ≤ c.children ∧ c.children < hi ∧ heap[c.children]? = some inner ∧
        Stored heap lo hi c.children (address moves vec index) 0 inner children ∧
        Stored heap lo hi vec parent (index + 1) rest next

variable {moves}

theorem stored_length {heap : Heap NeonNode} {lo hi vec index : Nat} {parent : Ptr} {items : List NeonNode}
    {forest : Forest} (stored : Stored moves heap lo hi vec parent index items forest) :
    items.length = forest.length := by
  induction forest generalizing vec parent index items with
  | nil =>
    obtain rfl : items = [] := stored
    rfl
  | node element name value children next _ ih =>
    obtain ⟨c, rest, inner, rfl, -, -, -, -, -, -, -, after⟩ := stored
    rw [List.length_cons, ih after, Forest.length]

theorem stored_frame {heap heap' : Heap NeonNode} {lo hi lo' hi' vec index : Nat} {parent : Ptr}
    {items : List NeonNode} {forest : Forest} (below : lo' ≤ lo) (above : hi ≤ hi')
    (agree : ∀ id, lo ≤ id → id < hi → heap'[id]? = heap[id]?)
    (stored : Stored moves heap lo hi vec parent index items forest) :
    Stored moves heap' lo' hi' vec parent index items forest := by
  induction forest generalizing vec parent index items with
  | nil => exact stored
  | node element name value children next ih₁ ih₂ =>
    obtain ⟨c, rest, inner, whole, named, valued, owned, low, high, here, inside, after⟩ := stored
    exact ⟨c, rest, inner, whole, named, valued, owned, below.trans low, high.trans_le above,
      (agree _ low high).trans here, ih₁ inside, ih₂ after⟩

theorem stored_append {heap : Heap NeonNode} {lo hi vec index : Nat} {parent : Ptr} {items items' : List NeonNode}
    {before after : Forest} (first : Stored moves heap lo hi vec parent index items before)
    (second : Stored moves heap lo hi vec parent (index + items.length) items' after) :
    Stored moves heap lo hi vec parent index (items ++ items') (before.append after) := by
  induction before generalizing index items with
  | nil =>
    obtain rfl : items = [] := first
    exact second
  | node element name value children next _ ih =>
    obtain ⟨c, rest, inner, rfl, named, valued, owned, low, high, here, inside, behind⟩ := first
    refine ⟨c, rest ++ items', inner, rfl, named, valued, owned, low, high, here, inside, ih behind ?_⟩
    rw [List.length_cons] at second
    rwa [Nat.add_assoc, Nat.add_comm 1]

theorem stored_drop {heap : Heap NeonNode} {lo hi vec index : Nat} {parent : Ptr} {items : List NeonNode}
    {fields : List (Text × Text)} {after : Forest}
    (stored : Stored moves heap lo hi vec parent index items ((Forest.leaves fields).append after)) :
    Stored moves heap lo hi vec parent (index + fields.length) (items.drop fields.length) after := by
  induction fields generalizing index items with
  | nil => exact stored
  | cons field fields ih =>
    obtain ⟨c, rest, inner, rfl, -, -, -, -, -, -, -, behind⟩ := stored
    rw [List.length_cons, List.drop_succ_cons, ← Nat.add_assoc, Nat.add_right_comm]
    exact ih behind

end FtyDiscovery.Neon
