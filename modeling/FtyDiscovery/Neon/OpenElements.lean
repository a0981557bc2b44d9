import FtyDiscovery.Neon.Build

/-! The elements that are open between two callbacks, and the chain of parent pointers. -/

namespace FtyDiscovery.Neon

open Base Vectors

/-- An element that has not ended: its name, its place among the nodes of the element around it,
and how many nodes it has so far. -/
structure OpenElement where
  name : Text
  place : Nat
  nodes : Nat
  deriving DecidableEq, Repr

def follow : List OpenElement → Callback → Option (List OpenElement)
  | [], _ => none
  | inner :: outer, .startEl name attrs =>
      some (⟨name, inner.nodes, attrs.length⟩ :: { inner with nodes := inner.nodes + 1 } :: outer)
  | inner :: outer, .valueEl cdata =>
      some ({ inner with nodes := inner.nodes + (pieceNodes [cdata]).length } :: outer)
  | inner :: outer, .endEl name => if inner.name = name then some outer else none

def openElements (calls : List Callback) : Option (List OpenElement) := calls.foldlM follow [⟨[], 0, 0⟩]

variable (moves : Policy)

/-- The chain of parent pointers from here on denotes these elements: each pointer is good, it is
that of the node at the element's place in the vector of the element around it, and behind the last
is none. The nodes of the innermost are in the vector `vec`. -/
def Denotes (heap : Heap NeonNode) : Option Ptr → Nat → List OpenElement → Prop
  | current, vec, [] => current = none ∧ vec = 0
  | current, vec, inner :: outer =>
      ∃ p node items, current = some p ∧ load moves heap p = some node ∧ node.name = inner.name ∧
        p.index = inner.place ∧ node.children = vec ∧ p.vec < vec ∧ heap[vec]? = some items ∧
        items.length = inner.nodes ∧ Denotes heap node.parent p.vec outer

variable {moves}

theorem Denotes.frame {heap heap' : Heap NeonNode} {current : Option Ptr} {vec : Nat}
    {opened : List OpenElement} (denotes : Denotes moves heap current vec opened)
    (agree : ∀ id ≤ vec, heap'[id]? = heap[id]?) : Denotes moves heap' current vec opened := by
  induction opened generalizing current vec with
  | nil => exact denotes
  | cons inner outer ih =>
    obtain ⟨p, node, items, here, loaded, named, placed, children, before, stored, size, around⟩ := denotes
    refine ⟨p, node, items, here, ?_, named, placed, children, before, ?_, size, ?_⟩
    · rw [load_of_vec_eq moves (agree p.vec before.le), loaded]
    · rw [agree vec le_rfl, stored]
    · exact ih around (fun id below => agree id (below.trans before.le))

theorem Denotes.stands {parser : Parser} {vec : Nat} {inner : OpenElement} {outer : List OpenElement}
    (denotes : Denotes moves parser.heap parser.current vec (inner :: outer)) :
    ∃ current items, At moves parser current vec items ∧ items.length = inner.nodes := by
  obtain ⟨p, node, items, here, loaded, -, -, children, before, stored, size, -⟩ := denotes
  exact ⟨p, items, ⟨here, ⟨node, loaded, children⟩, before.ne, before.trans (lt_length stored), stored⟩, size⟩

theorem Denotes.grown {parser : Parser} {heap : Heap NeonNode} {current : Ptr} {vec : Nat}
    {items added : List NeonNode} {forest : Forest} {inner : OpenElement} {outer : List OpenElement}
    (denotes : Denotes moves parser.heap parser.current vec (inner :: outer))
    (stands : At moves parser current vec items)
    (grown : Grown moves parser.heap heap vec current items added forest) :
    Denotes moves heap parser.current vec ({ inner with nodes := inner.nodes + forest.length } :: outer) := by
  obtain ⟨p, node, items', here, loaded, named, placed, children, before, stored, size, around⟩ := denotes
  obtain rfl : items' = items := Option.some.inj (stored.symm.trans stands.here)
  have kept (id : Nat) (below : id < vec) : heap[id]? = parser.heap[id]? :=
    grown.kept id (below.trans (lt_length stored)) below.ne
  refine ⟨p, node, items' ++ added, here, ?_, named, placed, children, before, grown.here, ?_, ?_⟩
  · rw [load_of_vec_eq moves (kept p.vec before), loaded]
  · rw [List.length_append, size, stored_length grown.stored]
  · exact around.frame (fun id below => kept id (below.trans_lt before))

theorem length_leaves (fields : List (Text × Text)) : (Forest.leaves fields).length = fields.length := by
  induction fields with
  | nil => rfl
  | cons field fields ih => rw [Forest.leaves, Forest.length, ih, List.length_cons]

theorem length_append (before after : Forest) :
    (before.append after).length = before.length + after.length := by
  induction before with
  | nil => rw [Forest.append, Forest.length, Nat.zero_add]
  | node element name value children next _ ih =>
    rw [Forest.append, Forest.length, ih, Forest.length, Nat.add_right_comm]

theorem denotes_startEl {parser : Parser} {vec : Nat} {inner : OpenElement} {outer : List OpenElement}
    (denotes : Denotes moves parser.heap parser.current vec (inner :: outer)) (name : Text)
    (attrs : List (Text × Text)) :
    ∃ parser' vec', startEl moves name attrs parser = some parser' ∧
      Denotes moves parser'.heap parser'.current vec'
        (⟨name, inner.nodes, attrs.length⟩ :: { inner with nodes := inner.nodes + 1 } :: outer) := by
  obtain ⟨current, items, stands, size⟩ := denotes.stands
  obtain ⟨opened, heap, added, started, grown, larger, attributes⟩ := run_startEl stands name attrs
  have old := lt_length stands.here
  have around : Denotes moves heap (some current) vec ({ inner with nodes := inner.nodes + 1 } :: outer) := by
    rw [← stands.current_eq]
    refine (denotes.grown stands grown).frame (fun id below => ?_)
    exact attributes.kept id (by omega) (by omega)
  have last := load_last moves ((attributes.kept vec (by omega) (by omega)).trans grown.here)
  refine ⟨_, parser.heap.length, started, address moves vec items.length,
    ⟨name, [], parser.heap.length, some current⟩, added, rfl, last, rfl, size, rfl, old, attributes.here, ?_, around⟩
  rw [stored_length attributes.stored, length_leaves, List.length_map]

theorem denotes_valueEl {parser : Parser} {vec : Nat} {inner : OpenElement} {outer : List OpenElement}
    (denotes : Denotes moves parser.heap parser.current vec (inner :: outer)) (cdata : Text) :
    ∃ parser' vec', valueEl moves cdata parser = some parser' ∧
      Denotes moves parser'.heap parser'.current vec'
        ({ inner with nodes := inner.nodes + (pieceNodes [cdata]).length } :: outer) := by
  obtain ⟨current, items, stands, size⟩ := denotes.stands
  obtain ⟨heap, added, ran, grown⟩ := run_pieces stands [cdata]
  have denotes' := denotes.grown stands grown
  rw [length_leaves] at denotes'
  refine ⟨{ parser with heap := heap }, vec, ?_, denotes'⟩
  simpa only [List.map_cons, List.map_nil, run, callback, Option.bind_some, Option.bind_fun_some] using ran

theorem denotes_endEl {parser : Parser} {vec : Nat} {inner : OpenElement} {outer : List OpenElement}
    (denotes : Denotes moves parser.heap parser.current vec (inner :: outer)) :
    ∃ parser' vec', endEl moves inner.name parser = some parser' ∧
      Denotes moves parser'.heap parser'.current vec' outer := by
  obtain ⟨p, node, items, here, loaded, named, -, -, -, -, -, around⟩ := denotes
  refine ⟨{ parser with current := node.parent }, p.vec, ?_, around⟩
  simp only [endEl, currentNode, here, Option.bind_some, loaded, Option.map_some, named, if_true]

theorem denotes_callback {parser : Parser} {vec : Nat} {opened opened' : List OpenElement} {call : Callback}
    (denotes : Denotes moves parser.heap parser.current vec opened) (followed : follow opened call = some opened') :
    ∃ parser' vec', callback moves parser call = some parser' ∧
      Denotes moves parser'.heap parser'.current vec' opened' := by
  unfold follow at followed
  split at followed
  next => cases followed
  next inner outer name attrs =>
    obtain rfl := Option.some.inj followed
    exact denotes_startEl denotes name attrs
  next inner outer cdata =>
    obtain rfl := Option.some.inj followed
    exact denotes_valueEl denotes cdata
  next inner outer name =>
    split at followed
    next same =>
      obtain rfl := Option.some.inj followed
      rw [← same]
      exact denotes_endEl denotes
    next => cases followed

theorem denotes_run {parser : Parser} {vec : Nat} {opened opened' : List OpenElement} {calls : List Callback}
    (denotes : Denotes moves parser.heap parser.current vec opened)
    (followed : calls.foldlM follow opened = some opened') :
    ∃ parser' vec', run moves calls parser = some parser' ∧
      Denotes moves parser'.heap parser'.current vec' opened' := by
  induction calls generalizing parser vec opened with
  | nil =>
    obtain rfl := Option.some.inj followed
    exact ⟨parser, vec, rfl, denotes⟩
  | cons call calls ih =>
    rw [List.foldlM_cons] at followed
    obtain ⟨next, first, rest⟩ := Option.bind_eq_some_iff.mp followed
    obtain ⟨parser', vec', called, denotes'⟩ := denotes_callback denotes first
    obtain ⟨parser'', vec'', ran, denotes''⟩ := ih denotes' rest
    exact ⟨parser'', vec'', by rw [run, called, Option.bind_some, ran], denotes''⟩

theorem follow_pieces (pieces : List Text) (inner : OpenElement) (outer : List OpenElement) :
    (pieces.map Callback.valueEl).foldlM follow (inner :: outer) =
      some ({ inner with nodes := inner.nodes + (pieceNodes pieces).length } :: outer) := by
  induction pieces generalizing inner with
  | nil => rfl
  | cons piece pieces ih =>
    have joined : (pieceNodes [piece]).length + (pieceNodes pieces).length = (pieceNodes (piece :: pieces)).length := by
      rw [pieceNodes_cons, pieceNodes_cons]
      split
      next => exact Nat.zero_add _
      next => exact Nat.add_comm _ _
    rw [List.map_cons, List.foldlM_cons]
    refine (ih { inner with nodes := inner.nodes + (pieceNodes [piece]).length }).trans ?_
    rw [Nat.add_assoc, joined]

theorem follow_content (content : Content) (inner : OpenElement) (outer : List OpenElement) :
    content.callbacks.foldlM follow (inner :: outer) =
      some ({ inner with nodes := inner.nodes + (build content).length } :: outer) := by
  induction content generalizing inner outer with
  | nil => rfl
  | text pieces next ih =>
    rw [Content.callbacks, List.foldlM_append, follow_pieces]
    refine (ih _ _).trans ?_
    rw [build, length_append, length_leaves, Nat.add_assoc]
  | element name attrs body next ih₁ ih₂ =>
    have inside := ih₁ ⟨name, inner.nodes, attrs.length⟩ ({ inner with nodes := inner.nodes + 1 } :: outer)
    rw [Content.callbacks, List.foldlM_cons]
    change (body.callbacks ++ .endEl name :: next.callbacks).foldlM follow _ = _
    rw [List.foldlM_append, inside]
    change (Callback.endEl name :: next.callbacks).foldlM follow _ = _
    rw [List.foldlM_cons, follow, if_pos rfl]
    refine (ih₂ _ _).trans ?_
    rw [build, Forest.length, Nat.add_assoc, Nat.add_comm 1]

theorem openElements_take (content : Content) (n : Nat) :
    ∃ opened, openElements (content.callbacks.take n) = some opened := by
  have whole := follow_content content ⟨[], 0, 0⟩ []
  rw [← List.take_append_drop n content.callbacks, List.foldlM_append] at whole
  obtain ⟨opened, followed, -⟩ := Option.bind_eq_some_iff.mp whole
  exact ⟨opened, followed⟩

theorem denotes_start (moves : Policy) :
    Denotes moves (start moves).heap (start moves).current 1 [⟨[], 0, 0⟩] :=
  ⟨_, _, [], rfl, load_root moves rfl, rfl, rfl, rfl, Nat.zero_lt_one, rfl, rfl, rfl, rfl⟩

/-- The callbacks of a content end at the root, with its nodes below, and after any number of them
the chain of pointers denotes the open elements. -/
theorem callbacks_rebuild (moves : Policy) (content : Content) :
    (∃ heap nodes, run moves content.callbacks (start moves) = some ⟨heap, some (address moves 0 0)⟩ ∧
      load moves heap (address moves 0 0) = some { name := [], children := 1 } ∧ heap[1]? = some nodes ∧
      Stored moves heap 2 heap.length 1 (address moves 0 0) 0 nodes (build content)) ∧
    ∀ n, ∃ parser opened vec, run moves (content.callbacks.take n) (start moves) = some parser ∧
      openElements (content.callbacks.take n) = some opened ∧
      Denotes moves parser.heap parser.current vec opened := by
  constructor
  · obtain ⟨heap, nodes, ran, grown⟩ := run_content content (start_at moves)
    have root : heap[0]? = some [{ name := [], children := 1 }] := grown.kept 0 Nat.zero_lt_two Nat.zero_ne_one
    exact ⟨heap, nodes, ran, load_root moves root, grown.here, grown.stored⟩
  · intro n
    obtain ⟨opened, followed⟩ := openElements_take content n
    obtain ⟨parser, vec, ran, denotes⟩ := denotes_run (denotes_start moves) followed
    exact ⟨parser, opened, vec, ran, followed, denotes⟩

end FtyDiscovery.Neon
