import FtyDiscovery.Neon.Document

/-! Running the callbacks of a document stores its nodes, whatever the vectors do. -/

namespace FtyDiscovery.Neon

open Base Vectors

variable {moves : Policy}

/-- One vector got more nodes, these, and what is below them is in new vectors; all other
vectors are as they were. -/
structure Grown (moves : Policy) (heap heap' : Heap NeonNode) (vec : Nat) (parent : Ptr)
    (items added : List NeonNode) (forest : Forest) : Prop where
  larger : heap.length ≤ heap'.length
  kept : ∀ id < heap.length, id ≠ vec → heap'[id]? = heap[id]?
  here : heap'[vec]? = some (items ++ added)
  stored : Stored moves heap' heap.length heap'.length vec parent items.length added forest

theorem lt_length {heap : Heap NeonNode} {vec : Nat} {items : List NeonNode} (here : heap[vec]? = some items) :
    vec < heap.length := (List.getElem?_eq_some_iff.mp here).1

theorem Grown.refl {heap : Heap NeonNode} {vec : Nat} {items : List NeonNode} (here : heap[vec]? = some items)
    (parent : Ptr) : Grown moves heap heap vec parent items [] .nil where
  larger := Nat.le_refl _
  kept _ _ _ := rfl
  here := by rw [here, List.append_nil]
  stored := rfl

theorem Grown.trans {heap heap' heap'' : Heap NeonNode} {vec : Nat} {parent : Ptr}
    {items added added' : List NeonNode} {forest forest' : Forest} (old : vec < heap.length)
    (first : Grown moves heap heap' vec parent items added forest)
    (second : Grown moves heap' heap'' vec parent (items ++ added) added' forest') :
    Grown moves heap heap'' vec parent items (added ++ added') (forest.append forest') where
  larger := first.larger.trans second.larger
  kept id less other := (second.kept id (less.trans_le first.larger) other).trans (first.kept id less other)
  here := by rw [second.here, List.append_assoc]
  stored := by
    refine stored_append ?_ ?_
    · refine stored_frame (Nat.le_refl _) second.larger (fun id low high => ?_) first.stored
      exact second.kept id high (by omega)
    · have behind := second.stored
      rw [List.length_append] at behind
      exact stored_frame first.larger (Nat.le_refl _) (fun _ _ _ => rfl) behind

theorem emplace_eq {heap : Heap NeonNode} {vec : Nat} {items : List NeonNode} (here : heap[vec]? = some items)
    (name value : Text) (parent : Ptr) :
    emplace moves heap vec name value parent =
      some (heap.set vec (items ++ [⟨name, value, heap.length, some parent⟩]) ++ [[]],
        address moves vec items.length) := by
  simp only [emplace, emplaceBack, here, Option.map_some]

theorem grown_emplace (moves : Policy) {heap : Heap NeonNode} {vec : Nat} {items : List NeonNode} (here : heap[vec]? = some items)
    (name value : Text) (parent : Ptr) :
    Grown moves heap (heap.set vec (items ++ [⟨name, value, heap.length, some parent⟩]) ++ [[]]) vec parent items
      [⟨name, value, heap.length, some parent⟩] (.node false name value .nil .nil) := by
  have old := lt_length here
  refine ⟨by simp, fun id less other => ?_, ?_, ?_⟩
  · rw [List.getElem?_append_left (by simpa using less), List.getElem?_set_ne (Ne.symm other)]
  · rw [List.getElem?_append_left (by simpa using old), List.getElem?_set_self old]
  · exact ⟨_, [], [], rfl, rfl, rfl, rfl, Nat.le_refl _, by simp, by simp, rfl, rfl⟩

theorem grown_emplaceAll (moves : Policy) {heap : Heap NeonNode} {vec : Nat} {items : List NeonNode} (here : heap[vec]? = some items)
    (parent : Ptr) (fields : List (Text × Text)) :
    ∃ heap' added, emplaceAll moves heap vec parent fields = some heap' ∧
      Grown moves heap heap' vec parent items added (Forest.leaves fields) := by
  induction fields generalizing heap items with
  | nil => exact ⟨heap, [], rfl, .refl here parent⟩
  | cons field fields ih =>
    rcases field with ⟨name, value⟩
    have first := grown_emplace moves here name value parent
    obtain ⟨heap', added, made, rest⟩ := ih first.here
    refine ⟨heap', _, ?_, first.trans (lt_length here) rest⟩
    rw [emplaceAll, emplace_eq here]
    exact made

structure At (moves : Policy) (parser : Parser) (current : Ptr) (vec : Nat) (items : List NeonNode) : Prop where
  current_eq : parser.current = some current
  node : ∃ node, load moves parser.heap current = some node ∧ node.children = vec
  apart : current.vec ≠ vec
  old : current.vec < parser.heap.length
  here : parser.heap[vec]? = some items

theorem At.grown {parser : Parser} {current : Ptr} {vec : Nat} {items added : List NeonNode} {forest : Forest}
    {heap : Heap NeonNode} (stands : At moves parser current vec items)
    (grown : Grown moves parser.heap heap vec current items added forest) :
    At moves { parser with heap := heap } current vec (items ++ added) where
  current_eq := stands.current_eq
  node := by
    obtain ⟨node, loaded, children⟩ := stands.node
    refine ⟨node, ?_, children⟩
    rw [← loaded]
    exact load_of_vec_eq moves (grown.kept _ stands.old stands.apart)
  apart := stands.apart
  old := stands.old.trans_le grown.larger
  here := grown.here

theorem currentNode_eq {parser : Parser} {current : Ptr} {vec : Nat} {items : List NeonNode}
    (stands : At moves parser current vec items) :
    ∃ node, currentNode moves parser = some (current, node) ∧ node.children = vec := by
  obtain ⟨node, loaded, children⟩ := stands.node
  exact ⟨node, by simp only [currentNode, stands.current_eq, Option.bind_some, loaded, Option.map_some], children⟩

theorem pieceNodes_cons (piece : Text) (pieces : List Text) :
    pieceNodes (piece :: pieces) =
      if (Text.trim piece).isEmpty then pieceNodes pieces
      else ("cdata".toList, Text.trim piece) :: pieceNodes pieces := by
  cases blank : (Text.trim piece).isEmpty <;> simp [pieceNodes, blank]

theorem run_pieces {parser : Parser} {current : Ptr} {vec : Nat} {items : List NeonNode}
    (stands : At moves parser current vec items) (pieces : List Text) :
    ∃ heap added, run moves (pieces.map .valueEl) parser = some { parser with heap := heap } ∧
      Grown moves parser.heap heap vec current items added (Forest.leaves (pieceNodes pieces)) := by
  induction pieces generalizing parser items with
  | nil => exact ⟨parser.heap, [], rfl, .refl stands.here current⟩
  | cons piece pieces ih =>
    rw [pieceNodes_cons]
    by_cases blank : (Text.trim piece).isEmpty = true
    · rw [if_pos blank, List.map_cons, run, callback, valueEl]
      simp only [blank, if_true, Option.bind_some]
      exact ih stands
    · obtain ⟨node, found, children⟩ := currentNode_eq stands
      have first := grown_emplace moves stands.here "cdata".toList (Text.trim piece) current
      obtain ⟨heap, added, ran, rest⟩ := ih (stands.grown first)
      rw [if_neg blank]
      refine ⟨heap, _, ?_, first.trans (lt_length stands.here) rest⟩
      rw [List.map_cons, run, callback, valueEl]
      simp only [blank, found, children, emplace_eq stands.here, Option.bind_some, Option.map_some]
      exact ran

theorem run_startEl {parser : Parser} {current : Ptr} {vec : Nat} {items : List NeonNode}
    (stands : At moves parser current vec items) (name : Text) (attrs : List (Text × Text)) :
    ∃ opened heap added,
      startEl moves name attrs parser = some ⟨heap, some (address moves vec items.length)⟩ ∧
      Grown moves parser.heap opened vec current items [⟨name, [], parser.heap.length, some current⟩]
        (.node false name [] .nil .nil) ∧
      opened.length = parser.heap.length + 1 ∧
      Grown moves opened heap parser.heap.length (address moves vec items.length) [] added
        (Forest.leaves (attrs.map attrName)) := by
  obtain ⟨node, found, children⟩ := currentNode_eq stands
  have opened := grown_emplace moves stands.here name [] current
  have inside : (parser.heap.set vec (items ++ [⟨name, [], parser.heap.length, some current⟩]) ++
      [[]])[parser.heap.length]? = some [] := by simp
  obtain ⟨heap, added, made, grown⟩ := grown_emplaceAll moves inside
    (address moves vec items.length) (attrs.map attrName)
  refine ⟨_, heap, added, ?_, opened, by simp, grown⟩
  simp only [startEl, found, children, emplace_eq stands.here, Option.bind_some, made, Option.map_some]

theorem grown_element {heap opened heap' heap'' : Heap NeonNode} {vec : Nat} {current : Ptr} {name : Text}
    {items inside behind : List NeonNode} {below next : Forest} (old : vec < heap.length)
    (element : Grown moves heap opened vec current items [⟨name, [], heap.length, some current⟩]
      (.node false name [] .nil .nil))
    (size : opened.length = heap.length + 1)
    (body : Grown moves opened heap' heap.length (address moves vec items.length) [] inside below)
    (rest : Grown moves heap' heap'' vec current (items ++ [⟨name, [], heap.length, some current⟩]) behind next) :
    Grown moves heap heap'' vec current items (⟨name, [], heap.length, some current⟩ :: behind)
      (.node true name [] below next) := by
  have larger := body.larger
  have larger' := rest.larger
  refine ⟨by omega, fun id less other => ?_, ?_, ?_⟩
  · rw [rest.kept id (by omega) other, body.kept id (by omega) (by omega), element.kept id less other]
  · rw [rest.here, List.append_assoc, List.singleton_append]
  · have stored := rest.stored
    rw [List.length_append, List.length_singleton] at stored
    refine ⟨_, behind, inside, rfl, rfl, rfl, rfl, Nat.le_refl _, by simp only; omega, ?_, ?_,
      stored_frame (by omega) (Nat.le_refl _) (fun _ _ _ => rfl) stored⟩
    · rw [rest.kept heap.length (by omega) (by omega), body.here, List.nil_append]
    · exact stored_frame (by omega) larger' (fun id low high => rest.kept id high (by omega)) body.stored

theorem At.beside {heap heap' : Heap NeonNode} {current : Ptr} {vec : Nat} {items : List NeonNode}
    (stands : At moves ⟨heap, some current⟩ current vec items) (larger : heap.length ≤ heap'.length)
    (kept : heap'[vec]? = heap[vec]?) (currentKept : heap'[current.vec]? = heap[current.vec]?) :
    At moves ⟨heap', some current⟩ current vec items := by
  obtain ⟨node, loaded, children⟩ := stands.node
  exact ⟨rfl, ⟨node, (load_of_vec_eq moves currentKept).trans loaded, children⟩, stands.apart,
    stands.old.trans_le larger, kept.trans stands.here⟩

/-- The callbacks of a content store its nodes behind those that are there, and end where they
started. -/
theorem run_content (content : Content) {parser : Parser} {current : Ptr} {vec : Nat} {items : List NeonNode}
    (stands : At moves parser current vec items) :
    ∃ heap added, run moves content.callbacks parser = some { parser with heap := heap } ∧
      Grown moves parser.heap heap vec current items added (build content) := by
  induction content generalizing parser current vec items with
  | nil => exact ⟨parser.heap, [], rfl, .refl stands.here current⟩
  | text pieces next ih =>
    obtain ⟨heap, added, ran, first⟩ := run_pieces stands pieces
    obtain ⟨heap', added', ran', rest⟩ := ih (stands.grown first)
    refine ⟨heap', _, ?_, first.trans (lt_length stands.here) rest⟩
    rw [Content.callbacks, run_append, ran, Option.bind_some, ran']
  | element name attrs inner next ih₁ ih₂ =>
    have old := lt_length stands.here
    obtain ⟨opened, heap₁, attributes, started, grown₀, size, grown₁⟩ := run_startEl stands name attrs
    have larger₁ := grown₁.larger
    have inside : At moves ⟨heap₁, some (address moves vec items.length)⟩ (address moves vec items.length)
        parser.heap.length attributes := by
      have last := load_last moves ((grown₁.kept vec (by omega) (by omega)).trans grown₀.here)
      exact ⟨rfl, ⟨_, last, rfl⟩, Nat.ne_of_lt old, old.trans_le (by simp only; omega), grown₁.here⟩
    obtain ⟨heap₂, content, ran₁, grown₂⟩ := ih₁ inside
    have body := grown₁.trans (by omega) grown₂
    have vecKept : heap₂[vec]? = opened[vec]? := body.kept vec (by omega) (by omega)
    have older := stands.old
    have reopened := stands.grown grown₀
    rw [stands.current_eq] at reopened
    have outer := reopened.beside body.larger vecKept (body.kept _ (by omega) (by omega))
    obtain ⟨heap₃, rest, ran₂, grown₃⟩ := ih₂ outer
    refine ⟨heap₃, _, ?_, grown_element old grown₀ size body grown₃⟩
    rw [Content.callbacks, run, callback, started, Option.bind_some, run_append, ran₁, Option.bind_some, run,
      callback, endEl]
    simp only [currentNode, Option.bind_some, load_last moves (vecKept.trans grown₀.here), Option.map_some, if_true]
    rw [ran₂, stands.current_eq]

theorem load_root (moves : Policy) {heap : Heap NeonNode} {root : NeonNode} (here : heap[0]? = some [root]) :
    load moves heap (address moves 0 0) = some root :=
  @load_last _ moves heap 0 [] root here

theorem start_at (moves : Policy) : At moves (start moves) (address moves 0 0) 1 [] :=
  ⟨rfl, ⟨_, load_root moves rfl, rfl⟩, Nat.zero_ne_one, Nat.zero_lt_two, rfl⟩

end FtyDiscovery.Neon
