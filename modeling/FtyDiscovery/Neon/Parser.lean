import FtyDiscovery.Base.Text
import FtyDiscovery.Base.Vectors

/-! The callbacks that turn an XML document into a tree of nodes in growable vectors. -/

namespace FtyDiscovery.Neon

open Base Vectors

/-- A node; its children are in a vector of their own, which moves with it. -/
structure NeonNode where
  name : Text
  value : Text := []
  children : Nat
  parent : Option Ptr := none
  deriving DecidableEq, Repr

/-- The parser, `m_current`, and the vectors of all nodes. -/
structure Parser where
  heap : Heap NeonNode
  current : Option Ptr
  deriving DecidableEq, Repr

inductive Callback where
  | startEl (name : Text) (attrs : List (Text × Text))
  | valueEl (cdata : Text)
  | endEl (name : Text)
  deriving DecidableEq, Repr

variable (moves : Policy)

/-- `emplace_back` with the fields that are set right after it; the children of the new node are
a new vector. -/
def emplace (heap : Heap NeonNode) (vec : Nat) (name value : Text) (parent : Ptr) :
    Option (Heap NeonNode × Ptr) :=
  (emplaceBack moves heap vec
    { name := name, value := value, children := heap.length, parent := some parent }).map
    (fun grown => (grown.1 ++ [[]], grown.2))

def emplaceAll (heap : Heap NeonNode) (vec : Nat) (parent : Ptr) :
    List (Text × Text) → Option (Heap NeonNode)
  | [] => some heap
  | (name, value) :: rest =>
      (emplace moves heap vec name value parent).bind (fun grown => emplaceAll grown.1 vec parent rest)

def attrName (attr : Text × Text) : Text × Text := ("a::".toList ++ attr.1, attr.2)

/-- A null or stale `m_current` has no node. -/
def currentNode (self : Parser) : Option (Ptr × NeonNode) :=
  self.current.bind (fun current => (load moves self.heap current).map (fun node => (current, node)))

def startEl (name : Text) (attrs : List (Text × Text)) (self : Parser) : Option Parser :=
  (currentNode moves self).bind (fun current =>
    (emplace moves self.heap current.2.children name [] current.1).bind (fun grown =>
      (emplaceAll moves grown.1 self.heap.length grown.2 (attrs.map attrName)).map (fun heap =>
        { heap := heap, current := some grown.2 })))

def valueEl (cdata : Text) (self : Parser) : Option Parser :=
  let data := Text.trim cdata
  if data.isEmpty then some self
  else
    (currentNode moves self).bind (fun current =>
      (emplace moves self.heap current.2.children "cdata".toList data current.1).map (fun grown =>
        { self with heap := grown.1 }))

/-- The assertion on the name is part of it. -/
def endEl (name : Text) (self : Parser) : Option Parser :=
  (currentNode moves self).bind (fun current =>
    if current.2.name = name then some { self with current := current.2.parent } else none)

def callback (self : Parser) : Callback → Option Parser
  | .startEl name attrs => startEl moves name attrs self
  | .valueEl cdata => valueEl moves cdata self
  | .endEl name => endEl moves name self

def run : List Callback → Parser → Option Parser
  | [], self => some self
  | call :: calls, self => (callback moves self call).bind (run calls)

def start : Parser where
  heap := [[{ name := [], children := 1 }], []]
  current := some (address moves 0 0)

variable {moves}

theorem run_append (calls calls' : List Callback) (self : Parser) :
    run moves (calls ++ calls') self = (run moves calls self).bind (run moves calls') := by
  induction calls generalizing self with
  | nil => rfl
  | cons call calls ih =>
    rw [List.cons_append, run, run]
    cases callback moves self call with
    | none => rfl
    | some next => exact ih next

end FtyDiscovery.Neon
