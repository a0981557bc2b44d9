import Mathlib.Order.Lex
import Mathlib.Data.List.Lex
import Mathlib.Data.List.Sort
import FtyDiscovery.Snmp.Session

/-! A standards-conforming agent and what a walk over it does, also where requests fail. -/

namespace FtyDiscovery.Snmp

open Base

/-- The objects of an agent in lexicographic order, with the types of their values. -/
structure Agent where
  oids : List Oid
  sorted : oids.Pairwise (· < ·)
  type : Oid → Asn
  ordinary : ∀ oid, ¬Var.Ends { name := oid, type := type oid }

def root : Oid := [1, 3, 6, 1, 2, 1]

def noSuchName : Nat := 2

/-- What became of one request: the agent answered it, an error status came back in its
place, or the library reported one of its two failures. -/
inductive Delivery where
  | answered
  | errstat (code : Nat) (failed : code ≠ 0)
  | error (errno : Int)
  | timeout (errno : Int)

def Delivery.Silent : Delivery → Prop
  | .errstat _ _ => True
  | .timeout _ => True
  | _ => False

namespace Agent

def next (agent : Agent) (name : Oid) : Option Oid :=
  agent.oids.find? (fun oid => decide (name < oid))

def after (agent : Agent) (name : Oid) : List Oid :=
  agent.oids.filter (fun oid => decide (name < oid))

/-- The response to GETNEXT. Past the last object the two versions differ. -/
def answer (agent : Agent) (version : Version) (name : Oid) : Pdu :=
  match agent.next name with
  | some oid => { errstat := 0, vars := [{ name := oid, type := agent.type oid }] }
  | none =>
      match version with
      | .v1 => { errstat := noSuchName, vars := [{ name := name, type := .unknown }] }
      | .v3 => { errstat := 0, vars := [{ name := name, type := .endOfMibView }] }

theorem next_eq_head (agent : Agent) (name : Oid) : agent.next name = (agent.after name).head? :=
  List.head?_filter.symm

theorem mem_after (agent : Agent) (name oid : Oid) :
    oid ∈ agent.after name ↔ oid ∈ agent.oids ∧ name < oid := by
  simp [after]

theorem after_of_cons {agent : Agent} {name first : Oid} {rest : List Oid}
    (split : agent.after name = first :: rest) : agent.after first = rest := by
  have here : name < first :=
    ((agent.mem_after name first).mp (split ▸ List.mem_cons_self)).2
  have ordered : (first :: rest).Pairwise (· < ·) := split ▸ agent.sorted.filter _
  calc agent.after first
      = (agent.after name).filter (fun oid => decide (first < oid)) := by
        rw [after, after, List.filter_filter]
        apply List.filter_congr
        intro oid _
        by_cases later : first < oid
        · simp [later, here.trans later]
        · simp [later]
    _ = rest.filter (fun oid => decide (first < oid)) := by
        rw [split, List.filter_cons_of_neg (by simp)]
    _ = rest := by
        rw [List.filter_eq_self]
        exact fun oid member => by simpa using List.rel_of_pairwise_cons ordered member

end Agent

/-- An agent behind a network, as one session with it goes. -/
structure Network where
  agent : Agent
  version : Version
  opens : Expected Unit
  get : Oid → SynchResult
  delivery : Nat → Delivery

namespace Network

def peer (net : Network) : Peer where
  opens := net.opens
  get := net.get
  getNext n name :=
    match net.delivery n with
    | .answered => .success (net.agent.answer net.version name) 0
    | .errstat code _ => .success { errstat := code, vars := [] } 0
    | .error errno => .error errno
    | .timeout errno => .timeout errno

def expected (net : Network) : List Oid := net.agent.after root

def asked (net : Network) (n : Nat) : Oid := (root :: net.expected).getD n root

variable {lib : NetSnmp} {net : Network}

theorem asked_succ (net : Network) {n : Nat} (within : n < net.expected.length) :
    net.asked (n + 1) = net.expected[n] := by
  simp [asked, List.getD, List.getElem?_eq_getElem within]

theorem after_asked (net : Network) {n : Nat} (within : n ≤ net.expected.length) :
    net.agent.after (net.asked n) = net.expected.drop n := by
  induction n with
  | zero => rfl
  | succ n ih =>
    have here := ih (by omega)
    rw [List.drop_eq_getElem_cons (by omega : n < net.expected.length)] at here
    rw [net.asked_succ within, Agent.after_of_cons here]

theorem next_asked (net : Network) {n : Nat} (within : n < net.expected.length) :
    net.agent.next (net.asked n) = some net.expected[n] := by
  rw [Agent.next_eq_head, net.after_asked within.le, List.drop_eq_getElem_cons within, List.head?_cons]

theorem next_asked_end (net : Network) : net.agent.next (net.asked net.expected.length) = none := by
  rw [Agent.next_eq_head, net.after_asked le_rfl, List.drop_length, List.head?_nil]

theorem body_answered {walking : Walking} {oid : Oid}
    (answered : net.delivery walking.sent = .answered) (found : net.agent.next walking.name = some oid) :
    walkBody lib net.peer walking =
      .inl ⟨walking.sent + 1, oid, walking.calls ++ [lib.snprintObjid oid]⟩ := by
  simp [walkBody, peer, answered, Agent.answer, found, scan, net.agent.ordinary oid]

theorem body_end_v1 {walking : Walking} (version : net.version = .v1)
    (answered : net.delivery walking.sent = .answered) (last : net.agent.next walking.name = none) :
    walkBody lib net.peer walking = .inr ⟨walking.calls, .ok ()⟩ := by
  simp [walkBody, peer, answered, Agent.answer, last, version, noSuchName]

/-- In SNMPv3 the end of the view comes back without an error status, and the loop goes on
from the same name. -/
theorem body_end_v3 {walking : Walking} (version : net.version = .v3)
    (answered : net.delivery walking.sent = .answered) (last : net.agent.next walking.name = none) :
    walkBody lib net.peer walking =
      .inl ⟨walking.sent + 1, walking.name, walking.calls ++ [lib.snprintObjid walking.name]⟩ := by
  simp [walkBody, peer, answered, Agent.answer, last, version, scan, Var.Ends]

theorem body_silent {walking : Walking} (silent : (net.delivery walking.sent).Silent) :
    walkBody lib net.peer walking = .inr ⟨walking.calls, .ok ()⟩ := by
  cases delivered : net.delivery walking.sent with
  | answered => simp [delivered, Delivery.Silent] at silent
  | errstat code failed => simp [walkBody, peer, delivered, failed]
  | error errno => simp [delivered, Delivery.Silent] at silent
  | timeout errno => simp [walkBody, peer, delivered]

theorem body_error {walking : Walking} {errno : Int}
    (failed : net.delivery walking.sent = .error errno) :
    walkBody lib net.peer walking = .inr ⟨walking.calls, .error (lib.errstring errno)⟩ := by
  simp [walkBody, peer, failed]

theorem walk_eq (lib : NetSnmp) (peer : Peer) (requests : Nat) :
    walk lib peer requests = Loop.run (walkBody lib peer) requests ⟨0, root, []⟩ := by
  rw [walk, lib.parseOid_root]
  rfl

theorem walk_answered (lib : NetSnmp) {n : Nat} (within : n ≤ net.expected.length)
    (answered : ∀ k < n, net.delivery k = .answered) :
    walk lib net.peer n =
      .inl ⟨n, net.asked n, (net.expected.take n).map lib.snprintObjid⟩ := by
  induction n with
  | zero =>
    rw [walk_eq]
    rfl
  | succ n ih =>
    have here := ih (by omega) (fun k less => answered k (by omega))
    rw [walk_eq] at here ⊢
    rw [Loop.run_succ here, body_answered (answered n (by omega)) (net.next_asked (by omega))]
    rw [net.asked_succ within, List.take_succ_eq_append_getElem within, List.map_append]
    rfl

def lossless (agent : Agent) (version : Version) (opens : Expected Unit) (get : Oid → SynchResult) :
    Network where
  agent := agent
  version := version
  opens := opens
  get := get
  delivery _ := .answered

theorem walk_lossless_v1 (lib : NetSnmp) (net : Network) (version : net.version = .v1)
    (answered : ∀ n, net.delivery n = .answered) :
    walk lib net.peer (net.expected.length + 1) =
      .inr ⟨net.expected.map lib.snprintObjid, .ok ()⟩ := by
  have whole := walk_answered lib le_rfl (fun k _ => answered k)
  rw [walk_eq] at whole ⊢
  rw [Loop.run_succ whole, body_end_v1 version (answered _) net.next_asked_end, List.take_length]

theorem walk_lossless_v3 (lib : NetSnmp) (net : Network) (version : net.version = .v3)
    (answered : ∀ n, net.delivery n = .answered) (n : Nat) :
    ∃ walking, walk lib net.peer n = .inl walking := by
  have goesOn (walking : Walking) (_ : True) :
      ∃ next, walkBody lib net.peer walking = .inl next ∧ True := by
    cases found : net.agent.next walking.name with
    | some oid => exact ⟨_, body_answered (answered _) found, trivial⟩
    | none => exact ⟨_, body_end_v3 version (answered _) found, trivial⟩
  obtain ⟨final, reached, -⟩ := Loop.run_diverges (fun _ => True) goesOn n ⟨0, root, []⟩ trivial
  exact ⟨final, walk_eq lib net.peer n ▸ reached⟩

end Network

/-- Over a network that loses nothing, the walk returns having reported every identifier after
the root once and in order exactly when the session speaks SNMPv1. -/
theorem walk_returns_iff (lib : NetSnmp) (agent : Agent) (version : Version) (opens : Expected Unit)
    (get : Oid → SynchResult) :
    (∃ requests, walk lib (Network.lossless agent version opens get).peer requests =
      .inr ⟨(agent.after root).map lib.snprintObjid, .ok ()⟩) ↔ version = .v1 := by
  constructor
  · intro walked
    rcases walked with ⟨requests, returned⟩
    cases version with
    | v1 => rfl
    | v3 =>
      obtain ⟨walking, running⟩ := Network.walk_lossless_v3 lib (.lossless agent .v3 opens get) rfl (fun _ => rfl) requests
      rw [returned] at running
      cases running
  · intro same
    subst same
    exact ⟨_, Network.walk_lossless_v1 lib (.lossless agent .v1 opens get) rfl (fun _ => rfl)⟩

def sysDescr : Oid := [1, 3, 6, 1, 2, 1, 1, 1, 0]

def upsIdentManufacturer : Oid := [1, 3, 6, 1, 2, 1, 33, 1, 1, 1, 0]

def sampleAgent : Agent where
  oids := [sysDescr, upsIdentManufacturer]
  sorted := by decide
  type _ := .octetStr
  ordinary := by simp [Var.Ends]

def sampleLib : NetSnmp :=
  .loaded [(sysDescr, "SNMPv2-MIB::sysDescr.0".toList),
    (upsIdentManufacturer, "UPS-MIB::upsIdentManufacturer.0".toList)]

def noObject (oid : Oid) : SynchResult :=
  .success { errstat := 0, vars := [{ name := oid, type := .noSuchObject }] } 0

theorem walk_v3_endless :
    ¬∃ requests, walk sampleLib (Network.lossless sampleAgent .v3 (.ok ()) noObject).peer requests =
      .inr ⟨(sampleAgent.after root).map sampleLib.snprintObjid, .ok ()⟩ := by
  intro walked
  rcases walked with ⟨requests, returned⟩
  obtain ⟨walking, running⟩ := Network.walk_lossless_v3 sampleLib
    (.lossless sampleAgent .v3 (.ok ()) noObject) rfl (fun _ => rfl) requests
  rw [returned] at running
  cases running

end FtyDiscovery.Snmp
