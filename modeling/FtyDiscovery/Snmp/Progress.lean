import Mathlib.Order.Monotone.Basic
import FtyDiscovery.Snmp.Agent

/-! Whether a device can hold a walk: what the replies of any device make it ask for. -/

namespace FtyDiscovery.Snmp

open Base

variable {lib : NetSnmp} {peer : Peer}

/-- The name that a reply leads on to, that of the last variable in front of a mark of the end. -/
def leadsTo (vars : List Var) (asked : Oid) : Oid :=
  ((vars.takeWhile (fun var => ¬var.Ends)).map Var.name).getLastD asked

inductive Asks (peer : Peer) : Nat → Oid → Prop where
  | root : Asks peer 0 root
  | next {n : Nat} {name : Oid} {response : Pdu} {errno : Int} (asks : Asks peer n name)
      (replied : peer.getNext n name = .success response errno) (success : response.errstat = 0) :
      Asks peer (n + 1) (leadsTo response.vars name)

/-- At a reply with an identifier that is not greater than the one asked for, the walk stops. -/
def StopsAtRepeat (lib : NetSnmp) (peer : Peer) : Prop :=
  ∀ n walking response errno, walk lib peer n = .inl walking →
    peer.getNext walking.sent walking.name = .success response errno →
      (∃ var ∈ response.vars, ¬walking.name < var.name) →
        ∃ walked, walk lib peer (n + 1) = .inr walked

def NeverRepeats (lib : NetSnmp) (peer : Peer) : Prop :=
  (∀ n, ∃ walking, walk lib peer n = .inl walking) →
    ∀ m n first second, walk lib peer m = .inl first → walk lib peer n = .inl second →
      first.name = second.name → m = n

def Ordered (peer : Peer) : Prop :=
  ∀ n name response errno, Asks peer n name → peer.getNext n name = .success response errno →
    response.errstat = 0 → ∀ var ∈ response.vars, name < var.name

def Endless (peer : Peer) : Prop := ∀ n, ∃ name, Asks peer n name

def LeadsOn (peer : Peer) : Prop :=
  ∀ n name response errno, Asks peer n name → peer.getNext n name = .success response errno →
    response.errstat = 0 → ∃ var rest, response.vars = var :: rest ∧ ¬var.Ends

theorem leadsTo_ending {var : Var} (ends : var.Ends) (vars : List Var) (asked : Oid) :
    leadsTo (var :: vars) asked = asked := by
  rw [leadsTo, List.takeWhile_cons_of_neg (by simpa using ends)]
  rfl

theorem leadsTo_cons {var : Var} (goes : ¬var.Ends) (vars : List Var) (asked : Oid) :
    leadsTo (var :: vars) asked = leadsTo vars var.name := by
  rw [leadsTo, List.takeWhile_cons_of_pos (by simpa using goes), List.map_cons, List.getLastD_cons]
  rfl

theorem scan_leadsTo (lib : NetSnmp) (vars : List Var) (asked : Oid) :
    (scan lib vars asked).2 = leadsTo vars asked := by
  induction vars generalizing asked with
  | nil => rfl
  | cons var vars ih =>
    by_cases ends : var.Ends
    · rw [leadsTo_ending ends, scan, if_pos ends]
    · rw [leadsTo_cons ends, scan, if_neg ends]
      exact ih var.name

theorem leadsTo_mem {var : Var} (goes : ¬var.Ends) (rest : List Var) (asked : Oid) :
    ∃ last ∈ var :: rest, leadsTo (var :: rest) asked = last.name := by
  induction rest generalizing var asked with
  | nil => exact ⟨var, List.mem_cons_self, leadsTo_cons goes [] asked⟩
  | cons second rest ih =>
    rw [leadsTo_cons goes]
    by_cases ends : second.Ends
    · exact ⟨var, List.mem_cons_self, leadsTo_ending ends rest var.name⟩
    · obtain ⟨last, member, same⟩ := ih ends var.name
      exact ⟨last, List.mem_cons_of_mem var member, same⟩

theorem walkBody_inl_iff {walking next : Walking} :
    walkBody lib peer walking = .inl next ↔
      ∃ response errno, peer.getNext walking.sent walking.name = .success response errno ∧
        response.errstat = 0 ∧
        next = ⟨walking.sent + 1, leadsTo response.vars walking.name,
          walking.calls ++ (scan lib response.vars walking.name).1⟩ := by
  unfold walkBody
  cases replied : peer.getNext walking.sent walking.name with
  | error errno => simp only [reduceCtorEq, false_and, exists_false]
  | timeout errno => simp only [reduceCtorEq, false_and, exists_false]
  | success response errno =>
    by_cases success : response.errstat = 0
    · simp only [if_pos success, Sum.inl.injEq, SynchResult.success.injEq, scan_leadsTo]
      constructor
      · intro same
        exact ⟨response, errno, ⟨rfl, rfl⟩, success, same.symm⟩
      · rintro ⟨_, _, ⟨rfl, rfl⟩, _, same⟩
        exact same.symm
    · simp only [if_neg success, reduceCtorEq, false_iff]
      rintro ⟨_, _, same, zero, _⟩
      cases same
      exact success zero

theorem asks_of_walk {n : Nat} {walking : Walking} (running : walk lib peer n = .inl walking) :
    walking.sent = n ∧ Asks peer n walking.name := by
  rw [Network.walk_eq] at running
  induction n generalizing walking with
  | zero =>
    obtain rfl := Sum.inl.inj running
    exact ⟨rfl, .root⟩
  | succ n ih =>
    cases before : Loop.run (walkBody lib peer) n ⟨0, root, []⟩ with
    | inr walked =>
      rw [Loop.run_mono (Nat.le_succ n) before] at running
      cases running
    | inl last =>
      rw [Loop.run_succ before] at running
      obtain ⟨response, errno, replied, success, rfl⟩ := walkBody_inl_iff.mp running
      obtain ⟨sent, asks⟩ := ih before
      rw [sent] at replied
      exact ⟨congrArg Nat.succ sent, asks.next replied success⟩

theorem walk_of_asks (lib : NetSnmp) {n : Nat} {name : Oid} (asks : Asks peer n name) :
    ∃ calls, walk lib peer n = .inl ⟨n, name, calls⟩ := by
  induction asks with
  | root => exact ⟨[], Network.walk_eq lib peer 0⟩
  | @next n name response errno _ replied success ih =>
    obtain ⟨calls, running⟩ := ih
    have goes : walkBody lib peer ⟨n, name, calls⟩ = .inl ⟨n + 1, leadsTo response.vars name, _⟩ :=
      walkBody_inl_iff.mpr ⟨response, errno, replied, success, rfl⟩
    rw [Network.walk_eq] at running ⊢
    exact ⟨_, (Loop.run_succ running).trans goes⟩

theorem Asks.unique {n : Nat} {first second : Oid} (asks : Asks peer n first) (again : Asks peer n second) :
    first = second := by
  obtain ⟨_, running⟩ := walk_of_asks (.loaded []) asks
  obtain ⟨_, same⟩ := walk_of_asks (.loaded []) again
  rw [running] at same
  exact congrArg Walking.name (Sum.inl.inj same)

theorem endless_iff (lib : NetSnmp) : Endless peer ↔ ∀ n, ∃ walking, walk lib peer n = .inl walking := by
  constructor
  · intro endless n
    obtain ⟨name, asks⟩ := endless n
    obtain ⟨calls, running⟩ := walk_of_asks lib asks
    exact ⟨_, running⟩
  · intro endless n
    obtain ⟨walking, running⟩ := endless n
    exact ⟨walking.name, (asks_of_walk running).2⟩

theorem stopsAtRepeat_iff (lib : NetSnmp) (peer : Peer) : StopsAtRepeat lib peer ↔ Ordered peer := by
  constructor
  · intro stops n name response errno asks replied success var member
    by_contra behind
    obtain ⟨calls, running⟩ := walk_of_asks lib asks
    obtain ⟨walked, stopped⟩ := stops n _ response errno running replied ⟨var, member, behind⟩
    obtain ⟨later, going⟩ := walk_of_asks lib (asks.next replied success)
    rw [going] at stopped
    cases stopped
  · intro ordered n walking response errno running replied
    rintro ⟨var, member, behind⟩
    obtain ⟨sent, asks⟩ := asks_of_walk running
    by_cases success : response.errstat = 0
    · rw [sent] at replied
      exact absurd (ordered n _ response errno asks replied success var member) behind
    · rw [Network.walk_eq] at running ⊢
      rw [Loop.run_succ running]
      cases turn : walkBody lib peer walking with
      | inr walked => exact ⟨walked, rfl⟩
      | inl next =>
        obtain ⟨response', errno', replied', success', -⟩ := walkBody_inl_iff.mp turn
        rw [replied] at replied'
        cases replied'
        exact absurd success' success

theorem leadsOn_of_neverRepeats (never : NeverRepeats lib peer) (endless : Endless peer) : LeadsOn peer := by
  intro n name response errno asks replied success
  obtain ⟨calls, running⟩ := walk_of_asks lib asks
  obtain ⟨later, going⟩ := walk_of_asks lib (asks.next replied success)
  have moves : leadsTo response.vars name ≠ name := by
    intro same
    have repeated := never ((endless_iff lib).mp endless) _ _ _ _ running going same.symm
    omega
  cases vars : response.vars with
  | nil => exact absurd (congrArg (fun vars => leadsTo vars name) vars) moves
  | cons var rest =>
    refine ⟨var, rest, rfl, fun ends => moves ?_⟩
    rw [vars, leadsTo_ending ends]

theorem asks_lt (ordered : Ordered peer) (leads : LeadsOn peer) {n : Nat} {name next : Oid}
    (asks : Asks peer n name) (then_asks : Asks peer (n + 1) next) : name < next := by
  cases then_asks with
  | next asks' replied success =>
    obtain rfl := asks.unique asks'
    obtain ⟨var, rest, vars, goes⟩ := leads n _ _ _ asks replied success
    obtain ⟨last, member, same⟩ := leadsTo_mem goes rest name
    rw [vars, same]
    exact ordered n _ _ _ asks replied success last (vars ▸ member)

theorem neverRepeats_of_ordered (lib : NetSnmp) (ordered : Ordered peer) (leads : Endless peer → LeadsOn peer) :
    NeverRepeats lib peer := by
  intro runs
  have endless := (endless_iff lib).mpr runs
  have always := leads endless
  choose name asks using endless
  have increasing : StrictMono name := by
    apply strictMono_nat_of_lt_succ
    intro n
    exact asks_lt ordered always (asks n) (asks (n + 1))
  intro m n first second running again same
  apply increasing.injective
  calc name m = first.name := (asks m).unique (asks_of_walk running).2
    _ = second.name := same
    _ = name n := (asks_of_walk again).2.unique (asks n)

/-- The walk stops at a reply that does not go forward, and repeats no identifier, exactly where
there are no such replies to it: it looks at none of them. -/
theorem walk_guarded_iff (lib : NetSnmp) (peer : Peer) :
    StopsAtRepeat lib peer ∧ NeverRepeats lib peer ↔
      Ordered peer ∧ (Endless peer → LeadsOn peer) := by
  rw [stopsAtRepeat_iff]
  constructor
  · intro guarded
    exact ⟨guarded.1, leadsOn_of_neverRepeats guarded.2⟩
  · intro answers
    exact ⟨answers.1, neverRepeats_of_ordered lib answers.1 answers.2⟩

def sysDescrReply : Pdu := { errstat := 0, vars := [{ name := sysDescr, type := .octetStr }] }

def stuck : Peer where
  opens := .ok ()
  get := noObject
  getNext _ _ := .success sysDescrReply 0

theorem stuck_endless :
    walk sampleLib stuck 3 = .inl ⟨3, sysDescr, List.replicate 3 "SNMPv2-MIB::sysDescr.0".toList⟩ ∧
    ¬StopsAtRepeat sampleLib stuck ∧ ¬NeverRepeats sampleLib stuck := by
  have asked (n : Nat) : Asks stuck (n + 1) sysDescr := by
    have replied (n : Nat) (name : Oid) : stuck.getNext n name = .success sysDescrReply 0 := rfl
    induction n with
    | zero => exact Asks.root.next (replied 0 root) rfl
    | succ n ih => exact ih.next (replied (n + 1) sysDescr) rfl
  refine ⟨by decide, fun stops => ?_, fun never => ?_⟩
  · have less := (stopsAtRepeat_iff sampleLib stuck).mp stops 1 sysDescr _ 0 (asked 0) rfl rfl _ List.mem_cons_self
    exact lt_irrefl sysDescr less
  · obtain ⟨_, first⟩ := walk_of_asks sampleLib (asked 0)
    obtain ⟨_, second⟩ := walk_of_asks sampleLib (asked 1)
    have endless : Endless stuck := by
      intro n
      cases n with
      | zero => exact ⟨root, .root⟩
      | succ n => exact ⟨sysDescr, asked n⟩
    have repeated := never ((endless_iff sampleLib).mp endless) _ _ _ _ first second rfl
    omega

end FtyDiscovery.Snmp
