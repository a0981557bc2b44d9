import FtyDiscovery.MibsReader
import FtyDiscovery.Snmp.Agent

/-! Which walks that report success have seen every object of the agent, and what that means
for the set of modules read with try-all on. -/

namespace FtyDiscovery.WalkCoverage

open Base Snmp

variable {lib : NetSnmp} {net : Network}

def SignalsEnd (net : Network) (n : Nat) (name : Oid) : Prop :=
  match net.delivery n with
  | .answered => net.agent.next name = none
  | .errstat code _ => net.version = .v1 ∧ code = noSuchName
  | _ => False

def SignalledBefore (lib : NetSnmp) (net : Network) (requests : Nat) : Prop :=
  ∃ n < requests, ∃ walking, walk lib net.peer n = .inl walking ∧ SignalsEnd net n walking.name

/-- A walk that returns success has seen the end signalled and made a call for every identifier. -/
def SuccessComplete (lib : NetSnmp) (net : Network) : Prop :=
  ∀ requests walked, walk lib net.peer requests = .inr walked → walked.result = .ok () →
    SignalledBefore lib net requests ∧
      (net.expected.map lib.snprintObjid).Sublist walked.calls

def MidwayError (lib : NetSnmp) (net : Network) : Prop :=
  ∀ n walking, walk lib net.peer n = .inl walking → (net.delivery n).Silent →
    ¬SignalledBefore lib net (n + 1) →
    ∃ calls failed, walk lib net.peer (n + 1) = .inr ⟨calls, .error failed⟩

/-- With try-all on and the object identifier of the system unreadable, a set read with success
has the module of every unfiltered identifier that the walk ranges over. -/
def ModulesComplete (lib : NetSnmp) (net : Network) : Prop :=
  ∀ requests isOpen mibs unread,
    Snmp.read lib net.peer "RFC1213-MIB::sysObjectID.0".toList = .ok (.error unread) →
    MibsReader.read lib net.peer isOpen true requests = .ok (.ok mibs) →
    ∀ oid ∈ net.agent.oids, root < oid → MibsReader.filterMib (lib.snprintObjid oid) = true →
      ∀ name, MibsReader.moduleOf (lib.snprintObjid oid) = some name → name ∈ mibs

/-- A silent failure other than the SNMPv1 end of the MIB where the MIB ends. -/
def Lost (net : Network) (n : Nat) : Prop :=
  (net.delivery n).Silent ∧ ¬(n = net.expected.length ∧ SignalsEnd net n (net.asked n))

/-- Of the requests up to the one after the last identifier, the first that the agent does not
answer, if there is one, is not lost. -/
def FailsLoudly (net : Network) : Prop :=
  ∀ n ≤ net.expected.length, (∀ k < n, net.delivery k = .answered) → ¬Lost net n

theorem walkBody_calls {peer : Peer} {walking next : Walking}
    (step : walkBody lib peer walking = .inl next) : walking.calls <+: next.calls := by
  unfold walkBody at step
  split at step
  next => cases step
  next =>
    split at step
    next =>
      obtain rfl := Sum.inl.inj step
      exact List.prefix_append _ _
    next => cases step
  next => cases step

theorem walkBody_leaves {peer : Peer} {walking : Walking} {walked : Walked}
    (step : walkBody lib peer walking = .inr walked) : walked.calls = walking.calls := by
  unfold walkBody at step
  split at step
  next =>
    obtain rfl := Sum.inr.inj step
    rfl
  next =>
    split at step
    next => cases step
    next =>
      obtain rfl := Sum.inr.inj step
      rfl
  next =>
    obtain rfl := Sum.inr.inj step
    rfl

theorem running_before {peer : Peer} {n requests : Nat} {walking : Walking} {walked : Walked}
    (running : walk lib peer n = .inl walking) (returned : walk lib peer requests = .inr walked) :
    n < requests ∧ walking.calls <+: walked.calls := by
  rw [Network.walk_eq] at running returned
  have less : n < requests := by
    by_contra late
    rw [Loop.run_mono (Nat.le_of_not_lt late) returned] at running
    cases running
  refine ⟨less, ?_⟩
  obtain ⟨more, rfl⟩ := Nat.exists_eq_add_of_le less.le
  rw [Loop.run_add, running] at returned
  exact Loop.run_result (fun later => walking.calls <+: later.calls) (fun last => walking.calls <+: last.calls)
    (fun _ _ kept step => kept.trans (walkBody_calls step))
    (fun _ _ kept step => walkBody_leaves step ▸ kept) (List.prefix_refl _) returned

theorem answered_of_running {n : Nat} {walking : Walking}
    (running : walk lib net.peer n = .inl walking) : walking.sent = n ∧ ∀ k < n, net.delivery k = .answered := by
  induction n generalizing walking with
  | zero =>
    rw [Network.walk_eq] at running
    obtain rfl := Sum.inl.inj running
    exact ⟨rfl, by simp⟩
  | succ n ih =>
    cases before : walk lib net.peer n with
    | inr walked => cases (running_before running before).1.trans (Nat.lt_succ_self n) |>.false
    | inl last =>
      obtain ⟨sent, answered⟩ := ih before
      rw [Network.walk_eq] at before running
      rw [Loop.run_succ before] at running
      have here : net.delivery n = .answered := by
        rw [← sent]
        cases delivered : net.delivery last.sent with
        | answered => rfl
        | errstat code foreign =>
          rw [Network.body_silent (by simp [delivered, Delivery.Silent])] at running
          cases running
        | timeout errno =>
          rw [Network.body_silent (by simp [delivered, Delivery.Silent])] at running
          cases running
        | error errno =>
          rw [Network.body_error delivered] at running
          cases running
      refine ⟨?_, fun k less => ?_⟩
      · unfold walkBody at running
        split at running
        next => cases running
        next =>
          split at running
          next =>
            obtain rfl := Sum.inl.inj running
            simp [sent]
          next => cases running
        next => cases running
      · rcases Nat.lt_succ_iff_lt_or_eq.mp less with earlier | rfl
        · exact answered k earlier
        · exact here

theorem signalsEnd_answered {n : Nat} (answered : net.delivery n = .answered) (name : Oid) :
    SignalsEnd net n name ↔ net.agent.next name = none := by
  simp only [SignalsEnd, answered]

theorem answered_or_end (loudly : FailsLoudly net) {requests : Nat} {walked : Walked}
    (returned : walk lib net.peer requests = .inr walked) (success : walked.result = .ok ())
    {n : Nat} (within : n ≤ net.expected.length) (before : ∀ k < n, net.delivery k = .answered) :
    net.delivery n = .answered ∨ n = net.expected.length ∧ SignalsEnd net n (net.asked n) := by
  have unlost := loudly n within before
  have reached := Network.walk_answered lib within before
  cases delivered : net.delivery n with
  | answered => exact .inl rfl
  | error errno =>
    rw [Network.walk_eq] at reached returned
    have left := Loop.run_succ reached
    rw [Network.body_error delivered] at left
    rw [← Loop.result_unique left returned] at success
    cases success
  | errstat code failed => exact .inr (by_contra fun other => unlost ⟨by simp [delivered, Delivery.Silent], other⟩)
  | timeout errno => exact .inr (by_contra fun other => unlost ⟨by simp [delivered, Delivery.Silent], other⟩)

theorem answered_of_success (loudly : FailsLoudly net) {requests : Nat} {walked : Walked}
    (returned : walk lib net.peer requests = .inr walked) (success : walked.result = .ok ()) :
    (∀ k < net.expected.length, net.delivery k = .answered) ∧
      SignalsEnd net net.expected.length (net.asked net.expected.length) := by
  have upTo (n : Nat) (within : n ≤ net.expected.length) : ∀ k < n, net.delivery k = .answered := by
    induction n with
    | zero => simp
    | succ n ih =>
      have before := ih (by omega)
      intro k less
      rcases Nat.lt_succ_iff_lt_or_eq.mp less with earlier | rfl
      · exact before k earlier
      · rcases answered_or_end loudly returned success (by omega) before with here | ⟨last, -⟩
        · exact here
        · omega
  refine ⟨upTo _ le_rfl, ?_⟩
  rcases answered_or_end loudly returned success le_rfl (upTo _ le_rfl) with here | ⟨-, ends⟩
  · exact (signalsEnd_answered here _).mpr net.next_asked_end
  · exact ends

theorem successComplete_of_failsLoudly (lib : NetSnmp) (loudly : FailsLoudly net) : SuccessComplete lib net := by
  intro requests walked returned success
  obtain ⟨answered, ends⟩ := answered_of_success loudly returned success
  have whole := Network.walk_answered lib le_rfl answered
  obtain ⟨less, reported⟩ := running_before whole returned
  refine ⟨⟨_, less, _, whole, ends⟩, ?_⟩
  rw [List.take_length] at reported
  exact reported.sublist

theorem midwayError_of_failsLoudly (loudly : FailsLoudly net) : MidwayError lib net := by
  intro n walking running silent unsignalled
  have answered := (answered_of_running running).2
  refine (unsignalled ?_).elim
  rcases Nat.lt_or_ge net.expected.length n with late | within
  · have there := Network.walk_answered lib le_rfl (fun k less => answered k (by omega))
    exact ⟨_, by omega, _, there, (signalsEnd_answered (answered _ late) _).mpr net.next_asked_end⟩
  · have there := Network.walk_answered lib within answered
    have ends := by_contra fun other => loudly n within answered ⟨silent, other⟩
    exact ⟨n, by omega, _, there, ends.2⟩

theorem modulesComplete_of_successComplete (complete : SuccessComplete lib net) :
    ModulesComplete lib net := by
  intro requests isOpen mibs unread unreadable succeeded oid member later passes name found
  unfold MibsReader.read at succeeded
  split at succeeded
  next => simp at succeeded
  next =>
    simp only [unreadable, if_true] at succeeded
    split at succeeded
    next => cases succeeded
    next walked returned =>
      split at succeeded
      next => simp at succeeded
      next success =>
        obtain ⟨-, reported⟩ := complete requests walked returned success
        have called := reported.subset (List.mem_map_of_mem ((net.agent.mem_after root oid).mpr ⟨member, later⟩))
        simp only [MibsReader.nonempty, Except.ok.injEq] at succeeded
        split at succeeded
        next => cases succeeded
        next =>
          obtain rfl := Except.ok.inj succeeded
          rw [MibsReader.mem_foldl_collect]
          exact .inr ⟨_, called, passes, found⟩

theorem failsLoudly_of_successComplete (complete : SuccessComplete lib net) : FailsLoudly net := by
  intro n within before lost
  have reached := Network.walk_answered lib within before
  have left : walk lib net.peer (n + 1) = .inr ⟨(net.expected.take n).map lib.snprintObjid, .ok ()⟩ := by
    rw [Network.walk_eq] at reached ⊢
    rw [Loop.run_succ reached, Network.body_silent lost.1]
  obtain ⟨⟨m, less, walking, running, ends⟩, reported⟩ := complete _ _ left rfl
  have short := reported.length_le
  simp only [List.length_map, List.length_take] at short
  obtain rfl : n = net.expected.length := by omega
  have there := Network.walk_answered lib (show m ≤ net.expected.length by omega) (fun k bound => before k (by omega))
  obtain rfl := Sum.inl.inj (there.symm.trans running)
  rcases Nat.lt_succ_iff_lt_or_eq.mp less with earlier | rfl
  · rw [signalsEnd_answered (before m earlier), net.next_asked earlier] at ends
    cases ends
  · exact lost.2 ⟨rfl, ends⟩

/-- Successful walks are complete, midway failures are errors and module sets miss nothing,
exactly when no request up to the end of the MIB is lost silently. -/
theorem walk_complete_iff (lib : NetSnmp) (net : Network) :
    (SuccessComplete lib net ∧ MidwayError lib net ∧ ModulesComplete lib net) ↔ FailsLoudly net := by
  constructor
  · exact fun claim => failsLoudly_of_successComplete claim.1
  · intro loudly
    have complete := successComplete_of_failsLoudly lib loudly
    exact ⟨complete, midwayError_of_failsLoudly loudly, modulesComplete_of_successComplete complete⟩

def timeoutNetwork : Network where
  agent := sampleAgent
  version := .v1
  opens := .ok ()
  get := noObject
  delivery
    | 1 => .timeout (-24)
    | _ => .answered

theorem walk_timeout_incomplete :
    ¬SuccessComplete sampleLib timeoutNetwork ∧ ¬MidwayError sampleLib timeoutNetwork ∧
      ¬ModulesComplete sampleLib timeoutNetwork := by
  have running : walk sampleLib timeoutNetwork.peer 1 =
      .inl ⟨1, sysDescr, ["SNMPv2-MIB::sysDescr.0".toList]⟩ := by decide
  have returned : walk sampleLib timeoutNetwork.peer 2 =
      .inr ⟨["SNMPv2-MIB::sysDescr.0".toList], .ok ()⟩ := by decide
  refine ⟨fun complete => ?_, fun midway => ?_, fun modules => ?_⟩
  · have reported := (complete 2 _ returned rfl).2.length_le
    revert reported
    decide
  · have unsignalled : ¬SignalledBefore sampleLib timeoutNetwork 2 := by
      intro signalled
      rcases signalled with ⟨n, less, walking, reached, ends⟩
      obtain rfl | rfl : n = 0 ∨ n = 1 := by omega
      · rw [Network.walk_eq] at reached
        obtain rfl := Sum.inl.inj reached
        rw [signalsEnd_answered rfl] at ends
        revert ends
        decide
      · exact ends
    obtain ⟨calls, failed, left⟩ := midway 1 _ running trivial unsignalled
    rw [returned] at left
    cases left
  · have unreadable : Snmp.read sampleLib timeoutNetwork.peer "RFC1213-MIB::sysObjectID.0".toList =
        .ok (.error "Cannot parse OID 'RFC1213-MIB::sysObjectID.0'".toList) := by decide
    have succeeded : MibsReader.read sampleLib timeoutNetwork.peer true true 2 =
        .ok (.ok ((∅ : MibsReader.MibList).insert "SNMPv2-MIB".toList)) := by
      rw [MibsReader.read, MibsReader.ensureOpen, if_pos rfl]
      simp only [unreadable, if_true, returned]
      rfl
    have found := modules 2 true _ _ unreadable succeeded upsIdentManufacturer (by decide) (by decide)
      (by decide) "UPS-MIB".toList (by decide)
    revert found
    decide

end FtyDiscovery.WalkCoverage
