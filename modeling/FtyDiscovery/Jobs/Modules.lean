import FtyDiscovery.WalkCoverage
import FtyDiscovery.Base.Entries
import FtyDiscovery.Jobs.Contacts

/-! The MIBs that are listed for an agent against those it has objects of: a walk reports nothing else,
and a list is of what was read, each once and by priority. -/

namespace FtyDiscovery.Snmp

open Base

variable {lib : NetSnmp} {net : Network}

theorem next_expected {name oid : Oid} (here : name = root ∨ name ∈ net.expected)
    (found : net.agent.next name = some oid) : oid ∈ net.expected := by
  rw [Agent.next_eq_head] at found
  obtain ⟨member, later⟩ := (net.agent.mem_after name oid).mp (List.mem_of_mem_head? found)
  refine (net.agent.mem_after root oid).mpr ⟨member, ?_⟩
  rcases here with rfl | inside
  · exact later
  · exact ((net.agent.mem_after root name).mp inside).2.trans later

def Reported (lib : NetSnmp) (net : Network) (calls : List Text) : Prop :=
  ∀ call ∈ calls, ∃ oid ∈ net.expected, call = lib.snprintObjid oid

theorem Reported.concat {calls : List Text} (reported : Reported lib net calls) {oid : Oid}
    (member : oid ∈ net.expected) : Reported lib net (calls ++ [lib.snprintObjid oid]) := by
  intro call found
  rcases List.mem_append.mp found with before | here
  · exact reported call before
  · exact ⟨oid, member, List.mem_singleton.mp here⟩

theorem reported_step (objects : net.expected ≠ []) {walking next : Walking}
    (here : walking.name = root ∨ walking.name ∈ net.expected) (reported : Reported lib net walking.calls)
    (step : walkBody lib net.peer walking = .inl next) : next.name ∈ net.expected ∧ Reported lib net next.calls := by
  cases delivered : net.delivery walking.sent with
  | answered =>
    cases found : net.agent.next walking.name with
    | some oid =>
      have member := next_expected here found
      rw [Network.body_answered delivered found] at step
      obtain rfl := Sum.inl.inj step
      exact ⟨member, reported.concat member⟩
    | none =>
      cases version : net.version with
      | v1 =>
        rw [Network.body_end_v1 version delivered found] at step
        cases step
      | v3 =>
        rw [Network.body_end_v3 version delivered found] at step
        obtain rfl := Sum.inl.inj step
        rcases here with start | inside
        · rw [start, Agent.next_eq_head, List.head?_eq_none_iff] at found
          exact (objects found).elim
        · exact ⟨inside, reported.concat inside⟩
  | errstat code failed =>
    rw [Network.body_silent (by simp [delivered, Delivery.Silent])] at step
    cases step
  | timeout errno =>
    rw [Network.body_silent (by simp [delivered, Delivery.Silent])] at step
    cases step
  | error errno =>
    rw [Network.body_error delivered] at step
    cases step

theorem walk_reports (objects : net.expected ≠ []) {requests : Nat} {walked : Walked}
    (returned : walk lib net.peer requests = .inr walked) : Reported lib net walked.calls := by
  rw [Network.walk_eq] at returned
  refine Loop.run_result
    (fun walking => (walking.name = root ∨ walking.name ∈ net.expected) ∧ Reported lib net walking.calls)
    (fun walked => Reported lib net walked.calls) ?_ ?_ ⟨.inl rfl, by simp [Reported]⟩ returned
  · intro walking next kept step
    obtain ⟨member, reported⟩ := reported_step objects kept.1 kept.2 step
    exact ⟨.inr member, reported⟩
  · intro walking walked kept step
    rw [WalkCoverage.walkBody_leaves step]
    exact kept.2

end FtyDiscovery.Snmp

namespace FtyDiscovery.MibsReader

open Base Snmp

theorem nonempty_ok {mibs found : MibList} (ok : nonempty mibs = .ok found) : found = mibs ∧ ∃ mib, mib ∈ found := by
  unfold nonempty at ok
  split at ok
  next => cases ok
  next present =>
    obtain rfl := Except.ok.inj ok
    have some_mib : mibs.toList ≠ [] := fun empty => present (by simpa using empty)
    obtain ⟨mib, member⟩ := List.exists_mem_of_ne_nil _ some_mib
    exact ⟨rfl, mib, Std.ExtTreeSet.mem_toList.mp member⟩

def systemModule (oid : Text) : Text := oid.takeWhile (fun c => c != '.')

theorem readObjectId_eq (oid : Text) : readObjectId oid = (∅ : MibList).insert (systemModule oid) := by
  have cut := Text.take_find '.' oid
  unfold readObjectId systemModule
  rw [← cut]
  change _ = (∅ : MibList).insert (((Text.find ".".toList oid).map (fun pos => oid.take pos)).getD oid)
  cases Text.find ".".toList oid <;> rfl

variable {lib : NetSnmp}

/-- The MIBs that an endpoint shows: the one that its system is identified by; where that cannot be read, those
of the names that a walk reports, or those of the known names that can be read. -/
def Shows (lib : NetSnmp) (peer : Peer) (tryAll : Bool) (requests : Nat) (mib : Text) : Prop :=
  match Snmp.read lib peer "RFC1213-MIB::sysObjectID.0".toList with
  | .ok (.ok oid) => mib = systemModule oid
  | _ =>
      if tryAll then
        ∃ walked, walk lib peer requests = .inr walked ∧ walked.result = .ok () ∧
          ∃ call ∈ walked.calls, filterMib call = true ∧ moduleOf call = some mib
      else ∃ name ∈ knownMibs, (∃ val, Snmp.read lib peer name = .ok (.ok val)) ∧ moduleOf name = some mib

theorem probe_returns {peer : Peer} {known : List Text} {mibs found : MibList}
    (probed : probe lib peer known mibs = .ok found) :
    ∀ mib ∈ known, ∃ outcome, Snmp.read lib peer mib = .ok outcome := by
  induction known generalizing mibs with
  | nil => exact fun _ member => absurd member List.not_mem_nil
  | cons mib known ih =>
    rw [probe] at probed
    intro name member
    cases outcome : Snmp.read lib peer mib with
    | error stop =>
      rw [outcome] at probed
      cases probed
    | ok ret =>
      rcases List.mem_cons.mp member with rfl | later
      · exact ⟨ret, outcome⟩
      · rw [outcome] at probed
        cases ret with
        | error failed => exact ih probed name later
        | ok val => exact ih probed name later

theorem read_shows {peer : Peer} {isOpen tryAll : Bool} {requests : Nat} {mibs : MibList}
    (ok : read lib peer isOpen tryAll requests = .ok (.ok mibs)) :
    (∃ mib, mib ∈ mibs) ∧ ∀ mib, mib ∈ mibs ↔ Shows lib peer tryAll requests mib := by
  unfold read at ok
  unfold Shows
  split at ok
  next => cases Except.ok.inj ok
  next =>
    split at ok
    next => cases ok
    next oid readable =>
      obtain rfl := Except.ok.inj (Except.ok.inj ok)
      rw [readable, readObjectId_eq]
      refine ⟨⟨systemModule oid, by simp⟩, fun mib => ?_⟩
      have inserted : mib ∈ (∅ : MibList).insert (systemModule oid) ↔ systemModule oid = mib := by simp
      exact inserted.trans eq_comm
    next unread unreadable =>
      rw [unreadable]
      split at ok
      next all =>
        simp only [all, if_true]
        cases returned : walk lib peer requests with
        | inl walking =>
          rw [returned] at ok
          cases ok
        | inr walked =>
          rw [returned] at ok
          cases success : walked.result with
          | error failed =>
            simp only [success] at ok
            cases Except.ok.inj ok
          | ok =>
            simp only [success] at ok
            obtain ⟨rfl, some_mib⟩ := nonempty_ok (Except.ok.inj ok)
            refine ⟨some_mib, fun mib => ?_⟩
            rw [mem_foldl_collect]
            simp [success]
      next off =>
        simp only [off]
        cases probed : probe lib peer knownMibs ∅ with
        | error stop =>
          rw [probed] at ok
          cases ok
        | ok found =>
          rw [probed] at ok
          obtain ⟨rfl, some_mib⟩ := nonempty_ok (Except.ok.inj ok)
          obtain ⟨found', probed', members⟩ := probe_ok knownMibs ∅ (probe_returns probed)
          obtain rfl := Except.ok.inj (probed.symm.trans probed')
          refine ⟨some_mib, fun mib => ?_⟩
          rw [members]
          simp

end FtyDiscovery.MibsReader

namespace FtyDiscovery.Jobs.Mibs

open Base Snmp Commands.Mibs

/-- The MIBs as they are listed: each once, and none behind one of a worse priority. -/
structure Listing (Shown : Text → Prop) (out : Out) : Prop where
  nonempty : out ≠ []
  members : ∀ mib, mib ∈ out ↔ Shown mib
  nodup : out.Nodup
  ordered : out.Pairwise (fun l r => index l ≤ index r)

variable {env : Env} {sorting : Sorting} {requests : Nat} {input : In} {events : List Contact} {out : Out}

theorem run_shows (ok : run env sorting requests input = ⟨events, .ok out⟩) :
    ∃ sess, events = [.session sess] ∧
      Listing (MibsReader.Shows env.lib (env.peer sess) env.tryAll requests) out := by
  obtain ⟨sess, mibs, rfl, read, outputs⟩ := run_ok ok
  have out_eq : sorting.sort mibs.toList = out :=
    Except.ok.inj ((congrArg Traced.result (outputs sorting)).symm.trans (congrArg Traced.result ok))
  subst out_eq
  obtain ⟨⟨mib, member⟩, members⟩ := MibsReader.read_shows read
  have perm := sorting.perm mibs.toList
  refine ⟨sess, rfl, ?_, fun other => ?_, ?_, ?_⟩
  · intro empty
    rw [empty] at perm
    have none_there := perm.symm.eq_nil
    rw [← Std.ExtTreeSet.mem_toList, none_there] at member
    cases member
  · rw [perm.mem_iff, Std.ExtTreeSet.mem_toList, members]
  · exact perm.nodup_iff.mpr (Entries.nodup_of_ordered Std.ExtTreeSet.ordered_toList)
  · refine (sorting.ordered mibs.toList).imp (fun unbeaten => ?_)
    simpa only [sortMibs, decide_eq_false_iff_not, not_lt] using unbeaten

def Supports (lib : NetSnmp) (net : Network) (mib : Text) : Prop :=
  ∃ oid ∈ net.expected, MibsReader.filterMib (lib.snprintObjid oid) = true ∧
    MibsReader.moduleOf (lib.snprintObjid oid) = some mib

/-- A list that is returned has what the endpoint shows, each MIB once and by priority. Over a network with
try-all on, where the object identifier of the system cannot be read, that is nothing but MIBs of the agent, and
all of them unless a request is lost silently. -/
theorem run_supports {net : Session → Network} (devices : ∀ sess, env.peer sess = (net sess).peer)
    (ok : run env sorting requests input = ⟨events, .ok out⟩) :
    ∃ sess, events = [.session sess] ∧
      Listing (MibsReader.Shows env.lib (env.peer sess) env.tryAll requests) out ∧
      (env.tryAll = true → (net sess).expected ≠ [] →
        (∃ unread, Snmp.read env.lib (env.peer sess) "RFC1213-MIB::sysObjectID.0".toList = .ok (.error unread)) →
          (∀ mib ∈ out, Supports env.lib (net sess) mib) ∧
            (WalkCoverage.FailsLoudly (net sess) → ∀ mib, Supports env.lib (net sess) mib → mib ∈ out)) := by
  obtain ⟨sess, contacts, listing⟩ := run_shows ok
  refine ⟨sess, contacts, listing, fun all objects unread => ?_⟩
  obtain ⟨unread, unreadable⟩ := unread
  have shows (mib : Text) : mib ∈ out ↔ ∃ walked, walk env.lib (net sess).peer requests = .inr walked ∧
      walked.result = .ok () ∧ ∃ call ∈ walked.calls, MibsReader.filterMib call = true ∧
        MibsReader.moduleOf call = some mib := by
    rw [listing.members, MibsReader.Shows, unreadable, devices]
    simp only [all, if_true]
  constructor
  · intro mib member
    obtain ⟨walked, returned, -, call, called, passes, module⟩ := (shows mib).mp member
    obtain ⟨oid, inside, rfl⟩ := walk_reports objects returned call called
    exact ⟨oid, inside, passes, module⟩
  · intro loudly mib supports
    obtain ⟨oid, inside, passes, module⟩ := supports
    obtain ⟨some_mib, listed⟩ := List.exists_mem_of_ne_nil out listing.nonempty
    obtain ⟨walked, returned, success, -⟩ := (shows some_mib).mp listed
    have complete := WalkCoverage.successComplete_of_failsLoudly env.lib loudly
    have called := (complete requests walked returned success).2.subset (List.mem_map_of_mem inside)
    exact (shows mib).mpr ⟨walked, returned, success, _, called, passes, module⟩

def named (oid : Oid) : SynchResult :=
  if oid = sysDescr then
    .success { errstat := 0, vars := [{ name := oid, type := .octetStr, valLen := 1 }] } 0
  else noObject oid

def namedNet : Network := .lossless sampleAgent .v1 (.ok ()) named

def namedEnv : Env := { sampleEnv with peer := fun _ => namedNet.peer }

def namedInput : In where
  address := "ups".toList
  community := "public".toList

theorem namedNet_loudly : WalkCoverage.FailsLoudly namedNet := fun _ _ _ lost => lost.1

theorem named_supports : ∃ sess out, run namedEnv .stable 3 namedInput = ⟨[.session sess], .ok out⟩ ∧
    "UPS-MIB".toList ∈ out := by
  obtain ⟨sess, out, listed⟩ : ∃ sess out, run namedEnv .stable 3 namedInput = ⟨[.session sess], .ok out⟩ :=
    ⟨_, _, rfl⟩
  have devices (sess : Session) : namedEnv.peer sess = namedNet.peer := rfl
  obtain ⟨sess', contacts, -, all⟩ := run_supports devices listed
  have objects : namedNet.expected ≠ [] := by decide
  obtain ⟨-, complete⟩ := all rfl objects ⟨_, rfl⟩
  refine ⟨sess, out, listed, complete namedNet_loudly _ ⟨upsIdentManufacturer, by decide, by decide, by decide⟩⟩

end FtyDiscovery.Jobs.Mibs
