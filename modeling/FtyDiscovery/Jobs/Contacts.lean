import FtyDiscovery.Jobs.Assets
import FtyDiscovery.Jobs.Mibs
import FtyDiscovery.Nut.Connection

/-! The contacts that the two SNMP jobs make, whether they succeed or not: a session with the
address and port of the request, and a driver that is set up with them. -/

namespace FtyDiscovery.Jobs

open Base Snmp

theorem orThrow_events {α : Type} (before : Text) (outcome : Outcome (Expected α)) :
    (orThrow before outcome).events = [] := by
  unfold orThrow
  split <;> rfl

theorem setAccess_events (env : Env) (credentialId community : Text) (sess : Session) :
    (setAccess env credentialId community sess).events = [] := by
  unfold setAccess
  split
  next => exact orThrow_events ..
  next => split <;> rfl

theorem checkHost_events (env : Env) (address : Text) : (checkHost env address).events = [] := by
  unfold checkHost
  split <;> rfl

theorem checkHost_ok {env : Env} {address : Text} {events : List Contact} {value : Unit}
    (ok : checkHost env address = ⟨events, .ok value⟩) : events = [] ∧ available env.resolver address = true := by
  unfold checkHost at ok
  split at ok
  next found => exact ⟨(Traced.pure_eq_ok_iff.mp ok).1, found⟩
  next => exact absurd ok Traced.fail_ne_ok

structure Accessed (sess set : Session) : Prop where
  peername : set.peername = sess.peername
  timeout : set.timeout = sess.timeout

theorem accessed_setSnmpv3 (lib : NetSnmp) (credV3 : Snmpv3) (sess : Session) :
    Accessed sess (sess.setSnmpv3 lib credV3) := by
  unfold Session.setSnmpv3
  cases level credV3.securityLevel <;> cases authProt credV3.authProtocol <;> cases authPriv credV3.privProtocol <;>
    exact ⟨rfl, rfl⟩

theorem accessed_setCredentialId {lib : NetSnmp} {wallet : Wallet} {credId : Text} {sess set : Session}
    (ok : sess.setCredentialId lib wallet credId = .ok (.ok set)) : Accessed sess set := by
  unfold Session.setCredentialId at ok
  split at ok
  next credV3 _ =>
    obtain rfl := Except.ok.inj (Except.ok.inj ok)
    exact accessed_setSnmpv3 lib credV3 sess
  next =>
    obtain rfl := Except.ok.inj (Except.ok.inj ok)
    exact ⟨rfl, rfl⟩
  next =>
    obtain rfl := Except.ok.inj (Except.ok.inj ok)
    exact ⟨rfl, rfl⟩
  next => cases ok
  next => cases ok

theorem accessed_setAccess {env : Env} {credentialId community : Text} {sess set : Session}
    {events : List Contact} (ok : setAccess env credentialId community sess = ⟨events, .ok set⟩) :
    Accessed sess set := by
  unfold setAccess at ok
  split at ok
  next => exact accessed_setCredentialId (orThrow_eq_ok_iff.mp ok).2
  next =>
    split at ok
    next =>
      obtain ⟨-, rfl⟩ := Traced.pure_eq_ok_iff.mp ok
      exact ⟨rfl, rfl⟩
    next => exact absurd ok Traced.fail_ne_ok

def peerOf (address : Text) (port : UInt16) : Text := address ++ ':' :: Text.decimal port.toNat

namespace Mibs

open Commands.Mibs

theorem run_made {env : Env} {sorting : Sorting} {requests : Nat} {input : In} {contact : Contact}
    (made : contact ∈ (run env sorting requests input).events) :
    available env.resolver input.address = true ∧
      ∃ sess, Accessed (Session.create input.address input.port.toUInt16) sess ∧
        contact = .session (if hasValue 1000 input.timeout then sess.setTimeout input.timeout else sess) := by
  unfold run at made
  rcases Traced.mem_bind_iff.mp made with early | ⟨_, checked, made⟩
  · simp [checkHost_events] at early
  rcases Traced.mem_bind_iff.mp made with early | ⟨sess, set, made⟩
  · simp [setAccess_events] at early
  refine ⟨(checkHost_ok checked).2, sess, accessed_setAccess set, ?_⟩
  rcases Traced.mem_bind_iff.mp made with here | ⟨_, -, made⟩
  · exact List.mem_singleton.mp here
  · rcases Traced.mem_bind_iff.mp made with late | ⟨_, -, made⟩
    · simp [orThrow_events] at late
    · rcases Traced.mem_bind_iff.mp made with late | ⟨_, -, late⟩
      · simp [orThrow_events] at late
      · cases late

theorem run_contacts {env : Env} {sorting : Sorting} {requests : Nat} {input : In} {contact : Contact}
    (made : contact ∈ (run env sorting requests input).events) :
    available env.resolver input.address = true ∧
      ∃ sess, contact = .session sess ∧ sess.peername = peerOf input.address input.port.toUInt16 := by
  obtain ⟨found, sess, accessed, contact_eq⟩ := run_made made
  refine ⟨found, _, contact_eq, ?_⟩
  split
  next => exact accessed.peername
  next => exact accessed.peername

theorem run_ok {env : Env} {sorting : Sorting} {requests : Nat} {input : In} {events : List Contact} {out : Out}
    (ok : run env sorting requests input = ⟨events, .ok out⟩) :
    ∃ sess mibs, events = [.session sess] ∧
      MibsReader.read env.lib (env.peer sess) true env.tryAll requests = .ok (.ok mibs) ∧
      ∀ other : Sorting, run env other requests input = ⟨events, .ok (other.sort mibs.toList)⟩ := by
  unfold run at ok ⊢
  obtain ⟨_, _, _, checked, ok₁, rfl⟩ := Traced.bind_eq_ok_iff.mp ok
  obtain ⟨rfl, -⟩ := checkHost_ok checked
  obtain ⟨_, sess, _, set, ok₂, rfl⟩ := Traced.bind_eq_ok_iff.mp ok₁
  obtain rfl : _ = [] := (congrArg Traced.events set).symm.trans (setAccess_events ..)
  obtain ⟨_, _, _, emitted, ok₃, rfl⟩ := Traced.bind_eq_ok_iff.mp ok₂
  obtain rfl := Traced.emit_eq_ok_iff.mp emitted
  obtain ⟨_, _, _, named, ok₄, rfl⟩ := Traced.bind_eq_ok_iff.mp ok₃
  obtain ⟨rfl, -⟩ := orThrow_eq_ok_iff.mp named
  obtain ⟨_, mibs, _, read, ok₅, rfl⟩ := Traced.bind_eq_ok_iff.mp ok₄
  obtain ⟨rfl, read_ok⟩ := orThrow_eq_ok_iff.mp read
  obtain ⟨rfl, rfl⟩ := Traced.pure_eq_ok_iff.mp ok₅
  refine ⟨_, mibs, rfl, read_ok, fun other => Traced.bind_eq_ok_iff.mpr ⟨_, _, _, checked, ?_, rfl⟩⟩
  apply Traced.bind_eq_ok_iff.mpr ⟨_, _, _, set, _, rfl⟩
  apply Traced.bind_eq_ok_iff.mpr ⟨_, _, _, emitted, _, rfl⟩
  apply Traced.bind_eq_ok_iff.mpr ⟨_, _, _, named, _, rfl⟩
  exact Traced.bind_eq_ok_iff.mpr ⟨_, _, _, read, rfl, rfl⟩

end Mibs

namespace Assets

open Commands.Assets

theorem settleMib_ok {params settled : In} {mibs : MibsReader.MibList} {events : List Contact}
    (ok : settleMib params mibs = ⟨events, .ok settled⟩) :
    events = [] ∧ settled.protocol = params.protocol ∧ settled.address = params.address ∧
      settled.port = params.port ∧
      (params.settings.mib = [] → mibs.toList.head? = some settled.settings.mib) := by
  unfold settleMib at ok
  split at ok
  next named =>
    obtain ⟨rfl, rfl⟩ := Traced.pure_eq_ok_iff.mp ok
    exact ⟨rfl, rfl, rfl, rfl, fun unnamed => by simp [hasValue, unnamed] at named⟩
  next =>
    split at ok
    next first rest listed =>
      obtain ⟨rfl, rfl⟩ := Traced.pure_eq_ok_iff.mp ok
      exact ⟨rfl, rfl, rfl, rfl, fun _ => by rw [listed, List.head?_cons]⟩
    next => exact absurd ok Traced.fail_ne_ok

def settledPort (input : In) : UInt32 :=
  if input.protocol = "nut_snmp".toList ∧ input.port = 0 then 161 else input.port

theorem settlePort_eq {input : In} (snmp : input.protocol = "nut_snmp".toList) :
    settlePort input = { input with port := settledPort input } := by
  unfold settlePort settledPort hasValue
  by_cases unset : input.port = 0
  · rw [if_neg (by simp [unset]), if_pos ⟨snmp, unset⟩]
  · rw [if_pos (by simp [unset]), if_neg (fun both => unset both.2)]

theorem checkSnmp_made {env : Env} {requests : Nat} {input : In} {contact : Contact}
    (made : contact ∈ (checkSnmp env requests input).events) :
    ∃ sess, Accessed (Session.create input.address input.port.toUInt16) sess ∧ contact = .session sess := by
  unfold checkSnmp at made
  rcases Traced.mem_bind_iff.mp made with early | ⟨sess, set, made⟩
  · simp [setAccess_events] at early
  refine ⟨sess, accessed_setAccess set, ?_⟩
  rcases Traced.mem_bind_iff.mp made with here | ⟨_, -, made⟩
  · exact List.mem_singleton.mp here
  rcases Traced.mem_bind_iff.mp made with late | ⟨mibs, -, late⟩
  · simp [orThrow_events] at late
  · unfold settleMib at late
    split at late
    next => cases late
    next => split at late <;> cases late

theorem settle_made {env : Env} {requests : Nat} {input : In} {contact : Contact}
    (made : contact ∈ (settle env requests input).events) :
    ∃ sess, Accessed (Session.create input.address (settledPort input).toUInt16) sess ∧ contact = .session sess := by
  unfold settle at made
  split at made
  next snmp =>
    rw [settlePort_eq snmp] at made
    exact checkSnmp_made made
  next => cases made

theorem checkSnmp_ok {env : Env} {requests : Nat} {input params : In} {events : List Contact}
    (ok : checkSnmp env requests input = ⟨events, .ok params⟩) :
    ∃ sess mibs, events = [.session sess] ∧
      MibsReader.read env.lib (env.peer sess) false env.tryAll requests = .ok (.ok mibs) ∧
      settleMib input mibs = ⟨[], .ok params⟩ := by
  unfold checkSnmp at ok
  obtain ⟨_, sess, _, set, ok₁, rfl⟩ := Traced.bind_eq_ok_iff.mp ok
  obtain rfl : _ = [] := (congrArg Traced.events set).symm.trans (setAccess_events ..)
  obtain ⟨_, _, _, emitted, ok₂, rfl⟩ := Traced.bind_eq_ok_iff.mp ok₁
  obtain rfl := Traced.emit_eq_ok_iff.mp emitted
  obtain ⟨_, mibs, _, read, settled, rfl⟩ := Traced.bind_eq_ok_iff.mp ok₂
  obtain ⟨rfl, read_ok⟩ := orThrow_eq_ok_iff.mp read
  obtain ⟨rfl, -⟩ := settleMib_ok settled
  exact ⟨sess, mibs, rfl, read_ok, settled⟩

theorem settle_ok {env : Env} {requests : Nat} {input params : In} {events : List Contact}
    (ok : settle env requests input = ⟨events, .ok params⟩) :
    params.protocol = input.protocol ∧ params.address = input.address ∧ params.port = settledPort input := by
  unfold settle at ok
  split at ok
  next snmp =>
    rw [settlePort_eq snmp] at ok
    obtain ⟨_, _, -, -, settled⟩ := checkSnmp_ok ok
    obtain ⟨-, protocol, address, port, -⟩ := settleMib_ok settled
    exact ⟨protocol, address, port⟩
  next other =>
    obtain ⟨-, rfl⟩ := Traced.pure_eq_ok_iff.mp ok
    refine ⟨rfl, rfl, ?_⟩
    rw [settledPort, if_neg (fun both => other both.1)]

theorem settle_selects {env : Env} {requests : Nat} {input params : In} {events : List Contact}
    (snmp : input.protocol = "nut_snmp".toList) (ok : settle env requests input = ⟨events, .ok params⟩) :
    ∃ sess mibs, events = [.session sess] ∧
      MibsReader.read env.lib (env.peer sess) false env.tryAll requests = .ok (.ok mibs) ∧
      (input.settings.mib = [] → mibs.toList.head? = some params.settings.mib) := by
  rw [settle, if_pos snmp, settlePort_eq snmp] at ok
  obtain ⟨sess, mibs, events_eq, read, settled⟩ := checkSnmp_ok ok
  exact ⟨sess, mibs, events_eq, read, (settleMib_ok settled).2.2.2.2⟩

theorem adds_driverAccess {env : Env} {settings : Settings} {proc set : Nut.Process} {events : List Contact}
    (ok : driverAccess env settings proc = ⟨events, .ok set⟩) : proc.Adds set := by
  unfold driverAccess at ok
  split at ok
  next =>
    obtain ⟨-, set_ok⟩ := orThrow_eq_ok_iff.mp ok
    exact Nut.Process.adds_setCredentialId set_ok
  next =>
    split at ok
    next =>
      obtain ⟨-, set_ok⟩ := orThrow_eq_ok_iff.mp ok
      exact Nut.Process.adds_setCommunity (Except.ok.inj set_ok)
    next =>
      obtain ⟨-, rfl⟩ := Traced.pure_eq_ok_iff.mp ok
      exact .same

theorem adds_driverUser {settings : Settings} {proc set : Nut.Process} {events : List Contact}
    (ok : driverUser settings proc = ⟨events, .ok set⟩) : proc.Adds set := by
  unfold driverUser at ok
  split at ok
  next =>
    obtain ⟨-, set_ok⟩ := Traced.lift_eq_ok_iff.mp ok
    cases called : proc.setCredential settings.username settings.password with
    | error stop =>
      rw [called] at set_ok
      cases set_ok
    | ok expected =>
      rw [called] at set_ok
      obtain rfl := Except.ok.inj set_ok
      exact Nut.Process.adds_getD (fun set ok => Nut.Process.adds_setCredential (called.trans (congrArg _ ok)))
  next =>
    obtain ⟨-, rfl⟩ := Traced.pure_eq_ok_iff.mp ok
    exact .same

theorem driverOptions_eq (settings : Settings) (proc : Nut.Process) :
    ∃ timed, proc.Adds timed ∧ driverOptions settings proc =
      if hasValue [] settings.mib then (timed.setMib settings.mib).toOption.getD timed else timed := by
  refine ⟨_, ?_, rfl⟩
  split
  next => exact Nut.Process.adds_getD (fun _ => Nut.Process.adds_setTimeout)
  next => exact .same

theorem adds_driverOptions (settings : Settings) (proc : Nut.Process) :
    proc.Adds (driverOptions settings proc) := by
  obtain ⟨timed, adds, options⟩ := driverOptions_eq settings proc
  rw [options]
  split
  next => exact adds.trans (Nut.Process.adds_getD (fun _ => Nut.Process.adds_setMib))
  next => exact adds

theorem setUp_events (env : Env) (params : In) : (setUp env params).events = [] := by
  refine List.eq_nil_iff_forall_not_mem.mpr (fun contact made => ?_)
  unfold setUp at made
  rcases Traced.mem_bind_iff.mp made with early | ⟨_, -, made⟩
  · simp [orThrow_events] at early
  rcases Traced.mem_bind_iff.mp made with early | ⟨_, -, made⟩
  · unfold driverAccess at early
    split at early
    next => simp [orThrow_events] at early
    next =>
      split at early
      next => simp [orThrow_events] at early
      next => cases early
  rcases Traced.mem_bind_iff.mp made with early | ⟨_, -, late⟩
  · unfold driverUser at early
    split at early <;> cases early
  · cases late

theorem setUp_ok {env : Env} {params : In} {proc : Nut.Process} {events : List Contact}
    (ok : setUp env params = ⟨events, .ok proc⟩) :
    (params.protocol = "nut_snmp".toList ∨ params.protocol = "nut_xml_pdc".toList ∨
        params.protocol = "nut_powercom".toList) ∧
      proc.connection = some (Nut.Process.target params.protocol params.address params.port.toUInt16) ∧
      ∃ before : Nut.Process, proc = driverOptions params.settings before ∧ before.protocol = params.protocol := by
  unfold setUp at ok
  obtain ⟨_, first, _, created, ok₁, -⟩ := Traced.bind_eq_ok_iff.mp ok
  obtain ⟨-, init⟩ := orThrow_eq_ok_iff.mp created
  have connected := Nut.Process.init_connection (Except.ok.inj init)
  obtain ⟨_, second, _, access, ok₂, -⟩ := Traced.bind_eq_ok_iff.mp ok₁
  obtain ⟨_, third, _, user, ok₃, -⟩ := Traced.bind_eq_ok_iff.mp ok₂
  obtain ⟨-, rfl⟩ := Traced.pure_eq_ok_iff.mp ok₃
  have adds := (adds_driverAccess access).trans (adds_driverUser user)
  refine ⟨Nut.Process.known_of_init (Except.ok.inj init), ?_, third, rfl, ?_⟩
  · exact (adds.trans (adds_driverOptions _ _)).keeps _ connected
  · rw [adds.protocol, Nut.Process.protocol_init (Except.ok.inj init)]
    rfl

/-- What is contacted: the session of the check, and the driver that is set up for the settled
request. -/
theorem run_made {env : Env} {requests : Nat} {random : env.identity.State} {input : In} {contact : Contact}
    (made : contact ∈ (run env requests random input).events) :
    available env.resolver input.address = true ∧ (contact ∈ (settle env requests input).events ∨
      ∃ params proc command, settle env requests input = ⟨(settle env requests input).events, .ok params⟩ ∧
        setUp env params = ⟨[], .ok proc⟩ ∧ proc.process = some command ∧ contact = .driver command) := by
  rw [run_eq] at made
  rcases Traced.mem_bind_iff.mp made with early | ⟨_, checked, made⟩
  · simp [checkHost_events] at early
  refine ⟨(checkHost_ok checked).2, ?_⟩
  rcases Traced.mem_bind_iff.mp made with session | ⟨params, settled, made⟩
  · exact .inl session
  rcases Traced.mem_bind_iff.mp made with early | ⟨proc, set, made⟩
  · simp [setUp_events] at early
  rw [setUp_events] at set
  obtain ⟨command, held, -⟩ := Option.bind_eq_some_iff.mp (setUp_ok set).2.1
  rcases Traced.mem_bind_iff.mp made with driver | ⟨_, -, made⟩
  · rw [launch, held] at driver
    exact .inr ⟨params, proc, command, settled, set, held, List.mem_singleton.mp driver⟩
  rcases Traced.mem_bind_iff.mp made with late | ⟨_, -, late⟩
  · simp [orThrow_events] at late
  · cases late

theorem run_contacts {env : Env} {requests : Nat} {random : env.identity.State} {input : In} {contact : Contact}
    (made : contact ∈ (run env requests random input).events) :
    available env.resolver input.address = true ∧
      ((∃ sess, contact = .session sess ∧ sess.peername = peerOf input.address (settledPort input).toUInt16) ∨
        ∃ command, contact = .driver command ∧ command.connection =
          some (Nut.Process.target input.protocol input.address (settledPort input).toUInt16)) := by
  obtain ⟨found, session | ⟨params, proc, command, settled, set, held, rfl⟩⟩ := run_made made
  · obtain ⟨sess, accessed, rfl⟩ := settle_made session
    exact ⟨found, .inl ⟨sess, rfl, accessed.peername⟩⟩
  · obtain ⟨protocol, address, port⟩ := settle_ok settled
    obtain ⟨-, connected, -⟩ := setUp_ok set
    rw [Nut.Process.connection, held, protocol, address, port] at connected
    exact ⟨found, .inr ⟨command, rfl, connected⟩⟩

/-- A run that succeeds has started a driver of one of the three protocols, and its assets are
those of what the driver printed, for the settled request. -/
theorem run_ok {env : Env} {requests : Nat} {random : env.identity.State} {input : In} {events : List Contact}
    {out : Out × env.identity.State} (ok : run env requests random input = ⟨events, .ok out⟩) :
    (input.protocol = "nut_snmp".toList ∨ input.protocol = "nut_xml_pdc".toList ∨
        input.protocol = "nut_powercom".toList) ∧
      (∃ command, .driver command ∈ events) ∧
      ∃ params cnt, params.address = input.address ∧ params.port = settledPort input ∧
        parse env params cnt random = .ok out := by
  rw [run_eq] at ok
  obtain ⟨_, _, _, -, ok₁, rfl⟩ := Traced.bind_eq_ok_iff.mp ok
  obtain ⟨_, params, _, settled, ok₂, rfl⟩ := Traced.bind_eq_ok_iff.mp ok₁
  obtain ⟨protocol, address, port⟩ := settle_ok settled
  obtain ⟨_, proc, _, set, ok₃, rfl⟩ := Traced.bind_eq_ok_iff.mp ok₂
  obtain ⟨known, connected, -⟩ := setUp_ok set
  rw [protocol] at known
  obtain ⟨command, held, -⟩ := Option.bind_eq_some_iff.mp connected
  obtain ⟨_, _, _, launched, ok₄, rfl⟩ := Traced.bind_eq_ok_iff.mp ok₃
  rw [launch, held] at launched
  obtain rfl := Traced.emit_eq_ok_iff.mp launched
  obtain ⟨_, cnt, _, -, ok₅, rfl⟩ := Traced.bind_eq_ok_iff.mp ok₄
  obtain ⟨-, parsed⟩ := Traced.lift_eq_ok_iff.mp ok₅
  exact ⟨known, ⟨command, by simp⟩, params, cnt, address, port, parsed⟩

end Assets

end FtyDiscovery.Jobs
