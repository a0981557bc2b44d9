import FtyDiscovery.Jobs.Contacts
import FtyDiscovery.Logging

/-! How the SNMP jobs end: on a machine without faults each run returns or ends with `job::Error`. -/

namespace FtyDiscovery.Snmp

open Base

/-- No reply without an error status is without variables. -/
def Peer.Replies (peer : Peer) : Prop :=
  ∀ oid response errno, peer.get oid = .success response errno → response.errstat = 0 → response.vars ≠ []

theorem read_returns {peer : Peer} (replies : peer.Replies) (lib : NetSnmp) (stroid : Text) :
    ∃ outcome, read lib peer stroid = .ok outcome := by
  unfold read
  split
  next => exact ⟨_, rfl⟩
  next name _ =>
    split
    next response errno got =>
      split
      next fine =>
        have present := replies name response errno got fine
        split
        next empty => exact (present empty).elim
        next first rest _ =>
          split
          next => exact ⟨_, rfl⟩
          next => exact ⟨_, rfl⟩
      next => exact ⟨_, rfl⟩
    next => exact ⟨_, rfl⟩
    next => exact ⟨_, rfl⟩

end FtyDiscovery.Snmp

namespace FtyDiscovery.MibsReader

open Base Snmp

theorem readName_returns {peer : Peer} (replies : peer.Replies) (lib : NetSnmp) (isOpen : Bool) :
    ∃ outcome, readName lib peer isOpen = .ok outcome := by
  unfold readName
  split
  next => exact ⟨_, rfl⟩
  next => exact read_returns replies lib _

theorem toList_insert_ne_nil (mibs : MibList) (mib : Text) : (mibs.insert mib).toList ≠ [] := by
  intro empty
  have member : mib ∈ (mibs.insert mib).toList := by simp
  rw [empty] at member
  cases member

theorem read_returns {peer : Peer} (replies : peer.Replies) (lib : NetSnmp) (isOpen : Bool) {tryAll : Bool}
    {requests : Nat} (walks : tryAll = true → ∃ walked, walk lib peer requests = .inr walked) :
    ∃ outcome, read lib peer isOpen tryAll requests = .ok outcome ∧ ∀ mibs, outcome = .ok mibs → mibs.toList ≠ [] := by
  have some_read (mibs : MibList) : ∃ outcome, (.ok (nonempty mibs) : Outcome (Expected MibList)) = .ok outcome ∧
      ∀ found, outcome = .ok found → found.toList ≠ [] := by
    refine ⟨_, rfl, fun found ok => ?_⟩
    unfold nonempty at ok
    split at ok
    next => cases ok
    next present =>
      obtain rfl := Except.ok.inj ok
      intro empty
      exact present (by simpa using empty)
  unfold read
  split
  next => exact ⟨_, rfl, fun mibs ok => nomatch ok⟩
  next =>
    obtain ⟨outcome, returned⟩ := Snmp.read_returns replies lib "RFC1213-MIB::sysObjectID.0".toList
    rw [returned]
    cases outcome with
    | ok oid =>
      refine ⟨_, rfl, fun mibs ok => ?_⟩
      obtain rfl := Except.ok.inj ok
      unfold readObjectId
      split
      next => exact toList_insert_ne_nil ∅ _
      next => exact toList_insert_ne_nil ∅ _
    | error failed =>
      simp only
      split
      next all =>
        obtain ⟨walked, ended⟩ := walks all
        rw [ended]
        simp only
        split
        next => exact ⟨_, rfl, fun mibs ok => nomatch ok⟩
        next => exact some_read _
      next =>
        obtain ⟨found, probed, -⟩ := probe_ok knownMibs ∅ (fun mib _ => Snmp.read_returns replies lib mib)
        rw [probed]
        exact some_read found

end FtyDiscovery.MibsReader

namespace FtyDiscovery.Jobs

open Base Snmp

def Caught (stop : Stop) : Prop := ∃ what, stop = .thrown (.error what)

/-- A machine whose wallet is there and throws only its own exception, whose SNMP sessions get what the
library promises, and where a child that was started can be waited for and prints what `parse` can log. -/
structure Reliable (env : Env) (requests : Nat) : Prop where
  socket : env.wallet.socket = .ok ()
  documents : ∀ credId exn, env.wallet.document credId = .error exn → ∃ what, exn = .secw what
  replies : ∀ sess, (env.peer sess).Replies
  walks : env.tryAll = true → ∀ sess, ∃ walked, walk env.lib (env.peer sess) requests = .inr walked
  waits : ∀ command child, env.host.start command = .ok child → ∃ stat, child.stat = .ok stat
  logs : ∀ command child, env.host.start command = .ok child →
    ∀ call ∈ Logging.Assets.parseLogs child.stdout, call.Verbatim
  converts : ∀ text, ∃ n, env.utils.convertInt text = .ok n

variable {env : Env} {requests : Nat}

theorem ends_raise {α : Type} (text : Text) (post : α → Prop) : (raise text : Run α).Ends Caught post := ⟨_, rfl⟩

theorem ends_orThrow {α : Type} {post : α → Prop} (before : Text) {outcome : Outcome (Expected α)}
    (returned : ∃ expected, outcome = .ok expected ∧ ∀ value, expected = .ok value → post value) :
    (orThrow before outcome).Ends Caught post := by
  obtain ⟨expected, rfl, holds⟩ := returned
  cases expected with
  | ok value => exact holds value rfl
  | error failed => exact ends_raise _ _

theorem ends_checkHost (address : Text) : (checkHost env address).Ends Caught (fun _ => True) := by
  unfold checkHost
  split
  next => exact trivial
  next => exact ends_raise _ _

theorem Reliable.session_returns (reliable : Reliable env requests) (credentialId : Text) (sess : Session) :
    ∃ expected, sess.setCredentialId env.lib env.wallet credentialId = .ok expected := by
  unfold Session.setCredentialId
  rw [reliable.socket, Except.bind]
  cases given : env.wallet.document credentialId with
  | ok document => cases document <;> exact ⟨_, rfl⟩
  | error exn =>
    obtain ⟨what, rfl⟩ := reliable.documents credentialId exn given
    exact ⟨_, rfl⟩

theorem ends_setAccess (reliable : Reliable env requests) (credentialId community : Text) (sess : Session) :
    (setAccess env credentialId community sess).Ends Caught (fun _ => True) := by
  unfold setAccess
  split
  next =>
    obtain ⟨expected, returned⟩ := reliable.session_returns credentialId sess
    exact ends_orThrow [] ⟨expected, returned, fun _ _ => trivial⟩
  next =>
    split
    next => exact trivial
    next => exact ends_raise _ _

theorem Mibs.run_ends (reliable : Reliable env requests) (sorting : Mibs.Sorting) (input : Commands.Mibs.In) :
    (Mibs.run env sorting requests input).Ends Caught (fun _ => True) := by
  apply Traced.ends_bind (ends_checkHost input.address)
  intro _ _
  apply Traced.ends_bind (ends_setAccess reliable _ _ _)
  intro sess _
  apply Traced.ends_bind (Traced.ends_emit _)
  intro _ _
  have replies (sess : Session) := reliable.replies sess
  have name (sess : Session) : (orThrow snmpError (MibsReader.readName env.lib (env.peer sess) false)).Ends Caught
      (fun _ => True) := by
    obtain ⟨outcome, returned⟩ := MibsReader.readName_returns (replies sess) env.lib false
    exact ends_orThrow snmpError ⟨outcome, returned, fun _ _ => trivial⟩
  apply Traced.ends_bind (name _)
  intro _ _
  have mibs (sess : Session) :
      (orThrow snmpError (MibsReader.read env.lib (env.peer sess) true env.tryAll requests)).Ends Caught
        (fun _ => True) := by
    obtain ⟨outcome, returned, -⟩ :=
      MibsReader.read_returns (replies sess) env.lib true (fun all => reliable.walks all sess)
    exact ends_orThrow snmpError ⟨outcome, returned, fun _ _ => trivial⟩
  apply Traced.ends_bind (mibs _)
  intro _ _
  exact trivial

namespace Assets

open Commands.Assets

theorem ends_checkSnmp (reliable : Reliable env requests) (params : In) :
    (checkSnmp env requests params).Ends Caught (fun _ => True) := by
  apply Traced.ends_bind (ends_setAccess reliable _ _ _)
  intro sess _
  apply Traced.ends_bind (Traced.ends_emit _)
  intro _ _
  obtain ⟨outcome, returned, present⟩ :=
    MibsReader.read_returns (reliable.replies sess) env.lib false (fun all => reliable.walks all sess)
  apply Traced.ends_bind (ends_orThrow [] ⟨outcome, returned, present⟩)
  intro mibs present
  unfold settleMib
  split
  next => exact trivial
  next =>
    split
    next => exact trivial
    next empty => exact (present empty).elim

theorem ends_settle (reliable : Reliable env requests) (params : In) :
    (settle env requests params).Ends Caught (fun _ => True) := by
  unfold settle
  split
  next => exact ends_checkSnmp reliable _
  next => exact trivial

def Held (proc : Nut.Process) : Prop := ∃ command, proc.process = some command

theorem held_adds {proc set : Nut.Process} (held : Held proc) (adds : proc.Adds set) : Held set := by
  cases adds with
  | same => exact held
  | held => exact ⟨_, rfl⟩

theorem held_init {host : Nut.Host} {address : Text} {port : UInt16} {proc started : Nut.Process}
    (ok : proc.init host address port = .ok started) : Held started := by
  obtain ⟨command, held, -⟩ := Option.bind_eq_some_iff.mp (Nut.Process.init_connection ok)
  exact ⟨command, held⟩

theorem driver_returns (reliable : Reliable env requests) (credentialId : Text) (proc : Nut.Process) :
    ∃ expected, proc.setCredentialId env.wallet credentialId = .ok expected := by
  unfold Nut.Process.setCredentialId
  rw [reliable.socket]
  split
  next => exact ⟨_, rfl⟩
  next =>
    cases given : env.wallet.document credentialId with
    | ok document =>
      cases document <;> (split; exact ⟨_, rfl⟩; split <;> exact ⟨_, rfl⟩)
    | error exn =>
      obtain ⟨what, rfl⟩ := reliable.documents credentialId exn given
      split
      next => exact ⟨_, rfl⟩
      next => split <;> exact ⟨_, rfl⟩

theorem ends_driverAccess (reliable : Reliable env requests) (settings : Settings) {proc : Nut.Process}
    (held : Held proc) : (driverAccess env settings proc).Ends Caught Held := by
  unfold driverAccess
  split
  next =>
    obtain ⟨expected, returned⟩ := driver_returns reliable settings.credentialId proc
    refine ends_orThrow [] ⟨expected, returned, fun set ok => ?_⟩
    exact held_adds held (Nut.Process.adds_setCredentialId (returned.trans (congrArg _ ok)))
  next =>
    split
    next => exact ends_orThrow [] ⟨_, rfl, fun set ok => held_adds held (Nut.Process.adds_setCommunity ok)⟩
    next => exact held

theorem ends_driverUser (settings : Settings) {proc : Nut.Process} (held : Held proc) :
    (driverUser settings proc).Ends Caught Held := by
  obtain ⟨command, there⟩ := held
  unfold driverUser
  split
  next =>
    unfold Nut.Process.setCredential
    rw [there]
    split
    next => exact ⟨_, rfl⟩
    next => exact ⟨command, there⟩
  next => exact ⟨command, there⟩

theorem ends_setUp (reliable : Reliable env requests) (params : In) : (setUp env params).Ends Caught Held := by
  apply Traced.ends_bind (ends_orThrow [] ⟨_, rfl, fun proc ok => held_init ok⟩)
  intro proc held
  apply Traced.ends_bind (ends_driverAccess reliable params.settings held)
  intro proc held
  apply Traced.ends_bind (ends_driverUser params.settings held)
  intro proc held
  exact held_adds held (adds_driverOptions params.settings proc)

def Printed (env : Env) (cnt : Text) : Prop :=
  ∃ command child, env.host.start command = .ok child ∧ child.stdout = cnt

theorem process_returns (reliable : Reliable env requests) {proc : Nut.Process} (held : Held proc) :
    ∃ expected, proc.run env.host = .ok expected ∧ ∀ cnt, expected = .ok cnt → Printed env cnt := by
  obtain ⟨command, there⟩ := held
  unfold Nut.Process.run
  rw [there]
  simp only
  split
  next =>
    refine ⟨_, rfl, fun cnt ok => ?_⟩
    cases ok
  next child started =>
    obtain ⟨stat, waited⟩ := reliable.waits command child started
    rw [waited]
    simp only
    split
    next => exact ⟨_, rfl, fun cnt ok => ⟨command, child, started, Except.ok.inj ok⟩⟩
    next =>
      split
      all_goals
        refine ⟨_, rfl, fun cnt ok => ?_⟩
        cases ok

theorem parse_returns (reliable : Reliable env requests) (params : In) (cnt : Text) (random : env.identity.State) :
    ∃ out, parse env params cnt random = .ok out := by
  have counted (text : Option Text) : ∃ dcount, text.elim (.ok 0) env.utils.convertInt = .ok dcount := by
    cases text with
    | none => exact ⟨0, rfl⟩
    | some text => exact reliable.converts text
  obtain ⟨dcount, converted⟩ := counted (readDump env.utils cnt)["device.count".toList]?
  unfold parse
  simp only [converted]
  split
  next => exact ⟨_, rfl⟩
  next => exact ⟨_, rfl⟩

theorem ends_dump (reliable : Reliable env requests) (input : In) :
    (dump env requests input).Ends Caught (fun found => Printed env found.2) := by
  apply Traced.ends_bind (ends_checkHost input.address)
  intro _ _
  apply Traced.ends_bind (ends_settle reliable input)
  intro params _
  apply Traced.ends_bind (ends_setUp reliable params)
  intro proc held
  have launched : (launch proc).Ends Caught (fun _ => True) := by
    unfold launch
    split
    next => exact trivial
    next => exact trivial
  apply Traced.ends_bind launched
  intro _ _
  obtain ⟨expected, returned, printed⟩ := process_returns reliable held
  apply Traced.ends_bind (ends_orThrow [] ⟨expected, returned, printed⟩)
  intro cnt printed
  exact printed

/-- `run` with the log of the dump, which `parse` starts with. -/
def logged (env : Env) (requests : Nat) (random : env.identity.State) (input : In) :
    Run (Out × env.identity.State) := do
  let read ← dump env requests input
  Traced.lift ((Logging.Assets.parseLogs read.2).forM Logging.Call.outcome)
  Traced.lift (parse env read.1 read.2 random)

theorem logged_events (env : Env) (requests : Nat) (random : env.identity.State) (input : In) :
    (logged env requests random input).events = (run env requests random input).events := by
  have silent {α β : Type} (first : Outcome α) (second : Outcome β) :
      (do let _ ← Traced.lift first; Traced.lift second : Run β).events = [] := by
    cases first <;> rfl
  unfold logged run
  rcases dump env requests input with ⟨events, result⟩
  cases result with
  | error stop => rfl
  | ok found => exact congrArg (fun later => events ++ later) (silent _ _)

/-- Where what the driver printed has no percent sign, the log changes nothing. -/
theorem logged_eq (random : env.identity.State) {input : In}
    (plain : ∀ read, (dump env requests input).result = .ok read → '%' ∉ cString read.2) :
    logged env requests random input = run env requests random input := by
  apply Traced.bind_congr
  intro read found
  have verbatim := (Logging.Assets.parseLogs_verbatim_iff read.2).mpr (plain read found)
  rw [Logging.outcome_verbatim verbatim]
  rfl

theorem run_ends (reliable : Reliable env requests) (random : env.identity.State) (input : In) :
    (logged env requests random input).Ends Caught (fun _ => True) := by
  apply Traced.ends_bind (ends_dump reliable input)
  rintro read ⟨command, child, started, printed⟩
  have verbatim := reliable.logs command child started
  rw [printed] at verbatim
  rw [Logging.outcome_verbatim verbatim]
  obtain ⟨out, parsed⟩ := parse_returns reliable read.1 read.2 random
  rw [parsed]
  exact trivial

end Assets

end FtyDiscovery.Jobs
