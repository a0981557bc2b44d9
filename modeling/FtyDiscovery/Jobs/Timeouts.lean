import FtyDiscovery.Jobs.Contacts

/-! The timeout of a request, and the timeouts of the contacts made for it. -/

namespace FtyDiscovery.Jobs.Timeouts

open Base Snmp

inductive Request where
  | mibs (input : Commands.Mibs.In)
  | assets (input : Commands.Assets.In)

namespace Request

def timeout : Request → UInt32
  | mibs input => input.timeout
  | assets input => input.settings.timeout

def contacts (env : Env) (sorting : Mibs.Sorting) (requests : Nat) (random : env.identity.State) :
    Request → List Contact
  | mibs input => (Mibs.run env sorting requests input).events
  | assets input => (Assets.run env requests random input).events

/-- A request that sets a timeout, and if it is for assets reads them over SNMP. -/
structure Explicit (request : Request) : Prop where
  positive : 0 < request.timeout
  set : request.timeout ≠ 1000
  snmp : ∀ input, request = assets input → input.protocol = "nut_snmp".toList

end Request

/-- Whole seconds next to so many milliseconds, and more than none. -/
def Rounds (milliseconds seconds : Nat) : Prop :=
  0 < seconds ∧ 1000 * seconds < milliseconds + 1000 ∧ milliseconds < 1000 * (seconds + 1)

def Timed (milliseconds : Nat) : Contact → Prop
  | .session sess => sess.timeout = milliseconds * 1000
  | .driver command =>
      ∃ seconds, Rounds milliseconds seconds ∧
        command.env.lookup "SU_VAR_TIMEOUT".toList = some (Text.decimal seconds)

def Governs (request : Request) : Prop :=
  ∀ env sorting requests random, ∀ contact ∈ request.contacts env sorting requests random,
    Timed request.timeout.toNat contact

/-- A request that contacts nothing over a session it has not set up: one for MIBs, or one for
assets that is refused for want of access. -/
def SetsUp : Request → Prop
  | .mibs _ => True
  | .assets input => input.settings.credentialId = [] ∧ input.settings.community = []

theorem setAccess_none (env : Env) (sess : Session) :
    setAccess env [] [] sess = raise "Credential or community must be set".toList := by
  unfold setAccess
  rw [if_neg (by decide), if_neg (by decide)]

theorem mibs_timed {env : Env} {sorting : Mibs.Sorting} {requests : Nat} {input : Commands.Mibs.In}
    (set : input.timeout ≠ 1000) {contact : Contact}
    (made : contact ∈ (Mibs.run env sorting requests input).events) : Timed input.timeout.toNat contact := by
  have given : hasValue 1000 input.timeout = true := by simpa [hasValue] using set
  obtain ⟨-, sess, -, rfl⟩ := Mibs.run_made made
  rw [if_pos given]
  rfl

theorem assets_refused {env : Env} {requests : Nat} {random : env.identity.State} {input : Commands.Assets.In}
    (snmp : input.protocol = "nut_snmp".toList) (credentialId : input.settings.credentialId = [])
    (community : input.settings.community = []) : (Assets.run env requests random input).events = [] := by
  have refused : Assets.settle env requests input = raise "Credential or community must be set".toList := by
    rw [Assets.settle, if_pos snmp, Assets.settlePort_eq snmp, Assets.checkSnmp, credentialId, community,
      setAccess_none]
    rfl
  apply List.eq_nil_iff_forall_not_mem.mpr
  intro contact made
  obtain ⟨-, session | ⟨params, proc, command, settled, -⟩⟩ := Assets.run_made made
  · rw [refused] at session
    cases session
  · rw [refused] at settled
    cases settled

theorem timeout_settle {env : Env} {requests : Nat} {input params : Commands.Assets.In} {events : List Contact}
    (settled : Assets.settle env requests input = ⟨events, .ok params⟩) :
    params.settings.timeout = input.settings.timeout := by
  unfold Assets.settle at settled
  split at settled
  next snmp =>
    rw [Assets.settlePort_eq snmp] at settled
    obtain ⟨sess, mibs, -, -, chosen⟩ := Assets.checkSnmp_ok settled
    unfold Assets.settleMib at chosen
    split at chosen
    next =>
      obtain ⟨-, rfl⟩ := Traced.pure_eq_ok_iff.mp chosen
      rfl
    next =>
      split at chosen
      next =>
        obtain ⟨-, rfl⟩ := Traced.pure_eq_ok_iff.mp chosen
        rfl
      next => exact absurd chosen Traced.fail_ne_ok
  next =>
    obtain ⟨-, rfl⟩ := Traced.pure_eq_ok_iff.mp settled
    rfl

theorem lookup_setMib {mib : Text} {proc : Nut.Process} {name : Text} (other : name ≠ "SU_VAR_MIBS".toList)
    {command : Nut.Command} (held : ((proc.setMib mib).toOption.getD proc).process = some command) :
    ∃ earlier, proc.process = some earlier ∧ command.env.lookup name = earlier.env.lookup name := by
  unfold Nut.Process.setMib at held
  split at held
  next => exact ⟨command, held, rfl⟩
  next earlier process =>
    split at held
    next => exact ⟨command, held, rfl⟩
    next =>
      obtain rfl := Option.some.inj held
      exact ⟨earlier, process, Nut.Command.lookup_setEnvVar_ne other _ earlier⟩

theorem lookup_setTimeout {milliseconds : UInt32} {proc : Nut.Process} (snmp : proc.protocol = "nut_snmp".toList)
    {command : Nut.Command} (held : ((proc.setTimeout milliseconds).toOption.getD proc).process = some command) :
    command.env.lookup "SU_VAR_TIMEOUT".toList = some (Text.decimal (milliseconds / 1000).toNat) := by
  unfold Nut.Process.setTimeout at held
  split at held
  next missing =>
    have nothing : proc.process = some command := held
    rw [missing] at nothing
    cases nothing
  next earlier process =>
    rw [if_neg (not_not.mpr snmp)] at held
    obtain rfl := Option.some.inj held
    exact Nut.Command.lookup_setEnvVar _ _ earlier

theorem driverOptions_timeout {settings : Commands.Assets.Settings} {before : Nut.Process}
    (snmp : before.protocol = "nut_snmp".toList) (set : settings.timeout ≠ 1000) {command : Nut.Command}
    (held : (Assets.driverOptions settings before).process = some command) :
    command.env.lookup "SU_VAR_TIMEOUT".toList = some (Text.decimal (settings.timeout / 1000).toNat) := by
  have given : hasValue 1000 settings.timeout = true := by simpa [hasValue] using set
  unfold Assets.driverOptions at held
  rw [if_pos given] at held
  split at held
  next =>
    have other : "SU_VAR_TIMEOUT".toList ≠ "SU_VAR_MIBS".toList := by decide
    obtain ⟨earlier, process, same⟩ := lookup_setMib other held
    rw [same]
    exact lookup_setTimeout snmp process
  next => exact lookup_setTimeout snmp held

theorem assets_told {env : Env} {requests : Nat} {random : env.identity.State} {input : Commands.Assets.In}
    (snmp : input.protocol = "nut_snmp".toList) (set : input.settings.timeout ≠ 1000) {contact : Contact}
    (made : contact ∈ (Assets.run env requests random input).events) :
    match contact with
    | .session sess => sess.timeout = 500 * 1000
    | .driver command =>
        command.env.lookup "SU_VAR_TIMEOUT".toList = some (Text.decimal (input.settings.timeout / 1000).toNat) := by
  obtain ⟨-, session | ⟨params, proc, command, settled, setUp, held, rfl⟩⟩ := Assets.run_made made
  · obtain ⟨sess, accessed, rfl⟩ := Assets.settle_made session
    exact accessed.timeout
  · obtain ⟨protocol, -, -⟩ := Assets.settle_ok settled
    obtain ⟨-, -, before, options, kind⟩ := Assets.setUp_ok setUp
    have timeout := timeout_settle settled
    rw [options] at held
    have told := driverOptions_timeout (kind.trans (protocol.trans snmp)) (timeout ▸ set) held
    rw [timeout] at told
    exact told

section Sample

/-! The sample machine gives access to its hosts with any credential and any community. -/

variable {input params : Commands.Assets.In}

def Access (credentialId community : Text) : Prop := ¬(credentialId = [] ∧ community = [])

theorem sample_setAccess {credentialId community : Text} (given : Access credentialId community) (sess : Session) :
    ∃ set, setAccess sampleEnv credentialId community sess = ⟨[], .ok set⟩ := by
  unfold setAccess
  by_cases credentials : hasValue [] credentialId = true
  · rw [if_pos credentials]
    exact ⟨_, rfl⟩
  · have unset : credentialId = [] := by simpa [hasValue] using credentials
    have named : hasValue [] community = true := by
      simpa [hasValue] using fun none => given ⟨unset, none⟩
    rw [if_neg credentials, if_pos named]
    exact ⟨_, rfl⟩

theorem sample_settle (snmp : input.protocol = "nut_snmp".toList)
    (given : Access input.settings.credentialId input.settings.community) :
    ∃ sess params, Assets.settle sampleEnv 3 input = ⟨[.session sess], .ok params⟩ := by
  have settled (mibs : MibsReader.MibList) (some_mib : ∃ first rest, mibs.toList = first :: rest) (params) :
      ∃ settled, Assets.settleMib params mibs = ⟨[], .ok settled⟩ := by
    obtain ⟨first, rest, listed⟩ := some_mib
    unfold Assets.settleMib
    split
    next => exact ⟨_, rfl⟩
    next =>
      rw [listed]
      exact ⟨_, rfl⟩
  have read : ∃ mibs, MibsReader.read sampleLib (Network.lossless sampleAgent .v1 (.ok ()) noObject).peer
      false true 3 = .ok (.ok mibs) ∧ ∃ first rest, mibs.toList = first :: rest := ⟨_, rfl, _, _, rfl⟩
  obtain ⟨mibs, read, some_mib⟩ := read
  rw [Assets.settle, if_pos snmp, Assets.settlePort_eq snmp]
  obtain ⟨sess, access⟩ := sample_setAccess given
    (Session.create input.address (Assets.settledPort input).toUInt16)
  obtain ⟨params, chosen⟩ := settled mibs some_mib { input with port := Assets.settledPort input }
  refine ⟨sess, params, ?_⟩
  apply Traced.bind_eq_ok_iff.mpr ⟨_, _, _, access, _, rfl⟩
  apply Traced.bind_eq_ok_iff.mpr ⟨_, _, _, rfl, _, rfl⟩
  apply Traced.bind_eq_ok_iff.mpr ⟨_, _, _, orThrow_eq_ok_iff.mpr ⟨rfl, read⟩, chosen, rfl⟩

theorem sample_driverAccess (settings : Commands.Assets.Settings) (root : Text) (command : Nut.Command) :
    ∃ set, Assets.driverAccess sampleEnv settings ⟨"nut_snmp".toList, root, some command⟩ = ⟨[], .ok set⟩ := by
  unfold Assets.driverAccess
  split
  next => exact ⟨_, rfl⟩
  next =>
    split
    next => exact ⟨_, rfl⟩
    next => exact ⟨_, rfl⟩

theorem driverUser_snmp {proc : Nut.Process} (snmp : proc.protocol = "nut_snmp".toList)
    (settings : Commands.Assets.Settings) : Assets.driverUser settings proc = ⟨[], .ok proc⟩ := by
  have other : ¬proc.protocol = "nut_powercom".toList := by
    rw [snmp]
    decide
  unfold Assets.driverUser
  split
  next =>
    rw [Nut.Process.setCredential, if_neg other]
    rfl
  next => rfl

theorem sample_setUp (snmp : params.protocol = "nut_snmp".toList) :
    ∃ proc, Assets.setUp sampleEnv params = ⟨[], .ok proc⟩ := by
  have init : ∃ command, (Nut.Process.create sampleEnv.host params.protocol).init sampleEnv.host params.address
      params.port.toUInt16 = .ok ⟨"nut_snmp".toList, "/tmp/nut1".toList, some command⟩ := by
    rw [snmp]
    exact ⟨_, rfl⟩
  obtain ⟨command, init⟩ := init
  obtain ⟨set, access⟩ := sample_driverAccess params.settings "/tmp/nut1".toList command
  have kept : set.protocol = "nut_snmp".toList := (Assets.adds_driverAccess access).protocol
  refine ⟨Assets.driverOptions params.settings set, ?_⟩
  apply Traced.bind_eq_ok_iff.mpr ⟨_, _, _, orThrow_eq_ok_iff.mpr ⟨rfl, congrArg Except.ok init⟩, _, rfl⟩
  apply Traced.bind_eq_ok_iff.mpr ⟨_, _, _, access, _, rfl⟩
  exact Traced.bind_eq_ok_iff.mpr ⟨_, _, _, driverUser_snmp kept params.settings, rfl, rfl⟩

theorem sample_contacts (snmp : input.protocol = "nut_snmp".toList)
    (given : Access input.settings.credentialId input.settings.community) :
    (∃ sess, .session sess ∈ (Assets.run sampleEnv 3 () input).events) ∧
      ∃ command, .driver command ∈ (Assets.run sampleEnv 3 () input).events := by
  obtain ⟨sess, params, settled⟩ := sample_settle snmp given
  obtain ⟨proc, setUp⟩ := sample_setUp ((Assets.settle_ok settled).1.trans snmp)
  obtain ⟨command, held, -⟩ := Option.bind_eq_some_iff.mp (Assets.setUp_ok setUp).2.1
  have found : checkHost sampleEnv input.address = ⟨[], .ok ()⟩ := rfl
  have launched : Assets.launch proc = ⟨[.driver command], .ok ()⟩ := by
    rw [Assets.launch, held]
    rfl
  rw [Assets.run_eq sampleEnv 3 () input]
  constructor
  · refine ⟨sess, Traced.mem_bind_iff.mpr (.inr ⟨(), found, Traced.mem_bind_iff.mpr (.inl ?_)⟩)⟩
    rw [settled]
    exact List.mem_singleton_self _
  · refine ⟨command, Traced.mem_bind_iff.mpr (.inr ⟨(), found, ?_⟩)⟩
    refine Traced.mem_bind_iff.mpr (.inr ⟨params, settled ▸ rfl, ?_⟩)
    refine Traced.mem_bind_iff.mpr (.inr ⟨proc, setUp ▸ rfl, ?_⟩)
    refine Traced.mem_bind_iff.mpr (.inl ?_)
    rw [launched]
    exact List.mem_singleton_self _

end Sample

/-- A request is governed by its timeout exactly where it is for MIBs, or refused for want of access:
with access, the session for assets has half a second, and for half a second the driver has none. -/
theorem governs_iff (request : Request) (explicit : request.Explicit) : Governs request ↔ SetsUp request := by
  cases request with
  | mibs input =>
    have governed : Governs (.mibs input) := fun _ _ _ _ _ made => mibs_timed explicit.set made
    exact ⟨fun _ => trivial, fun _ => governed⟩
  | assets input =>
    have snmp := explicit.snmp input rfl
    have set : input.settings.timeout ≠ 1000 := explicit.set
    constructor
    · intro governs
      by_contra given
      obtain ⟨⟨sess, session⟩, command, driver⟩ := sample_contacts snmp given
      have timed : sess.timeout = input.settings.timeout.toNat * 1000 := governs sampleEnv .stable 3 () _ session
      have told : sess.timeout = 500 * 1000 := assets_told snmp set session
      obtain ⟨seconds, rounds, lookup⟩ := governs sampleEnv .stable 3 () _ driver
      have none : (input.settings.timeout / 1000).toNat = 0 := by
        rw [UInt32.toNat_div, show (1000 : UInt32).toNat = 1000 from rfl]
        omega
      have told_driver := assets_told snmp set driver
      simp only [lookup, none] at told_driver
      have zero : seconds = 0 := Text.decimal_injective (Option.some.inj told_driver)
      exact absurd rounds.1 (by omega)
    · intro refused env sorting requests random contact made
      have nothing : Request.contacts env sorting requests random (.assets input) = [] :=
        assets_refused snmp refused.1 refused.2
      rw [nothing] at made
      cases made

def mibsRequest : Request :=
  .mibs { address := "ups".toList, community := "public".toList, timeout := 3000 }

def assetsRequest (timeout : UInt32) : Request :=
  .assets
    { address := "ups".toList
      protocol := "nut_snmp".toList
      settings := { community := "public".toList, timeout := timeout } }

theorem mibsRequest_governed : Governs mibsRequest :=
  (governs_iff mibsRequest ⟨by decide, by decide, fun _ wrong => by cases wrong⟩).mpr trivial

theorem assetsRequest_told :
    (∃ sess command, (assetsRequest 3000).contacts sampleEnv .stable 3 () = [.session sess, .driver command] ∧
      sess.timeout = 500 * 1000) ∧
    (∃ sess command, (assetsRequest 500).contacts sampleEnv .stable 3 () = [.session sess, .driver command] ∧
      command.env.lookup "SU_VAR_TIMEOUT".toList = some "0".toList) ∧
    ¬Governs (assetsRequest 3000) := by
  have contacted : ∃ sess command, (assetsRequest 3000).contacts sampleEnv .stable 3 () =
      [.session sess, .driver command] ∧ sess.timeout = 500 * 1000 := ⟨_, _, rfl, rfl⟩
  refine ⟨contacted, ⟨_, _, rfl, rfl⟩, fun governs => ?_⟩
  obtain ⟨sess, command, contacts, half⟩ := contacted
  have timed : sess.timeout = 3000 * 1000 :=
    governs sampleEnv .stable 3 () (.session sess) (contacts ▸ List.mem_cons_self)
  omega

end FtyDiscovery.Jobs.Timeouts
