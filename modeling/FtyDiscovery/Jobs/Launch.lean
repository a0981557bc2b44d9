import FtyDiscovery.Jobs.Endpoint
import FtyDiscovery.Jobs.Ends
import FtyDiscovery.Nut.Options

/-! The driver that a run of the job starts: what it reads of its command line, and which requests come as far
as an answer. -/

namespace FtyDiscovery.Jobs.Assets

open Base Snmp Commands.Assets Nut.Call

def accessCalls (wallet : Wallet) (settings : Settings) : List Nut.Call :=
  if hasValue [] settings.credentialId then [.setCredentialId wallet settings.credentialId]
  else if hasValue [] settings.community then [.setCommunity settings.community]
  else []

def userCalls (settings : Settings) : List Nut.Call :=
  if hasValue [] settings.username && hasValue [] settings.password then
    [.setCredential settings.username settings.password]
  else []

def timeoutCalls (settings : Settings) : List Nut.Call :=
  if hasValue 1000 settings.timeout then [.setTimeout settings.timeout] else []

def mibCalls (settings : Settings) : List Nut.Call :=
  if hasValue [] settings.mib then [.setMib settings.mib] else []

def calls (wallet : Wallet) (settings : Settings) : List Nut.Call :=
  accessCalls wallet settings ++ (userCalls settings ++ timeoutCalls settings)

/-- What a request tells its driver. -/
def told (wallet : Wallet) (params : In) : List Nut.Setting :=
  Nut.Call.setUp params.protocol params.address params.port.toUInt16 ++
    Nut.Call.assigned ((calls wallet params.settings).flatMap (Nut.Call.assigns params.protocol))

theorem driverAccess_after {env : Env} {settings : Settings} {proc set : Nut.Process} {events : List Contact}
    (ok : driverAccess env settings proc = ⟨events, .ok set⟩) :
    set = (accessCalls env.wallet settings).foldl Nut.Call.after proc := by
  unfold driverAccess at ok
  unfold accessCalls
  split at ok
  next given =>
    obtain ⟨-, accepted⟩ := orThrow_eq_ok_iff.mp ok
    rw [if_pos given, List.foldl_cons, List.foldl_nil, Nut.Call.after, Nut.Call.perform, accepted]
    rfl
  next absent =>
    rw [if_neg absent]
    split at ok
    next given =>
      obtain ⟨-, accepted⟩ := orThrow_eq_ok_iff.mp ok
      rw [if_pos given, List.foldl_cons, List.foldl_nil, Nut.Call.after, Nut.Call.perform, Except.ok.inj accepted]
      rfl
    next none_given =>
      obtain ⟨-, rfl⟩ := Traced.pure_eq_ok_iff.mp ok
      rw [if_neg none_given, List.foldl_nil]

theorem driverUser_after {settings : Settings} {proc set : Nut.Process} {events : List Contact}
    (ok : driverUser settings proc = ⟨events, .ok set⟩) : set = (userCalls settings).foldl Nut.Call.after proc := by
  unfold driverUser at ok
  unfold userCalls
  split at ok
  next given =>
    obtain ⟨-, returned⟩ := Traced.lift_eq_ok_iff.mp ok
    rw [if_pos given, List.foldl_cons, List.foldl_nil, Nut.Call.after, Nut.Call.perform]
    rcases called : proc.setCredential settings.username settings.password with stop | failed | held
    · rw [called] at returned
      cases returned
    · rw [called] at returned
      exact (Except.ok.inj returned).symm
    · rw [called] at returned
      exact (Except.ok.inj returned).symm
  next absent =>
    obtain ⟨-, rfl⟩ := Traced.pure_eq_ok_iff.mp ok
    rw [if_neg absent, List.foldl_nil]

theorem timed_after (settings : Settings) (proc : Nut.Process) :
    (if hasValue 1000 settings.timeout then (proc.setTimeout settings.timeout).toOption.getD proc else proc) =
      (timeoutCalls settings).foldl Nut.Call.after proc := by
  unfold timeoutCalls
  split
  next =>
    rw [List.foldl_cons, List.foldl_nil, Nut.Call.after, Nut.Call.perform]
    cases proc.setTimeout settings.timeout <;> rfl
  next => rfl

theorem selected_after (settings : Settings) (proc : Nut.Process) :
    (if hasValue [] settings.mib then (proc.setMib settings.mib).toOption.getD proc else proc) =
      (mibCalls settings).foldl Nut.Call.after proc := by
  unfold mibCalls
  split
  next =>
    rw [List.foldl_cons, List.foldl_nil, Nut.Call.after, Nut.Call.perform]
    cases proc.setMib settings.mib <;> rfl
  next => rfl

def unselected (env : Env) (params : In) : Nut.Process :=
  Nut.Call.reached env.host params.protocol
    (.init env.host params.address params.port.toUInt16 :: calls env.wallet params.settings)

theorem setUp_selects {env : Env} {params : In} {proc : Nut.Process} {events : List Contact}
    (ok : setUp env params = ⟨events, .ok proc⟩) :
    proc = (mibCalls params.settings).foldl Nut.Call.after (unselected env params) := by
  unfold setUp at ok
  obtain ⟨_, started, _, created, ok₁, -⟩ := Traced.bind_eq_ok_iff.mp ok
  obtain ⟨-, init⟩ := orThrow_eq_ok_iff.mp created
  obtain ⟨_, accessed, _, access, ok₂, -⟩ := Traced.bind_eq_ok_iff.mp ok₁
  obtain ⟨_, used, _, user, ok₃, -⟩ := Traced.bind_eq_ok_iff.mp ok₂
  obtain ⟨-, rfl⟩ := Traced.pure_eq_ok_iff.mp ok₃
  have first : Nut.Call.after (Nut.Process.create env.host params.protocol)
      (.init env.host params.address params.port.toUInt16) = started := by
    rw [Nut.Call.after_init, Except.ok.inj init]
    rfl
  rw [unselected, Nut.Call.reached, List.foldl_cons, first, calls, List.foldl_append, List.foldl_append,
    ← driverAccess_after access, ← driverUser_after user, ← timed_after, ← selected_after, driverOptions]

theorem calls_other (wallet : Wallet) (settings : Settings) :
    ∀ call ∈ calls wallet settings, ∀ host address port, call ≠ .init host address port := by
  unfold calls accessCalls userCalls timeoutCalls
  grind

theorem asked_others {protocol : Text} {settings : List Nut.Setting} {calls : List Nut.Call}
    (other : ∀ call ∈ calls, ∀ host address port, call ≠ .init host address port) :
    calls.foldl (Nut.Call.asks protocol) (some settings) =
      some (settings ++ Nut.Call.assigned (calls.flatMap (Nut.Call.assigns protocol))) := by
  induction calls generalizing settings with
  | nil => rw [List.foldl_nil, List.flatMap_nil, Nut.Call.assigned, List.map_nil, List.append_nil]
  | cons call calls ih =>
    rw [List.foldl_cons, Nut.Call.asks_other (other call List.mem_cons_self), Option.map_some,
      ih (fun later member => other later (List.mem_cons_of_mem call member)), List.flatMap_cons, Nut.Call.assigned,
      Nut.Call.assigned, Nut.Call.assigned, List.map_append, List.append_assoc]

def ForSnmp : Document → Prop
  | .snmpv3 _ | .snmpv1 _ => True
  | _ => False

/-- A driver takes the access of a request: a credential that the wallet gives and, for SNMP, is one of it, or
a community for SNMP. -/
def Accepts (wallet : Wallet) (protocol : Text) (settings : Settings) : Prop :=
  if hasValue [] settings.credentialId then
    protocol = "nut_xml_pdc".toList ∨ wallet.socket = .ok () ∧ ∃ document,
      wallet.document settings.credentialId = .ok document ∧ (protocol = "nut_snmp".toList → ForSnmp document)
  else hasValue [] settings.community = true → protocol = "nut_snmp".toList

theorem credential_snmp {wallet : Wallet} {credential : Text} {proc : Nut.Process} {command : Nut.Command}
    (held : proc.process = some command) (snmp : proc.protocol = "nut_snmp".toList) :
    (∃ set, proc.setCredentialId wallet credential = .ok (.ok set)) ↔
      wallet.socket = .ok () ∧ ∃ document, wallet.document credential = .ok document ∧ ForSnmp document := by
  simp only [Nut.Process.setCredentialId, held, if_pos snmp]
  cases opened : wallet.socket with
  | error exn => simp
  | ok =>
    cases found : wallet.document credential with
    | error exn => cases exn <;> simp
    | ok document => cases document <;> simp [ForSnmp]

theorem credential_powercom {wallet : Wallet} {credential : Text} {proc : Nut.Process} {command : Nut.Command}
    (held : proc.process = some command) (powercom : proc.protocol = "nut_powercom".toList) :
    (∃ set, proc.setCredentialId wallet credential = .ok (.ok set)) ↔
      wallet.socket = .ok () ∧ ∃ document, wallet.document credential = .ok document := by
  have other : proc.protocol ≠ "nut_snmp".toList := by
    rw [powercom]
    decide
  simp only [Nut.Process.setCredentialId, held, if_neg other, if_pos powercom]
  cases opened : wallet.socket with
  | error exn => simp
  | ok =>
    cases found : wallet.document credential with
    | error exn => cases exn <;> simp
    | ok document => cases document <;> simp

theorem credential_xml {wallet : Wallet} {credential : Text} {proc : Nut.Process} {command : Nut.Command}
    (held : proc.process = some command) (xml : proc.protocol = "nut_xml_pdc".toList) :
    proc.setCredentialId wallet credential = .ok (.ok proc) := by
  have snmp : proc.protocol ≠ "nut_snmp".toList := by
    rw [xml]
    decide
  have powercom : proc.protocol ≠ "nut_powercom".toList := by
    rw [xml]
    decide
  simp only [Nut.Process.setCredentialId, held, if_neg snmp, if_neg powercom]

theorem community_iff (community : Text) {proc : Nut.Process} {command : Nut.Command}
    (held : proc.process = some command) :
    (∃ set, proc.setCommunity community = .ok set) ↔ proc.protocol = "nut_snmp".toList := by
  simp only [Nut.Process.setCommunity, held]
  by_cases snmp : proc.protocol = "nut_snmp".toList
  · exact iff_of_true ⟨_, if_neg (not_not_intro snmp)⟩ snmp
  · rw [if_pos snmp]
    exact iff_of_false (by simp) snmp

theorem known_of_installed {host : Nut.Host} {protocol : Text} (installed : Installed host protocol) :
    protocol = "nut_snmp".toList ∨ protocol = "nut_xml_pdc".toList ∨ protocol = "nut_powercom".toList := by
  obtain ⟨name, driver, -⟩ := installed
  unfold Nut.Call.driver at driver
  split at driver
  next snmp => exact .inl snmp
  next =>
    split at driver
    next xml => exact .inr (.inl xml)
    next =>
      split at driver
      next powercom => exact .inr (.inr powercom)
      next => cases driver

theorem result_orThrow {α : Type} {before : Text} {outcome : Outcome (Expected α)} {value : α} :
    (orThrow before outcome).result = .ok value ↔ outcome = .ok (.ok value) := by
  rcases outcome with stop | failed | value <;> simp [orThrow, raise, Traced.fail]

theorem driverAccess_iff {env : Env} {settings : Settings} {proc : Nut.Process} {command : Nut.Command}
    (held : proc.process = some command) (installed : Installed env.host proc.protocol) :
    (∃ set, (driverAccess env settings proc).result = .ok set) ↔ Accepts env.wallet proc.protocol settings := by
  unfold driverAccess Accepts
  by_cases given : hasValue [] settings.credentialId
  · simp only [if_pos given, result_orThrow]
    rcases known_of_installed installed with snmp | xml | powercom
    · have other : proc.protocol ≠ "nut_xml_pdc".toList := by
        rw [snmp]
        decide
      rw [credential_snmp held snmp, or_iff_right other]
      simp only [snmp, true_imp_iff]
    · exact iff_of_true ⟨proc, credential_xml held xml⟩ (.inl xml)
    · have other : proc.protocol ≠ "nut_xml_pdc".toList := by
        rw [powercom]
        decide
      have unlike : proc.protocol ≠ "nut_snmp".toList := by
        rw [powercom]
        decide
      rw [credential_powercom held powercom, or_iff_right other]
      simp only [unlike, false_imp_iff, and_true]
  · rw [if_neg given, if_neg given]
    by_cases community : hasValue [] settings.community
    · rw [if_pos community, forall_prop_of_true community, ← community_iff settings.community held]
      simp only [result_orThrow, Except.ok.injEq]
    · rw [if_neg community]
      exact iff_of_true ⟨proc, rfl⟩ (fun present => (community present).elim)

theorem driverUser_returns (settings : Settings) {proc : Nut.Process} (held : Held proc) :
    ∃ set, (driverUser settings proc).result = .ok set := by
  obtain ⟨command, held⟩ := held
  unfold driverUser Nut.Process.setCredential
  split
  next =>
    split
    next =>
      rw [held]
      exact ⟨_, rfl⟩
    next => exact ⟨_, rfl⟩
  next => exact ⟨_, rfl⟩

theorem setUp_iff {env : Env} {params : In} : (∃ proc, (setUp env params).result = .ok proc) ↔
    Installed env.host params.protocol ∧ Accepts env.wallet params.protocol params.settings := by
  have accessed_iff {started : Nut.Process}
      (init : (Nut.Process.create env.host params.protocol).init env.host params.address params.port.toUInt16 =
        .ok started) :
      (∃ set, (driverAccess env params.settings started).result = .ok set) ↔
        Accepts env.wallet params.protocol params.settings := by
    obtain ⟨command, held⟩ := held_init init
    have protocol : started.protocol = params.protocol := Nut.Process.protocol_init init
    rw [← protocol]
    apply driverAccess_iff held
    rw [protocol]
    exact (init_iff _ _ _ _).mp ⟨started, init⟩
  simp only [setUp, Traced.result_bind_ok_iff, result_orThrow]
  constructor
  · rintro ⟨_, started, init, accessed, access, -⟩
    have init := Except.ok.inj init
    exact ⟨(init_iff _ _ _ _).mp ⟨started, init⟩, (accessed_iff init).mp ⟨accessed, access⟩⟩
  · rintro ⟨installed, accepts⟩
    obtain ⟨started, init⟩ := (init_iff env.host params.address params.port.toUInt16
      (Nut.Process.create env.host params.protocol)).mpr installed
    obtain ⟨accessed, access⟩ := (accessed_iff init).mpr accepts
    have adds := adds_driverAccess (Traced.eq_of_result access)
    obtain ⟨used, user⟩ := driverUser_returns params.settings (held_adds (held_init init) adds)
    exact ⟨_, started, congrArg _ init, accessed, access, used, user, rfl⟩

def legacy : List Text := [] :: MibsReader.legacyNames.map Prod.snd

theorem legacy_mem (mib : Text) : MibsReader.mapMibToLegacy mib ∈ legacy := by
  unfold MibsReader.mapMibToLegacy legacy
  cases found : MibsReader.legacyNames.lookup mib with
  | none => exact List.mem_cons_self
  | some name =>
    obtain ⟨before, after, split, -⟩ := List.lookup_eq_some_iff.mp found
    rw [split]
    simp

theorem setMib_held {proc : Nut.Process} {mib : Text} {command : Nut.Command}
    (held : (Nut.Call.after proc (.setMib mib)).process = some command) :
    ∃ base, proc.process = some base ∧ (command = base ∨
      ∃ name ∈ legacy, command = base.setEnvVar "SU_VAR_MIBS".toList name) := by
  have other : ∀ host address port, Nut.Call.setMib mib ≠ .init host address port := by simp
  cases base : proc.process with
  | none =>
    rw [Nut.Call.unheld_call base other] at held
    cases held
  | some command' =>
    refine ⟨command', rfl, ?_⟩
    simp only [Nut.Call.after, Nut.Call.perform, Nut.Process.setMib, base] at held
    by_cases snmp : proc.protocol = "nut_snmp".toList
    · rw [if_neg (not_not_intro snmp)] at held
      exact .inr ⟨_, legacy_mem mib, (Option.some.inj held).symm⟩
    · rw [if_pos snmp] at held
      exact .inl (Option.some.inj (held.symm.trans base))

theorem setUp_held {env : Env} {params : In} {proc : Nut.Process} {events : List Contact} {command : Nut.Command}
    (ok : setUp env params = ⟨events, .ok proc⟩) (held : proc.process = some command) :
    ∃ base, (unselected env params).process = some base ∧ (command = base ∨
      ∃ name ∈ legacy, command = base.setEnvVar "SU_VAR_MIBS".toList name) := by
  rw [setUp_selects ok, mibCalls] at held
  split at held
  next => exact setMib_held held
  next => exact ⟨command, held, .inl rfl⟩

theorem installed_of_held {env : Env} {params : In} {base : Nut.Command}
    (held : (unselected env params).process = some base) : Installed env.host params.protocol := by
  have there : (unselected env params).process ≠ none := by simp [held]
  obtain ⟨call, member, inits⟩ := (Nut.Call.held_iff _ _ _).mp there
  rcases List.mem_cons.mp member with rfl | later
  · exact inits
  · have other := calls_other _ _ call later
    cases call with
    | init host address port => exact (other host address port rfl).elim
    | _ => exact inits.elim

theorem unselected_told (letters : Nut.Letters) {env : Env} {params : In} {base : Nut.Command}
    (held : (unselected env params).process = some base) :
    base.settings letters = some ((told env.wallet params).map Nut.Setting.cut) := by
  have found : (Nut.Call.driver params.protocol).any
      (fun name => (Nut.Process.findExecutable env.host name).toBool) = true :=
    (Option.any_eq_true _ _).mpr (installed_of_held held)
  have asked : Nut.Call.asked params.protocol
      (.init env.host params.address params.port.toUInt16 :: calls env.wallet params.settings) =
        some (told env.wallet params) := by
    rw [Nut.Call.asked, List.foldl_cons, Nut.Call.asks, if_pos found, asked_others (calls_other _ _), told]
  have args := Nut.Call.args_reached env.host params.protocol
    (.init env.host params.address params.port.toUInt16 :: calls env.wallet params.settings)
  rw [← unselected, held, asked] at args
  exact Nut.settings_eq letters (Option.some.inj args) (Nut.Call.known_asked _ _ _ asked)

theorem settleMib_events (params : In) (mibs : MibsReader.MibList) : (settleMib params mibs).events = [] := by
  unfold settleMib
  split
  next => rfl
  next => split <;> rfl

def sessionAccess (env : Env) (input : In) : Run Session :=
  setAccess env input.settings.credentialId input.settings.community
    (Session.create input.address (settledPort input).toUInt16)

theorem settle_session {env : Env} {requests : Nat} {input : In} {contact : Contact}
    (made : contact ∈ (settle env requests input).events) :
    ∃ sess, (sessionAccess env input).result = .ok sess ∧ contact = .session sess := by
  unfold settle at made
  split at made
  next snmp =>
    rw [settlePort_eq snmp, checkSnmp] at made
    rcases Traced.mem_bind_iff.mp made with early | ⟨sess, set, made⟩
    · simp [setAccess_events] at early
    refine ⟨sess, congrArg Traced.result set, ?_⟩
    rcases Traced.mem_bind_iff.mp made with here | ⟨_, -, made⟩
    · exact List.mem_singleton.mp here
    rcases Traced.mem_bind_iff.mp made with late | ⟨mibs, -, late⟩
    · simp [orThrow_events] at late
    · simp [settleMib_events] at late
  next => cases made

theorem unselected_settled {env : Env} {requests : Nat} {input params : In} {events : List Contact}
    (settled : settle env requests input = ⟨events, .ok params⟩) :
    unselected env params = unselected env { input with port := settledPort input } := by
  obtain ⟨protocol, address, port⟩ := settle_ok settled
  have settings := (Endpoint.settle_settled settled).1
  rw [unselected, unselected, protocol, address, port, settings]
  rfl

/-- What the devices of a request answer does not reach the command line of its driver. There is one session
and one driver that any run of it contacts, whatever they answer, however often they are asked and whatever is
drawn; the driver reads what the request and the wallet tell it, and all that an answer can do is to have it
started with another name of the table for its MIB. -/
theorem devices_select (letters : Nut.Letters) (env : Env) (input : In) :
    ∃ (session : Option Session) (driver : Option Nut.Command),
      (∀ base ∈ driver, base.settings letters =
        some ((told env.wallet { input with port := settledPort input }).map Nut.Setting.cut)) ∧
      ∀ peer requests random, ∀ contact ∈ (run { env with peer := peer } requests random input).events,
        (∃ sess ∈ session, contact = .session sess) ∨
          ∃ base ∈ driver, contact = .driver base ∨
            ∃ name ∈ legacy, contact = .driver (base.setEnvVar "SU_VAR_MIBS".toList name) := by
  refine ⟨(sessionAccess env input).result.toOption,
    (unselected env { input with port := settledPort input }).process, ?_, ?_⟩
  · exact fun base held => unselected_told letters held
  · intro peer requests random contact made
    obtain ⟨-, session | ⟨params, proc, command, settled, set, held, rfl⟩⟩ := run_made made
    · obtain ⟨sess, set, rfl⟩ := settle_session session
      have given : (sessionAccess env input).result = .ok sess := set
      exact .inl ⟨sess, by simp [given, Except.toOption], rfl⟩
    · obtain ⟨base, holds, selected⟩ := setUp_held set held
      rw [unselected_settled settled] at holds
      refine .inr ⟨base, holds, ?_⟩
      rcases selected with rfl | ⟨name, member, rfl⟩
      · exact .inl rfl
      · exact .inr ⟨name, member, rfl⟩

def selected (env : Env) (params : In) : Option Nut.Command :=
  ((mibCalls params.settings).foldl Nut.Call.after (unselected env params)).process

theorem run_proc_ok {host : Nut.Host} {proc : Nut.Process} {command : Nut.Command} {cnt : Text}
    (held : proc.process = some command) : proc.run host = .ok (.ok cnt) ↔
      ∃ child, host.start command = .ok child ∧ child.stat = .ok 0 ∧ child.stdout = cnt := by
  simp only [Nut.Process.run, held]
  cases started : host.start command with
  | error failed => simp
  | ok child =>
    simp only [Except.ok.injEq, exists_eq_left']
    cases waited : child.stat with
    | error failed => simp
    | ok stat =>
      by_cases zero : stat = 0
      · simp [zero]
      · simp only [Except.ok.injEq, zero, if_false, false_and, iff_false]
        intro refused
        split at refused <;> cases refused

/-- A run succeeds exactly where the host is found, the request can be settled, its driver is installed and
takes the access, and the driver exits with 0 and prints what can be parsed. -/
theorem run_succeeds_iff {env : Env} {requests : Nat} {random : env.identity.State} {input : In} {events : List Contact}
    {out : Out × env.identity.State} : run env requests random input = ⟨events, .ok out⟩ ↔
      available env.resolver input.address = true ∧
        Installed env.host input.protocol ∧ Accepts env.wallet input.protocol input.settings ∧
        ∃ before params command child, settle env requests input = ⟨before, .ok params⟩ ∧
          selected env params = some command ∧ events = before ++ [.driver command] ∧
          env.host.start command = .ok child ∧ child.stat = .ok 0 ∧
          parse env params child.stdout random = .ok out := by
  constructor
  · intro ok
    rw [run_eq] at ok
    obtain ⟨_, _, _, checked, ok₁, rfl⟩ := Traced.bind_eq_ok_iff.mp ok
    obtain ⟨rfl, found⟩ := checkHost_ok checked
    obtain ⟨before, params, _, settled, ok₂, rfl⟩ := Traced.bind_eq_ok_iff.mp ok₁
    obtain ⟨_, proc, _, set, ok₃, rfl⟩ := Traced.bind_eq_ok_iff.mp ok₂
    obtain rfl : _ = [] := (congrArg Traced.events set).symm.trans (setUp_events ..)
    obtain ⟨command, held⟩ : Held proc := by
      obtain ⟨command, held, -⟩ := Option.bind_eq_some_iff.mp (setUp_ok set).2.1
      exact ⟨command, held⟩
    obtain ⟨_, _, _, launched, ok₄, rfl⟩ := Traced.bind_eq_ok_iff.mp ok₃
    rw [launch, held] at launched
    obtain rfl := Traced.emit_eq_ok_iff.mp launched
    obtain ⟨_, cnt, _, returned, ok₅, rfl⟩ := Traced.bind_eq_ok_iff.mp ok₄
    obtain ⟨rfl, exited⟩ := orThrow_eq_ok_iff.mp returned
    obtain ⟨rfl, parsed⟩ := Traced.lift_eq_ok_iff.mp ok₅
    obtain ⟨child, started, zero, rfl⟩ := (run_proc_ok held).mp exited
    obtain ⟨protocol, -, -⟩ := settle_ok settled
    obtain ⟨installed, accepts⟩ := setUp_iff.mp ⟨proc, congrArg Traced.result set⟩
    rw [(Endpoint.settle_settled settled).1] at accepts
    rw [protocol] at installed accepts
    refine ⟨found, installed, accepts, before, params, command, child, settled, ?_, by simp, started, zero, parsed⟩
    rw [selected, ← setUp_selects set, held]
  · rintro ⟨found, installed, accepts, before, params, command, child, settled, held, rest⟩
    obtain ⟨rfl, started, zero, parsed⟩ := rest
    obtain ⟨protocol, -, -⟩ := settle_ok settled
    have settings := (Endpoint.settle_settled settled).1
    rw [← protocol] at installed accepts
    obtain ⟨proc, set⟩ := setUp_iff.mpr ⟨installed, by rw [settings]; exact accepts⟩
    have whole : setUp env params = ⟨[], .ok proc⟩ := setUp_events env params ▸ Traced.eq_of_result set
    rw [selected, ← setUp_selects whole] at held
    have exited := (run_proc_ok held).mpr ⟨child, started, zero, rfl⟩
    have checked : checkHost env input.address = ⟨[], .ok ()⟩ := if_pos found
    have launched : launch proc = ⟨[.driver command], .ok ()⟩ := by
      rw [launch, held]
      rfl
    rw [run_eq]
    apply Traced.bind_eq_ok_iff.mpr ⟨_, _, _, checked, _, rfl⟩
    apply Traced.bind_eq_ok_iff.mpr ⟨_, _, _, settled, _, rfl⟩
    apply Traced.bind_eq_ok_iff.mpr ⟨_, _, _, whole, _, rfl⟩
    apply Traced.bind_eq_ok_iff.mpr ⟨_, _, _, launched, _, rfl⟩
    apply Traced.bind_eq_ok_iff.mpr ⟨_, _, _, orThrow_eq_ok_iff.mpr ⟨rfl, exited⟩, _, rfl⟩
    exact Traced.lift_eq_ok_iff.mpr ⟨rfl, parsed⟩

end FtyDiscovery.Jobs.Assets
