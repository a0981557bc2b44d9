import FtyDiscovery.Base.Options
import FtyDiscovery.Nut.Calls
import FtyDiscovery.Nut.Credentials

/-! What a driver reads of its command line, against what the calls of the methods asked for: no text
that they are given adds an option to it or changes another. -/

namespace FtyDiscovery.Nut

open Base

/-- An option of a driver; those of `-x` are variables with a value. -/
inductive Setting where
  | flag (letter : Char) (value : Text)
  | assign (name value : Text)
  deriving DecidableEq, Repr

namespace Setting

def cut : Setting → Setting
  | flag letter value => flag letter (cString value)
  | assign name value => assign name (cString value)

def ofOpt : Options.Opt → Option Setting
  | (letter, some arg) =>
      if letter = 'x' then
        match Options.assignment arg with
        | (name, some value) => some (assign name value)
        | (_, none) => none
      else some (flag letter arg)
  | (_, none) => none

def opt : Setting → Char × Text
  | flag letter value => (letter, value)
  | assign name value => ('x', name ++ '=' :: value)

def Known : Setting → Prop
  | flag letter _ => letter = 's' ∨ letter = 'd'
  | assign name _ => Command.Plain name

end Setting

/-- A driver's `getopt`: these three letters take an argument. -/
structure Letters where
  table : Options.Table
  takes : ∀ letter ∈ ['s', 'x', 'd'], table letter = some true

namespace Command

def settings (letters : Letters) (command : Command) : Option (List Setting) :=
  match Options.read letters.table none (command.args.map cString) with
  | some (opts, []) => opts.mapM Setting.ofOpt
  | _ => none

end Command

def documentVariables (protocol : Text) : Document → List (Text × Text)
  | .snmpv3 credV3 =>
      if protocol = "nut_snmp".toList then
        ("snmp_version".toList, "v3".toList) ::
          (Process.levelStr credV3.securityLevel).toOption.toList.map (fun lvl => ("secLevel".toList, lvl)) ++
          [("secName".toList, credV3.securityName), ("authPassword".toList, credV3.authPassword),
            ("privPassword".toList, credV3.privPassword)] ++
          (Process.authProtStr credV3.authProtocol).toOption.toList.map (fun prot => ("authProtocol".toList, prot)) ++
          (Process.authPrivStr credV3.privProtocol).toOption.toList.map (fun prot => ("privProtocol".toList, prot))
      else []
  | .snmpv1 communityName =>
      if protocol = "nut_snmp".toList then [("community".toList, communityName)] else []
  | .userAndPassword username password =>
      if protocol = "nut_powercom".toList then [("username".toList, username), ("password".toList, password)] else []
  | _ => []

namespace Call

def assigns (protocol : Text) : Call → List (Text × Text)
  | .setCredentialId wallet credential =>
      match wallet.socket.bind (fun _ => wallet.document credential) with
      | .ok document => documentVariables protocol document
      | .error _ => []
  | .setCredential userName password =>
      if protocol = "nut_powercom".toList then [("username".toList, userName), ("password".toList, password)] else []
  | .setCommunity community => if protocol = "nut_snmp".toList then [("community".toList, community)] else []
  | .setTimeout milliseconds =>
      if protocol = "nut_snmp".toList then [("snmp_timeout".toList, Text.decimal (milliseconds / 1000).toNat)] else []
  | _ => []

def setUp (protocol address : Text) (port : UInt16) : List Setting :=
  if protocol = "nut_powercom".toList then
    [.assign "port".toList address, .flag 'd' "1".toList]
  else
    [.flag 's' "discover".toList, .assign "port".toList (Process.target protocol address port),
      .flag 'd' "1".toList]

/-- What is asked for once a call is made as well: a set-up that finds its driver begins anew. -/
def asks (protocol : Text) (asked : Option (List Setting)) : Call → Option (List Setting)
  | .init host address port =>
      if (driver protocol).any (fun name => (Process.findExecutable host name).toBool) then
        some (setUp protocol address port)
      else asked
  | call => asked.map (fun settings => settings ++ (call.assigns protocol).map (fun var => .assign var.1 var.2))

def asked (protocol : Text) (calls : List Call) : Option (List Setting) := calls.foldl (asks protocol) none

def argsOf (settings : List Setting) : List Text := Options.render (settings.map Setting.opt)

theorem argsOf_append (first second : List Setting) : argsOf (first ++ second) = argsOf first ++ argsOf second := by
  rw [argsOf, List.map_append, Options.render_append, argsOf, argsOf]

def assigned (vars : List (Text × Text)) : List Setting := vars.map (fun var => .assign var.1 var.2)

theorem args_addVariable (name value : Text) (command : Command) :
    (command.addVariable name value).args = command.args ++ argsOf [.assign name value] := by
  simp [Command.addVariable, Command.addArgument, argsOf, Options.render, Setting.opt]

theorem args_setBoth (envVar name value : Text) (command : Command) :
    (Process.setBoth envVar name value command).args = command.args ++ argsOf [.assign name value] :=
  args_addVariable name value _

theorem args_setBothIf (envVar name : Text) (value : Expected Text) (command : Command) :
    (Process.setBothIf envVar name value command).args =
      command.args ++ argsOf (assigned (value.toOption.toList.map (fun text => (name, text)))) := by
  cases value with
  | ok value => exact args_setBoth envVar name value command
  | error _ => exact (List.append_nil _).symm

theorem args_setSnmpv3 (credV3 : Snmpv3) (command : Command) :
    (Process.setSnmpv3 credV3 command).args =
      command.args ++ argsOf (assigned (documentVariables "nut_snmp".toList (.snmpv3 credV3))) := by
  simp only [Process.setSnmpv3, args_setBoth, args_setBothIf, List.append_assoc, ← argsOf_append, documentVariables,
    if_true, assigned, List.map_append, List.map_cons, List.cons_append, List.nil_append]

def SameEnv (before after : Command) : Prop :=
  ∀ name, ¬"SU_VAR_".toList <+: name → after.env.lookup name = before.env.lookup name

theorem SameEnv.trans {first second third : Command} (before : SameEnv first second) (after : SameEnv second third) :
    SameEnv first third := fun name other => (after name other).trans (before name other)

theorem sameEnv_setEnvVar {envVar : Text} (setting : "SU_VAR_".toList <+: envVar) (value : Text) (command : Command) :
    SameEnv command (command.setEnvVar envVar value) := by
  intro name other
  refine Command.lookup_setEnvVar_ne ?_ value command
  rintro rfl
  exact other setting

theorem sameEnv_addVariable (name value : Text) (command : Command) :
    SameEnv command (command.addVariable name value) :=
  fun _ _ => rfl

theorem sameEnv_setBoth {envVar : Text} (setting : "SU_VAR_".toList <+: envVar) (name value : Text)
    (command : Command) : SameEnv command (Process.setBoth envVar name value command) :=
  (sameEnv_setEnvVar setting value command).trans (sameEnv_addVariable name value _)

theorem sameEnv_setBothIf {envVar : Text} (setting : "SU_VAR_".toList <+: envVar) (name : Text)
    (value : Expected Text) (command : Command) : SameEnv command (Process.setBothIf envVar name value command) := by
  cases value with
  | ok value => exact sameEnv_setBoth setting name value command
  | error _ => exact fun _ _ => rfl

theorem sameEnv_setSnmpv3 (credV3 : Snmpv3) (command : Command) :
    SameEnv command (Process.setSnmpv3 credV3 command) :=
  (sameEnv_setBoth (by decide) _ _ _).trans <| (sameEnv_setBothIf (by decide) _ _ _).trans <|
    (sameEnv_setBoth (by decide) _ _ _).trans <| (sameEnv_setBoth (by decide) _ _ _).trans <|
    (sameEnv_setBoth (by decide) _ _ _).trans <| (sameEnv_setBothIf (by decide) _ _ _).trans <|
    sameEnv_setBothIf (by decide) _ _ _

/-- The command behind a call has the settings that it asks for at the end, and otherwise the environment it
had. -/
def Longer (proc : Process) (command : Command) (call : Call) : Prop :=
  ∃ next, (after proc call).process = some next ∧
    next.args = command.args ++ argsOf (assigned (call.assigns proc.protocol)) ∧ SameEnv command next

theorem longer_same {proc : Process} {command : Command} {call : Call} (held : proc.process = some command)
    (same : after proc call = proc) (silent : call.assigns proc.protocol = []) : Longer proc command call :=
  ⟨command, by rw [same, held], by rw [silent]; exact (List.append_nil _).symm, fun _ _ => rfl⟩

theorem longer_hold {proc : Process} {command next : Command} {call : Call}
    (sets : perform proc call = .ok (.ok (set (proc.hold next))))
    (args : next.args = command.args ++ argsOf (assigned (call.assigns proc.protocol)))
    (env : SameEnv command next) : Longer proc command call :=
  ⟨next, by rw [after, sets]; rfl, args, env⟩

theorem longer_snmp {proc : Process} {command next : Command} {call : Call} (held : proc.process = some command)
    (performs : perform proc call = .ok (Except.map set
      (if proc.protocol ≠ "nut_snmp".toList then .error "unsupported".toList else .ok (proc.hold next))))
    (args : proc.protocol = "nut_snmp".toList →
      next.args = command.args ++ argsOf (assigned (call.assigns proc.protocol)))
    (env : SameEnv command next)
    (silent : proc.protocol ≠ "nut_snmp".toList → call.assigns proc.protocol = []) : Longer proc command call := by
  by_cases snmp : proc.protocol = "nut_snmp".toList
  · rw [if_neg (not_not_intro snmp)] at performs
    exact longer_hold performs (args snmp) env
  · rw [if_pos snmp] at performs
    exact longer_same held (by rw [after, performs]; rfl) (silent snmp)

theorem longer_setCommunity {proc : Process} {command : Command} (held : proc.process = some command)
    (community : Text) : Longer proc command (.setCommunity community) := by
  apply longer_snmp held
  · rw [perform, Process.setCommunity, held]
  · intro snmp
    rw [args_addVariable, assigns, if_pos snmp]
    rfl
  · exact (sameEnv_setEnvVar (by decide) _ _).trans
      ((sameEnv_setEnvVar (by decide) _ _).trans (sameEnv_addVariable _ _ _))
  · exact fun other => if_neg other

theorem longer_setTimeout {proc : Process} {command : Command} (held : proc.process = some command)
    (milliseconds : UInt32) : Longer proc command (.setTimeout milliseconds) := by
  apply longer_snmp held
  · rw [perform, Process.setTimeout, held]
  · intro snmp
    rw [args_addVariable, assigns, if_pos snmp]
    rfl
  · exact (sameEnv_setEnvVar (by decide) _ _).trans (sameEnv_addVariable _ _ _)
  · exact fun other => if_neg other

theorem longer_setMib {proc : Process} {command : Command} (held : proc.process = some command)
    (mib : Text) : Longer proc command (.setMib mib) := by
  apply longer_snmp held
  · rw [perform, Process.setMib, held]
  · exact fun _ => (List.append_nil _).symm
  · exact sameEnv_setEnvVar (by decide) _ _
  · exact fun _ => rfl

theorem longer_setCredential {proc : Process} {command : Command} (held : proc.process = some command)
    (userName password : Text) : Longer proc command (.setCredential userName password) := by
  by_cases powercom : proc.protocol = "nut_powercom".toList
  · apply longer_hold
    · rw [perform, Process.setCredential, if_pos powercom, held]
      rfl
    · rw [args_addVariable, args_addVariable, List.append_assoc, ← argsOf_append, assigns, if_pos powercom]
      rfl
    · exact (sameEnv_addVariable _ _ _).trans (sameEnv_addVariable _ _ _)
  · apply longer_same held
    · rw [after, perform, Process.setCredential, if_neg powercom]
      rfl
    · rw [assigns, if_neg powercom]

theorem assigns_found {protocol credential : Text} {wallet : Wallet} {document : Document}
    (opened : wallet.socket = .ok ()) (found : wallet.document credential = .ok document) :
    (Call.setCredentialId wallet credential).assigns protocol = documentVariables protocol document := by
  rw [assigns, opened, Except.bind, found]

theorem assigns_unfound {protocol credential : Text} {wallet : Wallet} {exn : Exn}
    (unfound : wallet.socket = .error exn ∨ wallet.document credential = .error exn) :
    (Call.setCredentialId wallet credential).assigns protocol = [] := by
  cases opened : wallet.socket with
  | error other => rw [assigns, opened, Except.bind]
  | ok =>
    rw [opened] at unfound
    rw [assigns, opened, Except.bind, unfound.resolve_left nofun]

theorem longer_credential_snmp {proc : Process} {command : Command} (held : proc.process = some command)
    (snmp : proc.protocol = "nut_snmp".toList) (wallet : Wallet) (credential : Text) :
    Longer proc command (.setCredentialId wallet credential) := by
  have other : proc.protocol ≠ "nut_powercom".toList := by
    rw [snmp]
    decide
  cases opened : wallet.socket with
  | error exn =>
    apply longer_same held _ (assigns_unfound (.inl opened))
    simp only [after, perform, Process.setCredentialId, held, if_pos snmp, opened]
    rfl
  | ok =>
    cases found : wallet.document credential with
    | error exn =>
      apply longer_same held _ (assigns_unfound (.inr found))
      simp only [after, perform, Process.setCredentialId, held, if_pos snmp, opened, found]
      cases exn <;> rfl
    | ok document =>
      cases document with
      | snmpv3 credV3 =>
        apply longer_hold
        · simp only [perform, Process.setCredentialId, held, if_pos snmp, opened, found]
          rfl
        · rw [assigns_found opened found, snmp, args_setSnmpv3]
        · exact sameEnv_setSnmpv3 credV3 command
      | snmpv1 communityName =>
        obtain ⟨next, sets, args, env⟩ := longer_setCommunity held communityName
        refine ⟨next, ?_, ?_, env⟩
        · rw [← sets]
          simp only [after, perform, Process.setCredentialId, held, if_pos snmp, opened, found]
          cases proc.setCommunity communityName <;> rfl
        · rw [args, assigns_found opened found]
          rfl
      | userAndPassword username password =>
        apply longer_same held
        · simp only [after, perform, Process.setCredentialId, held, if_pos snmp, opened, found]
          rfl
        · rw [assigns_found opened found, documentVariables, if_neg other]
      | unknown =>
        apply longer_same held _ (assigns_found opened found)
        simp only [after, perform, Process.setCredentialId, held, if_pos snmp, opened, found]
        rfl

theorem longer_credential_powercom {proc : Process} {command : Command} (held : proc.process = some command)
    (powercom : proc.protocol = "nut_powercom".toList) (wallet : Wallet) (credential : Text) :
    Longer proc command (.setCredentialId wallet credential) := by
  have other : proc.protocol ≠ "nut_snmp".toList := by
    rw [powercom]
    decide
  cases opened : wallet.socket with
  | error exn =>
    apply longer_same held _ (assigns_unfound (.inl opened))
    simp only [after, perform, Process.setCredentialId, held, if_neg other, if_pos powercom, opened]
    rfl
  | ok =>
    cases found : wallet.document credential with
    | error exn =>
      apply longer_same held _ (assigns_unfound (.inr found))
      simp only [after, perform, Process.setCredentialId, held, if_neg other, if_pos powercom, opened, found]
      cases exn <;> rfl
    | ok document =>
      cases document with
      | userAndPassword username password =>
        apply longer_hold
        · simp only [perform, Process.setCredentialId, held, if_neg other, if_pos powercom, opened, found]
          rfl
        · rw [assigns_found opened found, documentVariables, if_pos powercom, args_addVariable, args_addVariable,
            List.append_assoc, ← argsOf_append]
          rfl
        · exact (sameEnv_addVariable _ _ _).trans (sameEnv_addVariable _ _ _)
      | snmpv3 _ | snmpv1 _ =>
        apply longer_same held
        · simp only [after, perform, Process.setCredentialId, held, if_neg other, if_pos powercom, opened, found]
          rfl
        · rw [assigns_found opened found, documentVariables, if_neg other]
      | unknown =>
        apply longer_same held _ (assigns_found opened found)
        simp only [after, perform, Process.setCredentialId, held, if_neg other, if_pos powercom, opened, found]
        rfl

theorem documentVariables_other {protocol : Text} (snmp : protocol ≠ "nut_snmp".toList)
    (powercom : protocol ≠ "nut_powercom".toList) (document : Document) : documentVariables protocol document = [] := by
  cases document <;> simp only [documentVariables, if_neg snmp, if_neg powercom]

theorem longer_setCredentialId {proc : Process} {command : Command} (held : proc.process = some command)
    (wallet : Wallet) (credential : Text) : Longer proc command (.setCredentialId wallet credential) := by
  by_cases snmp : proc.protocol = "nut_snmp".toList
  · exact longer_credential_snmp held snmp wallet credential
  · by_cases powercom : proc.protocol = "nut_powercom".toList
    · exact longer_credential_powercom held powercom wallet credential
    · apply longer_same held
      · simp only [after, perform, Process.setCredentialId, held, if_neg snmp, if_neg powercom]
        rfl
      · rw [assigns]
        split
        next => exact documentVariables_other snmp powercom _
        next => rfl

theorem longer_run {proc : Process} {command : Command} (held : proc.process = some command) (host : Host) :
    Longer proc command (.run host) := by
  apply longer_same held _ rfl
  rw [after, perform]
  rcases proc.run host with stop | failed | out
  · rfl
  · rfl
  · rfl

theorem args_init {host : Host} {address : Text} {port : UInt16} {proc started : Process}
    (ok : proc.init host address port = .ok started) :
    started.process.map Command.args = some (argsOf (setUp proc.protocol address port)) := by
  unfold Process.init at ok
  unfold setUp Process.target
  split at ok
  next snmp =>
    have other : proc.protocol ≠ "nut_powercom".toList := by
      rw [snmp]
      decide
    rw [if_neg other, if_pos snmp]
    unfold Process.setupSnmp at ok
    obtain ⟨path, -, rfl⟩ := ok_of_map ok
    rfl
  next unlike =>
    split at ok
    next xml =>
      have other : proc.protocol ≠ "nut_powercom".toList := by
        rw [xml]
        decide
      rw [if_neg other, if_neg unlike, if_pos xml]
      unfold Process.setupXmlPdc at ok
      obtain ⟨path, -, rfl⟩ := ok_of_map ok
      rfl
    next =>
      split at ok
      next powercom =>
        rw [if_pos powercom]
        unfold Process.setupPowercom at ok
        obtain ⟨path, -, rfl⟩ := ok_of_map ok
        rfl
      next => cases ok

theorem any_driver (host : Host) (address : Text) (port : UInt16) (proc : Process) :
    (driver proc.protocol).any (fun name => (Process.findExecutable host name).toBool) =
      (proc.init host address port).toBool := by
  rw [Bool.eq_iff_iff, init_toBool, Inits, Installed, Option.any_eq_true]

theorem longer_call {proc : Process} {command : Command} (held : proc.process = some command) {call : Call}
    (other : ∀ host address port, call ≠ .init host address port) : Longer proc command call := by
  cases call with
  | init host address port => exact (other host address port rfl).elim
  | setCredentialId wallet credential => exact longer_setCredentialId held wallet credential
  | setCredential userName password => exact longer_setCredential held userName password
  | setCommunity community => exact longer_setCommunity held community
  | setTimeout milliseconds => exact longer_setTimeout held milliseconds
  | setMib mib => exact longer_setMib held mib
  | run host => exact longer_run held host

theorem unheld_call {proc : Process} (unheld : proc.process = none) {call : Call}
    (other : ∀ host address port, call ≠ .init host address port) : (after proc call).process = none := by
  by_contra holds
  rcases (held_after proc call).mp holds with before | inits
  · exact before unheld
  · cases call with
    | init host address port => exact other host address port rfl
    | _ => exact inits

theorem asks_other {protocol : Text} {call : Call} (other : ∀ host address port, call ≠ .init host address port)
    (asked : Option (List Setting)) :
    asks protocol asked call = asked.map (fun settings => settings ++ assigned (call.assigns protocol)) := by
  cases call with
  | init host address port => exact (other host address port rfl).elim
  | _ => rfl

theorem args_after {proc : Process} {asked : Option (List Setting)}
    (follows : proc.process.map Command.args = asked.map argsOf) (call : Call) :
    (after proc call).process.map Command.args = (asks proc.protocol asked call).map argsOf := by
  by_cases other : ∀ host address port, call ≠ .init host address port
  · rw [asks_other other]
    cases held : proc.process with
    | none =>
      rw [held] at follows
      rw [unheld_call held other, Option.map_eq_none_iff.mp follows.symm]
      rfl
    | some command =>
      obtain ⟨next, holds, args, -⟩ := longer_call held other
      rw [held] at follows
      obtain ⟨settings, rfl, same⟩ := Option.map_eq_some_iff.mp follows.symm
      rw [holds, Option.map_some, args, Option.map_some, Option.map_some, argsOf_append, same]
  · simp only [not_forall, not_not] at other
    obtain ⟨host, address, port, rfl⟩ := other
    rw [after_init, asks, any_driver host address port]
    cases ok : proc.init host address port with
    | error failed => exact follows
    | ok started => exact args_init ok

def names : List Text :=
  ["port".toList, "snmp_version".toList, "secLevel".toList, "secName".toList, "authPassword".toList,
    "privPassword".toList, "authProtocol".toList, "privProtocol".toList, "community".toList, "username".toList,
    "password".toList, "snmp_timeout".toList]

theorem plain_names : ∀ name ∈ names, Command.Plain name := by decide

theorem named_document {protocol : Text} {document : Document} {var : Text × Text}
    (member : var ∈ documentVariables protocol document) : var.1 ∈ names := by
  have listed {name : Text} {words : List Text} (known : name ∈ names)
      (found : var ∈ words.map (fun text => (name, text))) : var.1 ∈ names := by
    obtain ⟨text, -, rfl⟩ := List.mem_map.mp found
    exact known
  cases document with
  | snmpv3 credV3 =>
    simp only [documentVariables] at member
    split at member
    next =>
      simp only [List.cons_append, List.mem_append, List.mem_cons, List.not_mem_nil, or_false] at member
      rcases member with rfl | ((lvl | rfl | rfl | rfl) | prot) | prot
      · exact (by decide : "snmp_version".toList ∈ names)
      · exact listed (by decide) lvl
      · exact (by decide : "secName".toList ∈ names)
      · exact (by decide : "authPassword".toList ∈ names)
      · exact (by decide : "privPassword".toList ∈ names)
      · exact listed (by decide) prot
      · exact listed (by decide) prot
    next => cases member
  | snmpv1 communityName =>
    simp only [documentVariables] at member
    split at member
    next =>
      obtain rfl := List.mem_singleton.mp member
      exact (by decide : "community".toList ∈ names)
    next => cases member
  | userAndPassword username password =>
    simp only [documentVariables] at member
    split at member
    next =>
      rcases List.mem_pair.mp member with rfl | rfl
      · exact (by decide : "username".toList ∈ names)
      · exact (by decide : "password".toList ∈ names)
    next => cases member
  | unknown => cases member

theorem named_assigns {protocol : Text} {call : Call} {var : Text × Text} (member : var ∈ call.assigns protocol) :
    var.1 ∈ names := by
  cases call with
  | init host address port | setMib mib | run host => cases member
  | setCredentialId wallet credential =>
    simp only [assigns] at member
    split at member
    next => exact named_document member
    next => cases member
  | setCredential userName password =>
    simp only [assigns] at member
    split at member
    next =>
      rcases List.mem_pair.mp member with rfl | rfl
      · exact (by decide : "username".toList ∈ names)
      · exact (by decide : "password".toList ∈ names)
    next => cases member
  | setCommunity community =>
    simp only [assigns] at member
    split at member
    next =>
      obtain rfl := List.mem_singleton.mp member
      exact (by decide : "community".toList ∈ names)
    next => cases member
  | setTimeout milliseconds =>
    simp only [assigns] at member
    split at member
    next =>
      obtain rfl := List.mem_singleton.mp member
      exact (by decide : "snmp_timeout".toList ∈ names)
    next => cases member

theorem known_setUp (protocol address : Text) (port : UInt16) :
    ∀ setting ∈ setUp protocol address port, setting.Known := by
  unfold setUp
  have named : Command.Plain "port".toList := by decide
  split
  next => simpa [Setting.Known] using named
  next => simpa [Setting.Known] using named

theorem known_asks {protocol : Text} {asked : Option (List Setting)}
    (known : ∀ settings, asked = some settings → ∀ setting ∈ settings, setting.Known) (call : Call)
    {settings : List Setting} (asks : asks protocol asked call = some settings) :
    ∀ setting ∈ settings, setting.Known := by
  by_cases other : ∀ host address port, call ≠ .init host address port
  · rw [asks_other other] at asks
    obtain ⟨before, same, rfl⟩ := Option.map_eq_some_iff.mp asks
    intro setting member
    rcases List.mem_append.mp member with old | anew
    · exact known before same setting old
    · obtain ⟨var, found, rfl⟩ := List.mem_map.mp anew
      exact plain_names var.1 (named_assigns found)
  · simp only [not_forall, not_not] at other
    obtain ⟨host, address, port, rfl⟩ := other
    rw [Call.asks] at asks
    split at asks
    next =>
      obtain rfl := Option.some.inj asks
      exact known_setUp protocol address port
    next => exact known settings asks

theorem asked_concat (protocol : Text) (calls : List Call) (call : Call) :
    asked protocol (calls ++ [call]) = asks protocol (asked protocol calls) call := List.foldl_concat ..

theorem args_reached (host : Host) (protocol : Text) (calls : List Call) :
    (reached host protocol calls).process.map Command.args = (asked protocol calls).map argsOf := by
  induction calls using List.reverseRecOn with
  | nil => rfl
  | append_singleton calls call ih =>
    have step := args_after ih call
    rw [protocol_reached] at step
    rw [reached, List.foldl_concat, ← reached, step, asked_concat]

theorem known_asked (protocol : Text) (calls : List Call) :
    ∀ settings, asked protocol calls = some settings → ∀ setting ∈ settings, setting.Known := by
  induction calls using List.reverseRecOn with
  | nil =>
    intro settings none_yet
    cases none_yet
  | append_singleton calls call ih =>
    intro settings same
    rw [asked_concat] at same
    exact known_asks ih call same

end Call

namespace Setting

theorem ofOpt_cut {setting : Setting} (known : setting.Known) :
    ofOpt (setting.opt.1, some (cString setting.opt.2)) = some setting.cut := by
  cases setting with
  | flag letter value =>
    have other : letter ≠ 'x' := by
      rcases known with rfl | rfl <;> decide
    rw [opt, ofOpt, if_neg other, cut]
  | assign name value =>
    rw [opt, ofOpt, if_pos rfl, Command.cString_variable known, Options.assignment_eq known.1, cut]

theorem mapM_ofOpt {settings : List Setting} (known : ∀ setting ∈ settings, setting.Known) :
    (settings.map (fun setting => (setting.opt.1, some (cString setting.opt.2)))).mapM ofOpt =
      some (settings.map cut) := by
  induction settings with
  | nil => rfl
  | cons setting settings ih =>
    have later := ih (fun other member => known other (List.mem_cons_of_mem setting member))
    rw [List.map_cons, List.mapM_cons, ofOpt_cut (known setting List.mem_cons_self), later]
    rfl

theorem letter_mem {setting : Setting} (known : setting.Known) : setting.opt.1 ∈ ['s', 'x', 'd'] := by
  cases setting with
  | flag letter value => rcases known with rfl | rfl <;> simp [opt]
  | assign name value => simp [opt]

end Setting

theorem settings_eq (letters : Letters) {command : Command} {settings : List Setting}
    (args : command.args = Call.argsOf settings) (known : ∀ setting ∈ settings, setting.Known) :
    command.settings letters = some (settings.map Setting.cut) := by
  let passed := settings.map (fun setting => (setting.opt.1, cString setting.opt.2))
  have letters_eq : ∀ opt ∈ settings.map Setting.opt, opt.1 ∈ ['s', 'x', 'd'] := by
    intro opt member
    obtain ⟨setting, found, rfl⟩ := List.mem_map.mp member
    exact Setting.letter_mem (known setting found)
  have written : command.args.map cString = Options.render passed := by
    have plain : ∀ letter ∈ ['s', 'x', 'd'], cString ['-', letter] = ['-', letter] := by simp [cString]
    rw [args, Call.argsOf, Options.map_render cString _ (fun opt member => plain opt.1 (letters_eq opt member)),
      List.map_map]
    rfl
  have reads : Options.read letters.table none (Options.render passed) =
      some (passed.map (fun opt => (opt.1, some opt.2)), []) := by
    have dashes : ∀ letter ∈ ['s', 'x', 'd'], letter ≠ '-' := by simp
    apply Options.read_render
    intro opt member
    obtain ⟨setting, found, rfl⟩ := List.mem_map.mp member
    have letter := Setting.letter_mem (known setting found)
    exact ⟨letters.takes _ letter, dashes _ letter⟩
  rw [Command.settings, written, reads]
  simp only [passed, List.map_map]
  exact Setting.mapM_ofOpt known

namespace Call

/-- What a driver reads of its command line behind any calls, whatever texts they were given: the settings of
the last set-up that found it and of the calls after that, each with its value as far as a C string goes. -/
theorem driver_reads (letters : Letters) (host : Host) (protocol : Text) (calls : List Call) :
    (reached host protocol calls).process.map (Command.settings letters) =
      (asked protocol calls).map (fun settings => some (settings.map Setting.cut)) := by
  have follows := args_reached host protocol calls
  cases held : (reached host protocol calls).process with
  | none =>
    rw [held] at follows
    rw [Option.map_eq_none_iff.mp follows.symm]
    rfl
  | some command =>
    rw [held] at follows
    obtain ⟨settings, same, args⟩ := Option.map_eq_some_iff.mp follows.symm
    rw [same, Option.map_some, Option.map_some,
      settings_eq letters args.symm (known_asked protocol calls settings same)]

example : (reached deafHost "nut_snmp".toList
      [.init deafHost "ups".toList 161, .setCommunity "public -x port=other".toList]).process.bind
        (Command.settings
          ⟨fun letter => if letter = 's' ∨ letter = 'x' ∨ letter = 'd' then some true else none, by simp⟩) =
    some [.flag 's' "discover".toList, .assign "port".toList "ups:161".toList, .flag 'd' "1".toList,
      .assign "community".toList "public -x port=other".toList] := by
  decide

end Call

end FtyDiscovery.Nut
