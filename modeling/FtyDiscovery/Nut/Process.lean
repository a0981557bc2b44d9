import FtyDiscovery.MibsReader

/-! The NUT driver of one protocol, its arguments and environment, and its run. -/

namespace FtyDiscovery.Nut

open Base

structure Command where
  path : Text
  args : List Text
  env : List (Text × Text) := []
  deriving DecidableEq, Repr

namespace Command

def addArgument (arg : Text) (command : Command) : Command :=
  { command with args := command.args ++ [arg] }

def setEnvVar (name value : Text) (command : Command) : Command :=
  { command with env := command.env.filter (fun var => var.1 ≠ name) ++ [(name, value)] }

def addVariable (name value : Text) (command : Command) : Command :=
  (command.addArgument "-x".toList).addArgument (name ++ '=' :: value)

@[simp] theorem lookup_setEnvVar (name value : Text) (command : Command) :
    (command.setEnvVar name value).env.lookup name = some value := by
  have absent : (command.env.filter (fun var => var.1 ≠ name)).lookup name = none :=
    List.lookup_eq_none_iff.mpr (fun var kept =>
      bne_iff_ne.mpr (Ne.symm (of_decide_eq_true (List.mem_filter.mp kept).2)))
  rw [setEnvVar, List.lookup_append, absent, Option.none_or, List.lookup_cons_self]

theorem lookup_setEnvVar_ne {name other : Text} (ne : other ≠ name) (value : Text) (command : Command) :
    (command.setEnvVar name value).env.lookup other = command.env.lookup other := by
  have kept (env : List (Text × Text)) :
      (env.filter (fun var => var.1 ≠ name)).lookup other = env.lookup other := by
    induction env with
    | nil => rfl
    | cons var env ih =>
      by_cases same : var.1 = name
      · rw [List.filter_cons_of_neg (by simp [same]), ih, List.lookup_cons, same, beq_false_of_ne ne]
      · rw [List.filter_cons_of_pos (by simpa using same), List.lookup_cons, List.lookup_cons, ih]
  rw [setEnvVar, List.lookup_append, kept, List.lookup_cons, beq_false_of_ne ne, List.lookup_nil, Option.or_none]

end Command

structure Child where
  stat : Expected Int
  stdout : Text
  stderr : Text

structure Host where
  tempDir : Option Text
  executable : Text → Bool
  start : Command → Expected Child
  mibDatabase : Text

structure Process where
  protocol : Text
  root : Text
  process : Option Command
  deriving DecidableEq, Repr

namespace Process

def create (host : Host) (protocol : Text) : Process where
  protocol := protocol
  root := host.tempDir.getD "/tmp/nut".toList
  process := none

def hold (proc : Process) (command : Command) : Process := { proc with process := some command }

def paths : List Text :=
  ["/usr/lib/nut".toList, "/lib/nut".toList,
    "/home/jes/workspace/fty/build/Debug/deps-runtime/bin".toList]

def findExecutable (host : Host) (name : Text) : Expected Text :=
  match (paths.map (fun path => path ++ '/' :: name)).find? host.executable with
  | some path => .ok path
  | none => .error ("Executable ".toList ++ name ++ " was not found".toList)

def portArgument (toconnect : Text) : Text := "port=".toList ++ toconnect

def toconnect (address : Text) (port : UInt16) : Text := address ++ ':' :: Text.decimal port.toNat

def setupSnmp (host : Host) (address : Text) (port : UInt16) (proc : Process) : Expected Process :=
  let port := if port = 0 then 161 else port
  (findExecutable host "snmp-ups".toList).map (fun path =>
    let command : Command :=
      { path := path
        args := ["-s".toList, "discover".toList, "-x".toList, portArgument (toconnect address port),
          "-d".toList, "1".toList] }
    proc.hold
      ((command.setEnvVar "NUT_STATEPATH".toList proc.root).setEnvVar "MIBDIRS".toList host.mibDatabase))

def setupXmlPdc (host : Host) (address : Text) (port : UInt16) (proc : Process) : Expected Process :=
  let port := if port = 0 then 80 else port
  let target :=
    if Text.find "http://".toList address ≠ some 0 then "http://".toList ++ toconnect address port
    else toconnect address port
  (findExecutable host "netxml-ups".toList).map (fun path =>
    let command : Command :=
      { path := path
        args := ["-s".toList, "discover".toList, "-x".toList, portArgument target,
          "-d".toList, "1".toList] }
    proc.hold (command.setEnvVar "NUT_STATEPATH".toList proc.root))

def setupPowercom (host : Host) (address : Text) (proc : Process) : Expected Process :=
  (findExecutable host "etn-nut-powerconnect".toList).map (fun path =>
    proc.hold
      { path := path
        args := ["-x".toList, portArgument address, "-d".toList, "1".toList] })

def init (host : Host) (address : Text) (port : UInt16) (proc : Process) : Expected Process :=
  if proc.protocol = "nut_snmp".toList then setupSnmp host address port proc
  else if proc.protocol = "nut_xml_pdc".toList then setupXmlPdc host address port proc
  else if proc.protocol = "nut_powercom".toList then setupPowercom host address proc
  else .error ("Protocol ".toList ++ proc.protocol ++ " is not supported".toList)

def levelStr : SecurityLevel → Expected Text
  | .noAuthNoPriv => .ok "noAuthNoPriv".toList
  | .authNoPriv => .ok "authNoPriv".toList
  | .authPriv => .ok "authPriv".toList
  | .max => .error "No privs defined".toList

def authProtStr : AuthProtocol → Expected Text
  | .md5 => .ok "MD5".toList
  | .sha => .ok "SHA".toList
  | .max => .error "Wrong protocol".toList

def authPrivStr : PrivProtocol → Expected Text
  | .des => .ok "DES".toList
  | .aes => .ok "AES".toList
  | .max => .error "Wrong protocol".toList

/-- A variable in the environment and the same value among the arguments. -/
def setBoth (envVar name value : Text) (command : Command) : Command :=
  (command.setEnvVar envVar value).addVariable name value

/-- As `setBoth`, nothing where there is no value. -/
def setBothIf (envVar name : Text) (value : Expected Text) (command : Command) : Command :=
  match value with
  | .ok value => setBoth envVar name value command
  | .error _ => command

def setSnmpv3 (credV3 : Snmpv3) (command : Command) : Command :=
  let command := setBoth "SU_VAR_VERSION".toList "snmp_version".toList "v3".toList command
  let command := setBothIf "SU_VAR_SECLEVEL".toList "secLevel".toList (levelStr credV3.securityLevel) command
  let command := setBoth "SU_VAR_SECNAME".toList "secName".toList credV3.securityName command
  let command := setBoth "SU_VAR_AUTHPASSWD".toList "authPassword".toList credV3.authPassword command
  let command := setBoth "SU_VAR_PRIVPASSWD".toList "privPassword".toList credV3.privPassword command
  let command := setBothIf "SU_VAR_AUTHPROT".toList "authProtocol".toList (authProtStr credV3.authProtocol) command
  setBothIf "SU_VAR_PRIVPROT".toList "privProtocol".toList (authPrivStr credV3.privProtocol) command

def setCommunity (community : Text) (proc : Process) : Expected Process :=
  match proc.process with
  | none => .error "uninitialized".toList
  | some command =>
      if proc.protocol ≠ "nut_snmp".toList then .error "unsupported".toList
      else
        .ok (proc.hold (((command.setEnvVar "SU_VAR_VERSION".toList "v1".toList).setEnvVar
          "SU_VAR_COMMUNITY".toList community).addVariable "community".toList community))

/-- The two protocols with credentials catch different exceptions. -/
def setCredentialId (wallet : Wallet) (credential : Text) (proc : Process) : Outcome (Expected Process) :=
  match proc.process with
  | none => .ok (.error "uninitialized".toList)
  | some command =>
      if proc.protocol = "nut_snmp".toList then
        match wallet.socket with
        | .error exn => .error (.thrown exn)
        | .ok () =>
            match wallet.document credential with
            | .ok (.snmpv3 credV3) => .ok (.ok (proc.hold (setSnmpv3 credV3 command)))
            | .ok (.snmpv1 communityName) => .ok (.ok ((setCommunity communityName proc).toOption.getD proc))
            | .ok _ => .ok (.error "Wrong wallet configuratoion".toList)
            | .error (.secw what) => .ok (.error (cString what))
            | .error exn => .error (.thrown exn)
      else if proc.protocol = "nut_powercom".toList then
        match wallet.socket with
        | .error exn => .error (.thrown exn)
        | .ok () =>
            match wallet.document credential with
            | .ok (.userAndPassword username password) =>
                .ok (.ok (proc.hold
                  ((command.addVariable "username".toList username).addVariable "password".toList password)))
            | .ok _ => .ok (.ok proc)
            | .error .unknown => .error (.thrown .unknown)
            | .error (.error what) | .error (.secw what) | .error (.bus what) | .error (.runtime what) =>
                .ok (.error (cString what))
      else .ok (.ok proc)

/-- The null pointer is not checked here. -/
def setCredential (userName password : Text) (proc : Process) : Outcome (Expected Process) :=
  if proc.protocol = "nut_powercom".toList then
    match proc.process with
    | none => .error .undefined
    | some command =>
        .ok (.ok (proc.hold
          ((command.addVariable "username".toList userName).addVariable "password".toList password)))
  else .ok (.ok proc)

def setTimeout (milliseconds : UInt32) (proc : Process) : Expected Process :=
  match proc.process with
  | none => .error "uninitialized".toList
  | some command =>
      if proc.protocol ≠ "nut_snmp".toList then .error "unsupported".toList
      else
        let seconds := Text.decimal (milliseconds / 1000).toNat
        .ok (proc.hold
          ((command.setEnvVar "SU_VAR_TIMEOUT".toList seconds).addVariable "snmp_timeout".toList seconds))

def setMib (mib : Text) (proc : Process) : Expected Process :=
  match proc.process with
  | none => .error "uninitialized".toList
  | some command =>
      if proc.protocol ≠ "nut_snmp".toList then .error "unsupported".toList
      else .ok (proc.hold (command.setEnvVar "SU_VAR_MIBS".toList (MibsReader.mapMibToLegacy mib)))

def run (host : Host) (proc : Process) : Outcome (Expected Text) :=
  match proc.process with
  | none => .error .undefined
  | some command =>
      match host.start command with
      | .error failed => .ok (.error failed)
      | .ok child =>
          match child.stat with
          | .error _ => .error .undefined
          | .ok stat =>
              if stat = 0 then .ok (.ok child.stdout)
              else if proc.protocol = "nut_powercom".toList ∧
                  (Text.find "Error when get client token on".toList child.stderr).isSome then
                .ok (.error "Bad login or password".toList)
              else .ok (.error child.stderr)

end Process

end FtyDiscovery.Nut
