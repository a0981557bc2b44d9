import FtyDiscovery.Nut.Connection

/-! What SNMP is spoken with when a stored credential is used: by the session that reads MIBs, and
by the driver, from its environment and from its arguments. -/

namespace FtyDiscovery

open Base

/-- What a request is sent with. Of the passwords there are the keys that are made of them. -/
inductive SnmpAccess where
  | v1 (community : Text)
  | v3 (securityName : Text) (securityLevel : Option SecurityLevel) (authProtocol : Option AuthProtocol)
      (privProtocol : Option PrivProtocol) (authKey privKey : Option Text)
  deriving DecidableEq, Repr

/-- The bytes of a buffer that holds this text and a terminator; behind that is foreign memory. -/
def bufferBytes (text : Text) (len : Nat) : Option Text :=
  if len ≤ text.length + 1 then some ((text ++ ['\x00']).take len) else none

theorem length_cString_le (text : Text) : (cString text).length ≤ text.length :=
  (List.takeWhile_prefix _).length_le

theorem bufferBytes_cString_iff (text : Text) :
    bufferBytes (cString text) text.length = some (cString text) ↔ '\x00' ∉ text := by
  constructor
  · intro whole stopped
    unfold bufferBytes at whole
    split at whole
    next within =>
      have lengths := congrArg List.length (Option.some.inj whole)
      have all : cString text = text := (List.takeWhile_prefix _).eq_of_length (by
        rw [List.length_take, List.length_append, List.length_singleton] at lengths
        change (cString text).length = text.length
        omega)
      have none_kept : '\x00' ∉ cString text := fun member => by simpa using List.mem_takeWhile_imp member
      exact none_kept (all.symm ▸ stopped)
    next => cases whole
  · intro free
    rw [cString_eq_self free, bufferBytes, if_pos (Nat.le_succ _), List.take_left' rfl]

namespace Snmp.Session

def access (sess : Session) : Option SnmpAccess :=
  match sess.version with
  | none => none
  | some .v1 => (bufferBytes sess.community sess.communityLen).map .v1
  | some .v3 =>
      (bufferBytes sess.securityName sess.securityNameLen).map (fun name =>
        .v3 name sess.securityLevel sess.securityAuthProto sess.securityPrivProto sess.securityAuthKey
          sess.securityPrivKey)

theorem access_setSnmpv3 (lib : NetSnmp) (credV3 : Snmpv3) (addr : Text) (port : UInt16) :
    ((create addr port).setSnmpv3 lib credV3).access =
      (bufferBytes (cString credV3.securityName) credV3.securityName.length).map (fun name =>
        .v3 name (level credV3.securityLevel).toOption (authProt credV3.authProtocol).toOption
          (authPriv credV3.privProtocol).toOption
          (lib.generateKu (authProt credV3.authProtocol).toOption
            ((authProt credV3.authProtocol).toOption.elim 0 (fun _ => NetSnmp.usmAuthKuLen)) credV3.authPassword)
          (lib.generateKu (authProt credV3.authProtocol).toOption
            ((authPriv credV3.privProtocol).toOption.elim 0 (fun _ => NetSnmp.usmPrivKuLen)) credV3.privPassword)) := by
  have key (hashtype : Option AuthProtocol) (passphrase : Text) (len : Nat) :
      (generateKey lib hashtype passphrase none len).1 = lib.generateKu hashtype len passphrase := by
    unfold generateKey
    cases lib.generateKu hashtype len passphrase <;> rfl
  unfold setSnmpv3 access
  cases level credV3.securityLevel <;> cases authProt credV3.authProtocol <;> cases authPriv credV3.privProtocol <;>
    simp only [create, Except.toOption, key, Option.elim_none, Option.elim_some]

end Snmp.Session

namespace Nut

open Snmp

namespace Command

def inEnv (command : Command) (name : Text) : Option Text := (command.env.lookup name).map cString

theorem inEnv_setEnvVar (envVar other value : Text) (command : Command) :
    (command.setEnvVar envVar value).inEnv other =
      if other = envVar then some (cString value) else command.inEnv other := by
  split
  next same => rw [same, inEnv, lookup_setEnvVar, Option.map_some]
  next ne => rw [inEnv, lookup_setEnvVar_ne ne, ← inEnv]

def valueIn (name arg : Text) : Option Text :=
  if (name ++ ['=']).isPrefixOf arg then some (arg.drop (name.length + 1)) else none

def given (command : Command) (name : Text) : Option Text :=
  command.args.findSome? (fun arg => valueIn name (cString arg))

def Plain (name : Text) : Prop := '=' ∉ name ∧ '\x00' ∉ name

instance (name : Text) : Decidable (Plain name) := inferInstanceAs (Decidable (_ ∧ _))

theorem cString_variable {name : Text} (plain : Plain name) (value : Text) :
    cString (name ++ '=' :: value) = name ++ '=' :: cString value := by
  rw [cString, List.takeWhile_append_of_pos, List.takeWhile_cons_of_pos (by decide), cString]
  exact fun c member => bne_iff_ne.mpr (ne_of_mem_of_not_mem member plain.2)

theorem valueIn_variable {name other : Text} (plain : Plain name) (plain' : Plain other) (value : Text) :
    valueIn other (cString (name ++ '=' :: value)) = if other = name then some (cString value) else none := by
  rw [cString_variable plain, valueIn]
  by_cases same : other = name
  · rw [if_pos same, if_pos (List.isPrefixOf_iff_prefix.mpr ((Text.stop_prefix_iff plain'.1 plain.1).mpr same)), same,
      List.append_cons, List.drop_left' (by simp)]
  · rw [if_neg same, if_neg]
    exact fun occurs => same ((Text.stop_prefix_iff plain'.1 plain.1).mp (List.isPrefixOf_iff_prefix.mp occurs))

theorem valueIn_option (name : Text) : valueIn name (cString "-x".toList) = none := by
  have option : cString "-x".toList = "-x".toList := by decide
  rw [option, valueIn, if_neg]
  intro occurs
  have equals : '=' ∈ "-x".toList :=
    (List.isPrefixOf_iff_prefix.mp occurs).subset (List.mem_append_right name (List.mem_singleton_self '='))
  revert equals
  decide

theorem given_addVariable {name other : Text} (plain : Plain name) (plain' : Plain other) (value : Text)
    (command : Command) :
    (command.addVariable name value).given other =
      (command.given other).or (if other = name then some (cString value) else none) := by
  rw [given, addVariable, addArgument, addArgument, List.findSome?_append, List.findSome?_append,
    List.findSome?_singleton, List.findSome?_singleton, valueIn_option, valueIn_variable plain plain', Option.or_none]
  rfl

end Command

structure Told where
  version : Option Text := none
  community : Option Text := none
  secLevel : Option Text := none
  secName : Option Text := none
  authPassword : Option Text := none
  privPassword : Option Text := none
  authProtocol : Option Text := none
  privProtocol : Option Text := none
  deriving DecidableEq, Repr

def Command.toldInEnv (command : Command) : Told where
  version := command.inEnv "SU_VAR_VERSION".toList
  community := command.inEnv "SU_VAR_COMMUNITY".toList
  secLevel := command.inEnv "SU_VAR_SECLEVEL".toList
  secName := command.inEnv "SU_VAR_SECNAME".toList
  authPassword := command.inEnv "SU_VAR_AUTHPASSWD".toList
  privPassword := command.inEnv "SU_VAR_PRIVPASSWD".toList
  authProtocol := command.inEnv "SU_VAR_AUTHPROT".toList
  privProtocol := command.inEnv "SU_VAR_PRIVPROT".toList

def Command.toldInArgs (command : Command) : Told where
  version := command.given "snmp_version".toList
  community := command.given "community".toList
  secLevel := command.given "secLevel".toList
  secName := command.given "secName".toList
  authPassword := command.given "authPassword".toList
  privPassword := command.given "privPassword".toList
  authProtocol := command.given "authProtocol".toList
  privProtocol := command.given "privProtocol".toList

def securityLevelOf (word : Text) : Option SecurityLevel :=
  [("noAuthNoPriv".toList, .noAuthNoPriv), ("authNoPriv".toList, .authNoPriv), ("authPriv".toList, .authPriv)].lookup word

def authProtocolOf (word : Text) : Option AuthProtocol :=
  [("MD5".toList, .md5), ("SHA".toList, .sha)].lookup word

def privProtocolOf (word : Text) : Option PrivProtocol :=
  [("DES".toList, .des), ("AES".toList, .aes)].lookup word

/-- What a driver speaks SNMP with that is told this: its keys are as long as they can be, and without a
version it is the first. -/
def spoken (lib : NetSnmp) (told : Told) : Option SnmpAccess :=
  if told.version = some "v3".toList then
    let prot := told.authProtocol.bind authProtocolOf
    told.secName.map (fun name =>
      .v3 name (told.secLevel.bind securityLevelOf) prot (told.privProtocol.bind privProtocolOf)
        (told.authPassword.bind (lib.generateKu prot NetSnmp.usmAuthKuLen))
        (told.privPassword.bind (lib.generateKu prot NetSnmp.usmPrivKuLen)))
  else if told.version.getD "v1".toList = "v1".toList then told.community.map .v1
  else none

theorem securityLevelOf_levelStr (lvl : SecurityLevel) :
    ((Process.levelStr lvl).toOption.map cString).bind securityLevelOf = (level lvl).toOption := by
  cases lvl <;> decide

theorem authProtocolOf_authProtStr (prot : AuthProtocol) :
    ((Process.authProtStr prot).toOption.map cString).bind authProtocolOf = (authProt prot).toOption := by
  cases prot <;> decide

theorem privProtocolOf_authPrivStr (prot : PrivProtocol) :
    ((Process.authPrivStr prot).toOption.map cString).bind privProtocolOf = (authPriv prot).toOption := by
  cases prot <;> decide

def toldV3 (credV3 : Snmpv3) : Told where
  version := some "v3".toList
  secLevel := (Process.levelStr credV3.securityLevel).toOption.map cString
  secName := some (cString credV3.securityName)
  authPassword := some (cString credV3.authPassword)
  privPassword := some (cString credV3.privPassword)
  authProtocol := (Process.authProtStr credV3.authProtocol).toOption.map cString
  privProtocol := (Process.authPrivStr credV3.privProtocol).toOption.map cString

theorem spoken_toldV3 (lib : NetSnmp) (credV3 : Snmpv3) :
    spoken lib (toldV3 credV3) =
      some (.v3 (cString credV3.securityName) (level credV3.securityLevel).toOption
        (authProt credV3.authProtocol).toOption (authPriv credV3.privProtocol).toOption
        (lib.generateKu (authProt credV3.authProtocol).toOption NetSnmp.usmAuthKuLen (cString credV3.authPassword))
        (lib.generateKu (authProt credV3.authProtocol).toOption NetSnmp.usmPrivKuLen (cString credV3.privPassword))) := by
  simp only [spoken, toldV3, if_true, securityLevelOf_levelStr, authProtocolOf_authProtStr,
    privProtocolOf_authPrivStr, Option.map_some, Option.bind_some]

namespace Process

theorem inEnv_setBothIf (envVar name other : Text) (value : Expected Text) (command : Command) :
    (setBothIf envVar name value command).inEnv other =
      if other = envVar then (value.toOption.map cString).or (command.inEnv other) else command.inEnv other := by
  cases value with
  | error _ => simp [setBothIf, Except.toOption]
  | ok value => exact Command.inEnv_setEnvVar envVar other value command

theorem given_setBothIf (envVar : Text) {name other : Text} (plain : Command.Plain name)
    (plain' : Command.Plain other)
    (value : Expected Text) (command : Command) :
    (setBothIf envVar name value command).given other =
      (command.given other).or (if other = name then value.toOption.map cString else none) := by
  cases value with
  | error _ => simp [setBothIf, Except.toOption]
  | ok value => exact Command.given_addVariable plain plain' value (command.setEnvVar envVar value)

theorem setBoth_eq (envVar name value : Text) (command : Command) :
    setBoth envVar name value command = setBothIf envVar name (.ok value) command := rfl

theorem toldInEnv_setSnmpv3 (credV3 : Snmpv3) {command : Command} (nothing : command.toldInEnv = {}) :
    (setSnmpv3 credV3 command).toldInEnv = toldV3 credV3 := by
  simp only [Command.toldInEnv, Told.mk.injEq] at nothing
  obtain ⟨version, community, secLevel, secName, authPassword, privPassword, authProtocol, privProtocol⟩ := nothing
  simp only [Command.toldInEnv, toldV3, setSnmpv3, setBoth_eq, inEnv_setBothIf, String.toList_inj, String.reduceEq,
    reduceIte, community, secLevel, authProtocol, privProtocol, Option.or_none]
  rfl

theorem toldInArgs_setSnmpv3 (credV3 : Snmpv3) {command : Command} (nothing : command.toldInArgs = {}) :
    (setSnmpv3 credV3 command).toldInArgs = toldV3 credV3 := by
  simp only [Command.toldInArgs, Told.mk.injEq] at nothing
  obtain ⟨version, community, secLevel, secName, authPassword, privPassword, authProtocol, privProtocol⟩ := nothing
  simp (disch := decide) only [Command.toldInArgs, toldV3, setSnmpv3, setBoth_eq, given_setBothIf,
    String.toList_inj, String.reduceEq, reduceIte, version, community, secLevel, secName, authPassword, privPassword,
    authProtocol, privProtocol, Option.or_none, Option.none_or]
  rfl

theorem setCommunity_ok {proc : Process} {command : Command} (held : proc.process = some command)
    (snmp : proc.protocol = "nut_snmp".toList) (community : Text) :
    setCommunity community proc = .ok (proc.hold (((command.setEnvVar "SU_VAR_VERSION".toList "v1".toList).setEnvVar
      "SU_VAR_COMMUNITY".toList community).addVariable "community".toList community)) := by
  rw [setCommunity, held]
  exact if_neg (fun other => other snmp)

theorem spoken_setCommunity (lib : NetSnmp) {proc set : Process} {command : Command}
    (held : proc.process = some command) (snmp : proc.protocol = "nut_snmp".toList)
    (nothing : command.toldInEnv = {}) (nothing' : command.toldInArgs = {}) {community : Text}
    (ok : setCommunity community proc = .ok set) :
    ∃ command', set.process = some command' ∧ spoken lib command'.toldInEnv = some (.v1 (cString community)) ∧
      spoken lib command'.toldInArgs = some (.v1 (cString community)) := by
  rw [setCommunity_ok held snmp] at ok
  obtain rfl := Except.ok.inj ok
  simp only [Command.toldInEnv, Told.mk.injEq] at nothing
  simp only [Command.toldInArgs, Told.mk.injEq] at nothing'
  have inEnv : ((command.setEnvVar "SU_VAR_VERSION".toList "v1".toList).setEnvVar "SU_VAR_COMMUNITY".toList
      community).toldInEnv = { version := some (cString "v1".toList), community := some (cString community) } := by
    simp only [Command.toldInEnv, Command.inEnv_setEnvVar, String.toList_inj, String.reduceEq, reduceIte, nothing]
  have inArgs : (command.addVariable "community".toList community).toldInArgs =
      { community := some (cString community) } := by
    simp (disch := decide) only [Command.toldInArgs, Command.given_addVariable, String.toList_inj, String.reduceEq,
      reduceIte, nothing', Option.none_or]
  exact ⟨_, rfl, (congrArg (spoken lib) inEnv).trans rfl, (congrArg (spoken lib) inArgs).trans rfl⟩

theorem init_snmp {host : Host} {address : Text} {port : UInt16} {proc : Process}
    (fresh : (create host "nut_snmp".toList).init host address port = .ok proc) :
    proc.protocol = "nut_snmp".toList ∧ ∃ command, proc.process = some command ∧ command.toldInEnv = {} ∧
      command.toldInArgs = {} := by
  refine ⟨protocol_init fresh, ?_⟩
  rw [init, if_pos (show (create host "nut_snmp".toList).protocol = "nut_snmp".toList from rfl)] at fresh
  obtain ⟨path, -, rfl⟩ := ok_of_map fresh
  exact ⟨_, rfl, rfl, rfl⟩

end Process

/-- Both report an error, or both are set up to speak SNMP in one and the same way. -/
def Agree (lib : NetSnmp) (read : Outcome (Expected Session)) (driven : Outcome (Expected Process)) : Prop :=
  match read, driven with
  | .ok (.ok sess), .ok (.ok proc) =>
      ∃ access command, sess.access = some access ∧ proc.process = some command ∧
        spoken lib command.toldInEnv = some access ∧ spoken lib command.toldInArgs = some access
  | .ok (.error _), .ok (.error _) => True
  | .error stop, .error stop' => stop = stop'
  | _, _ => False

/-- What is known of `generate_Ku`: it fails without a hash, without room, and for a passphrase that is too short,
and only for these. -/
structure KuRules (lib : NetSnmp) : Prop where
  hash : ∀ len passphrase, lib.generateKu none len passphrase = none
  room : ∀ prot passphrase, lib.generateKu (some prot) 0 passphrase = none
  short : ∀ prot passphrase, lib.generateKu (some prot) NetSnmp.usmAuthKuLen passphrase = none ↔
    passphrase.length < NetSnmp.usmLengthPMin

/-- A passphrase and its part before the first NUL are different and have one key. -/
def Collide (lib : NetSnmp) (prot : AuthProtocol) (passphrase : Text) : Prop :=
  ∃ key, lib.generateKu (some prot) NetSnmp.usmAuthKuLen passphrase = some key ∧
    lib.generateKu (some prot) NetSnmp.usmAuthKuLen (cString passphrase) = some key

/-- The driver reads all of the passphrase that the session makes a key of, if it makes any. -/
def Legible (lib : NetSnmp) (prot : AuthProtocol) (passphrase : Text) : Prop :=
  '\x00' ∉ passphrase ∨ passphrase.length < NetSnmp.usmLengthPMin ∨ Collide lib prot passphrase

/-- A credential for SNMP of which the driver reads all that the session has, and the session has all that the
driver reads: without a privacy protocol the session has no key, whatever the passphrase. -/
def Usable (lib : NetSnmp) : Document → Prop
  | .snmpv3 credV3 =>
      '\x00' ∉ credV3.securityName ∧ ∀ prot, authProt credV3.authProtocol = .ok prot →
        Legible lib prot credV3.authPassword ∧
          if credV3.privProtocol = .max then (cString credV3.privPassword).length < NetSnmp.usmLengthPMin
          else Legible lib prot credV3.privPassword
  | .snmpv1 communityName => '\x00' ∉ communityName
  | _ => False

theorem legible_iff {lib : NetSnmp} (rules : KuRules lib) (prot : AuthProtocol) (passphrase : Text) :
    lib.generateKu (some prot) NetSnmp.usmAuthKuLen passphrase =
        lib.generateKu (some prot) NetSnmp.usmAuthKuLen (cString passphrase) ↔ Legible lib prot passphrase := by
  constructor
  · intro same
    cases made : lib.generateKu (some prot) NetSnmp.usmAuthKuLen passphrase with
    | none => exact .inr (.inl ((rules.short prot passphrase).mp made))
    | some key => exact .inr (.inr ⟨key, made, same.symm.trans made⟩)
  · rintro (free | short | ⟨key, made, made'⟩)
    · rw [cString_eq_self free]
    · rw [(rules.short prot _).mpr short,
        (rules.short prot _).mpr ((length_cString_le passphrase).trans_lt short)]
    · rw [made, made']

theorem agree_iff_access {lib : NetSnmp} {sess : Session} {proc : Process} {command : Command} {access : SnmpAccess}
    (held : proc.process = some command) (inEnv : spoken lib command.toldInEnv = some access)
    (inArgs : spoken lib command.toldInArgs = some access) :
    Agree lib (.ok (.ok sess)) (.ok (.ok proc)) ↔ sess.access = some access := by
  constructor
  · intro ⟨access', command', speaks, held', inEnv', _⟩
    obtain rfl := Option.some.inj (held.symm.trans held')
    rw [speaks, ← inEnv', inEnv]
  · intro speaks
    exact ⟨access, command, speaks, held, inEnv, inArgs⟩

theorem keys_eq_iff {lib : NetSnmp} (rules : KuRules lib) (credV3 : Snmpv3) :
    (lib.generateKu (authProt credV3.authProtocol).toOption
          ((authProt credV3.authProtocol).toOption.elim 0 (fun _ => NetSnmp.usmAuthKuLen)) credV3.authPassword =
        lib.generateKu (authProt credV3.authProtocol).toOption NetSnmp.usmAuthKuLen (cString credV3.authPassword) ∧
      lib.generateKu (authProt credV3.authProtocol).toOption
          ((authPriv credV3.privProtocol).toOption.elim 0 (fun _ => NetSnmp.usmPrivKuLen)) credV3.privPassword =
        lib.generateKu (authProt credV3.authProtocol).toOption NetSnmp.usmPrivKuLen (cString credV3.privPassword)) ↔
      ∀ prot, authProt credV3.authProtocol = .ok prot → Legible lib prot credV3.authPassword ∧
        if credV3.privProtocol = .max then (cString credV3.privPassword).length < NetSnmp.usmLengthPMin
        else Legible lib prot credV3.privPassword := by
  cases known : authProt credV3.authProtocol with
  | error failed => simp [Except.toOption, rules.hash]
  | ok prot =>
    simp only [Except.toOption, Option.elim_some, Except.ok.injEq, forall_eq', legible_iff rules]
    refine and_congr_right (fun _ => ?_)
    cases priv : credV3.privProtocol with
    | max => exact eq_comm.trans ((rules.room prot _).symm ▸ rules.short prot _)
    | des => exact legible_iff rules prot credV3.privPassword
    | aes => exact legible_iff rules prot credV3.privPassword

theorem v3_access_iff {name : Text} {lvl : Option SecurityLevel} {auth : Option AuthProtocol}
    {priv : Option PrivProtocol} {authKey privKey authKey' privKey' : Option Text} :
    (bufferBytes (cString name) name.length).map (fun name => SnmpAccess.v3 name lvl auth priv authKey privKey) =
        some (.v3 (cString name) lvl auth priv authKey' privKey') ↔
      '\x00' ∉ name ∧ authKey = authKey' ∧ privKey = privKey' := by
  rw [← bufferBytes_cString_iff, Option.map_eq_some_iff]
  constructor
  · rintro ⟨read, whole, same⟩
    obtain ⟨rfl, -, -, -, first, second⟩ := SnmpAccess.v3.inj same
    exact ⟨whole, first, second⟩
  · rintro ⟨whole, rfl, rfl⟩
    exact ⟨cString name, whole, rfl⟩

theorem v1_access_iff {community : Text} :
    (bufferBytes (cString community) community.length).map SnmpAccess.v1 = some (.v1 (cString community)) ↔
      '\x00' ∉ community := by
  have injective : Function.Injective SnmpAccess.v1 := fun _ _ same => SnmpAccess.v1.inj same
  rw [← bufferBytes_cString_iff, ← Option.map_some, (Option.map_injective injective).eq_iff]

def driverHost : Host where
  tempDir := some "/tmp/nut1".toList
  executable _ := true
  start _ := .ok ⟨.ok 0, [], []⟩
  mibDatabase := "mibs".toList

def twoDocuments : Wallet where
  socket := .ok ()
  document credential :=
    if credential = "v3".toList then
      .ok (.snmpv3 ⟨"admin".toList, .authNoPriv, .md5, "maplesyrup".toList, .max, []⟩)
    else .ok (.userAndPassword "admin".toList "secret".toList)

def maplesyrupKey : Text :=
  ['\x9f', '\xaf', '\x32', '\x83', '\x88', '\x4e', '\x92', '\x83',
    '\x4e', '\xbc', '\x98', '\x47', '\xd8', '\xed', '\xd9', '\x63']

def keyedLib : NetSnmp :=
  { NetSnmp.loaded [] with
    generateKu := fun hashtype kulen passphrase =>
      ((NetSnmp.loaded []).generateKu hashtype kulen passphrase).map (fun key =>
        if passphrase = "maplesyrup".toList then maplesyrupKey else key) }

theorem keyedLib_none_iff {hashtype : Option AuthProtocol} {kulen : Nat} {passphrase : Text} :
    keyedLib.generateKu hashtype kulen passphrase = none ↔
      ¬(hashtype.isSome ∧ NetSnmp.usmAuthKuLen ≤ kulen ∧ NetSnmp.usmLengthPMin ≤ passphrase.length) :=
  Option.map_eq_none_iff.trans
    (ite_eq_right_iff.trans (forall_congr' (fun _ => iff_of_false (Option.some_ne_none _) id)))

theorem keyedLib_rules : KuRules keyedLib where
  hash _ _ := keyedLib_none_iff.mpr (fun allowed => Bool.false_ne_true allowed.1)
  room _ _ := keyedLib_none_iff.mpr (fun allowed => absurd allowed.2.1 (by decide))
  short _ _ := by
    rw [keyedLib_none_iff, ← not_le]
    exact not_congr ⟨fun allowed => allowed.2.2, fun long => ⟨rfl, le_rfl, long⟩⟩

end Nut

end FtyDiscovery
