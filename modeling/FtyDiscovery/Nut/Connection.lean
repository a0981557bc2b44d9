import Mathlib.Data.List.DropRight
import FtyDiscovery.Nut.Process

/-! The connection string of a driver: set by the set-up of the protocol, kept by every setting
that comes after it, as the protocol itself is. -/

namespace FtyDiscovery.Nut

open Base

def Command.connection (command : Command) : Option Text :=
  command.args.findSome? (fun arg =>
    if "port=".toList.isPrefixOf arg then some (arg.drop "port=".toList.length) else none)

theorem ok_of_map {α β : Type} {expected : Expected α} {f : α → β} {b : β} (ok : expected.map f = .ok b) :
    ∃ a, expected = .ok a ∧ f a = b := by
  cases expected with
  | ok a => exact ⟨a, rfl, Except.ok.inj ok⟩
  | error _ => cases ok

def Command.Extends (before after : Command) : Prop := before.args <+: after.args

namespace Command

theorem Extends.trans {first second third : Command} (before : first.Extends second)
    (after : second.Extends third) : first.Extends third := List.IsPrefix.trans before after

theorem extends_addArgument (arg : Text) (command : Command) : command.Extends (command.addArgument arg) :=
  List.prefix_append ..

theorem extends_setEnvVar (name value : Text) (command : Command) :
    command.Extends (command.setEnvVar name value) := List.prefix_refl _

theorem extends_addVariable (name value : Text) (command : Command) :
    command.Extends (command.addVariable name value) :=
  (extends_addArgument _ command).trans (extends_addArgument _ _)

theorem Extends.connection {before after : Command} (longer : before.Extends after) {target : Text}
    (connects : before.connection = some target) : after.connection = some target := by
  obtain ⟨more, whole⟩ := longer
  rw [Command.connection, ← whole, List.findSome?_append]
  rw [Command.connection] at connects
  rw [connects, Option.some_or]

theorem connection_eq {command : Command} (before : List Text) {after : List Text} {target : Text}
    (args : command.args = before ++ Process.portArgument target :: after)
    (others : ∀ arg ∈ before, "port=".toList.isPrefixOf arg = false) : command.connection = some target := by
  have start : "port=".toList.isPrefixOf (Process.portArgument target) = true :=
    List.isPrefixOf_iff_prefix.mpr (List.prefix_append ..)
  rw [Command.connection, args, List.findSome?_append, List.findSome?_eq_none_iff.mpr, Option.none_or,
    List.findSome?_cons, if_pos start, Process.portArgument, List.drop_left]
  intro arg member
  rw [others arg member]
  rfl

end Command

namespace Process

theorem extends_setBoth (envVar name value : Text) (command : Command) :
    command.Extends (setBoth envVar name value command) :=
  (Command.extends_setEnvVar envVar value command).trans (Command.extends_addVariable name value _)

theorem extends_setBothIf (envVar name : Text) (value : Expected Text) (command : Command) :
    command.Extends (setBothIf envVar name value command) := by
  cases value with
  | ok value => exact extends_setBoth envVar name value command
  | error _ => exact List.prefix_refl _

theorem extends_setSnmpv3 (credV3 : Snmpv3) (command : Command) : command.Extends (setSnmpv3 credV3 command) :=
  (extends_setBoth _ _ _ _).trans <| (extends_setBothIf _ _ _ _).trans <| (extends_setBoth _ _ _ _).trans <|
    (extends_setBoth _ _ _ _).trans <| (extends_setBoth _ _ _ _).trans <| (extends_setBothIf _ _ _ _).trans <|
    extends_setBothIf _ _ _ _

def connection (proc : Process) : Option Text := proc.process.bind Command.connection

def Keeps (before after : Process) : Prop :=
  ∀ target, before.connection = some target → after.connection = some target

inductive Adds (proc : Process) : Process → Prop where
  | same : Adds proc proc
  | held {before after : Command} (held : proc.process = some before) (longer : before.Extends after) :
      Adds proc (proc.hold after)

theorem Adds.trans {first second third : Process} (before : Adds first second) (after : Adds second third) :
    Adds first third := by
  cases before with
  | same => exact after
  | held held longer =>
    cases after with
    | same => exact .held held longer
    | held held' longer' =>
      obtain rfl := Option.some.inj held'
      exact .held held (longer.trans longer')

theorem Adds.keeps {proc set : Process} (adds : Adds proc set) : Keeps proc set := by
  intro target connects
  cases adds with
  | same => exact connects
  | held held longer =>
    rw [connection, held] at connects
    exact longer.connection connects

theorem Adds.protocol {proc set : Process} (adds : Adds proc set) : set.protocol = proc.protocol := by
  cases adds with
  | same => rfl
  | held held longer => rfl

theorem adds_getD {proc : Process} {step : Expected Process} (adds : ∀ set, step = .ok set → Adds proc set) :
    Adds proc (step.toOption.getD proc) := by
  cases step with
  | ok set => exact adds set rfl
  | error _ => exact .same

theorem adds_setCommunity {community : Text} {proc set : Process}
    (ok : setCommunity community proc = .ok set) : Adds proc set := by
  unfold setCommunity at ok
  split at ok
  next => cases ok
  next command held =>
    split at ok
    next => cases ok
    next =>
      obtain rfl := Except.ok.inj ok
      exact .held held ((Command.extends_setEnvVar _ _ _).trans <|
        (Command.extends_setEnvVar _ _ _).trans (Command.extends_addVariable _ _ _))

theorem adds_setCredentialId {wallet : Wallet} {credential : Text} {proc set : Process}
    (ok : setCredentialId wallet credential proc = .ok (.ok set)) : Adds proc set := by
  unfold setCredentialId at ok
  split at ok
  next => cases ok
  next command held =>
    split at ok
    next snmp =>
      split at ok
      next => cases ok
      next =>
        split at ok
        next credV3 _ =>
          obtain rfl := Except.ok.inj (Except.ok.inj ok)
          exact .held held (extends_setSnmpv3 credV3 command)
        next =>
          obtain rfl := Except.ok.inj (Except.ok.inj ok)
          exact adds_getD (fun _ => adds_setCommunity)
        next => cases ok
        next => cases ok
        next => cases ok
    next =>
      split at ok
      next powercom =>
        split at ok
        next => cases ok
        next =>
          split at ok
          next =>
            obtain rfl := Except.ok.inj (Except.ok.inj ok)
            exact .held held ((Command.extends_addVariable _ _ _).trans (Command.extends_addVariable _ _ _))
          next =>
            obtain rfl := Except.ok.inj (Except.ok.inj ok)
            exact .same
          next => cases ok
          next => cases ok
          next => cases ok
          next => cases ok
          next => cases ok
      next =>
        obtain rfl := Except.ok.inj (Except.ok.inj ok)
        exact .same

theorem adds_setCredential {userName password : Text} {proc set : Process}
    (ok : setCredential userName password proc = .ok (.ok set)) : Adds proc set := by
  unfold setCredential at ok
  split at ok
  next =>
    split at ok
    next => cases ok
    next command held =>
      obtain rfl := Except.ok.inj (Except.ok.inj ok)
      exact .held held ((Command.extends_addVariable _ _ _).trans (Command.extends_addVariable _ _ _))
  next =>
    obtain rfl := Except.ok.inj (Except.ok.inj ok)
    exact .same

theorem adds_setTimeout {milliseconds : UInt32} {proc set : Process}
    (ok : setTimeout milliseconds proc = .ok set) : Adds proc set := by
  unfold setTimeout at ok
  split at ok
  next => cases ok
  next command held =>
    split at ok
    next => cases ok
    next =>
      obtain rfl := Except.ok.inj ok
      exact .held held ((Command.extends_setEnvVar _ _ _).trans (Command.extends_addVariable _ _ _))

theorem adds_setMib {mib : Text} {proc set : Process} (ok : setMib mib proc = .ok set) : Adds proc set := by
  unfold setMib at ok
  split at ok
  next => cases ok
  next command held =>
    split at ok
    next => cases ok
    next =>
      obtain rfl := Except.ok.inj ok
      exact .held held (Command.extends_setEnvVar _ _ _)

/-- What the set-up of a protocol connects to. -/
def target (protocol address : Text) (port : UInt16) : Text :=
  if protocol = "nut_snmp".toList then toconnect address (if port = 0 then 161 else port)
  else if protocol = "nut_xml_pdc".toList then
    if Text.find "http://".toList address ≠ some 0 then
      "http://".toList ++ toconnect address (if port = 0 then 80 else port)
    else toconnect address (if port = 0 then 80 else port)
  else address

theorem init_connection {host : Host} {address : Text} {port : UInt16} {proc started : Process}
    (ok : init host address port proc = .ok started) :
    started.connection = some (target proc.protocol address port) := by
  unfold init at ok
  unfold target
  split at ok
  next snmp =>
    rw [if_pos snmp]
    unfold setupSnmp at ok
    obtain ⟨path, -, rfl⟩ := ok_of_map ok
    exact Command.connection_eq ["-s".toList, "discover".toList, "-x".toList] rfl (by decide)
  next other =>
    rw [if_neg other]
    split at ok
    next xml =>
      rw [if_pos xml]
      unfold setupXmlPdc at ok
      obtain ⟨path, -, rfl⟩ := ok_of_map ok
      exact Command.connection_eq ["-s".toList, "discover".toList, "-x".toList] rfl (by decide)
    next other' =>
      rw [if_neg other']
      split at ok
      next powercom =>
        unfold setupPowercom at ok
        obtain ⟨path, -, rfl⟩ := ok_of_map ok
        exact Command.connection_eq ["-x".toList] rfl (by decide)
      next => cases ok

theorem protocol_init {host : Host} {address : Text} {port : UInt16} {proc started : Process}
    (ok : init host address port proc = .ok started) : started.protocol = proc.protocol := by
  unfold init at ok
  split at ok
  next =>
    obtain ⟨path, -, rfl⟩ := ok_of_map ok
    rfl
  next =>
    split at ok
    next =>
      obtain ⟨path, -, rfl⟩ := ok_of_map ok
      rfl
    next =>
      split at ok
      next =>
        obtain ⟨path, -, rfl⟩ := ok_of_map ok
        rfl
      next => cases ok

theorem known_of_init {host : Host} {address : Text} {port : UInt16} {proc started : Process}
    (ok : init host address port proc = .ok started) :
    proc.protocol = "nut_snmp".toList ∨ proc.protocol = "nut_xml_pdc".toList ∨
      proc.protocol = "nut_powercom".toList := by
  by_contra unknown
  rw [not_or, not_or] at unknown
  rw [init, if_neg unknown.1, if_neg unknown.2.1, if_neg unknown.2.2] at ok
  cases ok

end Process

end FtyDiscovery.Nut
