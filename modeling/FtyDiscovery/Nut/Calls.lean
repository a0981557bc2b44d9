import FtyDiscovery.Nut.Connection

/-! The calls of a driver's methods in any order: when one of them uses what it does not have. -/

namespace FtyDiscovery.Nut

open Base

inductive Call where
  | init (host : Host) (address : Text) (port : UInt16)
  | setCredentialId (wallet : Wallet) (credential : Text)
  | setCredential (userName password : Text)
  | setCommunity (community : Text)
  | setTimeout (milliseconds : UInt32)
  | setMib (mib : Text)
  | run (host : Host)

namespace Call

abbrev Returned := Outcome (Expected (Process × Option Text))

def set (proc : Process) : Process × Option Text := (proc, none)

def perform (proc : Process) : Call → Returned
  | .init host address port => .ok ((proc.init host address port).map set)
  | .setCredentialId wallet credential => (proc.setCredentialId wallet credential).map (fun ret => ret.map set)
  | .setCredential userName password => (proc.setCredential userName password).map (fun ret => ret.map set)
  | .setCommunity community => .ok ((proc.setCommunity community).map set)
  | .setTimeout milliseconds => .ok ((proc.setTimeout milliseconds).map set)
  | .setMib mib => .ok ((proc.setMib mib).map set)
  | .run host => (proc.run host).map (fun ret => ret.map (fun out => (proc, some out)))

def Returned.object (proc : Process) : Returned → Process
  | .ok (.ok (set, _)) => set
  | _ => proc

def after (proc : Process) (call : Call) : Process := (perform proc call).object proc

def reached (host : Host) (protocol : Text) (calls : List Call) : Process :=
  calls.foldl after (Process.create host protocol)

def Uses (protocol : Text) : Call → Prop
  | .init .. => False
  | .setCredential .. => protocol = "nut_powercom".toList
  | _ => True

/-- A call that uses only what it has: one that needs the process returns an error where there is
none, and the output of `run` is that of a child that was started, waited for and exited with 0. -/
structure Sound (proc : Process) (call : Call) : Prop where
  defined : perform proc call ≠ .error .undefined
  refused : proc.process = none → call.Uses proc.protocol → ∃ failed, perform proc call = .ok (.error failed)
  output : ∀ set out, perform proc call = .ok (.ok (set, some out)) → ∃ host command child,
    call = .run host ∧ proc.process = some command ∧ host.start command = .ok child ∧ child.stat = .ok 0 ∧
      out = child.stdout

def Has (proc : Process) : Call → Prop
  | .setCredential .. => proc.protocol = "nut_powercom".toList → proc.process ≠ none
  | .run host => ∃ command, proc.process = some command ∧
      ∀ child, host.start command = .ok child → child.stat.toBool = true
  | _ => True

def driver (protocol : Text) : Option Text :=
  if protocol = "nut_snmp".toList then some "snmp-ups".toList
  else if protocol = "nut_xml_pdc".toList then some "netxml-ups".toList
  else if protocol = "nut_powercom".toList then some "etn-nut-powerconnect".toList
  else none

def Installed (host : Host) (protocol : Text) : Prop :=
  ∃ name, driver protocol = some name ∧ (Process.findExecutable host name).toBool = true

def Inits (protocol : Text) : Call → Prop
  | .init host _ _ => Installed host protocol
  | _ => False

/-- The two calls that are not guarded come behind an `init` that succeeds, and a child that is
started can be waited for. -/
def Fits (host : Host) (protocol : Text) (before : List Call) : Call → Prop
  | .setCredential .. => protocol = "nut_powercom".toList → ∃ call ∈ before, call.Inits protocol
  | .run machine =>
      (∃ call ∈ before, call.Inits protocol) ∧
        ∀ command child, (reached host protocol before).process = some command →
          machine.start command = .ok child → child.stat.toBool = true
  | _ => True

theorem init_toBool (host : Host) (address : Text) (port : UInt16) (proc : Process) :
    (proc.init host address port).toBool = true ↔ (Call.init host address port).Inits proc.protocol := by
  have mapped (name : Text) (f : Text → Process) :
      ((Process.findExecutable host name).map f).toBool = (Process.findExecutable host name).toBool := by
    cases Process.findExecutable host name <;> rfl
  unfold Process.init Inits Installed driver
  split
  next =>
    rw [Process.setupSnmp, mapped]
    simp only [Option.some.injEq, exists_eq_left']
  next =>
    split
    next =>
      rw [Process.setupXmlPdc, mapped]
      simp only [Option.some.injEq, exists_eq_left']
    next =>
      split
      next =>
        rw [Process.setupPowercom, mapped]
        simp only [Option.some.injEq, exists_eq_left']
      next => exact iff_of_false Bool.false_ne_true (by simp only [reduceCtorEq, false_and, exists_false, not_false_eq_true])

theorem init_iff (host : Host) (address : Text) (port : UInt16) (proc : Process) :
    (∃ started, proc.init host address port = .ok started) ↔ Installed host proc.protocol := by
  refine Iff.trans ?_ (init_toBool host address port proc)
  cases proc.init host address port <;> simp [Except.toBool]

theorem after_init (host : Host) (address : Text) (port : UInt16) (proc : Process) :
    after proc (.init host address port) = (proc.init host address port).toOption.getD proc := by
  rw [after, perform]
  cases proc.init host address port <;> rfl

theorem adds_after (proc : Process) {call : Call} (other : ∀ host address port, call ≠ .init host address port) :
    proc.Adds (after proc call) := by
  have ofSetting (ret : Outcome (Expected Process)) (performs : perform proc call = ret.map (fun ret => ret.map set))
      (adds : ∀ set, ret = .ok (.ok set) → proc.Adds set) : proc.Adds (after proc call) := by
    rw [after, performs]
    rcases ret with stop | failed | set
    · exact .same
    · exact .same
    · exact adds set rfl
  cases call with
  | init host address port => exact (other host address port rfl).elim
  | setCredentialId wallet credential => exact ofSetting _ rfl (fun _ => Process.adds_setCredentialId)
  | setCredential userName password => exact ofSetting _ rfl (fun _ => Process.adds_setCredential)
  | setCommunity community =>
    exact ofSetting (.ok _) rfl (fun _ ok => Process.adds_setCommunity (Except.ok.inj ok))
  | setTimeout milliseconds =>
    exact ofSetting (.ok _) rfl (fun _ ok => Process.adds_setTimeout (Except.ok.inj ok))
  | setMib mib => exact ofSetting (.ok _) rfl (fun _ ok => Process.adds_setMib (Except.ok.inj ok))
  | run host =>
    rw [after, perform]
    rcases proc.run host with stop | failed | out
    · exact .same
    · exact .same
    · exact .same

theorem protocol_after (proc : Process) (call : Call) : (after proc call).protocol = proc.protocol := by
  by_cases other : ∀ host address port, call ≠ .init host address port
  · exact (adds_after proc other).protocol
  · simp only [not_forall, not_not] at other
    obtain ⟨host, address, port, rfl⟩ := other
    rw [after_init]
    cases ok : proc.init host address port with
    | error failed => rfl
    | ok started => exact Process.protocol_init ok

theorem protocol_reached (host : Host) (protocol : Text) (calls : List Call) :
    (reached host protocol calls).protocol = protocol := by
  induction calls using List.reverseRecOn with
  | nil => rfl
  | append_singleton calls call ih => rw [reached, List.foldl_concat, protocol_after, ← reached, ih]

theorem held_after (proc : Process) (call : Call) :
    (after proc call).process ≠ none ↔ proc.process ≠ none ∨ call.Inits proc.protocol := by
  by_cases other : ∀ host address port, call ≠ .init host address port
  · have unable : ¬call.Inits proc.protocol := by
      cases call with
      | init host address port => exact (other host address port rfl).elim
      | _ => exact not_false
    have adds := adds_after proc other
    rw [or_iff_left unable]
    generalize after proc call = next at adds
    cases adds with
    | same => rfl
    | held held longer => simp [held, Process.hold]
  · simp only [not_forall, not_not] at other
    obtain ⟨host, address, port, rfl⟩ := other
    rw [after_init, ← init_toBool]
    cases ok : proc.init host address port with
    | error failed => simp [Except.toBool, Except.toOption]
    | ok started =>
      have connects := Process.init_connection ok
      refine iff_of_true (fun missing => ?_) (.inr rfl)
      change started.process = none at missing
      rw [Process.connection, missing] at connects
      cases connects

theorem held_iff (host : Host) (protocol : Text) (calls : List Call) :
    (reached host protocol calls).process ≠ none ↔ ∃ call ∈ calls, call.Inits protocol := by
  induction calls using List.reverseRecOn with
  | nil => simp [reached, Process.create]
  | append_singleton calls call ih =>
    rw [reached, List.foldl_concat, ← reached, held_after, ih, protocol_reached]
    simp only [List.mem_append, List.mem_singleton, or_and_right, exists_or, exists_eq_left]

theorem sound_setting {proc : Process} {call : Call} (ret : Outcome (Expected Process))
    (performs : perform proc call = ret.map (fun ret => ret.map set)) (defined : ret ≠ .error .undefined)
    (guarded : proc.process = none → call.Uses proc.protocol → ∃ failed, ret = .ok (.error failed)) :
    Sound proc call := by
  constructor
  · rw [performs]
    intro stops
    cases ret with
    | ok => cases stops
    | error stop => exact defined (congrArg _ (Except.error.inj stops))
  · intro missing uses
    obtain ⟨failed, rfl⟩ := guarded missing uses
    exact ⟨failed, performs⟩
  · intro set' out whole
    rw [performs] at whole
    rcases ret with stop | failed | set
    · cases whole
    · cases whole
    · cases whole

theorem setCredentialId_defined (wallet : Wallet) (credential : Text) (proc : Process) :
    proc.setCredentialId wallet credential ≠ .error .undefined := by
  unfold Process.setCredentialId
  split
  next => simp
  next =>
    split
    next =>
      split
      next => simp
      next => split <;> simp
    next =>
      split
      next =>
        split
        next => simp
        next => split <;> simp
      next => simp

theorem sound_run_missing {proc : Process} (missing : proc.process = none) (host : Host) :
    ¬Sound proc (.run host) := by
  intro sound
  apply sound.defined
  simp only [perform, Process.run, missing]
  rfl

theorem sound_run_unstarted {proc : Process} {host : Host} {command : Command} {failed : Text}
    (held : proc.process = some command) (unstarted : host.start command = .error failed) :
    Sound proc (.run host) := by
  have performs : perform proc (.run host) = .ok (.error failed) := by
    simp only [perform, Process.run, held, unstarted]
    rfl
  constructor
  · rw [performs]
    intro stops
    cases stops
  · intro missing
    rw [held] at missing
    cases missing
  · intro set out whole
    rw [performs] at whole
    cases whole

theorem sound_run_started {proc : Process} {host : Host} {command : Command} {child : Child}
    (held : proc.process = some command) (started : host.start command = .ok child) :
    Sound proc (.run host) ↔ child.stat.toBool = true := by
  cases waited : child.stat with
  | error failed =>
    refine iff_of_false (fun sound => sound.defined ?_) Bool.false_ne_true
    simp only [perform, Process.run, held, started, waited]
    rfl
  | ok stat =>
    refine iff_of_true ⟨?_, ?_, ?_⟩ rfl
    · simp only [perform, Process.run, held, started, waited]
      intro stops
      split at stops
      next => cases stops
      next => split at stops <;> cases stops
    · intro missing
      rw [held] at missing
      cases missing
    · intro set out ok
      simp only [perform, Process.run, held, started, waited] at ok
      split at ok
      next zero =>
        cases ok
        exact ⟨host, command, child, rfl, held, started, by rw [waited, zero], rfl⟩
      next => split at ok <;> cases ok

theorem sound_run_iff (proc : Process) (host : Host) : Sound proc (.run host) ↔ (Call.run host).Has proc := by
  unfold Has
  cases held : proc.process with
  | none =>
    refine iff_of_false (sound_run_missing held host) ?_
    simp only [reduceCtorEq, false_and, exists_false, not_false_eq_true]
  | some command =>
    simp only [Option.some.injEq, exists_eq_left']
    cases started : host.start command with
    | error failed =>
      refine iff_of_true (sound_run_unstarted held started) ?_
      simp only [reduceCtorEq, false_imp_iff, implies_true]
    | ok child =>
      rw [sound_run_started held started]
      simp only [Except.ok.injEq, forall_eq']

theorem sound_iff (proc : Process) (call : Call) : Sound proc call ↔ call.Has proc := by
  cases call with
  | init host address port =>
    refine iff_of_true ?_ trivial
    exact sound_setting (.ok (proc.init host address port)) rfl (by simp) (fun _ uses => uses.elim)
  | setCredentialId wallet credential =>
    refine iff_of_true ?_ trivial
    apply sound_setting _ rfl (setCredentialId_defined wallet credential proc)
    intro missing _
    exact ⟨"uninitialized".toList, by simp only [Process.setCredentialId, missing]⟩
  | setCommunity community =>
    refine iff_of_true ?_ trivial
    apply sound_setting (.ok (proc.setCommunity community)) rfl (by simp)
    intro missing _
    exact ⟨"uninitialized".toList, by simp only [Process.setCommunity, missing]⟩
  | setTimeout milliseconds =>
    refine iff_of_true ?_ trivial
    apply sound_setting (.ok (proc.setTimeout milliseconds)) rfl (by simp)
    intro missing _
    exact ⟨"uninitialized".toList, by simp only [Process.setTimeout, missing]⟩
  | setMib mib =>
    refine iff_of_true ?_ trivial
    apply sound_setting (.ok (proc.setMib mib)) rfl (by simp)
    intro missing _
    exact ⟨"uninitialized".toList, by simp only [Process.setMib, missing]⟩
  | setCredential userName password =>
    constructor
    · intro sound powercom missing
      apply sound.defined
      simp only [perform, Process.setCredential, if_pos powercom, missing]
      rfl
    · intro has
      apply sound_setting (proc.setCredential userName password) rfl
      · unfold Process.setCredential
        split
        next powercom =>
          split
          next missing => exact (has powercom missing).elim
          next => simp
        next => simp
      · intro missing powercom
        exact (has powercom missing).elim
  | run host => exact sound_run_iff proc host

theorem fits_iff (host : Host) (protocol : Text) (before : List Call) (call : Call) :
    call.Fits host protocol before ↔ call.Has (reached host protocol before) := by
  have initialised := held_iff host protocol before
  cases call with
  | setCredential userName password => simp only [Fits, Has, protocol_reached, initialised]
  | run machine =>
    simp only [Fits, Has, ← initialised]
    constructor
    · intro ⟨held, waits⟩
      obtain ⟨command, held⟩ := Option.ne_none_iff_exists'.mp held
      exact ⟨command, held, fun child => waits command child held⟩
    · intro ⟨command, held, waits⟩
      refine ⟨by simp [held], fun command' child held' => ?_⟩
      obtain rfl := Option.some.inj (held.symm.trans held')
      exact waits child
  | _ => exact Iff.rfl

/-- In every sequence of calls all are sound exactly when each fits the ones before it. -/
theorem calls_sound_iff (host : Host) (protocol : Text) (calls : List Call) :
    (∀ before call later, calls = before ++ call :: later → Sound (reached host protocol before) call) ↔
      ∀ before call later, calls = before ++ call :: later → call.Fits host protocol before := by
  simp only [sound_iff, fits_iff]

def deafHost : Host where
  tempDir := some "/tmp/nut1".toList
  executable _ := true
  start _ := .ok ⟨.error "No child processes".toList, [], []⟩
  mibDatabase := "mibs".toList

theorem unguarded_undefined :
    perform (reached deafHost "nut_powercom".toList []) (.setCredential "admin".toList "secret".toList) =
        .error .undefined ∧
      perform (reached deafHost "nut_snmp".toList []) (.run deafHost) = .error .undefined ∧
      perform (reached deafHost "nut_snmp".toList [.init deafHost "ups".toList 161]) (.run deafHost) =
        .error .undefined ∧
      ¬Sound (reached deafHost "nut_snmp".toList []) (.run deafHost) :=
  ⟨rfl, rfl, rfl, fun sound => sound.defined rfl⟩

end Call

end FtyDiscovery.Nut
