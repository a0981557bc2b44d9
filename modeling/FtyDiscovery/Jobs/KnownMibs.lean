import FtyDiscovery.Jobs.Contacts

/-! Discovery over the known probes: the modules it finds, and what the driver is told of them. -/

namespace FtyDiscovery.Jobs.KnownMibs

open Base Snmp MibsReader

/-- An agent that does not tell what it is, and answers some of the known probes. -/
structure Fallback (lib : NetSnmp) (peer : Peer) : Prop where
  opens : peer.opens = .ok ()
  objectId : ∃ failed, Snmp.read lib peer "RFC1213-MIB::sysObjectID.0".toList = .ok (.error failed)
  returns : ∀ mib ∈ knownMibs, ∃ outcome, Snmp.read lib peer mib = .ok outcome
  answers : ∃ mib ∈ knownMibs, ∃ val, Snmp.read lib peer mib = .ok (.ok val)

theorem module_of_known : ∀ mib ∈ knownMibs, (moduleOf mib).isSome = true ∧ moduleOf mib ≠ some [] := by
  decide

theorem read_fallback {lib : NetSnmp} {peer : Peer} (fallback : Fallback lib peer) (isOpen : Bool)
    (requests : Nat) :
    ∃ mibs, MibsReader.read lib peer isOpen false requests = .ok (.ok mibs) ∧ (∃ name, name ∈ mibs) ∧
      ∀ name ∈ mibs, ∃ mib ∈ knownMibs, moduleOf mib = some name := by
  obtain ⟨failed, unread⟩ := fallback.objectId
  obtain ⟨mibs, probed, members⟩ := probe_ok knownMibs ∅ fallback.returns
  obtain ⟨mib, known, answered⟩ := fallback.answers
  obtain ⟨name, named⟩ := Option.isSome_iff_exists.mp (module_of_known mib known).1
  have found : name ∈ mibs := (members name).mpr (.inr ⟨mib, known, answered, named⟩)
  refine ⟨mibs, ?_, ⟨name, found⟩, fun name' member => ?_⟩
  · have opened : ensureOpen peer isOpen = .ok () := by
      unfold ensureOpen
      split
      next => rfl
      next => exact fallback.opens
    have full : mibs.isEmpty = false := by
      rw [Std.ExtTreeSet.isEmpty_eq_false_iff]
      intro empty
      rw [empty] at found
      simp at found
    simp only [MibsReader.read, opened, unread, Bool.false_eq_true, if_false, probed, nonempty, full]
  · rcases (members name').mp member with none | ⟨mib', known', -, named'⟩
    · simp at none
    · exact ⟨mib', known', named'⟩

theorem driver_mib {env : Env} {params : Commands.Assets.In} {proc : Nut.Process} {command : Nut.Command}
    (snmp : params.protocol = "nut_snmp".toList) (named : params.settings.mib ≠ [])
    (set : Assets.setUp env params = ⟨[], .ok proc⟩) (held : proc.process = some command) :
    command.env.lookup "SU_VAR_MIBS".toList = some (mapMibToLegacy params.settings.mib) := by
  obtain ⟨-, -, before, options, protocol⟩ := Assets.setUp_ok set
  obtain ⟨timed, adds, whole⟩ := Assets.driverOptions_eq params.settings before
  rw [options, whole, if_pos (by simp [hasValue, named])] at held
  have kind : timed.protocol = "nut_snmp".toList := adds.protocol.trans (protocol.trans snmp)
  cases process : timed.process with
  | none => simp [Nut.Process.setMib, process, Except.toOption] at held
  | some earlier =>
    simp only [Nut.Process.setMib, process, kind, ne_eq, not_true_eq_false, if_false, Except.toOption,
      Option.getD_some, Nut.Process.hold, Option.some.injEq] at held
    rw [← held, Nut.Command.lookup_setEnvVar]

theorem selected_of_fallback {env : Env} (off : env.tryAll = false) {sess : Session}
    (fallback : Fallback env.lib (env.peer sess)) {requests : Nat} {input params : Commands.Assets.In}
    {events : List Contact} (unnamed : input.settings.mib = [])
    (settled : Assets.settle env requests input = ⟨events, .ok params⟩) (session : .session sess ∈ events) :
    params.protocol = "nut_snmp".toList ∧ ∃ mib ∈ knownMibs, moduleOf mib = some params.settings.mib := by
  by_cases snmp : input.protocol = "nut_snmp".toList
  · obtain ⟨sess', mibs, events_eq, read, least⟩ := Assets.settle_selects snmp settled
    rw [events_eq] at session
    obtain rfl := Contact.session.inj (List.mem_singleton.mp session)
    obtain ⟨mibs', read', -, modules⟩ := read_fallback fallback false requests
    rw [off, read'] at read
    obtain rfl := Except.ok.inj (Except.ok.inj read)
    have member : params.settings.mib ∈ mibs' :=
      Std.ExtTreeSet.mem_toList.mp (List.mem_of_mem_head? (least unnamed))
    exact ⟨(Assets.settle_ok settled).1.trans snmp, modules _ member⟩
  · rw [Assets.settle, if_neg snmp] at settled
    obtain ⟨rfl, -⟩ := Traced.pure_eq_ok_iff.mp settled
    cases session

/-- No MIB that is found over the known probes is one that the driver has a name for, and where the
request names none the driver is started with the empty name. -/
theorem known_mibs_unsupported {env : Env} (off : env.tryAll = false) {sess : Session}
    (fallback : Fallback env.lib (env.peer sess)) :
    (∀ isOpen requests, ∃ mibs, MibsReader.read env.lib (env.peer sess) isOpen env.tryAll requests = .ok (.ok mibs) ∧
      (∃ name, name ∈ mibs) ∧ ∀ name ∈ mibs, isSnmpSupported name = false) ∧
    ∀ requests random input command, input.settings.mib = [] →
      .session sess ∈ (Assets.run env requests random input).events →
      .driver command ∈ (Assets.run env requests random input).events →
      command.env.lookup "SU_VAR_MIBS".toList = some [] := by
  rw [off]
  constructor
  · intro isOpen requests
    obtain ⟨mibs, read, found, modules⟩ := read_fallback fallback isOpen requests
    refine ⟨mibs, read, found, fun name member => ?_⟩
    obtain ⟨mib, -, named⟩ := modules name member
    rw [isSnmpSupported, mapMibToLegacy_module named]
    rfl
  · intro requests random input command unnamed session driver
    obtain ⟨-, early | ⟨params, proc, command', settled, set, held, same⟩⟩ := Assets.run_made driver
    · obtain ⟨_, -, other⟩ := Assets.settle_made early
      cases other
    obtain rfl := Contact.driver.inj same
    obtain ⟨-, checked | ⟨_, _, _, -, -, -, other⟩⟩ := Assets.run_made session
    · rw [settled] at checked
      obtain ⟨snmp, mib, known, named⟩ := selected_of_fallback off fallback unnamed settled checked
      have nonempty : params.settings.mib ≠ [] := by
        intro empty
        exact (module_of_known mib known).2 (empty ▸ named)
      rw [driver_mib snmp nonempty set held, mapMibToLegacy_module named]
    · cases other

def upsMib : Text := "UPS-MIB::upsIdentManufacturer.0".toList

theorem probed_fallback (sess : Session) : Fallback (probedEnv [upsMib]).lib ((probedEnv [upsMib]).peer sess) where
  opens := rfl
  objectId := ⟨_, rfl⟩
  returns mib _ := by
    unfold Snmp.read
    split
    next => exact ⟨_, rfl⟩
    next => exact ⟨_, rfl⟩
  answers := ⟨upsMib, by decide, _, rfl⟩

theorem upsMib_read_unsupported :
    ∃ mibs, MibsReader.read (probedEnv [upsMib]).lib ((probedEnv [upsMib]).peer (.create "ups".toList 161)) false
        false 1 = .ok (.ok mibs) ∧ ∀ name ∈ mibs, isSnmpSupported name = false := by
  obtain ⟨mibs, read, -, unsupported⟩ := (known_mibs_unsupported rfl (probed_fallback _)).1 false 1
  exact ⟨mibs, read, unsupported⟩

theorem upsMib_driver_unnamed :
    ∃ sess command mibs out, Assets.run (probedEnv [upsMib]) 1 ()
        { address := "ups".toList, protocol := "nut_snmp".toList, settings := { community := "public".toList } } =
          ⟨[.session sess, .driver command], .ok out⟩ ∧
      MibsReader.read (probedEnv [upsMib]).lib ((probedEnv [upsMib]).peer sess) false false 1 = .ok (.ok mibs) ∧
      mibs.toList = ["UPS-MIB".toList] ∧ isSnmpSupported "UPS-MIB".toList = false ∧
      command.env.lookup "SU_VAR_MIBS".toList = some [] :=
  ⟨_, _, _, _, rfl, rfl, rfl, by decide, by decide⟩

end FtyDiscovery.Jobs.KnownMibs
