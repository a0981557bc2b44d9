import Mathlib
import FtyDiscovery.Base.Regex
import FtyDiscovery.Snmp.Session

/-! The MIBs an endpoint supports, read over one SNMP session. -/

namespace FtyDiscovery.MibsReader

open Base Snmp

abbrev MibList := Std.ExtTreeSet Text

/-- `^(IP-MIB|DISMAN-EVENT-MIB|RFC1213-MIB|SNMP-|TCP-MIB|UDP-MIB).*`. -/
def filtered : Regex.Pattern Char :=
  .seq (.group 1 (.alt (Regex.literal "IP-MIB".toList) (.alt (Regex.literal "DISMAN-EVENT-MIB".toList)
    (.alt (Regex.literal "RFC1213-MIB".toList) (.alt (Regex.literal "SNMP-".toList)
      (.alt (Regex.literal "TCP-MIB".toList) (Regex.literal "UDP-MIB".toList)))))))
    (.many Text.notLineEnd)

def filterMib (mib : Text) : Bool := (Regex.fullMatch filtered mib).isNone

def knownMibs : List Text :=
  ["PowerNet-MIB::atsIdentModelNumber.0".toList,
    "PowerNet-MIB::upsBasicIdentModel.0".toList,
    "PowerNet-MIB::sPDUIdentModelNumber.0".toList,
    "Baytech-MIB-503-1::sBTAModulesRPCType.1".toList,
    "BESTPOWER-MIB::upsIdentModel.0".toList,
    "CPQPOWER-MIB::upsIdentManufacturer.0".toList,
    "CPS-MIB::upsBaseIdentModel.0".toList,
    "DeltaUPS-MIB::upsv4".toList,
    "EATON-OIDS::sts".toList,
    "EATON-GENESIS-II-MIB::productTitle.0".toList,
    "EATON-EPDU-MIB::productName.0".toList,
    "EATON-EPDU-PU-SW-MIB::pulizzi.1".toList,
    "CPQPOWER-MIB::pdu2Model.0".toList,
    "TRIPPUPS1-MIB::trippUPS1".toList,
    "UPS-MIB::upsIdentManufacturer.0".toList,
    "MG-SNMP-UPS-MIB::upsmgIdentFamilyName.0".toList,
    "XUPS-MIB::xupsIdentModel.0".toList,
    "EATON-OIDS::eatonPowerChainDevice".toList,
    "XPPC-MIB::ppc".toList]

/-- The rows of `mapMibToLegacy`; the first of two rows with one key is the one kept. -/
def legacyNames : List (Text × Text) :=
  [("PowerNet-MIB::automaticXferSwitch".toList, "apc_ats".toList),
    ("PowerNet-MIB::masterSwitchMSP".toList, "apc_pdu".toList),
    ("PowerNet-MIB::masterSwitchrPDU".toList, "apc_pdu".toList),
    ("PowerNet-MIB::masterSwitchrPDU2".toList, "apc_pdu".toList),
    ("PowerNet-MIB::smartUPS2200".toList, "apc_ats".toList),
    ("PowerNet-MIB::smartUPS3000".toList, "apc_ats".toList),
    ("PowerNet-MIB::smartUPS2".toList, "apc_ats".toList),
    ("PowerNet-MIB::smartUPS450".toList, "apc_ats".toList),
    ("PowerNet-MIB::smartUPS700".toList, "apc_ats".toList),
    ("Baytech-MIB-503-1::baytech".toList, "baytech".toList),
    ("BESTPOWER-MIB::bestPower".toList, "bestpower".toList),
    ("CPQPOWER-MIB::ups".toList, "cpqpower".toList),
    ("CPS-MIB::cps".toList, "cyberpower".toList),
    ("DeltaUPS-MIB::upsv4".toList, "delta_ups".toList),
    ("MG-SNMP-UPS-MIB::upsmg".toList, "eaton_ats16".toList),
    ("EATON-ATS2-MIB::ats2".toList, "eaton_ats16_g2".toList),
    ("EATON-OIDS::sts".toList, "eaton_ats30".toList),
    ("EATON-GENESIS-II-MIB::eaton".toList, "aphel_genesisII".toList),
    ("EATON-OIDS::pduAgent.6".toList, "aphel_revelation".toList),
    ("EATON-EPDU-MIB::eatonEpdu".toList, "eaton_epdu".toList),
    ("PM-MIB::pm3024".toList, "emerson_avocent_pdu".toList),
    ("EATON-EPDU-PU-SW-MIB::pulizzi".toList, "pulizzi_switched1".toList),
    ("CPQPOWER-MIB::pdu2".toList, "hpe_epdu".toList),
    ("NET-SNMP-TC::linux".toList, "huawei".toList),
    ("MG-SNMP-UPS-MIB::upsmg".toList, "mge".toList),
    ("EATON-OIDS::xupsMIB".toList, "pw".toList),
    ("EATON-OIDS::eatonPowerChainDevice".toList, "pxgx_ups".toList),
    ("PDU2-MIB::raritan".toList, "raritan".toList),
    ("PDU2-MIB::pdu2".toList, "raritan_px2".toList),
    ("XPPC-MIB::ppc".toList, "xppc".toList),
    ("SOCOMECUPS-MIB::netvision".toList, "netvision".toList),
    ("TRIPPUPS1-MIB::trippUPS1".toList, "tripplite".toList),
    ("UPS-MIB::upsMIB".toList, "ietf".toList)]

def mapMibToLegacy (mib : Text) : Text := (legacyNames.lookup mib).getD []

def isSnmpSupported (mib : Text) : Bool := !(mapMibToLegacy mib).isEmpty

def moduleOf (mib : Text) : Option Text :=
  (Text.find "::".toList mib).map (fun pos => mib.take pos)

def insertModule (mibs : MibList) (mib : Text) : MibList :=
  match moduleOf mib with
  | some name => mibs.insert name
  | none => mibs

def collect (mibs : MibList) (mib : Text) : MibList :=
  if filterMib mib then insertModule mibs mib else mibs

def probe (lib : NetSnmp) (peer : Peer) : List Text → MibList → Outcome MibList
  | [], mibs => .ok mibs
  | mib :: rest, mibs =>
      match Snmp.read lib peer mib with
      | .error stop => .error stop
      | .ok (.error _) => probe lib peer rest mibs
      | .ok (.ok _) => probe lib peer rest (insertModule mibs mib)

def ensureOpen (peer : Peer) (isOpen : Bool) : Expected Unit :=
  if isOpen then .ok () else peer.opens

def readObjectId (oid : Text) : MibList :=
  match Text.find ".".toList oid with
  | some pos => (∅ : MibList).insert (oid.take pos)
  | none => (∅ : MibList).insert oid

def nonempty (mibs : MibList) : Expected MibList :=
  if mibs.isEmpty then
    .error "Cannot fetch mibs from endpoint. Host is not available or SNMP is not supported.".toList
  else .ok mibs

/-- `MibsReader::read`, its walk cut off after so many requests. -/
def read (lib : NetSnmp) (peer : Peer) (isOpen tryAll : Bool) (requests : Nat) :
    Outcome (Expected MibList) :=
  match ensureOpen peer isOpen with
  | .error failed => .ok (.error failed)
  | .ok () =>
      match Snmp.read lib peer "RFC1213-MIB::sysObjectID.0".toList with
      | .error stop => .error stop
      | .ok (.ok oid) => .ok (.ok (readObjectId oid))
      | .ok (.error _) =>
          if tryAll then
            match walk lib peer requests with
            | .inl _ => .error .running
            | .inr walked =>
                match walked.result with
                | .error failed => .ok (.error failed)
                | .ok () => .ok (nonempty (walked.calls.foldl collect ∅))
          else
            match probe lib peer knownMibs ∅ with
            | .error stop => .error stop
            | .ok mibs => .ok (nonempty mibs)

def readName (lib : NetSnmp) (peer : Peer) (isOpen : Bool) : Outcome (Expected Text) :=
  match ensureOpen peer isOpen with
  | .error failed => .ok (.error failed)
  | .ok () => Snmp.read lib peer "SNMPv2-MIB::sysDescr.0".toList

/-- Every row is for an object of a module, so none is for the module itself. -/
theorem mapMibToLegacy_module {mib name : Text} (named : moduleOf mib = some name) : mapMibToLegacy name = [] := by
  obtain ⟨pos, found, rfl⟩ := Option.map_eq_some_iff.mp named
  have plain := Text.find_take (by decide) found
  have rows : ∀ row ∈ legacyNames, Text.find "::".toList row.1 ≠ none := by decide
  rw [mapMibToLegacy, List.lookup_eq_none_iff.mpr, Option.getD_none]
  intro row member
  rw [bne_iff_ne]
  intro same
  exact rows row member (same ▸ plain)

theorem mem_insertModule (mibs : MibList) (mib name : Text) :
    name ∈ insertModule mibs mib ↔ name ∈ mibs ∨ moduleOf mib = some name := by
  unfold insertModule
  cases moduleOf mib with
  | none => simp
  | some found => simp [Std.ExtTreeSet.mem_insert, or_comm]

theorem mem_foldl_collect (calls : List Text) (mibs : MibList) (name : Text) :
    name ∈ calls.foldl collect mibs ↔
      name ∈ mibs ∨ ∃ mib ∈ calls, filterMib mib = true ∧ moduleOf mib = some name := by
  induction calls generalizing mibs with
  | nil => simp
  | cons mib calls ih =>
    rw [List.foldl_cons, ih, collect]
    by_cases passes : filterMib mib = true
    · rw [if_pos passes]
      simp only [mem_insertModule, List.mem_cons, exists_eq_or_imp, passes, true_and, or_assoc]
    · rw [if_neg passes]
      simp only [List.mem_cons, exists_eq_or_imp, passes, Bool.false_eq_true, false_and, false_or]

theorem probe_ok {lib : NetSnmp} {peer : Peer} (known : List Text) (mibs : MibList)
    (returns : ∀ mib ∈ known, ∃ outcome, Snmp.read lib peer mib = .ok outcome) :
    ∃ found, probe lib peer known mibs = .ok found ∧ ∀ name, name ∈ found ↔
      name ∈ mibs ∨ ∃ mib ∈ known, (∃ val, Snmp.read lib peer mib = .ok (.ok val)) ∧ moduleOf mib = some name := by
  induction known generalizing mibs with
  | nil => exact ⟨mibs, rfl, by simp⟩
  | cons mib known ih =>
    obtain ⟨outcome, returned⟩ := returns mib List.mem_cons_self
    have later (mib' : Text) (member : mib' ∈ known) := returns mib' (List.mem_cons_of_mem mib member)
    cases outcome with
    | error failed =>
      obtain ⟨found, probed, members⟩ := ih mibs later
      refine ⟨found, by rw [probe, returned]; exact probed, fun name => ?_⟩
      simp only [members, List.mem_cons, exists_eq_or_imp, returned, Except.ok.injEq, reduceCtorEq, exists_const,
        false_and, false_or]
    | ok val =>
      obtain ⟨found, probed, members⟩ := ih (insertModule mibs mib) later
      refine ⟨found, by rw [probe, returned]; exact probed, fun name => ?_⟩
      simp only [members, mem_insertModule, List.mem_cons, exists_eq_or_imp, returned, Except.ok.injEq, exists_eq',
        true_and, or_assoc]

end FtyDiscovery.MibsReader
