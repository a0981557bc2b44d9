import FtyDiscovery.Jobs.Contacts
import FtyDiscovery.Jobs.Enrich
import FtyDiscovery.Jobs.Protocols

/-! The host that is checked, and the hosts that the steps behind the check turn to. -/

namespace FtyDiscovery.Jobs

open Base

def checkedHost (address : Text) : Text := cString (checkAddress address)

/-- What a session or a driver of this protocol is told to contact is this host. -/
def Contact.Reaches (protocol host : Text) : Contact → Prop
  | .session sess => ∃ port, sess.peername = peerOf host port
  | .driver command =>
      if protocol = "nut_snmp".toList then ∃ port, command.connection = some (Nut.Process.toconnect host port)
      else if protocol = "nut_xml_pdc".toList then
        ∃ port, command.connection = some ("http://".toList ++ Nut.Process.toconnect host port)
      else command.connection = some host

namespace Hosts

def recordedIp (ret : Commands.Assets.Return) : Option Text := Enrich.writableVal ret.asset.ext "ip.1".toList

/-- An address of which every request checks, contacts and records one host, and which the
protocols job takes for that host. -/
structure HostsAgree (address : Text) : Prop where
  protocols : ∀ net attempts, ∀ visit ∈ (Protocols.run net attempts { address := address }).events,
    visit.host = checkedHost address
  answers : ∀ net attempts host, address = httpPrefix ++ host →
    (Protocols.run net attempts { address := address }).result =
      (Protocols.run net attempts { address := host }).result
  mibs : ∀ env sorting requests (input : Commands.Mibs.In), input.address = address →
    ∀ contact ∈ (Mibs.run env sorting requests input).events, contact.Reaches "nut_snmp".toList (checkedHost address)
  assets : ∀ env requests random (input : Commands.Assets.In), input.address = address →
    ∀ contact ∈ (Assets.run env requests random input).events, contact.Reaches input.protocol (checkedHost address)
  records : ∀ env requests random (input : Commands.Assets.In) out, input.address = address →
    (Assets.run env requests random input).result = .ok out →
      ∀ ret ∈ out.1, recordedIp ret = some (checkedHost address)

theorem checkedHost_of_plain {address : Text} (bare : ¬httpPrefix <+: address) (free : '\x00' ∉ address) :
    checkedHost address = address := by
  rw [checkedHost, checkAddress, if_neg (fun found => bare ((Text.find_eq_zero_iff ..).mp found)), cString_eq_self free]

theorem reaches_target {protocol address : Text} {port : UInt16} {command : Nut.Command}
    (bare : ¬httpPrefix <+: address)
    (connects : command.connection = some (Nut.Process.target protocol address port)) :
    (Contact.driver command).Reaches protocol address := by
  unfold Nut.Process.target at connects
  unfold Contact.Reaches
  split at connects
  next snmp =>
    simp only [if_pos snmp]
    exact ⟨_, connects⟩
  next other =>
    simp only [if_neg other]
    split at connects
    next xml =>
      have unprefixed : Text.find "http://".toList address ≠ some 0 :=
        fun found => bare ((Text.find_eq_zero_iff ..).mp found)
      rw [if_pos unprefixed] at connects
      simp only [if_pos xml]
      exact ⟨_, connects⟩
    next other' =>
      simp only [if_neg other']
      exact connects

theorem hostsAgree_of_plain {address : Text} (bare : ¬httpPrefix <+: address) (free : '\x00' ∉ address) :
    HostsAgree address := by
  have host := checkedHost_of_plain bare free
  constructor
  · intro net attempts visit made
    rw [host, Protocols.run_host made, cString_eq_self free]
  · intro net attempts other scheme
    exact (bare ⟨other, scheme.symm⟩).elim
  · rintro env sorting requests input rfl contact made
    obtain ⟨-, sess, rfl, peername⟩ := Mibs.run_contacts made
    rw [host]
    exact ⟨_, peername⟩
  · rintro env requests random input rfl contact made
    rw [host]
    rcases (Assets.run_contacts made).2 with ⟨sess, rfl, peername⟩ | ⟨command, rfl, connects⟩
    · exact ⟨_, peername⟩
    · exact reaches_target bare connects
  · rintro env requests random input out rfl ok ret member
    obtain ⟨-, -, params, cnt, address, -, parsed⟩ := Assets.run_ok
      (show Assets.run env requests random input = ⟨(Assets.run env requests random input).events, .ok out⟩ by rw [← ok])
    rw [host, ← address]
    exact Enrich.writableVal_parse parsed (fun _ => rfl) ret member

theorem cString_scheme (rest : Text) : cString (httpPrefix ++ rest) = httpPrefix ++ cString rest := by
  have plain : '\x00' ∉ "http://".toList := by decide
  exact List.takeWhile_append_of_pos (fun _ member => bne_iff_ne.mpr (ne_of_mem_of_not_mem member plain))

def silentNet : Protocols.Network where
  resolver := ⟨fun _ => some [⟨true, true⟩]⟩
  http _ _ _ := { began := false, code := 0, blocks := [] }
  datagrams _ _ := .error "Name or service not known".toList
  strerror _ := "Unknown error".toList
  moves := Vectors.doubling
  parseXml _ := []
  deviceType _ := .error "bad conversion".toList
  serialize _ := .ok "[]".toList

theorem not_agree_of_scheme (rest : Text) : ¬HostsAgree (httpPrefix ++ rest) := by
  intro agree
  have other : httpPrefix ++ rest ≠ "__fake__".toList := by
    intro same
    have head : some 'h' = some '_' := congrArg List.head? same
    revert head
    decide
  have first := agree.protocols silentNet 1 _ (Protocols.run_first other rfl)
  have start : Text.find httpPrefix (httpPrefix ++ rest) = some 0 :=
    (Text.find_eq_zero_iff ..).mpr (List.prefix_append ..)
  rw [Protocols.Visit.host, cString_scheme, checkedHost, checkAddress, if_pos start, List.drop_left] at first
  have lengths := congrArg List.length first
  have longer : 0 < httpPrefix.length := Nat.zero_lt_succ _
  rw [List.length_append] at lengths
  omega

theorem powercom_records (address : Text) :
    ∃ ret, (Assets.run sampleEnv 1 () { address := address, protocol := "nut_powercom".toList }).result =
      .ok ([ret], ()) ∧ recordedIp ret = some address := ⟨_, rfl, rfl⟩

theorem not_agree_of_terminator {address : Text} (stopped : '\x00' ∈ address) : ¬HostsAgree address := by
  intro agree
  obtain ⟨ret, ran, recorded⟩ := powercom_records address
  have checked := agree.records sampleEnv 1 () _ _ rfl ran ret List.mem_cons_self
  rw [recorded, Option.some.injEq] at checked
  rw [checked, checkedHost] at stopped
  simpa using List.mem_takeWhile_imp stopped

/-- One host is checked, contacted and recorded exactly for an address that has no scheme and no
terminator inside. -/
theorem hostsAgree_iff (address : Text) : HostsAgree address ↔ ¬httpPrefix <+: address ∧ '\x00' ∉ address := by
  constructor
  · intro agree
    refine ⟨?_, fun stopped => not_agree_of_terminator stopped agree⟩
    rintro ⟨rest, rfl⟩
    exact not_agree_of_scheme rest agree
  · intro ⟨bare, free⟩
    exact hostsAgree_of_plain bare free

def cardNet : Protocols.Network :=
  { silentNet with
    http := fun host path _ =>
      if host = "ups".toList then { blocks := [.bytes path] } else { began := false, code := 0, blocks := [] }
    parseXml := fun content =>
      if content = "/product.xml".toList then
        (Neon.Content.element "PRODUCT_INFO".toList
          [("name".toList, "Network Management Card".toList), ("protocol".toList, "XML.V3".toList)]
          (.element "SUMMARY".toList []
            (.element "XML_SUMMARY_PAGE".toList [("url".toList, "upsprop.xml".toList)] .nil .nil) .nil) .nil).callbacks
      else [] }

theorem scheme_kept :
    checkedHost "http://ups".toList = "ups".toList ∧
      (Protocols.run cardNet 1 { address := "ups".toList }).result = .ok ["nut_xml_pdc".toList] ∧
      (Protocols.run cardNet 1 { address := "http://ups".toList }).result = .ok [] ∧
      (∃ sess, (Mibs.run sampleEnv .stable 3 { address := "http://ups".toList, community := "public".toList }).events =
        [.session sess] ∧ sess.peername = "http://ups:161".toList) ∧
      (∃ ret, (Assets.run sampleEnv 1 () { address := "http://ups".toList, protocol := "nut_xml_pdc".toList }).result =
        .ok ([ret], ()) ∧ recordedIp ret = some "http://ups".toList) ∧
      ¬HostsAgree "http://ups".toList :=
  ⟨by decide, rfl, rfl, ⟨_, rfl, by decide⟩, ⟨_, rfl, by decide⟩, not_agree_of_scheme "ups".toList⟩

end Hosts

end FtyDiscovery.Jobs
