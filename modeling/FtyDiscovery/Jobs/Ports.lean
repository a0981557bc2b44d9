import FtyDiscovery.Jobs.Contacts
import FtyDiscovery.Jobs.Enrich

/-! The port that an asset records, and the ports of the contacts made for it. -/

namespace FtyDiscovery.Jobs

open Base Snmp Commands.Assets

def portOf (connection : Text) : Option Text :=
  if ':' ∈ connection then some (connection.rtakeWhile (fun c => c != ':')) else none

def Contact.port : Contact → Option Text
  | .session sess => portOf sess.peername
  | .driver command => command.connection.bind portOf

namespace Ports

def recorded (ret : Return) : Option Text := Enrich.writableVal ret.asset.ext "endpoint.1.port".toList

def Agrees {Random : Type} (run : Run (Out × Random)) : Prop :=
  ∀ out, run.result = .ok out →
    (∃ command, .driver command ∈ run.events) ∧
      ∀ ret ∈ out.1, ∃ port, recorded ret = some port ∧ ∀ contact ∈ run.events, contact.port = some port

def Refused {α : Type} (run : Run α) : Prop := run.events = [] ∧ ∀ out, run.result ≠ .ok out

/-- A protocol and a port of which every assets request records the contacted port, and a port
that cannot be used is refused by every request. -/
def PortsAgree (protocol : Text) (port : UInt32) : Prop :=
  (∀ env requests random input, input.protocol = protocol → input.port = port →
    Agrees (Assets.run env requests random input) ∧
      (65535 < port → Refused (Assets.run env requests random input))) ∧
  ∀ env sorting requests (input : Commands.Mibs.In), input.port = port → 65535 < port →
    Refused (Mibs.run env sorting requests input)

theorem portOf_append (host : Text) (port : Nat) :
    portOf (host ++ ':' :: Text.decimal port) = some (Text.decimal port) := by
  have digits : ∀ c ∈ (Text.decimal port).reverse, (c != ':') = true := by
    intro c member
    have other : c ≠ ':' := fun colon =>
      Text.not_mem_decimal (by decide) port (colon ▸ List.mem_reverse.mp member)
    simpa using other
  rw [portOf, if_pos (by simp), List.rtakeWhile, List.reverse_append, List.reverse_cons, List.append_assoc,
    List.takeWhile_append_of_pos digits, List.singleton_append, List.takeWhile_cons_of_neg (by decide),
    List.append_nil, List.reverse_reverse]

theorem recorded_parse {env : Env} {params : In} {cnt : Text} {random : env.identity.State}
    {out : Out × env.identity.State} (ok : Assets.parse env params cnt random = .ok out) :
    ∀ ret ∈ out.1, recorded ret = some (Text.decimal params.port.toNat) :=
  Enrich.writableVal_parse ok (fun _ => rfl)

theorem toNat_toUInt16 {port : UInt32} (usable : port.toNat ≤ 65535) : port.toUInt16.toNat = port.toNat := by
  rw [UInt32.toNat_toUInt16]
  exact Nat.mod_eq_of_lt (by omega)

theorem portOf_target {protocol : Text} {port : UInt16} (address : Text) (set : port ≠ 0)
    (takes : protocol = "nut_snmp".toList ∨ protocol = "nut_xml_pdc".toList) :
    portOf (Nut.Process.target protocol address port) = some (Text.decimal port.toNat) := by
  unfold Nut.Process.target
  simp only [if_neg set]
  rcases takes with rfl | rfl
  · rw [if_pos rfl]
    exact portOf_append _ _
  · rw [if_neg (by decide), if_pos rfl]
    split
    next => exact (List.append_assoc .. ▸ portOf_append ("http://".toList ++ address) port.toNat)
    next => exact portOf_append _ _

theorem settledPort_usable {input : In} (usable : input.port.toNat ≤ 65535)
    (set : input.protocol = "nut_snmp".toList ∨ input.port ≠ 0) :
    (Assets.settledPort input).toNat ≤ 65535 ∧ (Assets.settledPort input).toUInt16 ≠ 0 := by
  have nonzero {port : UInt32} (small : port.toNat ≤ 65535) (set : port ≠ 0) : port.toUInt16 ≠ 0 := by
    intro zero
    have same := toNat_toUInt16 small
    rw [zero] at same
    exact set (UInt32.toNat_inj.mp same.symm)
  unfold Assets.settledPort
  split
  next => exact ⟨by decide, by decide⟩
  next other => exact ⟨usable, nonzero usable (fun zero => set.elim (fun snmp => other ⟨snmp, zero⟩) (· zero))⟩

theorem agrees_run {env : Env} {requests : Nat} {random : env.identity.State} {input : In}
    (usable : input.port.toNat ≤ 65535) (ported : input.protocol ≠ "nut_powercom".toList)
    (given : input.protocol = "nut_xml_pdc".toList → input.port ≠ 0) :
    Agrees (Assets.run env requests random input) := by
  intro out ok
  obtain ⟨known, driven, params, cnt, -, port, parsed⟩ :=
    Assets.run_ok (show Assets.run env requests random input =
      ⟨(Assets.run env requests random input).events, .ok out⟩ by rw [← ok])
  have takes : input.protocol = "nut_snmp".toList ∨ input.protocol = "nut_xml_pdc".toList := by tauto
  obtain ⟨small, set⟩ := settledPort_usable usable (takes.imp_right given)
  refine ⟨driven, fun ret member => ⟨_, recorded_parse parsed ret member, fun contact made => ?_⟩⟩
  rw [port]
  rcases (Assets.run_contacts made).2 with ⟨sess, rfl, peername⟩ | ⟨command, rfl, connection⟩
  · rw [Contact.port, peername, peerOf, portOf_append, toNat_toUInt16 small]
  · rw [Contact.port, connection, Option.bind_some, portOf_target _ set takes, toNat_toUInt16 small]

def namedEnv : Env :=
  { sampleEnv with
    peer := fun _ => (Network.lossless sampleAgent .v1 (.ok ()) (fun oid =>
      .success { errstat := 0, vars := [{ name := oid, type := .integer, val := 1, valLen := 4 }] } 0)).peer }

theorem mibs_run (port : UInt32) :
    ∃ out, (Mibs.run namedEnv Mibs.Sorting.stable 3
      { address := "ups".toList, port := port, community := "public".toList }).result = .ok out :=
  ⟨_, rfl⟩

theorem powercom_run (port : UInt32) :
    ∃ command ret, Assets.run sampleEnv 3 ()
        { address := "ups".toList, protocol := "nut_powercom".toList, port := port } =
          ⟨[.driver command], .ok ([ret], ())⟩ ∧ (Contact.driver command).port = none :=
  ⟨_, _, rfl, rfl⟩

theorem xml_run :
    ∃ command ret, Assets.run sampleEnv 3 () { address := "ups".toList, protocol := "nut_xml_pdc".toList } =
      ⟨[.driver command], .ok ([ret], ())⟩ ∧ (Contact.driver command).port = some "80".toList ∧
        recorded ret = some "0".toList :=
  ⟨_, _, rfl, by decide, by decide⟩

theorem port_of_agrees {Random : Type} {command : Nut.Command} {ret : Return} {random : Random}
    (agrees : Agrees ⟨[.driver command], .ok ([ret], random)⟩) :
    ∃ port, recorded ret = some port ∧ (Contact.driver command).port = some port := by
  obtain ⟨port, recorded_eq, contacts⟩ := (agrees _ rfl).2 ret List.mem_cons_self
  exact ⟨port, recorded_eq, contacts _ List.mem_cons_self⟩

def wideInput : In where
  address := "ups".toList
  protocol := "nut_snmp".toList
  port := 65697
  settings := { community := "public".toList }

end Ports

end FtyDiscovery.Jobs
