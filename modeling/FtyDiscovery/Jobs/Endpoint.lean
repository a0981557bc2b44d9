import FtyDiscovery.Jobs.Ports

/-! The endpoint that an asset records finds the device again: a request made of it, with the settings that
no asset records, runs as the request that found the device. -/

namespace FtyDiscovery.Jobs.Endpoint

open Base Snmp Commands.Assets Assets Enrich

def field (ext : List Attr) (key : Text) : Text := (writableVal ext key).getD []

/-- A request for the recorded endpoint. What is not recorded is taken from other settings: the timeout and
the login and, where the protocol is not SNMP, the credential, the community and the MIB as well. -/
def again (unrecorded : Settings) (ext : List Attr) : In where
  address := field ext "ip.1".toList
  protocol := field ext "endpoint.1.protocol".toList
  port := UInt32.ofNat (Nat.ofDigitChars 10 (field ext "endpoint.1.port".toList) 0)
  settings :=
    if field ext "endpoint.1.protocol".toList = "nut_snmp".toList then
      { unrecorded with
        credentialId := field ext "endpoint.1.nut_snmp.secw_credential_id".toList
        community := field ext "endpoint.1.nut_snmp.community".toList
        mib := field ext "endpoint.1.nut_snmp.MIB".toList }
    else unrecorded

/-- The request sets nothing that its assets do not record. -/
def Recorded (input : In) : Prop :=
  input.settings =
    if input.protocol = "nut_snmp".toList then
      { credentialId := input.settings.credentialId
        community := input.settings.community
        mib := input.settings.mib }
    else {}

theorem writableVal_append (ext added : List Attr) (key : Text) :
    writableVal (ext ++ added) key = (writableVal ext key).or (writableVal added key) := by
  simp only [writableVal, List.find?_append, Option.map_or]

theorem writableVal_mapped {mapping : Nut.Mapping} {start : Text} {entries : List (Text × Text)} (key : Text) :
    writableVal (mappedAttrs mapping start entries) key = none := by
  rw [writableVal, Option.map_eq_none_iff, List.find?_eq_none]
  intro info member
  simp [readOnly_of_mapped member]

theorem writableVal_addSetting (key setting other : Text) : writableVal (addSetting key setting []) other =
    if key = other ∧ setting ≠ [] then some setting else none := by
  by_cases same : key = other <;> by_cases unset : setting = [] <;>
    simp [addSetting, hasValue, addAssetVal, writableVal, same, unset]

theorem writableVal_powerAttrs {key : Text} (other : "max_power".toList ≠ key) (nominal defaultNominal : Option Text) :
    writableVal (powerAttrs nominal defaultNominal) key = none := by
  unfold powerAttrs
  cases nominal.or defaultNominal with
  | none => rfl
  | some power => simpa [addAssetVal, writableVal] using other

theorem writableVal_addDaisyChain (subtype subAddress key : Text) :
    writableVal (addDaisyChain subtype subAddress []) key = none := by
  unfold addDaisyChain
  split
  next => simp [addAssetVal, writableVal]
  next => rfl

theorem writableVal_addSettings {params : In} (snmp : params.protocol = "nut_snmp".toList) (key : Text) :
    writableVal (addSettings params []) key =
      (writableVal (addSetting "endpoint.1.nut_snmp.secw_credential_id".toList params.settings.credentialId []) key).or
        ((writableVal (addSetting "endpoint.1.nut_snmp.community".toList params.settings.community []) key).or
          (writableVal (addSetting "endpoint.1.nut_snmp.MIB".toList params.settings.mib []) key)) := by
  rw [addSettings, if_pos snmp]
  simp only []
  rw [addSetting_eq _ _ (addSetting _ _ (addSetting _ _ [])), addSetting_eq _ _ (addSetting _ _ []),
    writableVal_append, writableVal_append, Option.or_assoc]

theorem writableVal_asset {env : Env} {params : In} {cnt : Text} {random : env.identity.State}
    {out : Out × env.identity.State} (parsed : parse env params cnt random = .ok out) {ret : Return}
    (member : ret ∈ out.1) (key : Text) : ∃ uuid mapped, writableVal ret.asset.ext key =
      (writableVal (addEndpoint params mapped.subAddress []) key).or
        ((writableVal (addAssetVal "uuid".toList uuid false []) key).or
          (writableVal (laterAttrs params mapped) key)) := by
  obtain ⟨k, found⟩ := List.mem_iff_getElem?.mp member
  obtain ⟨state, rfl⟩ := parse_ok parsed k ret found
  let mapped := device env (readDump env.utils cnt) out.1.length k
  have nothing : writableVal mapped.asset.ext key = none := writableVal_mapped key
  refine ⟨(identifier env.identity params mapped state).1, mapped, ?_⟩
  rw [enrichAsset_ext, writableVal_append, writableVal_append, writableVal_append, nothing, Option.none_or,
    Option.or_assoc]

theorem field_setting {env : Env} {params : In} {cnt : Text} {random : env.identity.State}
    {out : Out × env.identity.State} (parsed : parse env params cnt random = .ok out) {ret : Return}
    (member : ret ∈ out.1) {key : Text}
    (apart : ∀ subAddress uuid, writableVal (addEndpoint params subAddress []) key = none ∧
      writableVal (addAssetVal "uuid".toList uuid false []) key = none) (power : "max_power".toList ≠ key) :
    field ret.asset.ext key = (writableVal (addSettings params []) key).getD [] := by
  obtain ⟨uuid, mapped, found⟩ := writableVal_asset parsed member key
  obtain ⟨endpoint, identifier⟩ := apart mapped.subAddress uuid
  rw [field, found, endpoint, identifier, Option.none_or, Option.none_or, laterAttrs, writableVal_append,
    writableVal_append, writableVal_powerAttrs power, writableVal_addDaisyChain, Option.none_or, Option.or_none]

theorem again_parse {env : Env} {input params : In} {cnt : Text} {random : env.identity.State}
    {out : Out × env.identity.State} (parsed : parse env params cnt random = .ok out)
    (settings : params.settings = { input.settings with mib := params.settings.mib })
    (other : params.protocol ≠ "nut_snmp".toList → params.settings = input.settings) :
    ∀ ret ∈ out.1, again input.settings ret.asset.ext = params := by
  intro ret member
  have address : field ret.asset.ext "ip.1".toList = params.address := by
    rw [field, writableVal_parse parsed (fun _ => rfl) ret member, Option.getD_some]
  have protocol : field ret.asset.ext "endpoint.1.protocol".toList = params.protocol := by
    rw [field, writableVal_parse parsed (fun _ => rfl) ret member, Option.getD_some]
  have port : field ret.asset.ext "endpoint.1.port".toList = Text.decimal params.port.toNat := by
    rw [field, writableVal_parse parsed (fun _ => rfl) ret member, Option.getD_some]
  have read : UInt32.ofNat (Nat.ofDigitChars 10 (Text.decimal params.port.toNat) 0) = params.port := by
    rw [Text.decimal, Nat.ofDigitChars_ten_toDigits, UInt32.ofNat_toNat]
  unfold again
  rw [address, protocol, port, read]
  by_cases snmp : params.protocol = "nut_snmp".toList
  · have credentialId : field ret.asset.ext "endpoint.1.nut_snmp.secw_credential_id".toList =
        params.settings.credentialId := by
      rw [field_setting parsed member (fun _ _ => ⟨rfl, rfl⟩) (by decide), writableVal_addSettings snmp]
      cases given : params.settings.credentialId <;> simp [writableVal_addSetting]
    have community : field ret.asset.ext "endpoint.1.nut_snmp.community".toList = params.settings.community := by
      rw [field_setting parsed member (fun _ _ => ⟨rfl, rfl⟩) (by decide), writableVal_addSettings snmp]
      cases given : params.settings.community <;> simp [writableVal_addSetting]
    have mib : field ret.asset.ext "endpoint.1.nut_snmp.MIB".toList = params.settings.mib := by
      rw [field_setting parsed member (fun _ _ => ⟨rfl, rfl⟩) (by decide), writableVal_addSettings snmp]
      cases given : params.settings.mib <;> simp [writableVal_addSetting]
    rw [if_pos snmp, credentialId, community, mib]
    have kept : { input.settings with
        credentialId := params.settings.credentialId
        community := params.settings.community
        mib := params.settings.mib } = params.settings := by
      rw [settings]
    rw [kept]
  · rw [if_neg snmp, ← other snmp]

theorem settleMib_kept {params settled : In} {mibs : MibsReader.MibList} {events : List Contact}
    (ok : settleMib params mibs = ⟨events, .ok settled⟩) :
    settled = { params with settings := { params.settings with mib := settled.settings.mib } } ∧
      (params.settings.mib ≠ [] → settled = params) ∧ settleMib settled mibs = ⟨[], .ok settled⟩ := by
  unfold settleMib at ok
  split at ok
  next named =>
    obtain ⟨-, rfl⟩ := Traced.pure_eq_ok_iff.mp ok
    refine ⟨rfl, fun _ => rfl, ?_⟩
    rw [settleMib, if_pos named]
    rfl
  next unnamed =>
    split at ok
    next first rest listed =>
      obtain ⟨-, rfl⟩ := Traced.pure_eq_ok_iff.mp ok
      have empty : params.settings.mib = [] := by simpa [hasValue] using unnamed
      refine ⟨rfl, fun named => (named empty).elim, ?_⟩
      unfold settleMib
      split
      next => rfl
      next => rw [listed]; rfl
    next => exact absurd ok Traced.fail_ne_ok

theorem settledPort_settled {input params : In} (protocol : params.protocol = input.protocol)
    (port : params.port = settledPort input) : settledPort params = params.port := by
  unfold settledPort at port ⊢
  by_cases unset : input.protocol = "nut_snmp".toList ∧ input.port = 0
  · rw [if_pos unset] at port
    simp [port]
  · rw [if_neg unset] at port
    rw [protocol, port, if_neg unset]

theorem checkSnmp_settled {env : Env} {requests : Nat} {input params : In} {events : List Contact}
    (ok : checkSnmp env requests input = ⟨events, .ok params⟩) :
    params = { input with settings := { input.settings with mib := params.settings.mib } } ∧
      (input.settings.mib ≠ [] → params = input) ∧ checkSnmp env requests params = ⟨events, .ok params⟩ := by
  unfold checkSnmp at ok ⊢
  obtain ⟨_, sess, _, set, ok₁, rfl⟩ := Traced.bind_eq_ok_iff.mp ok
  obtain ⟨_, _, _, emitted, ok₂, rfl⟩ := Traced.bind_eq_ok_iff.mp ok₁
  obtain ⟨_, mibs, _, read, settled, rfl⟩ := Traced.bind_eq_ok_iff.mp ok₂
  obtain ⟨kept, named, still⟩ := settleMib_kept settled
  obtain rfl := (settleMib_ok settled).1
  refine ⟨kept, named, Traced.bind_eq_ok_iff.mpr ⟨_, sess, _, ?_, ?_, rfl⟩⟩
  · rw [kept]
    exact set
  · apply Traced.bind_eq_ok_iff.mpr ⟨_, _, _, emitted, _, rfl⟩
    exact Traced.bind_eq_ok_iff.mpr ⟨_, mibs, _, read, still, rfl⟩

theorem settle_settled {env : Env} {requests : Nat} {input params : In} {events : List Contact}
    (ok : settle env requests input = ⟨events, .ok params⟩) :
    params.settings = { input.settings with mib := params.settings.mib } ∧
      (params.protocol ≠ "nut_snmp".toList → params.settings = input.settings) ∧
      settle env requests params = ⟨events, .ok params⟩ := by
  obtain ⟨protocol, -, port⟩ := settle_ok ok
  have still := settledPort_settled protocol port
  by_cases snmp : input.protocol = "nut_snmp".toList
  · rw [settle, if_pos snmp, settlePort_eq snmp] at ok
    obtain ⟨kept, -, checked⟩ := checkSnmp_settled ok
    have snmp' : params.protocol = "nut_snmp".toList := protocol.trans snmp
    refine ⟨congrArg In.settings kept, fun other => (other snmp').elim, ?_⟩
    rw [settle, if_pos snmp', settlePort_eq snmp', still]
    exact checked
  · have pure_eq : settle env requests input = pure input := if_neg snmp
    obtain ⟨rfl, rfl⟩ := Traced.pure_eq_ok_iff.mp (pure_eq.symm.trans ok)
    exact ⟨rfl, fun _ => rfl, pure_eq⟩

theorem run_settled {env : Env} {requests : Nat} {random : env.identity.State} {input : In} {events : List Contact}
    {out : Out × env.identity.State} (ok : run env requests random input = ⟨events, .ok out⟩) :
    ∃ contacts params cnt, settle env requests input = ⟨contacts, .ok params⟩ ∧
      parse env params cnt random = .ok out := by
  rw [run_eq] at ok
  obtain ⟨_, _, _, -, ok₁, -⟩ := Traced.bind_eq_ok_iff.mp ok
  obtain ⟨contacts, params, _, settled, ok₂, -⟩ := Traced.bind_eq_ok_iff.mp ok₁
  obtain ⟨_, _, _, -, ok₃, -⟩ := Traced.bind_eq_ok_iff.mp ok₂
  obtain ⟨_, _, _, -, ok₄, -⟩ := Traced.bind_eq_ok_iff.mp ok₃
  obtain ⟨_, cnt, _, -, parsed, -⟩ := Traced.bind_eq_ok_iff.mp ok₄
  exact ⟨contacts, params, cnt, settled, (Traced.lift_eq_ok_iff.mp parsed).2⟩

theorem settle_again {env : Env} {requests : Nat} {input params : In} {events : List Contact}
    (port : settledPort input = input.port)
    (named : input.protocol = "nut_snmp".toList → input.settings.mib ≠ [])
    (ok : settle env requests input = ⟨events, .ok params⟩) : params = input := by
  unfold settle at ok
  split at ok
  next snmp =>
    rw [settlePort_eq snmp, port] at ok
    exact (checkSnmp_settled ok).2.1 (named snmp)
  next => exact (Traced.pure_eq_ok_iff.mp ok).2.symm

theorem again_recorded {input params : In} (recorded : Recorded input) (protocol : params.protocol = input.protocol)
    {ext : List Attr} (whole : again input.settings ext = params) : again {} ext = params := by
  have kept : field ext "endpoint.1.protocol".toList = input.protocol := by
    rw [← protocol, ← whole]
    rfl
  rw [← whole]
  unfold Recorded at recorded
  unfold again
  rw [kept]
  split at recorded
  next snmp => rw [if_pos snmp, if_pos snmp, recorded]
  next other => rw [if_neg other, if_neg other, recorded]

/-- A request made of the endpoint that any asset of a run records, and of the settings that none does, runs
as the first one did; where that set nothing else, the endpoint is enough. Later, whatever has become of the
machine and its network, each asset that a request for it finds records the same endpoint, as long as there is
a MIB to record. -/
theorem again_runs {env : Env} {requests : Nat} {random : env.identity.State} {input : In} {events : List Contact}
    {out : Out × env.identity.State} (ok : run env requests random input = ⟨events, .ok out⟩) {ret : Return}
    (member : ret ∈ out.1) :
    run env requests random (again input.settings ret.asset.ext) = ⟨events, .ok out⟩ ∧
      (Recorded input → run env requests random (again {} ret.asset.ext) = ⟨events, .ok out⟩) ∧
      ∀ found, again input.settings ret.asset.ext = found →
        (found.protocol = "nut_snmp".toList → found.settings.mib ≠ []) →
        ∀ later requests' random' events' out', run later requests' random' found = ⟨events', .ok out'⟩ →
          ∀ ret' ∈ out'.1, again found.settings ret'.asset.ext = found := by
  obtain ⟨contacts, params, cnt, settled, parsed⟩ := run_settled ok
  obtain ⟨protocol, address, port⟩ := settle_ok settled
  obtain ⟨kept, other, still⟩ := settle_settled settled
  have whole := again_parse parsed kept other ret member
  have same : run env requests random params = ⟨events, .ok out⟩ := by
    rw [← ok, run_eq, run_eq, address, still, settled]
  refine ⟨by rw [whole, same], fun recorded => ?_, ?_⟩
  · rw [again_recorded recorded protocol whole, same]
  · rw [whole]
    rintro _ rfl named later requests' random' events' out' ok' ret' member'
    obtain ⟨contacts', params', cnt', settled', parsed'⟩ := run_settled ok'
    obtain ⟨kept', other', -⟩ := settle_settled settled'
    rw [again_parse parsed' kept' other' ret' member']
    exact settle_again (settledPort_settled protocol port) named settled'

def foundInput : In where
  address := "ups".toList
  protocol := "nut_snmp".toList
  settings := { community := "public".toList }

theorem foundInput_again : ∃ events ret, run sampleEnv 3 () foundInput = ⟨events, .ok ([ret], ())⟩ ∧
    again {} ret.asset.ext ≠ foundInput ∧
      run sampleEnv 3 () (again {} ret.asset.ext) = ⟨events, .ok ([ret], ())⟩ := by
  obtain ⟨events, ret, ok, other⟩ : ∃ events ret, run sampleEnv 3 () foundInput = ⟨events, .ok ([ret], ())⟩ ∧
      again {} ret.asset.ext ≠ foundInput := ⟨_, _, rfl, by decide⟩
  exact ⟨events, ret, ok, other, (again_runs ok List.mem_cons_self).2.1 rfl⟩

end FtyDiscovery.Jobs.Endpoint
