import FtyDiscovery.Jobs.Assets

/-! What `enrichAsset` adds behind the mapped entries, and how much of it is random. -/

namespace FtyDiscovery.Jobs.Enrich

open Base Assets Commands.Assets

theorem findVal_append (ext added : List Attr) (key : Text) :
    findVal (ext ++ added) key = (findVal ext key).or (findVal added key) := by
  simp only [findVal, List.find?_append, Option.map_or]

theorem addEndpoint_eq (params : In) (subAddress : Text) (ext : List Attr) :
    addEndpoint params subAddress ext = ext ++ addEndpoint params subAddress [] := by
  simp [addEndpoint, addAssetVal]

def powerAttrs (nominal defaultNominal : Option Text) : List Attr :=
  (nominal.or defaultNominal).elim [] (fun power => addAssetVal "max_power".toList power false [])

theorem addMaxPower_eq (ext : List Attr) :
    addMaxPower ext = ext ++ powerAttrs (findVal ext "realpower.nominal".toList)
      (findVal ext "realpower.default.nominal".toList) := by
  unfold addMaxPower powerAttrs
  cases findVal ext "realpower.nominal".toList with
  | some power => rfl
  | none =>
    cases findVal ext "realpower.default.nominal".toList with
    | some power => rfl
    | none => exact (List.append_nil ext).symm

theorem addSetting_eq (key setting : Text) (ext : List Attr) :
    addSetting key setting ext = ext ++ addSetting key setting [] := by
  unfold addSetting
  split
  next => rfl
  next => exact (List.append_nil ext).symm

theorem addSettings_eq (params : In) (ext : List Attr) :
    addSettings params ext = ext ++ addSettings params [] := by
  unfold addSettings
  split
  next =>
    simp only []
    rw [addSetting_eq _ _ (addSetting _ _ (addSetting _ _ ext)), addSetting_eq _ _ (addSetting _ _ ext),
      addSetting_eq _ _ ext, addSetting_eq _ _ (addSetting _ _ (addSetting _ _ [])),
      addSetting_eq _ _ (addSetting _ params.settings.credentialId []), List.append_assoc, List.append_assoc,
      List.append_assoc]
  next => exact (List.append_nil ext).symm

theorem addDaisyChain_eq (subtype subAddress : Text) (ext : List Attr) :
    addDaisyChain subtype subAddress ext = ext ++ addDaisyChain subtype subAddress [] := by
  unfold addDaisyChain
  split
  next => rfl
  next => exact (List.append_nil ext).symm

def laterAttrs (params : In) (ret : Return) : List Attr :=
  powerAttrs (findVal ret.asset.ext "realpower.nominal".toList)
      (findVal ret.asset.ext "realpower.default.nominal".toList) ++
    addSettings params [] ++ addDaisyChain (enrichSubtype ret.asset.ext ret.asset.subtype) ret.subAddress []

def identifier (identity : Identity) (params : In) (ret : Return) (random : identity.State) :
    Text × identity.State :=
  uuidVal identity (addEndpoint params ret.subAddress ret.asset.ext) random

theorem findVal_enriched {key : Text} (params : In) (ret : Return) (uuid : Text)
    (apart : findVal (addEndpoint params ret.subAddress [] ++ addAssetVal "uuid".toList uuid false []) key = none) :
    findVal (addAssetVal "uuid".toList uuid false (addEndpoint params ret.subAddress ret.asset.ext)) key =
      findVal ret.asset.ext key := by
  have added : addAssetVal "uuid".toList uuid false (addEndpoint params ret.subAddress ret.asset.ext) =
      ret.asset.ext ++ (addEndpoint params ret.subAddress [] ++ addAssetVal "uuid".toList uuid false []) := by
    rw [addEndpoint_eq]
    simp [addAssetVal]
  rw [added, findVal_append, apart, Option.or_none]

/-- The entries of an enriched asset: the mapped ones as they were, the endpoint, the
identifier, and the rest. -/
theorem enrichAsset_ext (identity : Identity) (params : In) (ret : Return) (random : identity.State) :
    (enrichAsset identity params ret random).1.asset.ext =
      ret.asset.ext ++ addEndpoint params ret.subAddress [] ++
        addAssetVal "uuid".toList (identifier identity params ret random).1 false [] ++ laterAttrs params ret := by
  let uuid := (identifier identity params ret random).1
  let subtype := enrichSubtype ret.asset.ext ret.asset.subtype
  let identified := addAssetVal "uuid".toList uuid false (addEndpoint params ret.subAddress ret.asset.ext)
  have nominal : findVal identified "realpower.nominal".toList = _ := findVal_enriched params ret uuid rfl
  have defaultNominal : findVal identified "realpower.default.nominal".toList = _ :=
    findVal_enriched params ret uuid rfl
  calc (enrichAsset identity params ret random).1.asset.ext
      = addDaisyChain subtype ret.subAddress (addSettings params (addMaxPower identified)) := rfl
    _ = identified ++ laterAttrs params ret := by
        rw [addDaisyChain_eq, addSettings_eq, addMaxPower_eq, nominal, defaultNominal, laterAttrs]
        simp only [List.append_assoc, subtype]
    _ = _ := by
        simp only [identified, addAssetVal, List.nil_append]
        rw [addEndpoint_eq params ret.subAddress ret.asset.ext]

def enricherNames : List Text :=
  ["ip.1".toList, "endpoint.1.protocol".toList, "endpoint.1.port".toList, "endpoint.1.sub_address".toList,
    "endpoint.1.status.operating".toList, "endpoint.1.status.error_msg".toList, "uuid".toList, "max_power".toList,
    "endpoint.1.nut_snmp.secw_credential_id".toList, "endpoint.1.nut_snmp.community".toList,
    "endpoint.1.nut_snmp.MIB".toList, "daisy_chain".toList]

def additions (params : In) (ret : Return) (uuid : Text) : List Attr :=
  addEndpoint params ret.subAddress [] ++ addAssetVal "uuid".toList uuid false [] ++ laterAttrs params ret

theorem enrichAsset_additions (identity : Identity) (params : In) (ret : Return) (random : identity.State) :
    (enrichAsset identity params ret random).1.asset.ext =
      ret.asset.ext ++ additions params ret (identifier identity params ret random).1 := by
  rw [enrichAsset_ext, additions, List.append_assoc, List.append_assoc, List.append_assoc]

theorem key_addSetting {key setting : Text} {info : Attr} (member : info ∈ addSetting key setting []) :
    info.key = key := by
  unfold addSetting at member
  split at member
  next =>
    obtain rfl := List.mem_singleton.mp member
    rfl
  next => cases member

theorem key_laterAttrs {params : In} {ret : Return} {info : Attr} (member : info ∈ laterAttrs params ret) :
    info.key ∈ enricherNames := by
  rw [laterAttrs, List.mem_append, List.mem_append] at member
  rcases member with (power | setting) | chain
  · unfold powerAttrs at power
    cases found : (findVal ret.asset.ext "realpower.nominal".toList).or
        (findVal ret.asset.ext "realpower.default.nominal".toList) with
    | none =>
      rw [found] at power
      cases power
    | some value =>
      rw [found] at power
      obtain rfl := List.mem_singleton.mp power
      exact (by decide : "max_power".toList ∈ enricherNames)
  · unfold addSettings at setting
    split at setting
    next =>
      simp only [] at setting
      rw [addSetting_eq _ _ (addSetting _ _ (addSetting _ _ [])), addSetting_eq _ _ (addSetting _ _ []),
        List.mem_append, List.mem_append] at setting
      rcases setting with (credential | community) | mib
      · rw [key_addSetting credential]
        decide
      · rw [key_addSetting community]
        decide
      · rw [key_addSetting mib]
        decide
    next => cases setting
  · unfold addDaisyChain at chain
    split at chain
    next =>
      obtain rfl := List.mem_singleton.mp chain
      exact (by decide : "daisy_chain".toList ∈ enricherNames)
    next => cases chain

theorem key_additions {params : In} {ret : Return} {uuid : Text} {info : Attr}
    (member : info ∈ additions params ret uuid) : info.key ∈ enricherNames := by
  rw [additions, List.mem_append, List.mem_append] at member
  rcases member with (endpoint | identified) | later
  · have listed : (addEndpoint params ret.subAddress []).map Attr.key = enricherNames.take 6 := rfl
    exact List.mem_of_mem_take (listed ▸ List.mem_map_of_mem endpoint)
  · obtain rfl := List.mem_singleton.mp identified
    exact (by decide : "uuid".toList ∈ enricherNames)
  · exact key_laterAttrs later

/-- The value under a key that was not mapped from the dump: what is mapped is read-only. -/
def writableVal (ext : List Attr) (key : Text) : Option Text :=
  (ext.find? (fun info => info.key = key ∧ info.readOnly = false)).map (fun info => info.val)

theorem readOnly_of_mapped {mapping : Nut.Mapping} {start : Text} {entries : List (Text × Text)} {info : Attr}
    (member : info ∈ mappedAttrs mapping start entries) : info.readOnly = true := by
  obtain ⟨entry, -, made⟩ := List.mem_filterMap.mp member
  split at made
  next => cases made
  next =>
    simp only at made
    split at made
    next => cases made
    next =>
      obtain rfl := Option.some.inj made
      rfl

theorem writableVal_parse {env : Env} {params : In} {cnt : Text} {random : env.identity.State}
    {out : Out × env.identity.State} (ok : parse env params cnt random = .ok out) {key value : Text}
    (added : ∀ subAddress, writableVal (addEndpoint params subAddress []) key = some value) :
    ∀ ret ∈ out.1, writableVal ret.asset.ext key = some value := by
  intro ret member
  obtain ⟨k, found⟩ := List.mem_iff_getElem?.mp member
  obtain ⟨state, rfl⟩ := parse_ok ok k ret found
  have mapped : (device env (readDump env.utils cnt) out.1.length k).asset.ext.find?
      (fun info => info.key = key ∧ info.readOnly = false) = none := by
    rw [List.find?_eq_none]
    intro info here
    simp [readOnly_of_mapped here]
  have endpoint := added (device env (readDump env.utils cnt) out.1.length k).subAddress
  rw [writableVal] at endpoint
  rw [writableVal, enrichAsset_ext, List.append_assoc, List.append_assoc, List.find?_append, mapped, Option.none_or,
    List.find?_append, Option.map_or, endpoint, Option.some_or]

def asksRandom (ext : List Attr) : Bool :=
  match findVal ext "manufacturer".toList, findVal ext "model".toList, findVal ext "serial_no".toList with
  | some manufacturer, some model, some serial => manufacturer.isEmpty || model.isEmpty || serial.isEmpty
  | _, _, _ => false

def blankUuid (info : Attr) : Attr :=
  if info.key = "uuid".toList ∧ info.readOnly = false then { info with val := [] } else info

/-- Equal, or equal but for two random identifiers. -/
def SameButRandomUuid (a b : Return) : Prop :=
  a = b ∨ asksRandom a.asset.ext = true ∧ asksRandom b.asset.ext = true ∧
    { a with asset := { a.asset with ext := a.asset.ext.map blankUuid } } =
      { b with asset := { b.asset with ext := b.asset.ext.map blankUuid } }

theorem asksRandom_append {ext : List Attr} (asks : asksRandom ext = true) (added : List Attr) :
    asksRandom (ext ++ added) = true := by
  unfold asksRandom at asks ⊢
  split at asks
  next manufacturer model serial manufacturer_eq model_eq serial_eq =>
    simp only [findVal_append, manufacturer_eq, model_eq, serial_eq, Option.some_or]
    exact asks
  next => cases asks

theorem uuidVal_random (identity : Identity) (ext : List Attr) (random random' : identity.State) :
    (uuidVal identity ext random).1 = (uuidVal identity ext random').1 ∨ asksRandom ext = true := by
  unfold uuidVal asksRandom
  cases findVal ext "manufacturer".toList with
  | none => exact .inl rfl
  | some manufacturer =>
    cases findVal ext "model".toList with
    | none => exact .inl rfl
    | some model =>
      cases findVal ext "serial_no".toList with
      | none => exact .inl rfl
      | some serial =>
        cases manufacturer with
        | nil => exact .inr rfl
        | cons =>
          cases model with
          | nil => exact .inr rfl
          | cons =>
            cases serial with
            | nil => exact .inr rfl
            | cons => exact .inl rfl

theorem enrichAsset_random (identity : Identity) (params : In) (ret : Return) (random random' : identity.State) :
    SameButRandomUuid (enrichAsset identity params ret random).1 (enrichAsset identity params ret random').1 := by
  have rest : (enrichAsset identity params ret random').1 =
      { (enrichAsset identity params ret random).1 with asset :=
        { (enrichAsset identity params ret random).1.asset with
          ext := (enrichAsset identity params ret random').1.asset.ext } } := rfl
  rcases uuidVal_random identity (addEndpoint params ret.subAddress ret.asset.ext) random random' with same | asks
  · left
    rw [rest, enrichAsset_ext, identifier, ← same, ← identifier, ← enrichAsset_ext]
  · right
    rw [addEndpoint_eq] at asks
    refine ⟨?_, ?_, ?_⟩
    · rw [enrichAsset_ext, List.append_assoc]
      exact asksRandom_append asks _
    · rw [enrichAsset_ext, List.append_assoc]
      exact asksRandom_append asks _
    · rw [rest]
      simp only [enrichAsset_ext, List.map_append]
      rfl

end FtyDiscovery.Jobs.Enrich
