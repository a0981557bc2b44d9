import FtyDiscovery.Jobs.Attributes

/-! What the enricher adds to an asset, attribute by attribute. -/

namespace FtyDiscovery.Jobs.Additions

open Base Assets Enrich Attributes Commands.Assets

def values (ext : List Attr) (key : Text) : List Text :=
  (ext.filter (fun info => info.key = key)).map Attr.val

theorem values_append (ext added : List Attr) (key : Text) :
    values (ext ++ added) key = values ext key ++ values added key := by
  simp only [values, List.filter_append, List.map_append]

theorem values_eq_nil {ext : List Attr} {key : Text} {possible : List Text} (allowed : (names ext).Sublist possible)
    (visible : key ≠ "read_only".toList) (other : key ∉ possible) : values ext key = [] := by
  rw [values, List.map_eq_nil_iff, List.filter_eq_nil_iff]
  intro info member same
  apply other
  apply allowed.subset
  rw [decide_eq_true_eq] at same
  rw [← same] at visible ⊢
  exact List.mem_filter.mpr ⟨List.mem_map_of_mem member, decide_eq_true visible⟩

def renamed (subtype : Text) : Text :=
  if subtype = "pdu".toList then "epdu".toList
  else if subtype = "ats".toList then "sts".toList
  else subtype

def nutSnmpNames : List Text :=
  ["endpoint.1.nut_snmp.secw_credential_id".toList, "endpoint.1.nut_snmp.community".toList,
    "endpoint.1.nut_snmp.MIB".toList]

/-- An asset as it was and as it is enriched: the entries that were there stay in front, and these
are the ones that were added. -/
structure Enriched (params : In) (ret enriched : Return) (added : List Attr) : Prop where
  kept : enriched.asset.ext = ret.asset.ext ++ added
  subtype : enriched.asset.subtype =
    renamed (if ret.asset.subtype.isEmpty then (findVal ret.asset.ext "device.type".toList).getD []
      else ret.asset.subtype)
  settled : enriched.asset.subtype ≠ "pdu".toList ∧ enriched.asset.subtype ≠ "ats".toList
  daisyChain : values added "daisy_chain".toList =
    if enriched.asset.subtype = "epdu".toList then
      [if ret.subAddress.isEmpty then "0".toList else ret.subAddress]
    else []
  uuid : ∃ uuid, values added "uuid".toList = [uuid] ∧
    (uuid = [] ↔ findVal ret.asset.ext "manufacturer".toList = none ∨ findVal ret.asset.ext "model".toList = none ∨
      findVal ret.asset.ext "serial_no".toList = none)
  maxPower : values added "max_power".toList =
    ((findVal ret.asset.ext "realpower.nominal".toList).or
      (findVal ret.asset.ext "realpower.default.nominal".toList)).toList
  nutSnmp : ∀ key ∈ nutSnmpNames, values added key ≠ [] → params.protocol = "nut_snmp".toList

theorem renamed_settled (subtype : Text) :
    renamed subtype ≠ "pdu".toList ∧ renamed subtype ≠ "ats".toList := by
  unfold renamed
  split
  next => decide
  next pdu =>
    split
    next => decide
    next ats => exact ⟨pdu, ats⟩

theorem enrichSubtype_eq (ext : List Attr) (subtype : Text) :
    enrichSubtype ext subtype =
      renamed (if subtype.isEmpty then (findVal ext "device.type".toList).getD [] else subtype) := by
  have given : (if subtype.isEmpty then (findVal ext "device.type".toList).getD subtype else subtype) =
      if subtype.isEmpty then (findVal ext "device.type".toList).getD [] else subtype := by
    split
    next empty => rw [List.isEmpty_iff.mp empty]
    next => rfl
  have other : "epdu".toList ≠ "ats".toList := by decide
  simp only [enrichSubtype, given, renamed]
  generalize (if subtype.isEmpty then (findVal ext "device.type".toList).getD [] else subtype) = found
  by_cases pdu : found = "pdu".toList
  · rw [if_pos pdu, if_pos pdu, if_neg other]
  · rw [if_neg pdu, if_neg pdu]

theorem identifier_eq_nil_iff (identity : Identity) (params : In) (ret : Return) (random : identity.State) :
    (identifier identity params ret random).1 = [] ↔
      findVal ret.asset.ext "manufacturer".toList = none ∨ findVal ret.asset.ext "model".toList = none ∨
        findVal ret.asset.ext "serial_no".toList = none := by
  have found (key : Text) (apart : findVal (addEndpoint params ret.subAddress []) key = none) :
      findVal (addEndpoint params ret.subAddress ret.asset.ext) key = findVal ret.asset.ext key := by
    rw [addEndpoint_eq, findVal_append, apart, Option.or_none]
  rw [identifier, uuidVal, found _ rfl, found _ rfl, found _ rfl]
  cases findVal ret.asset.ext "manufacturer".toList with
  | none => simp
  | some manufacturer =>
    cases findVal ret.asset.ext "model".toList with
    | none => simp
    | some model =>
      cases findVal ret.asset.ext "serial_no".toList with
      | none => simp
      | some serial =>
        simp only [reduceCtorEq, or_self, iff_false]
        exact Uuid.generateUUID_ne_nil identity manufacturer model serial random

theorem values_laterAttrs (params : In) (ret : Return) (key : Text) :
    values (laterAttrs params ret) key =
      values (powerAttrs (findVal ret.asset.ext "realpower.nominal".toList)
          (findVal ret.asset.ext "realpower.default.nominal".toList)) key ++
        values (addSettings params []) key ++
        values (addDaisyChain (enrichSubtype ret.asset.ext ret.asset.subtype) ret.subAddress []) key := by
  rw [laterAttrs, values_append, values_append]

theorem nutSnmpNames_apart {key : Text} (member : key ∈ nutSnmpNames) :
    key ≠ "read_only".toList ∧ key ∉ ["max_power".toList] ∧ key ∉ ["daisy_chain".toList] ∧
      ∀ params subAddress uuid,
        values (addEndpoint params subAddress [] ++ addAssetVal "uuid".toList uuid false []) key = [] := by
  simp only [nutSnmpNames, List.mem_cons, List.not_mem_nil, or_false] at member
  rcases member with rfl | rfl | rfl
  · exact ⟨by decide, by decide, by decide, fun _ _ _ => rfl⟩
  · exact ⟨by decide, by decide, by decide, fun _ _ _ => rfl⟩
  · exact ⟨by decide, by decide, by decide, fun _ _ _ => rfl⟩

/-- The enricher only adds, and what it adds fits the asset and the request. -/
theorem enrichAsset_adds (identity : Identity) (params : In) (ret : Return) (random : identity.State) :
    ∃ added, Enriched params ret (enrichAsset identity params ret random).1 added := by
  have subtype : (enrichAsset identity params ret random).1.asset.subtype =
      enrichSubtype ret.asset.ext ret.asset.subtype := rfl
  refine ⟨addEndpoint params ret.subAddress [] ++
    addAssetVal "uuid".toList (identifier identity params ret random).1 false [] ++ laterAttrs params ret, ?_⟩
  constructor
  · rw [enrichAsset_ext, List.append_assoc, List.append_assoc, List.append_assoc]
  · rw [subtype, enrichSubtype_eq]
  · rw [subtype, enrichSubtype_eq]
    exact renamed_settled _
  · rw [values_append, values_laterAttrs, values_eq_nil (names_powerAttrs _ _) (by decide) (by decide),
      values_eq_nil (names_addSettings params) (by decide) (by decide), subtype]
    unfold addDaisyChain
    split
    next => rfl
    next => rfl
  · refine ⟨(identifier identity params ret random).1, ?_, identifier_eq_nil_iff ..⟩
    rw [values_append, values_laterAttrs, values_eq_nil (names_powerAttrs _ _) (by decide) (by decide),
      values_eq_nil (names_addSettings params) (by decide) (by decide),
      values_eq_nil (names_addDaisyChain _ _) (by decide) (by decide)]
    rfl
  · rw [values_append, values_laterAttrs, values_eq_nil (names_addSettings params) (by decide) (by decide),
      values_eq_nil (names_addDaisyChain _ _) (by decide) (by decide), List.append_nil, List.append_nil]
    unfold powerAttrs
    cases (findVal ret.asset.ext "realpower.nominal".toList).or
      (findVal ret.asset.ext "realpower.default.nominal".toList) with
    | none => rfl
    | some power => rfl
  · intro key member present
    by_contra other
    apply present
    have none_set : addSettings params [] = [] := if_neg other
    obtain ⟨visible, power, chain, rest⟩ := nutSnmpNames_apart member
    rw [values_append, rest, values_laterAttrs, none_set, values_eq_nil (names_powerAttrs _ _) visible power,
      values_eq_nil (names_addDaisyChain _ _) visible chain]
    rfl

end FtyDiscovery.Jobs.Additions
