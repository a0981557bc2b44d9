import FtyDiscovery.Jobs.Chain

/-! The names of the attributes of an asset: those the table gives and those the enricher adds. -/

namespace FtyDiscovery.Jobs.Attributes

open Base Assets Enrich Commands.Assets

/-- The attribute names of the entries, in order: the key that is not `read_only`. -/
def names (ext : List Attr) : List Text :=
  (ext.map Attr.key).filter (fun key => key ≠ "read_only".toList)

def addedNames (params : In) (ret : Return) : List Text :=
  names (additions params ret [])

theorem names_append (ext added : List Attr) : names (ext ++ added) = names ext ++ names added := by
  simp only [names, List.map_append, List.filter_append]

theorem names_enriched (identity : Identity) (params : In) (ret : Return) (random : identity.State) :
    names (enrichAsset identity params ret random).1.asset.ext = names ret.asset.ext ++ addedNames params ret := by
  rw [enrichAsset_additions, names_append, addedNames, additions, additions]
  simp only [names_append]
  rfl

theorem names_addSetting (key setting : Text) : (names (addSetting key setting [])).Sublist [key] := by
  unfold addSetting names
  split
  next => exact List.filter_sublist
  next => exact List.nil_sublist _

theorem names_addSettings (params : In) :
    (names (addSettings params [])).Sublist
      ["endpoint.1.nut_snmp.secw_credential_id".toList, "endpoint.1.nut_snmp.community".toList,
        "endpoint.1.nut_snmp.MIB".toList] := by
  unfold addSettings
  split
  next =>
    simp only []
    rw [addSetting_eq _ _ (addSetting _ _ (addSetting _ _ [])), addSetting_eq _ _ (addSetting _ _ []),
      names_append, names_append]
    exact ((names_addSetting _ _).append (names_addSetting _ _)).append (names_addSetting _ _)
  next => exact List.nil_sublist _

theorem names_powerAttrs (nominal defaultNominal : Option Text) :
    (names (powerAttrs nominal defaultNominal)).Sublist ["max_power".toList] := by
  unfold powerAttrs
  cases nominal.or defaultNominal with
  | none => exact List.nil_sublist _
  | some power => exact List.filter_sublist

theorem names_addDaisyChain (subtype subAddress : Text) :
    (names (addDaisyChain subtype subAddress [])).Sublist ["daisy_chain".toList] := by
  unfold addDaisyChain
  split
  next => exact List.filter_sublist
  next => exact List.nil_sublist _

theorem addedNames_sublist (params : In) (ret : Return) : (addedNames params ret).Sublist enricherNames := by
  rw [addedNames, additions, laterAttrs]
  simp only [names_append]
  exact (List.Sublist.refl _).append
    (((names_powerAttrs _ _).append (names_addSettings params)).append (names_addDaisyChain _ _))

theorem addedNames_nodup (params : In) (ret : Return) : (addedNames params ret).Nodup :=
  (show enricherNames.Nodup by decide).sublist (addedNames_sublist params ret)

def Named (mapping : Nut.Mapping) (tmpMap : Dump) (start rest : Text) : Prop :=
  (tmpMap[start ++ rest]?).isSome = true ∧ Nut.Mapper.mapKey mapping rest ≠ [] ∧
    Nut.Mapper.mapKey mapping rest ≠ "read_only".toList

/-- The reported keys of a device have names of their own, and none of those that are taken. -/
structure Unambiguous (mapping : Nut.Mapping) (tmpMap : Dump) (start : Text) (taken : List Text) : Prop where
  apart : ∀ rest rest', Named mapping tmpMap start rest → Named mapping tmpMap start rest' →
    Nut.Mapper.mapKey mapping rest = Nut.Mapper.mapKey mapping rest' → rest = rest'
  free : ∀ rest, Named mapping tmpMap start rest → Nut.Mapper.mapKey mapping rest ∉ taken

def namedKeys (mapping : Nut.Mapping) (tmpMap : Dump) (start : Text) : List Text :=
  ((Chain.under mapping start tmpMap.toList).map Prod.fst).filter
    (fun rest => Nut.Mapper.mapKey mapping rest ≠ "read_only".toList)

theorem mem_namedKeys (mapping : Nut.Mapping) (tmpMap : Dump) (start rest : Text) :
    rest ∈ namedKeys mapping tmpMap start ↔ Named mapping tmpMap start rest := by
  have listed : rest ∈ (Chain.under mapping start tmpMap.toList).map Prod.fst ↔
      (tmpMap[start ++ rest]?).isSome = true ∧ Nut.Mapper.mapKey mapping rest ≠ [] := by
    simp only [List.mem_map, Prod.exists, exists_and_right, exists_eq_right, Chain.mem_under,
      Std.ExtTreeMap.mem_toList_iff_getElem?_eq_some, Option.isSome_iff_exists]
  rw [namedKeys, List.mem_filter, listed, decide_eq_true_eq, Named, and_assoc]

theorem namedKeys_nodup (mapping : Nut.Mapping) (tmpMap : Dump) (start : Text) :
    (namedKeys mapping tmpMap start).Nodup :=
  List.Nodup.filter _ (Chain.under_ordered mapping start tmpMap).nodup_keys

theorem names_mapped (mapping : Nut.Mapping) (tmpMap : Dump) (start : Text) :
    names (mappedAttrs mapping start tmpMap.toList) =
      (namedKeys mapping tmpMap start).map (Nut.Mapper.mapKey mapping) := by
  rw [Chain.mappedAttrs_eq, names, namedKeys, List.map_map, List.filter_map, List.filter_map, List.map_map]
  rfl

theorem names_nodup_iff_unambiguous (mapping : Nut.Mapping) (tmpMap : Dump) (start : Text) {taken : List Text}
    (distinct : taken.Nodup) :
    (names (mappedAttrs mapping start tmpMap.toList) ++ taken).Nodup ↔ Unambiguous mapping tmpMap start taken := by
  rw [List.nodup_append', names_mapped, List.nodup_map_iff_inj_on (namedKeys_nodup mapping tmpMap start)]
  simp only [mem_namedKeys, List.disjoint_left, List.mem_map, forall_exists_index, and_imp,
    forall_apply_eq_imp_iff₂]
  constructor
  · intro ⟨apart, _, free⟩
    exact ⟨fun rest rest' named named' same => apart rest named rest' named' same, free⟩
  · intro unambiguous
    exact ⟨fun rest named rest' named' same => unambiguous.apart rest rest' named named' same, distinct,
      unambiguous.free⟩

/-- No attribute name comes twice in an asset exactly when the table gives the reported keys of its
device names of their own, apart from the ones that the enricher adds to the asset; these differ from
each other in any case. -/
theorem names_nodup_iff {env : Env} {params : In} {cnt : Text} {random : env.identity.State}
    {out : Out × env.identity.State} (ok : parse env params cnt random = .ok out) (k : Nat) {ret : Return}
    (found : out.1[k]? = some ret) :
    ((names ret.asset.ext).Nodup ↔
        Unambiguous env.mapping (readDump env.utils cnt) (deviceStart out.1.length k)
          (addedNames params (device env (readDump env.utils cnt) out.1.length k))) ∧
      names ret.asset.ext = names (device env (readDump env.utils cnt) out.1.length k).asset.ext ++
        addedNames params (device env (readDump env.utils cnt) out.1.length k) ∧
      (addedNames params (device env (readDump env.utils cnt) out.1.length k)).Nodup := by
  obtain ⟨state, rfl⟩ := parse_ok ok k ret found
  rw [names_enriched]
  exact ⟨names_nodup_iff_unambiguous _ _ _ (addedNames_nodup _ _), rfl, addedNames_nodup _ _⟩

def manyToOneEnv : Env :=
  { sampleEnv with
    mapping := fun key => [("device.mfr".toList, "manufacturer".toList),
      ("ups.mfr".toList, "manufacturer".toList)].lookup key }

theorem oneMaker_names_nodup :
    ∃ out ret, parse manyToOneEnv {} "ups.mfr: Eaton\n".toList () = .ok out ∧ out.1[0]? = some ret ∧
      ((names ret.asset.ext).Nodup ↔
        Unambiguous manyToOneEnv.mapping (readDump manyToOneEnv.utils "ups.mfr: Eaton\n".toList)
          (deviceStart out.1.length 0)
          (addedNames {} (device manyToOneEnv (readDump manyToOneEnv.utils "ups.mfr: Eaton\n".toList)
            out.1.length 0))) := by
  obtain ⟨ret, parsed⟩ : ∃ ret, parse manyToOneEnv {} "ups.mfr: Eaton\n".toList () = .ok ([ret], ()) := ⟨_, rfl⟩
  exact ⟨_, ret, parsed, rfl, (names_nodup_iff parsed 0 rfl).1⟩

theorem twoMakers_twice :
    ∃ ret, parse manyToOneEnv {} "device.mfr: Eaton\nups.mfr: EATON\n".toList () = .ok ([ret], ()) ∧
      names (ret.asset.ext.take 2) = ["manufacturer".toList, "manufacturer".toList] ∧
      ¬(names ret.asset.ext).Nodup :=
  ⟨_, rfl, by decide, by decide⟩

end FtyDiscovery.Jobs.Attributes
