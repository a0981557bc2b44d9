import FtyDiscovery.Jobs.Dump
import FtyDiscovery.Jobs.Enrich

/-! A daisy chain: which entries of a dump each of its assets is made of. -/

namespace FtyDiscovery.Jobs.Chain

open Base Assets Commands.Assets

/-- The mapped entries of one device, in the order of their keys: what follows the prefix of the
device in the key, and the value. -/
structure DeviceEntries (mapping : Nut.Mapping) (tmpMap : Dump) (i : Nat) (entries : List (Text × Text)) :
    Prop where
  ordered : Entries.Ordered entries
  mem : ∀ rest val, (rest, val) ∈ entries ↔
    tmpMap[devicePrefix i ++ rest]? = some val ∧ Nut.Mapper.mapKey mapping rest ≠ []

def attrOf (mapping : Nut.Mapping) (entry : Text × Text) : Attr :=
  { key := Nut.Mapper.mapKey mapping entry.1, val := entry.2, readOnly := true }

def bareAsset (mapping : Nut.Mapping) (deviceType : Text) (i : Nat) (entries : List (Text × Text)) : Return where
  subAddress := Text.decimal i
  asset :=
    { type := "device".toList
      subtype := deviceType
      ext := entries.map (attrOf mapping) }

def under (mapping : Nut.Mapping) (start : Text) (entries : List (Text × Text)) : List (Text × Text) :=
  (entries.filter (fun entry => start.isPrefixOf entry.1 &&
    !(Nut.Mapper.mapKey mapping (entry.1.drop start.length)).isEmpty)).map
    (fun entry => (entry.1.drop start.length, entry.2))

theorem mappedAttrs_eq (mapping : Nut.Mapping) (start : Text) (entries : List (Text × Text)) :
    mappedAttrs mapping start entries = (under mapping start entries).map (attrOf mapping) := by
  induction entries with
  | nil => rfl
  | cons entry entries ih =>
    rw [mappedAttrs] at ih
    rw [mappedAttrs, List.filterMap_cons, ih, under]
    by_cases starts : start <+: entry.1
    · have found := (Text.find_eq_zero_iff start entry.1).mpr starts
      have here := List.isPrefixOf_iff_prefix.mpr starts
      by_cases unmapped : (Nut.Mapper.mapKey mapping (entry.1.drop start.length)).isEmpty = true
      · simp [found, unmapped, under]
      · simp [found, unmapped, here, under, attrOf]
    · have missed : Text.find start entry.1 ≠ some 0 := fun found => starts ((Text.find_eq_zero_iff _ _).mp found)
      have here : start.isPrefixOf entry.1 = false :=
        Bool.eq_false_iff.mpr (fun found => starts (List.isPrefixOf_iff_prefix.mp found))
      simp [missed, here, under]

theorem mem_under (mapping : Nut.Mapping) (start : Text) (entries : List (Text × Text)) (rest val : Text) :
    (rest, val) ∈ under mapping start entries ↔
      (start ++ rest, val) ∈ entries ∧ Nut.Mapper.mapKey mapping rest ≠ [] := by
  simp only [under, List.mem_map, List.mem_filter, Bool.and_eq_true, List.isPrefixOf_iff_prefix, Prod.mk.injEq]
  constructor
  · intro kept
    rcases kept with ⟨⟨key, found⟩, ⟨member, ⟨tail, rfl⟩, mapped⟩, rfl, rfl⟩
    rw [List.drop_left] at mapped ⊢
    exact ⟨member, by simpa using mapped⟩
  · intro given
    rcases given with ⟨member, mapped⟩
    refine ⟨(start ++ rest, val), ⟨member, List.prefix_append _ _, ?_⟩, List.drop_left, rfl⟩
    rw [List.drop_left]
    simpa using mapped

theorem under_ordered (mapping : Nut.Mapping) (start : Text) (tmpMap : Dump) :
    Entries.Ordered (under mapping start tmpMap.toList) := by
  rw [Entries.Ordered, under, List.pairwise_map]
  refine List.Pairwise.imp_of_mem ?_ (Entries.ordered_filter (Entries.ordered_toList tmpMap) _)
  intro a b first second below
  simp only [List.mem_filter, Bool.and_eq_true, List.isPrefixOf_iff_prefix] at first second
  obtain ⟨-, ⟨tail, whole⟩, -⟩ := first
  obtain ⟨-, ⟨tail', whole'⟩, -⟩ := second
  rw [← whole, ← whole', Entries.compare_append] at below
  rw [← whole, ← whole', List.drop_left, List.drop_left]
  exact below

theorem under_deviceEntries (mapping : Nut.Mapping) (tmpMap : Dump) (i : Nat) :
    DeviceEntries mapping tmpMap i (under mapping (devicePrefix i) tmpMap.toList) where
  ordered := under_ordered mapping (devicePrefix i) tmpMap
  mem rest val := by rw [mem_under, Std.ExtTreeMap.mem_toList_iff_getElem?_eq_some]

theorem deviceEntries_congr {mapping : Nut.Mapping} {m m' : Dump} {i : Nat} {entries entries' : List (Text × Text)}
    (agree : ∀ rest, m[devicePrefix i ++ rest]? = m'[devicePrefix i ++ rest]?)
    (first : DeviceEntries mapping m i entries) (second : DeviceEntries mapping m' i entries') :
    entries = entries' := by
  apply Entries.eq_of_mem_iff first.ordered second.ordered
  intro entry
  rcases entry with ⟨rest, val⟩
  rw [first.mem, second.mem, agree]

theorem chain_spec (env : Env) (params : In) (tmpMap : Dump) (deviceType : Text) (i left : Nat)
    (random : env.identity.State) :
    (chain env params tmpMap deviceType i left random).1.length = left ∧
      ∀ k < left, ∃ entries state, DeviceEntries env.mapping tmpMap (i + k + 1) entries ∧
        (chain env params tmpMap deviceType i left random).1[k]? = some (enrichAsset env.identity params
          (bareAsset env.mapping deviceType (i + k + 1) entries) state).1 := by
  obtain ⟨length, assets⟩ := chain_assets env params tmpMap deviceType i left random
  refine ⟨length, fun k less => ?_⟩
  obtain ⟨state, found⟩ := assets k less
  rw [deviceAsset, mappedAttrs_eq] at found
  exact ⟨_, state, under_deviceEntries env.mapping tmpMap (i + k + 1), found⟩

theorem devicePrefix_eq (i : Nat) : devicePrefix i = "device.".toList ++ (Text.decimal i ++ ['.']) :=
  List.append_assoc _ _ _

theorem keyChar_devicePrefix (j : Nat) : ∀ c ∈ devicePrefix j, keyChar c = true := by
  intro c member
  rw [devicePrefix_eq, List.mem_append, List.mem_append, List.mem_singleton] at member
  rcases member with word | number | rfl
  · exact List.all_eq_true.mp (by decide : "device.".toList.all keyChar = true) c word
  · simp [keyChar, Text.isDigit_of_mem_decimal number]
  · decide

def OfDevice (j : Nat) (line : Text) : Bool := (devicePrefix j).isPrefixOf line

theorem split_ofDevice (utils : StringUtils) {j : Nat} {line : Text} (own : OfDevice j line = true)
    (matched : Dump.Matches line = true) : devicePrefix j <+: (utils.split line lineRex).1 := by
  obtain ⟨key, tail, cut, whole, -, stop⟩ := Dump.split_matched utils matched
  rw [cut]
  have starts := List.isPrefixOf_iff_prefix.mp own
  rcases List.prefix_or_prefix_of_prefix starts (whole ▸ List.prefix_append key tail) with within | short
  · exact within
  · obtain ⟨more, longer⟩ := short
    cases more with
    | nil => simp [← longer]
    | cons c more =>
      have next : c :: more <+: tail := by
        rw [← longer, whole] at starts
        exact (List.prefix_append_right_inj key).mp starts
      obtain ⟨after, rfl⟩ := next
      have accepted := keyChar_devicePrefix j c (by rw [← longer]; simp)
      rw [stop c (by simp)] at accepted
      cases accepted

theorem valueOf_elsewhere (utils : StringUtils) (lines : List Text) {j : Nat} {key : Text} (present : key ≠ [])
    (apart : ¬devicePrefix j <+: key) :
    Dump.valueOf utils (lines.filter (fun line => !OfDevice j line)) key = Dump.valueOf utils lines key := by
  rw [Dump.valueOf, List.find?_filter, Dump.valueOf]
  congr 2
  funext line
  cases own : OfDevice j line with
  | false => simp
  | true =>
    have other : (utils.split line lineRex).1 ≠ key := by
      intro same
      subst same
      by_cases matched : Dump.Matches line = true
      · exact apart (split_ofDevice utils own matched)
      · exact present (by rw [Dump.split_unmatched utils (by simpa using matched)])
    simp [other]

def SameElsewhere (j : Nat) (cnt cnt' : Text) : Prop :=
  (Text.getlines cnt').filter (fun line => !OfDevice j line) =
    (Text.getlines cnt).filter (fun line => !OfDevice j line)

theorem readDump_elsewhere (utils : StringUtils) {j : Nat} {cnt cnt' : Text} (same : SameElsewhere j cnt cnt')
    {key : Text} (present : key ≠ []) (apart : ¬devicePrefix j <+: key) :
    (readDump utils cnt')[key]? = (readDump utils cnt)[key]? := by
  rw [Dump.readDump_getElem?, Dump.readDump_getElem?, ← valueOf_elsewhere utils _ present apart, same,
    valueOf_elsewhere utils _ present apart]

theorem devicePrefix_apart {i j : Nat} (apart : i ≠ j) (rest : Text) : ¬devicePrefix j <+: devicePrefix i ++ rest := by
  intro starts
  rw [devicePrefix_eq, devicePrefix_eq, List.append_assoc, List.prefix_append_right_inj, List.append_assoc] at starts
  exact apart (Text.decimal_prefix (by decide) starts).symm

theorem devicePrefix_host (j : Nat) {c : Char} (word : c.isDigit = false) (key : Text) :
    ¬devicePrefix j <+: "device.".toList ++ c :: key := by
  intro starts
  rw [devicePrefix_eq, List.prefix_append_right_inj] at starts
  cases digits : Text.decimal j with
  | nil => exact Nat.toDigits_ne_nil digits
  | cons d rest =>
    rw [digits, List.cons_append, List.cons_prefix_cons] at starts
    have digit := Text.isDigit_of_mem_decimal (n := j) (c := d) (by simp [digits])
    rw [starts.1, word] at digit
    cases digit

theorem parse_chain (env : Env) (params : In) {cnt : Text} {n : Nat} (many : 1 < n) (fits : n < 2 ^ 31)
    (count : (readDump env.utils cnt)["device.count".toList]? = some (Text.decimal n))
    (random : env.identity.State) :
    parse env params cnt random = .ok (chain env params (readDump env.utils cnt)
      ((readDump env.utils cnt).getD "device.type".toList []) 0 n random) := by
  have several : (n : Int) > 1 := by omega
  simp only [parse, count, Option.elim_some, env.utils.convertInt_decimal n fits, several, if_true,
    Int.toNat_natCast]

/-- In a chain each asset has the sub-address of its device and the mapped entries of this device in the
order of their keys, and behind them what the enricher adds; the lines of another device leave it as
it is, a random identifier apart. -/
theorem chain_devices (env : Env) (params : In) {cnt : Text} {n : Nat} (many : 1 < n) (fits : n < 2 ^ 31)
    (count : (readDump env.utils cnt)["device.count".toList]? = some (Text.decimal n))
    (random : env.identity.State) :
    ∃ out after, parse env params cnt random = .ok (out, after) ∧ out.length = n ∧
      (∀ k < n, ∃ asset entries added state, out[k]? = some asset ∧ asset.subAddress = Text.decimal (k + 1) ∧
        DeviceEntries env.mapping (readDump env.utils cnt) (k + 1) entries ∧
        asset.asset.ext = entries.map (fun entry =>
          { key := Nut.Mapper.mapKey env.mapping entry.1, val := entry.2, readOnly := true }) ++ added ∧
        (∀ info ∈ added, info.key ∈ Enrich.enricherNames) ∧
        asset = (enrichAsset env.identity params
          (bareAsset env.mapping ((readDump env.utils cnt).getD "device.type".toList []) (k + 1) entries) state).1) ∧
      ∀ j cnt' random', SameElsewhere j cnt cnt' →
        ∃ out' after', parse env params cnt' random' = .ok (out', after') ∧ out'.length = n ∧
          ∀ k < n, k + 1 ≠ j → ∃ asset asset', out[k]? = some asset ∧ out'[k]? = some asset' ∧
            Enrich.SameButRandomUuid asset asset' := by
  have one := chain_spec env params (readDump env.utils cnt)
    ((readDump env.utils cnt).getD "device.type".toList []) 0 n random
  simp only [Nat.zero_add] at one
  refine ⟨_, _, parse_chain env params many fits count random, one.1, fun k less => ?_, ?_⟩
  · obtain ⟨entries, state, own, found⟩ := one.2 k less
    exact ⟨_, entries, _, state, found, rfl, own, Enrich.enrichAsset_additions .., fun info => Enrich.key_additions, rfl⟩
  intro j cnt' random' same
  have hostKey (c : Char) (word : c.isDigit = false) (key : Text) :
      (readDump env.utils cnt')["device.".toList ++ c :: key]? =
        (readDump env.utils cnt)["device.".toList ++ c :: key]? :=
    readDump_elsewhere env.utils same (by simp) (devicePrefix_host j word key)
  have count' := (hostKey 'c' (by decide) "ount".toList).trans count
  have two := chain_spec env params (readDump env.utils cnt')
    ((readDump env.utils cnt').getD "device.type".toList []) 0 n random'
  simp only [Nat.zero_add] at two
  refine ⟨_, _, parse_chain env params many fits count' random', two.1, fun k less apart => ?_⟩
  obtain ⟨entries, state, own, found⟩ := one.2 k less
  obtain ⟨entries', state', own', found'⟩ := two.2 k less
  have deviceType : (readDump env.utils cnt').getD "device.type".toList [] =
      (readDump env.utils cnt).getD "device.type".toList [] := by
    rw [Std.ExtTreeMap.getD_eq_getD_getElem?, Std.ExtTreeMap.getD_eq_getD_getElem?]
    exact congrArg (fun found => found.getD []) (hostKey 't' (by decide) "ype".toList)
  have entriesSame : entries' = entries := by
    refine deviceEntries_congr (fun rest => ?_) own' own
    exact readDump_elsewhere env.utils same (by simp [devicePrefix_eq]) (devicePrefix_apart apart rest)
  refine ⟨_, _, found, found', ?_⟩
  rw [entriesSame, deviceType]
  exact Enrich.enrichAsset_random _ _ _ _ _

def sampleChain : Text :=
  "device.count: 2\ndevice.type: pdu\ndevice.2.mfr: ACME\ndevice.1.mfr: Eaton\n".toList

def otherChain : Text :=
  "device.1.model: X\ndevice.count: 2\ndevice.type: pdu\ndevice.2.mfr: ACME\n".toList

def chainEnv : Env :=
  { sampleEnv with mapping := fun key => [("mfr".toList, "manufacturer".toList)].lookup key }

theorem sampleChain_devices :
    ∃ out after, parse chainEnv {} sampleChain () = .ok (out, after) ∧ out.length = 2 ∧
      (∃ asset added, out[1]? = some asset ∧ asset.subAddress = "2".toList ∧
        asset.asset.ext = { key := "manufacturer".toList, val := "ACME".toList, readOnly := true } :: added ∧
        ∀ info ∈ added, info.key ∈ Enrich.enricherNames) ∧
      ∃ out' after', parse chainEnv {} otherChain () = .ok (out', after') ∧
        ∃ asset asset', out[1]? = some asset ∧ out'[1]? = some asset' ∧
          Enrich.SameButRandomUuid asset asset' := by
  have count : (readDump chainEnv.utils sampleChain)["device.count".toList]? = some (Text.decimal 2) := by
    rw [Dump.readDump_getElem?]
    decide
  have same : SameElsewhere 1 sampleChain otherChain := by
    unfold SameElsewhere
    decide
  obtain ⟨out, after, parsed, length, devices, elsewhere⟩ :=
    chain_devices chainEnv {} (n := 2) (by omega) (by omega) count ()
  obtain ⟨asset, entries, added, -, found, address, own, ext, more, -⟩ := devices 1 (by omega)
  have listed : entries = [("mfr".toList, "ACME".toList)] :=
    deviceEntries_congr (fun rest => rfl) own (under_deviceEntries chainEnv.mapping (readDump chainEnv.utils sampleChain) 2)
  obtain ⟨out', after', parsed', -, kept⟩ := elsewhere 1 otherChain () same
  rw [listed] at ext
  exact ⟨out, after, parsed, length, ⟨asset, added, found, address, ext, more⟩, out', after', parsed',
    kept 1 (by omega) (by omega)⟩

end FtyDiscovery.Jobs.Chain
