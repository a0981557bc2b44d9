import FtyDiscovery.Jobs.Additions
import FtyDiscovery.Jobs.Attributes
import FtyDiscovery.Jobs.Endpoint

/-! The identifiers of the assets of a run: what they can be read as, and which draws of the random generator
went into them. -/

namespace FtyDiscovery.Uuid

open Base

/-- The marks of an identifier that is made of a hash: version 5, and the variant of the standard. -/
structure Named (bytes : List UInt8) : Prop where
  version : bytes[6]?.map (fun byte => byte.toNat / 16) = some 5
  variant : bytes[8]?.map (fun byte => byte.toNat / 64) = some 2

theorem marked (n : Nat) {mask k : Nat} (small : mask < 2 ^ k) (bits : Nat) :
    (n &&& mask ||| bits * 2 ^ k) / 2 ^ k = bits := by
  rw [← Nat.shiftRight_eq_div_pow, Nat.shiftRight_or_distrib, Nat.shiftRight_and_distrib,
    Nat.shiftRight_eq_div_pow mask, Nat.div_eq_of_lt small, Nat.and_zero, Nat.zero_or, Nat.shiftRight_eq_div_pow,
    Nat.mul_div_cancel _ (Nat.two_pow_pos k)]

theorem named_stamp (hash : Vector UInt8 20) : Named ((stamp hash).toList.take 16) := by
  have version : (hash[6].toNat &&& 15 ||| 80) / 16 = 5 := marked hash[6].toNat (by decide : 15 < 2 ^ 4) 5
  have variant : (hash[8].toNat &&& 63 ||| 128) / 64 = 2 := marked hash[8].toNat (by decide : 63 < 2 ^ 6) 2
  constructor
  · simpa [stamp] using version
  · simpa [stamp] using variant

end FtyDiscovery.Uuid

namespace FtyDiscovery.Jobs.Identities

open Base Assets Commands.Assets Enrich

def drawn (identity : Identity) (random : identity.State) (n : Nat) : identity.State :=
  (fun state => (identity.generateRandom state).2)^[n] random

def draws (out : Out) : Nat := out.countP (fun ret => asksRandom ret.asset.ext)

def identityNames : List Text := ["manufacturer".toList, "model".toList, "serial_no".toList]

theorem findVal_kept (identity : Identity) (params : In) (ret : Return) (random : identity.State) {key : Text}
    (member : key ∈ identityNames) :
    findVal (enrichAsset identity params ret random).1.asset.ext key = findVal ret.asset.ext key := by
  have other : ∀ key ∈ identityNames, key ∉ enricherNames := by decide
  have absent : findVal (additions params ret (identifier identity params ret random).1) key = none := by
    rw [findVal, Option.map_eq_none_iff, List.find?_eq_none]
    intro info inside same
    exact other key member (of_decide_eq_true same ▸ key_additions inside)
  rw [enrichAsset_additions, findVal_append, absent, Option.or_none]

theorem identifier_eq (identity : Identity) (params : In) (ret : Return) (random : identity.State) :
    identifier identity params ret random =
      uuidVal identity (enrichAsset identity params ret random).1.asset.ext random := by
  have kept (key : Text) (member : key ∈ identityNames)
      (apart : findVal (addEndpoint params ret.subAddress []) key = none) :
      findVal (addEndpoint params ret.subAddress ret.asset.ext) key =
        findVal (enrichAsset identity params ret random).1.asset.ext key := by
    rw [findVal_kept identity params ret random member, addEndpoint_eq, findVal_append, apart, Option.or_none]
  rw [identifier, uuidVal, uuidVal, kept "manufacturer".toList (by decide) rfl, kept "model".toList (by decide) rfl,
    kept "serial_no".toList (by decide) rfl]

theorem uuidVal_draws (identity : Identity) (ext : List Attr) (random : identity.State) :
    (uuidVal identity ext random).2 = drawn identity random (if asksRandom ext then 1 else 0) := by
  unfold uuidVal asksRandom
  cases findVal ext "manufacturer".toList with
  | none => rfl
  | some manufacturer =>
    cases findVal ext "model".toList with
    | none => rfl
    | some model =>
      cases findVal ext "serial_no".toList with
      | none => rfl
      | some serial => cases manufacturer <;> cases model <;> cases serial <;> rfl

/-- What is known of an identifier: it is left out where one of the three values is missing, and otherwise
read as sixteen bytes, those of a hash with its marks or those of the draw. -/
inductive Identifies (identity : Identity) (ext : List Attr) (state : identity.State) : Text → Prop where
  | missing (key : Text) (member : key ∈ identityNames) (absent : findVal ext key = none) :
      Identifies identity ext state []
  | hashed (manufacturer model serial uuid : Text) (asks : asksRandom ext = false)
      (values : identityNames.map (findVal ext) = [some manufacturer, some model, some serial])
      (bytes : List UInt8) (readable : Uuid.read uuid = some bytes) (named : Uuid.Named bytes)
      (hash : bytes = (Uuid.stamp (identity.sha1 (Uuid.source manufacturer model serial))).toList.take 16) :
      Identifies identity ext state uuid
  | drawn (uuid : Text) (asks : asksRandom ext = true)
      (readable : Uuid.read uuid = some (identity.generateRandom state).1.toList) : Identifies identity ext state uuid

theorem identifies (identity : Identity) (ext : List Attr) (state : identity.State) :
    Identifies identity ext state (uuidVal identity ext state).1 := by
  unfold uuidVal
  split
  next manufacturer model serial found found' found'' =>
    have values : identityNames.map (findVal ext) = [some manufacturer, some model, some serial] := by
      rw [← found, ← found', ← found'']
      rfl
    unfold Uuid.generateUUID
    split
    next full =>
      have asks : asksRandom ext = false := by
        simp only [asksRandom, found, found', found'']
        grind
      refine .hashed manufacturer model serial _ asks values _ ?_ (Uuid.named_stamp _) rfl
      exact Uuid.read_unparseLower (by simp)
    next empty =>
      have asks : asksRandom ext = true := by
        simp only [asksRandom, found, found', found'']
        grind
      refine .drawn _ asks ?_
      have all : (identity.generateRandom state).1.toList.take 16 = (identity.generateRandom state).1.toList :=
        List.take_of_length_le (by simp)
      rw [← all]
      exact Uuid.read_unparseLower (by simp)
  next absent =>
    by_contra unknown
    have present (key : Text) (member : key ∈ identityNames) : ∃ value, findVal ext key = some value :=
      Option.ne_none_iff_exists'.mp (fun none_there => unknown (.missing key member none_there))
    obtain ⟨manufacturer, found⟩ := present "manufacturer".toList (by decide)
    obtain ⟨model, found'⟩ := present "model".toList (by decide)
    obtain ⟨serial, found''⟩ := present "serial_no".toList (by decide)
    exact absent manufacturer model serial found found' found''

def Incomplete (ext : List Attr) : Prop := ∃ key ∈ identityNames, findVal ext key = none

theorem asksRandom_incomplete {ext : List Attr} (incomplete : Incomplete ext) : asksRandom ext = false := by
  obtain ⟨key, member, absent⟩ := incomplete
  unfold asksRandom
  split
  next manufacturer model serial found found' found'' =>
    simp only [identityNames, List.mem_cons, List.not_mem_nil, or_false] at member
    rcases member with rfl | rfl | rfl
    · cases absent.symm.trans found
    · cases absent.symm.trans found'
    · cases absent.symm.trans found''
  next => rfl

theorem Identifies.eq_nil {identity : Identity} {ext : List Attr} {state : identity.State} {uuid : Text}
    (known : Identifies identity ext state uuid) (incomplete : Incomplete ext) : uuid = [] := by
  have settled := asksRandom_incomplete incomplete
  obtain ⟨key, member, absent⟩ := incomplete
  cases known with
  | missing => rfl
  | hashed manufacturer model serial uuid asks values =>
    have listed := List.mem_map_of_mem (f := findVal ext) member
    rw [values, absent] at listed
    simp at listed
  | drawn uuid asks =>
    rw [settled] at asks
    cases asks

theorem Identifies.random {identity : Identity} {ext : List Attr} {state : identity.State} {uuid : Text}
    (known : Identifies identity ext state uuid) (asks : asksRandom ext = true) :
    uuid = Uuid.unparseLower (identity.generateRandom state).1.toList := by
  cases known with
  | missing key member absent =>
    rw [asksRandom_incomplete ⟨key, member, absent⟩] at asks
    cases asks
  | hashed manufacturer model serial uuid settled =>
    rw [settled] at asks
    cases asks
  | drawn uuid _ readable => exact (Uuid.read_eq_some_iff.mp readable).2

theorem drawn_add (identity : Identity) (random : identity.State) (m n : Nat) :
    drawn identity (drawn identity random m) n = drawn identity random (m + n) := by
  rw [drawn, drawn, drawn, Nat.add_comm, Function.iterate_add_apply]

theorem enrichAsset_draws (identity : Identity) (params : In) (ret : Return) (random : identity.State) :
    (enrichAsset identity params ret random).2 =
      drawn identity random (draws [(enrichAsset identity params ret random).1]) := by
  have state : (enrichAsset identity params ret random).2 = (identifier identity params ret random).2 := rfl
  rw [state, identifier_eq, uuidVal_draws, draws, List.countP_singleton]

theorem enrichAsset_identifies (identity : Identity) (params : In) {ret : Return}
    (mapped : ∀ info ∈ ret.asset.ext, info.readOnly = true) (random : identity.State) :
    ∃ uuid, writableVal (enrichAsset identity params ret random).1.asset.ext "uuid".toList = some uuid ∧
      Identifies identity (enrichAsset identity params ret random).1.asset.ext random uuid := by
  refine ⟨(identifier identity params ret random).1, ?_, ?_⟩
  · have nothing : writableVal ret.asset.ext "uuid".toList = none := by
      rw [writableVal, Option.map_eq_none_iff, List.find?_eq_none]
      intro info member
      simp [mapped info member]
    rw [enrichAsset_ext, Endpoint.writableVal_append, Endpoint.writableVal_append, Endpoint.writableVal_append,
      nothing, Option.none_or]
    rfl
  · rw [identifier_eq]
    exact identifies _ _ _

structure Drawn (identity : Identity) (random : identity.State) (made : Out × identity.State) : Prop where
  state : made.2 = drawn identity random (draws made.1)
  identified : ∀ k ret, made.1[k]? = some ret → ∃ uuid, writableVal ret.asset.ext "uuid".toList = some uuid ∧
    Identifies identity ret.asset.ext (drawn identity random (draws (made.1.take k))) uuid

theorem drawn_one (identity : Identity) (params : In) {ret : Return}
    (mapped : ∀ info ∈ ret.asset.ext, info.readOnly = true) (random : identity.State) :
    Drawn identity random
      ([(enrichAsset identity params ret random).1], (enrichAsset identity params ret random).2) := by
  refine ⟨enrichAsset_draws identity params ret random, fun k found here => ?_⟩
  cases k with
  | zero =>
    obtain rfl := Option.some.inj here
    exact enrichAsset_identifies identity params mapped random
  | succ k => cases here

theorem drawn_cons {identity : Identity} {random : identity.State} {ret : Return} {rest : Out × identity.State}
    (first : Drawn identity random ([ret], drawn identity random (draws [ret])))
    (later : Drawn identity (drawn identity random (draws [ret])) rest) :
    Drawn identity random (ret :: rest.1, rest.2) := by
  have counts (out : Out) : draws (ret :: out) = draws [ret] + draws out := by
    rw [draws, ← List.singleton_append, List.countP_append, ← draws, ← draws]
  constructor
  · rw [later.state, drawn_add]
    exact congrArg (drawn identity random) (counts rest.1).symm
  · intro k found here
    cases k with
    | zero => exact first.identified 0 found here
    | succ k =>
      have there := later.identified k found here
      rwa [drawn_add, ← counts] at there

theorem drawn_chain (env : Env) (params : In) (tmpMap : Dump) (deviceType : Text) (i left : Nat)
    (random : env.identity.State) : Drawn env.identity random (chain env params tmpMap deviceType i left random) := by
  induction left generalizing i random with
  | zero => exact ⟨rfl, fun k ret found => by cases found⟩
  | succ left ih =>
    have mapped : ∀ info ∈ (deviceAsset env.mapping tmpMap deviceType (Text.decimal (i + 1))
        (devicePrefix (i + 1))).asset.ext, info.readOnly = true := fun info member => readOnly_of_mapped member
    have first := drawn_one env.identity params mapped random
    rw [enrichAsset_draws] at first
    refine drawn_cons first ?_
    rw [← enrichAsset_draws]
    exact ih (i + 1) _

theorem drawn_parse {env : Env} {params : In} {cnt : Text} {random : env.identity.State}
    {made : Out × env.identity.State} (ok : parse env params cnt random = .ok made) :
    Drawn env.identity random made := by
  unfold parse at ok
  simp only at ok
  split at ok
  next => cases ok
  next dcount _ =>
    split at ok
    next =>
      obtain rfl := Except.ok.inj ok
      exact drawn_chain env params _ _ 0 dcount.toNat random
    next =>
      obtain rfl := Except.ok.inj ok
      exact drawn_one env.identity params (fun info member => readOnly_of_mapped member) random

/-- Each asset of a run that succeeds has one identifier that the enricher made: none where manufacturer, model
or serial number is missing, and otherwise a text that is read back as sixteen bytes, those of the hash of the
three values with its marks or, where one of these is empty, of the next draw. No draw is used twice. -/
theorem run_identifies {env : Env} {requests : Nat} {random : env.identity.State} {input : In}
    {events : List Contact} {out : Out} {after : env.identity.State}
    (ok : run env requests random input = ⟨events, .ok (out, after)⟩) :
    after = drawn env.identity random (draws out) ∧
      ∀ k ret, out[k]? = some ret → ∃ uuid, writableVal ret.asset.ext "uuid".toList = some uuid ∧
        Identifies env.identity ret.asset.ext (drawn env.identity random (draws (out.take k))) uuid := by
  obtain ⟨-, params, cnt, -, parsed⟩ := Endpoint.run_settled ok
  have made := drawn_parse parsed
  exact ⟨made.state, made.identified⟩

def drawingEnv : Env :=
  { sampleEnv with
    mapping := fun key => [("mfr".toList, "manufacturer".toList), ("model".toList, "model".toList),
      ("serial".toList, "serial_no".toList)].lookup key
    identity := Uuid.sampleIdentity
    host := { sampleEnv.host with
      start := fun _ => .ok ⟨.ok 0, ("device.count: 3\n".toList ++
        "device.1.mfr: Eaton\ndevice.1.model: P\ndevice.1.serial: \n".toList ++
        "device.2.mfr: Eaton\ndevice.2.model: P\ndevice.2.serial: 7\n".toList ++
        "device.3.mfr: Eaton\ndevice.3.model: P\ndevice.3.serial: \n".toList), []⟩ } }

def drawingInput : In where
  address := "ups".toList
  protocol := "nut_powercom".toList

theorem drawing_identified : ∃ events first second third,
    run drawingEnv 3 (5 : Nat) drawingInput = ⟨events, .ok ([first, second, third], (7 : Nat))⟩ ∧
      ∃ uuid, writableVal third.asset.ext "uuid".toList = some uuid ∧
        Identifies Uuid.sampleIdentity third.asset.ext (6 : Nat) uuid := by
  obtain ⟨events, first, second, third, ok, one⟩ : ∃ events first second third,
      run drawingEnv 3 (5 : Nat) drawingInput = ⟨events, .ok ([first, second, third], (7 : Nat))⟩ ∧
        draws [first, second] = 1 := ⟨_, _, _, _, rfl, by decide⟩
  obtain ⟨-, each⟩ := run_identifies ok
  have last := each 2 third rfl
  rw [List.take_succ_cons, List.take_succ_cons, List.take_zero, one] at last
  exact ⟨events, first, second, third, ok, last⟩

end FtyDiscovery.Jobs.Identities
