import FtyDiscovery.Base.Entries
import FtyDiscovery.Jobs.Assets

/-! What is read of a dump: one value for each key that some line prints, wherever the line
stands. -/

namespace FtyDiscovery.Jobs.Dump

open Base Assets Commands.Assets

structure Printable (entry : Text × Text) : Prop where
  present : entry.1 ≠ []
  key : ∀ c ∈ entry.1, keyChar c = true
  val : ∀ c ∈ entry.2, Text.notLineEnd c = true
  tight : ∀ c ∈ entry.2.head?, Text.isSpace c = false

instance (entry : Text × Text) : Decidable (Printable entry) :=
  decidable_of_iff
    (entry.1 ≠ [] ∧ entry.1.all keyChar = true ∧ entry.2.all Text.notLineEnd = true ∧
      entry.2.head?.all (fun c => !Text.isSpace c) = true)
    ⟨fun ⟨present, key, val, tight⟩ =>
        ⟨present, List.all_eq_true.mp key, List.all_eq_true.mp val, fun c first => by
          have stops := Option.mem_def.mp first ▸ tight
          simpa using stops⟩,
      fun ⟨present, key, val, tight⟩ =>
        ⟨present, List.all_eq_true.mpr key, List.all_eq_true.mpr val, by
          cases first : entry.2.head? with
          | none => rfl
          | some c => simpa using tight c first⟩⟩

def printLine (entry : Text × Text) : Text := entry.1 ++ ':' :: ' ' :: entry.2

def Matches (line : Text) : Bool := (Regex.fullMatch lineRex line).isSome

theorem not_keyChar_of_isSpace {c : Char} (space : Text.isSpace c = true) : keyChar c = false := by
  simp only [Text.isSpace, List.contains_eq_mem, List.mem_cons, List.not_mem_nil, or_false,
    decide_eq_true_eq] at space
  rcases space with rfl | rfl | rfl | rfl | rfl | rfl <;> decide

theorem parses_lineRex (line : Text) (captures : Regex.Captures Char) :
    Regex.Parses lineRex line captures ↔ ∃ key gap blank val,
      (key ≠ [] ∧ ∀ c ∈ key, keyChar c = true) ∧ (∀ c ∈ gap, Text.isSpace c = true) ∧
      (blank ≠ [] ∧ ∀ c ∈ blank, Text.isSpace c = true) ∧ (∀ c ∈ val, Text.notLineEnd c = true) ∧
      line = key ++ (gap ++ ':' :: (blank ++ val)) ∧ captures = [(1, key), (2, val)] := by
  simp only [lineRex, Regex.Parses, Regex.parses_plus, Regex.parses_literal]
  constructor
  · intro parsed
    rcases parsed with ⟨key, _, _, _, ⟨_, ⟨present, keys, rfl⟩, rfl⟩, ⟨gap, _, _, _, ⟨spaces, rfl⟩,
      ⟨_, _, _, _, ⟨rfl, rfl⟩, ⟨blank, val, _, _, ⟨wide, blanks, rfl⟩,
        ⟨_, ⟨vals, rfl⟩, rfl⟩, rfl, rfl⟩, rfl, rfl⟩, rfl, rfl⟩, rfl, rfl⟩
    exact ⟨key, gap, blank, val, ⟨present, keys⟩, spaces, ⟨wide, blanks⟩, vals, by simp, rfl⟩
  · intro cut
    rcases cut with ⟨key, gap, blank, val, ⟨present, keys⟩, spaces, ⟨wide, blanks⟩, vals, rfl, rfl⟩
    exact ⟨key, _, _, _, ⟨_, ⟨present, keys, rfl⟩, rfl⟩, ⟨gap, _, _, _, ⟨spaces, rfl⟩,
      ⟨[':'], _, _, _, ⟨rfl, rfl⟩, ⟨blank, val, _, _, ⟨wide, blanks, rfl⟩,
        ⟨_, ⟨vals, rfl⟩, rfl⟩, rfl, rfl⟩, rfl, rfl⟩, rfl, rfl⟩, rfl, rfl⟩

theorem afterKey {gap tail : Text} (spaces : ∀ c ∈ gap, Text.isSpace c = true) :
    ∀ c ∈ (gap ++ ':' :: tail).head?, keyChar c = false := by
  cases gap with
  | nil => simp [keyChar]
  | cons c gap =>
    simp only [List.cons_append, List.head?_cons, Option.mem_some_iff, forall_eq']
    exact not_keyChar_of_isSpace (spaces c (by simp))

/-- A printed line is cut in one way only: the key ends before the colon, and the blanks after
it end where the value starts. -/
theorem fullMatch_printLine {entry : Text × Text} (printable : Printable entry) :
    Regex.fullMatch lineRex (printLine entry) = some [(1, entry.1), (2, entry.2)] := by
  apply Regex.fullMatch_of_unique
  · rw [parses_lineRex]
    exact ⟨entry.1, [], [' '], entry.2, ⟨printable.present, printable.key⟩, by simp, by simp [Text.isSpace],
      printable.val, rfl, rfl⟩
  · intro others parsed
    obtain ⟨key, gap, blank, val, ⟨present, keys⟩, spaces, ⟨wide, blanks⟩, vals, line, rfl⟩ :=
      (parses_lineRex _ _).mp parsed
    obtain ⟨rfl, rest⟩ := Regex.run_unique printable.key keys (by simp [keyChar])
      (afterKey spaces) line
    obtain ⟨rfl, tail⟩ := Regex.run_unique (s := []) (by simp) spaces (by simp [Text.isSpace])
      (by simp [Text.isSpace]) rest
    obtain ⟨-, tail⟩ := List.cons.inj tail
    cases blank with
    | nil => exact (wide rfl).elim
    | cons c blank =>
      obtain ⟨-, value⟩ := List.cons.inj tail
      cases blank with
      | nil => simp [value]
      | cons d blank =>
        have started := printable.tight d (by simp [value])
        rw [blanks d (by simp)] at started
        cases started

variable (utils : StringUtils)

theorem split_printLine {entry : Text × Text} (printable : Printable entry) :
    utils.split (printLine entry) lineRex = entry := by
  rw [utils.split_eq, fullMatch_printLine printable]
  rfl

theorem split_unmatched {line : Text} (unmatched : Matches line = false) :
    utils.split line lineRex = ([], []) := by
  have missed : Regex.fullMatch lineRex line = none := by simpa [Matches] using unmatched
  rw [utils.split_eq, missed]

theorem split_matched {line : Text} (matched : Matches line = true) : ∃ key tail,
    (utils.split line lineRex).1 = key ∧ line = key ++ tail ∧ key ≠ [] ∧ ∀ c ∈ tail.head?, keyChar c = false := by
  obtain ⟨captures, found⟩ := Option.isSome_iff_exists.mp matched
  obtain ⟨key, gap, blank, val, ⟨present, -⟩, spaces, -, -, rfl, rfl⟩ :=
    (parses_lineRex line captures).mp (Regex.fullMatch_sound found)
  refine ⟨key, gap ++ ':' :: (blank ++ val), ?_, rfl, present, afterKey spaces⟩
  rw [utils.split_eq, found]
  rfl

theorem split_key {line : Text} (matched : Matches line = true) : (utils.split line lineRex).1 ≠ [] := by
  obtain ⟨key, tail, cut, -, present, -⟩ := split_matched utils matched
  rw [cut]
  exact present

def valueOf (lines : List Text) (key : Text) : Option Text :=
  (lines.find? (fun line => (utils.split line lineRex).1 = key)).map
    (fun line => (utils.split line lineRex).2)

theorem foldl_readLine (lines : List Text) (tmpMap : Dump) (key : Text) :
    (lines.foldl (readLine utils) tmpMap)[key]? = (tmpMap[key]?).or (valueOf utils lines key) := by
  induction lines generalizing tmpMap with
  | nil => simp [valueOf]
  | cons line lines ih =>
    rw [List.foldl_cons, ih]
    simp only [readLine, Std.ExtTreeMap.getElem?_insertIfNew, Std.LawfulEqOrd.compare_eq_iff_eq, valueOf,
      List.find?_cons]
    by_cases here : (utils.split line lineRex).1 = key
    · subst here
      cases before : tmpMap[(utils.split line lineRex).1]? with
      | none =>
        have absent : (utils.split line lineRex).1 ∉ tmpMap := by
          rw [Std.ExtTreeMap.mem_iff_isSome_getElem?, before]
          simp
        simp [absent]
      | some val =>
        have present := Std.ExtTreeMap.mem_iff_isSome_getElem?.mpr (by rw [before]; rfl)
        simp [present]
    · simp [here]

theorem readDump_getElem? (cnt key : Text) :
    (readDump utils cnt)[key]? = valueOf utils (Text.getlines cnt) key := by
  rw [readDump, foldl_readLine, Std.ExtTreeMap.getElem?_empty, Option.none_or]

theorem valueOf_filter (lines : List Text) {key : Text} (present : key ≠ []) :
    valueOf utils (lines.filter Matches) key = valueOf utils lines key := by
  rw [valueOf, List.find?_filter, valueOf]
  congr 2
  funext line
  by_cases matched : Matches line = true
  · simp [matched]
  · have unmatched : Matches line = false := by simpa using matched
    simp [unmatched, split_unmatched utils unmatched, Ne.symm present]

theorem valueOf_printed {printed : List (Text × Text)} (printable : ∀ entry ∈ printed, Printable entry)
    (key : Text) : valueOf utils (printed.map printLine) key = printed.lookup key := by
  induction printed with
  | nil => rfl
  | cons entry printed ih =>
    have rest := ih (fun other member => printable other (List.mem_cons_of_mem _ member))
    have cut := split_printLine utils (printable entry List.mem_cons_self)
    rw [valueOf] at rest
    rw [valueOf, List.map_cons, List.find?_cons, cut, List.lookup_cons]
    by_cases here : entry.1 = key
    · simp [here, cut]
    · have other : (key == entry.1) = false := by simpa using Ne.symm here
      simp only [here, decide_false, other]
      exact rest

theorem valueOf_empty {lines : List Text} {val : Text} (found : valueOf utils lines [] = some val) :
    val = [] := by
  obtain ⟨line, hit, rfl⟩ := Option.map_eq_some_iff.mp found
  have unnamed := List.find?_some hit
  have unmatched : Matches line = false := by
    by_contra matched
    exact split_key utils (by simpa using matched) (by simpa using unnamed)
  rw [split_unmatched utils unmatched]

theorem mappedAttrs_filter {mapping : Nut.Mapping} (absent : mapping [] = none) (start : Text)
    (entries : List (Text × Text)) :
    mappedAttrs mapping start (entries.filter (fun entry => entry.1 ≠ [])) = mappedAttrs mapping start entries := by
  rw [mappedAttrs, List.filterMap_filter, mappedAttrs]
  apply List.filterMap_congr
  intro entry _
  rcases entry with ⟨key, val⟩
  by_cases empty : key = []
  · simp [empty, Nut.Mapper.mapKey_empty absent]
  · simp [empty]

def Agree (m m' : Dump) : Prop := ∀ key : Text, key ≠ [] → m[key]? = m'[key]?

theorem deviceAsset_congr {mapping : Nut.Mapping} (absent : mapping [] = none) {m m' : Dump} (agree : Agree m m')
    (deviceType subAddress start : Text) :
    deviceAsset mapping m deviceType subAddress start = deviceAsset mapping m' deviceType subAddress start := by
  have same := Entries.filter_toList_congr (p := fun key => key ≠ [])
    (fun key kept => agree key (by simpa using kept))
  rw [deviceAsset, ← mappedAttrs_filter absent, same, mappedAttrs_filter absent, deviceAsset]

theorem chain_congr {env : Env} (absent : env.mapping [] = none) {m m' : Dump} (agree : Agree m m')
    (params : In) (deviceType : Text) (i left : Nat) (random : env.identity.State) :
    chain env params m deviceType i left random = chain env params m' deviceType i left random := by
  induction left generalizing i random with
  | zero => rfl
  | succ left ih => simp only [chain, deviceAsset_congr absent agree, ih]

theorem parse_congr {env : Env} (absent : env.mapping [] = none) {cnt cnt' : Text}
    (agree : Agree (readDump env.utils cnt) (readDump env.utils cnt')) (params : In)
    (random : env.identity.State) : parse env params cnt random = parse env params cnt' random := by
  have deviceType := agree "device.type".toList (by decide)
  have deviceCount := agree "device.count".toList (by decide)
  simp only [parse, Std.ExtTreeMap.getD_eq_getD_getElem?, deviceType, deviceCount, chain_congr absent agree,
    deviceAsset_congr absent agree]

/-- A dump that prints these entries, each on a line of its own, with any other lines between. -/
def Prints (cnt : Text) (printed : List (Text × Text)) : Prop :=
  (Text.getlines cnt).filter Matches = printed.map printLine

instance (cnt : Text) (printed : List (Text × Text)) : Decidable (Prints cnt printed) :=
  inferInstanceAs (Decidable (_ = _))

theorem readDump_printed {printed : List (Text × Text)} (printable : ∀ entry ∈ printed, Printable entry)
    {cnt : Text} (prints : Prints cnt printed) {key : Text} (present : key ≠ []) :
    (readDump utils cnt)[key]? = printed.lookup key := by
  rw [readDump_getElem?, ← valueOf_filter utils _ present, prints, valueOf_printed utils printable]

/-- A dump is read as what was printed, each key with its first value, and the lines that do not
match leave at most an empty entry; where each key is printed once, the assets are the same in
every order of the lines. -/
theorem dump_recovers {env : Env} {printed : List (Text × Text)}
    (printable : ∀ entry ∈ printed, Printable entry) {cnt : Text} (prints : Prints cnt printed) :
    (∀ key : Text, key ≠ [] → (readDump env.utils cnt)[key]? = printed.lookup key) ∧
      (∀ val, (readDump env.utils cnt)[([] : Text)]? = some val → val = []) ∧
      ∀ printed' cnt', printed'.Perm printed → (printed.map Prod.fst).Nodup → Prints cnt' printed' →
        env.mapping [] = none → ∀ params random,
          parse env params cnt' random = parse env params cnt random := by
  refine ⟨fun key present => readDump_printed env.utils printable prints present, fun val found => ?_, ?_⟩
  · rw [readDump_getElem?] at found
    exact valueOf_empty env.utils found
  · intro printed' cnt' perm distinct prints' absent params random
    have printable' : ∀ entry ∈ printed', Printable entry :=
      fun entry member => printable entry (perm.mem_iff.mp member)
    refine parse_congr absent (fun key present => ?_) params random
    rw [readDump_printed env.utils printable' prints' present,
      readDump_printed env.utils printable prints present, Entries.lookup_perm perm distinct]

theorem sampleDump_recovers :
    (readDump StringUtils.plain "Network UPS\ndevice.type: ups\nups.load: \n".toList)["ups.load".toList]? =
        some [] ∧
      parse sampleEnv {} "ups.load: \nNetwork UPS\ndevice.type: ups\n".toList () =
        parse sampleEnv {} "Network UPS\ndevice.type: ups\nups.load: \n".toList () := by
  have printable : ∀ entry ∈ [("device.type".toList, "ups".toList), ("ups.load".toList, [])],
      Printable entry := by decide
  have prints : Prints "Network UPS\ndevice.type: ups\nups.load: \n".toList
      [("device.type".toList, "ups".toList), ("ups.load".toList, [])] := by decide
  obtain ⟨values, -, orders⟩ := @dump_recovers sampleEnv _ printable _ prints
  exact ⟨values _ (by decide), orders _ _ (List.Perm.swap _ _ _) (by decide) (by decide) rfl {} ()⟩

end FtyDiscovery.Jobs.Dump
