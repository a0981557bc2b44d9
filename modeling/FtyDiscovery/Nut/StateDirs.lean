import FtyDiscovery.Base.System
import FtyDiscovery.Nut.Options

/-! The state directories of the drivers that run side by side: each is made with its object, written by
the driver of that object and removed with it. -/

namespace FtyDiscovery.Nut.StateDirs

open Base Call

/-- The paths that exist; one below a directory exists only with it. -/
structure Files where
  paths : List Text
  closed : ∀ path ∈ paths, ∀ dir, dir ≠ [] → dir ++ ['/'] <+: path → dir ∈ paths

def Covers (dir path : Text) : Prop := path = dir ∨ dir ++ ['/'] <+: path

instance (dir path : Text) : Decidable (Covers dir path) := by
  unfold Covers
  infer_instance

def Files.removeAll (dir : Text) (files : Files) : Files where
  paths := files.paths.filter (fun path => !decide (Covers dir path))
  closed := by
    intro path member above nonempty below
    simp only [List.mem_filter, Bool.not_eq_true', decide_eq_false_iff_not] at member ⊢
    refine ⟨files.closed path member.1 above nonempty below, fun covers => member.2 (.inr ?_)⟩
    rcases covers with rfl | inside
    · exact below
    · exact inside.trans ((List.prefix_append above ['/']).trans below)

def destroy (proc : Process) (files : Files) : Files :=
  if files.paths.contains proc.root then files.removeAll proc.root else files

/-- The template of `mkdtemp`, without the six characters. -/
def template : Text := "/tmp/nut".toList

/-- A directory that `mkdtemp` makes is a new one. -/
structure Made (files : Files) (dir : Text) : Prop where
  named : ∃ six : Text, six.length = 6 ∧ '/' ∉ six ∧ '\x00' ∉ six ∧ dir = template ++ six
  fresh : dir ∉ files.paths

structure Disk where
  files : Files
  foreign : List Text

/-- The objects that were made; those that are destroyed are gone. -/
abbrev State := Workers (Option Process) Disk

def At (s : State) (i : Nat) (proc : Process) : Prop := s.list[i]? = some (some proc)

/-- A directory of its own; where `mkdtemp` fails the objects share one. -/
def Own (proc : Process) : Prop := proc.root ≠ template

instance (proc : Process) : Decidable (Own proc) := inferInstanceAs (Decidable (_ ≠ _))

theorem own_of_root {first second : Process} (same : first.root = second.root) (own : Own first) : Own second :=
  fun shared => own (same.trans shared)

def SameBelow (dir : Text) (before after : Files) : Prop :=
  ∀ path, Covers dir path → (path ∈ after.paths ↔ path ∈ before.paths)

inductive Step : Option Nat → State → State → Prop where
  | make (s : State) (host : Host) (protocol : Text) (files : Files)
      (dir : ∀ dir, host.tempDir = some dir → Made s.shared.files dir)
      (made : ∀ path, path ∈ files.paths ↔ path ∈ s.shared.files.paths ∨ host.tempDir = some path) :
      Step (some s.list.length) s
        ⟨s.list ++ [some (Process.create host protocol)], { s.shared with files := files }⟩
  | call (s : State) (i : Nat) (proc : Process) (call : Call) (place : At s i proc) :
      Step (some i) s (s.update i (some (after proc call)) s.shared)
  | drive (s : State) (i : Nat) (proc : Process) (command : Command) (dir : Text) (files : Files)
      (place : At s i proc) (held : proc.process = some command)
      (told : command.inEnv "NUT_STATEPATH".toList = some dir) (present : dir ∈ s.shared.files.paths)
      (stays : dir ∈ files.paths)
      (others : ∀ path, ¬Covers dir path → (path ∈ files.paths ↔ path ∈ s.shared.files.paths)) :
      Step (some i) s (s.update i (some proc) { s.shared with files := files })
  | destroy (s : State) (i : Nat) (proc : Process) (place : At s i proc) :
      Step (some i) s (s.update i none { s.shared with files := destroy proc s.shared.files })
  | outside (s : State) (files : Files)
      (spares : ∀ i proc, At s i proc → Own proc → SameBelow proc.root s.shared.files files) :
      Step none s ⟨s.list, ⟨files, s.shared.foreign ++ files.paths.filter (fun path => path ∉ s.shared.files.paths)⟩⟩

def objects (files : Files) : System State where
  init := ⟨[], ⟨files, files.paths⟩⟩
  Step s next := ∃ who, Step who s next

theorem root_init {host : Host} {address : Text} {port : UInt16} {proc started : Process}
    (ok : proc.init host address port = .ok started) : started.root = proc.root := by
  unfold Process.init at ok
  split at ok
  next =>
    obtain ⟨path, -, rfl⟩ := ok_of_map ok
    rfl
  next =>
    split at ok
    next =>
      obtain ⟨path, -, rfl⟩ := ok_of_map ok
      rfl
    next =>
      split at ok
      next =>
        obtain ⟨path, -, rfl⟩ := ok_of_map ok
        rfl
      next => cases ok

theorem root_after (proc : Process) (call : Call) : (after proc call).root = proc.root := by
  by_cases other : ∀ host address port, call ≠ .init host address port
  · have adds := adds_after proc other
    generalize after proc call = next at adds
    cases adds with
    | same => rfl
    | held held longer => rfl
  · simp only [not_forall, not_not] at other
    obtain ⟨host, address, port, rfl⟩ := other
    rw [after_init]
    cases ok : proc.init host address port with
    | error failed => rfl
    | ok started => exact root_init ok

def Told (proc : Process) : Prop :=
  ∀ command dir, proc.process = some command → command.inEnv "NUT_STATEPATH".toList = some dir → dir = cString proc.root

theorem told_init {host : Host} {address : Text} {port : UInt16} {proc started : Process}
    (ok : proc.init host address port = .ok started) : Told started := by
  intro command dir held told
  unfold Process.init at ok
  split at ok
  next =>
    obtain ⟨path, -, rfl⟩ := ok_of_map ok
    obtain rfl := Option.some.inj held
    rw [Command.inEnv_setEnvVar, if_neg (by decide), Command.inEnv_setEnvVar, if_pos rfl] at told
    exact (Option.some.inj told).symm
  next =>
    split at ok
    next =>
      obtain ⟨path, -, rfl⟩ := ok_of_map ok
      obtain rfl := Option.some.inj held
      rw [Command.inEnv_setEnvVar, if_pos rfl] at told
      exact (Option.some.inj told).symm
    next =>
      split at ok
      next =>
        obtain ⟨path, -, rfl⟩ := ok_of_map ok
        obtain rfl := Option.some.inj held
        cases told
      next => cases ok

theorem told_after {proc : Process} (told : Told proc) (call : Call) : Told (after proc call) := by
  by_cases other : ∀ host address port, call ≠ .init host address port
  · intro next dir holds tells
    rw [root_after]
    cases held : proc.process with
    | none =>
      rw [unheld_call held other] at holds
      cases holds
    | some command =>
      obtain ⟨next', holds', -, env⟩ := longer_call held other
      obtain rfl := Option.some.inj (holds.symm.trans holds')
      rw [Command.inEnv, env _ (by decide)] at tells
      exact told command dir held tells
  · simp only [not_forall, not_not] at other
    obtain ⟨host, address, port, rfl⟩ := other
    rw [after_init]
    cases ok : proc.init host address port with
    | error failed => exact told
    | ok started => exact told_init ok

def InTmp (dir : Text) : Prop := ∃ name, '/' ∉ name ∧ '\x00' ∉ name ∧ dir = "/tmp/".toList ++ name

theorem InTmp.cString {dir : Text} (inTmp : InTmp dir) : cString dir = dir := by
  obtain ⟨name, -, free, rfl⟩ := inTmp
  refine cString_eq_self (fun member => ?_)
  rcases List.mem_append.mp member with start | rest
  · exact absurd start (by decide)
  · exact free rest

theorem covers_unique {first second path : Text} (named : InTmp first) (named' : InTmp second)
    (covers : Covers first path) (covers' : Covers second path) : first = second := by
  have component {dir : Text} (inTmp : InTmp dir) (covers : Covers dir path) :
      dir = "/tmp/".toList ++ (path.drop "/tmp/".toList.length).takeWhile (fun c => c != '/') := by
    obtain ⟨name, plain, -, rfl⟩ := inTmp
    have before : ∀ c ∈ name, (c != '/') = true := fun c member => bne_iff_ne.mpr (ne_of_mem_of_not_mem member plain)
    rcases covers with rfl | ⟨rest, rfl⟩
    · rw [List.drop_left, List.takeWhile_eq_self_iff.mpr before]
    · rw [List.append_assoc, List.append_assoc, List.drop_left, List.takeWhile_append_of_pos before]
      simp
  rw [component named covers, component named' covers']

theorem template_inTmp : InTmp template := ⟨"nut".toList, by decide, by decide, rfl⟩

theorem Made.inTmp {files : Files} {dir : Text} (made : Made files dir) : InTmp dir := by
  obtain ⟨six, -, plain, free, rfl⟩ := made.named
  refine ⟨"nut".toList ++ six, ?_, ?_, rfl⟩
  · simp [plain]
  · simp [free]

/-- Every path is someone else's or in the directory of an object, and no two objects have one that is made
for either. -/
structure Inv (s : State) : Prop where
  named : ∀ i proc, At s i proc → InTmp proc.root ∧ Told proc
  present : ∀ i proc, At s i proc → Own proc → proc.root ∈ s.shared.files.paths
  apart : ∀ i j a b, At s i a → At s j b → Own a → a.root = b.root → i = j
  accounted : ∀ path ∈ s.shared.files.paths, path ∈ s.shared.foreign ∨ ∃ i proc, At s i proc ∧ Covers proc.root path

variable {s : State}

theorem at_update {i j : Nat} {object proc : Option Process} {found : Process} {disk : Disk}
    (place : s.list[i]? = some object) (here : At (s.update i proc disk) j found) :
    (j = i ∧ proc = some found) ∨ (j ≠ i ∧ At s j found) := by
  by_cases same : j = i
  · subst same
    rw [At, Workers.update_self place] at here
    exact .inl ⟨rfl, Option.some.inj here⟩
  · rw [At, Workers.update, List.getElem?_set_ne (Ne.symm same)] at here
    exact .inr ⟨same, here⟩

theorem at_other {i j : Nat} {proc : Option Process} {found : Process} {disk : Disk} (other : j ≠ i)
    (here : At s j found) : At (s.update i proc disk) j found := by
  rw [At, Workers.update, List.getElem?_set_ne (Ne.symm other)]
  exact here

theorem apart_update {i : Nat} {proc next : Process} {disk : Disk}
    (apart : ∀ i j a b, At s i a → At s j b → Own a → a.root = b.root → i = j) (place : At s i proc)
    (root : next.root = proc.root) :
    ∀ j k a b, At (s.update i (some next) disk) j a → At (s.update i (some next) disk) k b → Own a →
      a.root = b.root → j = k := by
  have before {j : Nat} {a : Process} (here : At (s.update i (some next) disk) j a) :
      ∃ old, At s j old ∧ old.root = a.root := by
    rcases at_update place here with ⟨rfl, same⟩ | ⟨-, old⟩
    · obtain rfl := Option.some.inj same
      exact ⟨proc, place, root.symm⟩
    · exact ⟨a, old, rfl⟩
  intro j k a b first second own same
  obtain ⟨old, placed, root⟩ := before first
  obtain ⟨old', placed', root'⟩ := before second
  exact apart j k old old' placed placed' (own_of_root root.symm own) (root.trans (same.trans root'.symm))

theorem at_append {i : Nat} {new found : Process} {disk : Disk}
    (here : At ⟨s.list ++ [some new], disk⟩ i found) : At s i found ∨ (i = s.list.length ∧ found = new) := by
  rcases Nat.lt_trichotomy i s.list.length with earlier | rfl | later
  · exact .inl ((List.getElem?_append_left earlier).symm.trans here)
  · rw [At, List.getElem?_append_right (Nat.le_refl _), Nat.sub_self] at here
    exact .inr ⟨rfl, (Option.some.inj (Option.some.inj here)).symm⟩
  · rw [At, List.getElem?_eq_none (by simp only [List.length_append, List.length_singleton]; omega)] at here
    cases here

theorem at_append_of {i : Nat} {new found : Process} {disk : Disk} (here : At s i found) :
    At ⟨s.list ++ [some new], disk⟩ i found := by
  obtain ⟨bound, -⟩ := List.getElem?_eq_some_iff.mp here
  exact (List.getElem?_append_left bound).trans here

theorem inv_make (inv : Inv s) (host : Host) (protocol : Text) (files : Files)
    (dir : ∀ dir, host.tempDir = some dir → Made s.shared.files dir)
    (made : ∀ path, path ∈ files.paths ↔ path ∈ s.shared.files.paths ∨ host.tempDir = some path) :
    Inv ⟨s.list ++ [some (Process.create host protocol)], { s.shared with files := files }⟩ := by
  have own (own : Own (Process.create host protocol)) :
      ∃ dir, host.tempDir = some dir ∧ (Process.create host protocol).root = dir := by
    cases temp : host.tempDir with
    | none => exact (own (by rw [Process.create, temp]; rfl)).elim
    | some dir => exact ⟨dir, rfl, by rw [Process.create, temp]; rfl⟩
  refine ⟨fun i proc here => ?_, fun i proc here owns => ?_, ?_, fun path member => ?_⟩
  · rcases at_append here with old | ⟨-, rfl⟩
    · exact inv.named i proc old
    · refine ⟨?_, fun command dir held => by cases held⟩
      by_cases owns : Own (Process.create host protocol)
      · obtain ⟨name, temp, root⟩ := own owns
        exact root ▸ (dir name temp).inTmp
      · exact (not_not.mp owns) ▸ template_inTmp
  · rcases at_append here with old | ⟨-, rfl⟩
    · exact (made _).mpr (.inl (inv.present i proc old owns))
    · obtain ⟨name, temp, root⟩ := own owns
      exact (made _).mpr (.inr (root ▸ temp))
  · -- A directory that is made is none of those there.
    have new {i : Nat} {a : Process} (old : At s i a) (owns : Own a)
        (same : a.root = (Process.create host protocol).root) :
        False := by
      obtain ⟨name, temp, root⟩ := own (own_of_root same owns)
      exact (dir name temp).fresh (root ▸ same ▸ inv.present i a old owns)
    intro i j a b first second owns same
    rcases at_append first with old | ⟨rfl, rfl⟩
    · rcases at_append second with old' | ⟨rfl, rfl⟩
      · exact inv.apart i j a b old old' owns same
      · exact (new old owns same).elim
    · rcases at_append second with old' | ⟨rfl, rfl⟩
      · exact (new old' (own_of_root same owns) same.symm).elim
      · rfl
  · rcases (made path).mp member with old | temp
    · rcases inv.accounted path old with others | ⟨i, proc, here, covers⟩
      · exact .inl others
      · exact .inr ⟨i, proc, at_append_of here, covers⟩
    · refine .inr ⟨s.list.length, Process.create host protocol, ?_, .inl ?_⟩
      · rw [At, List.getElem?_append_right (Nat.le_refl _), Nat.sub_self, List.getElem?_cons_zero]
      · rw [Process.create, temp]
        rfl

theorem inv_update (inv : Inv s) {i : Nat} {proc next : Process} (place : At s i proc) (root : next.root = proc.root)
    (told : Told next) (files : Files) (stays : ∀ j a, At s j a → Own a → a.root ∈ files.paths)
    (accounts : ∀ path ∈ files.paths, path ∈ s.shared.files.paths ∨ Covers proc.root path) :
    Inv (s.update i (some next) { s.shared with files := files }) := by
  refine ⟨fun j a here => ?_, fun j a here own => ?_, apart_update inv.apart place root, fun path member => ?_⟩
  · rcases at_update place here with ⟨rfl, same⟩ | ⟨-, old⟩
    · obtain rfl := Option.some.inj same
      exact ⟨root ▸ (inv.named _ proc place).1, told⟩
    · exact inv.named j a old
  · rcases at_update place here with ⟨rfl, same⟩ | ⟨-, old⟩
    · obtain rfl := Option.some.inj same
      exact root ▸ stays _ proc place (own_of_root root own)
    · exact stays j a old own
  · have new : At (s.update i (some next) { s.shared with files := files }) i next := Workers.update_self place _ _
    rcases accounts path member with before | covers
    · rcases inv.accounted path before with others | ⟨j, a, here, covers⟩
      · exact .inl others
      · by_cases same : j = i
        · subst same
          obtain rfl := Option.some.inj (Option.some.inj (here.symm.trans place))
          exact .inr ⟨j, next, new, root ▸ covers⟩
        · exact .inr ⟨j, a, at_other same here, covers⟩
    · exact .inr ⟨i, next, new, root ▸ covers⟩

theorem mem_destroy {proc : Process} (inTmp : InTmp proc.root) (files : Files) (path : Text) :
    path ∈ (destroy proc files).paths ↔ path ∈ files.paths ∧ ¬Covers proc.root path := by
  unfold destroy
  split
  next => simp [Files.removeAll]
  next absent =>
    refine ⟨fun member => ⟨member, fun covers => absent (List.contains_iff_mem.mpr ?_)⟩, And.left⟩
    rcases covers with rfl | below
    · exact member
    · obtain ⟨name, -, root⟩ := inTmp
      exact files.closed path member proc.root (by simp [root]) below

theorem inv_destroy (inv : Inv s) {i : Nat} {proc : Process} (place : At s i proc) :
    Inv (s.update i none { s.shared with files := destroy proc s.shared.files }) := by
  have inTmp := (inv.named i proc place).1
  have others {j : Nat} {a : Process}
      (here : At (s.update i none { s.shared with files := destroy proc s.shared.files }) j a) : j ≠ i ∧ At s j a := by
    rcases at_update place here with ⟨-, gone⟩ | old
    · cases gone
    · exact old
  refine ⟨fun j a here => inv.named j a (others here).2, fun j a here own => ?_, fun j k a b first second => ?_,
    fun path member => ?_⟩
  · obtain ⟨other, old⟩ := others here
    refine (mem_destroy inTmp _ _).mpr ⟨inv.present j a old own, fun covers => other ?_⟩
    have same := covers_unique inTmp (inv.named j a old).1 covers (.inl rfl)
    exact inv.apart j i a proc old place own same.symm
  · exact inv.apart j k a b (others first).2 (others second).2
  · obtain ⟨before, uncovered⟩ := (mem_destroy inTmp _ _).mp member
    rcases inv.accounted path before with foreign | ⟨j, a, here, covers⟩
    · exact .inl foreign
    · refine .inr ⟨j, a, at_other (fun same => uncovered ?_) here, covers⟩
      subst same
      obtain rfl := Option.some.inj (Option.some.inj (here.symm.trans place))
      exact covers

theorem inv_outside (inv : Inv s) (files : Files)
    (spares : ∀ i proc, At s i proc → Own proc → SameBelow proc.root s.shared.files files) :
    Inv ⟨s.list, ⟨files, s.shared.foreign ++ files.paths.filter (fun path => path ∉ s.shared.files.paths)⟩⟩ := by
  refine ⟨inv.named, fun i proc here own => ?_, inv.apart, fun path member => ?_⟩
  · exact (spares i proc here own _ (.inl rfl)).mpr (inv.present i proc here own)
  · by_cases before : path ∈ s.shared.files.paths
    · rcases inv.accounted path before with foreign | covered
      · exact .inl (List.mem_append_left _ foreign)
      · exact .inr covered
    · exact .inl (List.mem_append_right _ (List.mem_filter.mpr ⟨member, by simpa using before⟩))

theorem inv_step {who : Option Nat} {next : State} (inv : Inv s) (step : Step who s next) : Inv next := by
  cases step with
  | make _ host protocol files dir made => exact inv_make inv host protocol files dir made
  | call _ i proc call place =>
    apply inv_update inv place (root_after proc call) (told_after (inv.named i proc place).2 call)
    · exact inv.present
    · exact fun _ => .inl
  | drive _ i proc command dir files place held told present stays others =>
    obtain rfl := ((inv.named i proc place).2 command dir held told).trans (inv.named i proc place).1.cString
    apply inv_update inv place rfl (inv.named i proc place).2
    · intro j a here own
      by_cases covers : Covers proc.root a.root
      · exact covers_unique (inv.named i proc place).1 (inv.named j a here).1 covers (.inl rfl) ▸ stays
      · exact (others _ covers).mpr (inv.present j a here own)
    · intro path member
      by_cases covers : Covers proc.root path
      · exact .inr covers
      · exact .inl ((others path covers).mp member)
  | destroy _ i proc place => exact inv_destroy inv place
  | outside _ files spares => exact inv_outside inv files spares

theorem inv_reachable {files : Files} (reachable : (objects files).Reachable s) : Inv s := by
  refine System.invariant Inv ⟨?_, ?_, ?_, fun path member => .inl member⟩ (fun s next inv step => ?_) reachable
  · intro i proc here
    cases here
  · intro i proc here
    cases here
  · intro i j a b here
    cases here
  · obtain ⟨who, step⟩ := step
    exact inv_step inv step

/-- In every reachable state the directories that were made are there, each for one object; and every path
that exists is in the directory of an object or was put there by someone else. -/
theorem directories_apart {files : Files} (reachable : (objects files).Reachable s) :
    (∀ i proc, At s i proc → Own proc → proc.root ∈ s.shared.files.paths) ∧
      (∀ i j a b, At s i a → At s j b → Own a → a.root = b.root → i = j) ∧
      ∀ path ∈ s.shared.files.paths, path ∈ s.shared.foreign ∨ ∃ i proc, At s i proc ∧ Covers proc.root path := by
  have inv := inv_reachable reachable
  exact ⟨inv.present, inv.apart, inv.accounted⟩

def firstDir : Text := "/tmp/nutAAAAAA".toList

def secondDir : Text := "/tmp/nutBBBBBB".toList

theorem closed_of_inits {paths : List Text}
    (closed : ∀ path ∈ paths, ∀ dir ∈ path.inits, dir ≠ [] → dir ++ ['/'] <+: path → dir ∈ paths) :
    ∀ path ∈ paths, ∀ dir, dir ≠ [] → dir ++ ['/'] <+: path → dir ∈ paths := by
  intro path member dir nonempty below
  exact closed path member dir ((List.mem_inits _ _).mpr ((List.prefix_append dir ['/']).trans below)) nonempty below

def tmp : Files := ⟨["/tmp".toList], closed_of_inits (by decide)⟩

def oneDir : Files := ⟨[firstDir, "/tmp".toList], closed_of_inits (by decide)⟩

def twoDirs : Files := ⟨[secondDir, firstDir, "/tmp".toList], closed_of_inits (by decide)⟩

def hostWith (dir : Text) : Host := { deafHost with tempDir := some dir }

theorem reachable_two : (objects tmp).Reachable
    ⟨[some (Process.create (hostWith firstDir) "nut_snmp".toList),
      some (Process.create (hostWith secondDir) "nut_snmp".toList)], ⟨twoDirs, tmp.paths⟩⟩ := by
  have first : Step (some 0) ⟨[], ⟨tmp, tmp.paths⟩⟩
      ⟨[some (Process.create (hostWith firstDir) "nut_snmp".toList)], ⟨oneDir, tmp.paths⟩⟩ := by
    apply Step.make ⟨[], ⟨tmp, tmp.paths⟩⟩ (hostWith firstDir) "nut_snmp".toList oneDir
    · intro dir same
      obtain rfl := Option.some.inj same
      exact ⟨⟨"AAAAAA".toList, by decide, by decide, by decide, rfl⟩, by decide⟩
    · intro path
      simp [oneDir, tmp, hostWith, or_comm, eq_comm]
  have second : Step (some 1) ⟨[some (Process.create (hostWith firstDir) "nut_snmp".toList)], ⟨oneDir, tmp.paths⟩⟩
      ⟨[some (Process.create (hostWith firstDir) "nut_snmp".toList),
        some (Process.create (hostWith secondDir) "nut_snmp".toList)], ⟨twoDirs, tmp.paths⟩⟩ := by
    apply Step.make ⟨[some (Process.create (hostWith firstDir) "nut_snmp".toList)], ⟨oneDir, tmp.paths⟩⟩
      (hostWith secondDir) "nut_snmp".toList twoDirs
    · intro dir same
      obtain rfl := Option.some.inj same
      exact ⟨⟨"BBBBBB".toList, by decide, by decide, by decide, rfl⟩, by decide⟩
    · intro path
      simp [oneDir, twoDirs, hostWith, or_comm, eq_comm]
  exact .step (.step .init ⟨_, first⟩) ⟨_, second⟩

theorem two_apart : ∃ s : State, (objects tmp).Reachable s ∧ ∃ a b, At s 0 a ∧ At s 1 b ∧ Own a ∧
    a.root ≠ b.root ∧ a.root ∈ s.shared.files.paths := by
  obtain ⟨present, apart, -⟩ := directories_apart reachable_two
  have own : Own (Process.create (hostWith firstDir) "nut_snmp".toList) := by decide
  refine ⟨_, reachable_two, _, _, rfl, rfl, own, fun same => ?_, present 0 _ rfl own⟩
  have zero := apart 0 1 _ _ rfl rfl own same
  omega

def Others (i : Nat) (s next : State) : Prop := ∃ who, who ≠ some i ∧ Step who s next

theorem kept_step (inv : Inv s) {i : Nat} {proc : Process} (place : At s i proc) (own : Own proc) {next : State}
    (step : Others i s next) : At next i proc ∧ SameBelow proc.root s.shared.files next.shared.files := by
  have inTmp := (inv.named i proc place).1
  -- What is in the directory of another object is not in this one's.
  have uncovered {j : Nat} {a : Process} (here : At s j a) (other : j ≠ i) {path : Text}
      (covers : Covers proc.root path) : ¬Covers a.root path := by
    intro covers'
    exact other (inv.apart i j proc a place here own (covers_unique inTmp (inv.named j a here).1 covers covers')).symm
  obtain ⟨who, other, step⟩ := step
  cases step with
  | make _ host protocol files dir made =>
    refine ⟨at_append_of place, fun path covers => (made path).trans (or_iff_left ?_)⟩
    intro temp
    have new := dir path temp
    have same := covers_unique inTmp new.inTmp covers (.inl rfl)
    exact new.fresh (same ▸ inv.present i proc place own)
  | call _ j a call here => exact ⟨at_other (fun same => other (congrArg some same.symm)) place, fun _ _ => Iff.rfl⟩
  | drive _ j a command dir files here held told present stays others =>
    have apart : j ≠ i := fun same => other (congrArg some same)
    obtain rfl := ((inv.named j a here).2 command dir held told).trans (inv.named j a here).1.cString
    exact ⟨at_other apart.symm place, fun path covers => others path (uncovered here apart covers)⟩
  | destroy _ j a here =>
    have apart : j ≠ i := fun same => other (congrArg some same)
    refine ⟨at_other apart.symm place, fun path covers => ?_⟩
    exact (mem_destroy (inv.named j a here).1 _ path).trans (and_iff_left (uncovered here apart covers))
  | outside _ files spares => exact ⟨place, spares i proc place own⟩

/-- Whatever the others do, an object keeps what is in a directory that was made for it. -/
theorem directory_kept {files : Files} (reachable : (objects files).Reachable s) {i : Nat} {proc : Process}
    (place : At s i proc) (own : Own proc) {n : Nat} {last : State} (run : Steps (Others i) n s last) :
    At last i proc ∧ SameBelow proc.root s.shared.files last.shared.files := by
  let Kept (t : State) : Prop := Inv t ∧ At t i proc ∧ SameBelow proc.root s.shared.files t.shared.files
  have kept (t next : State) (step : Others i t next) (before : Kept t) : Kept next := by
    obtain ⟨inv, here, same⟩ := before
    obtain ⟨there, same'⟩ := kept_step inv here own step
    obtain ⟨who, -, taken⟩ := step
    exact ⟨inv_step inv taken, there, fun path covers => (same' path covers).trans (same path covers)⟩
  have start : Kept s := ⟨inv_reachable reachable, place, fun _ _ => Iff.rfl⟩
  exact (run.keeps kept start).2

theorem first_kept : ∃ s last : State, (objects tmp).Reachable s ∧ Steps (Others 0) 1 s last ∧
    firstDir ∈ last.shared.files.paths ∧ secondDir ∉ last.shared.files.paths := by
  have step : Others 0 _ _ := ⟨some 1, by decide, .destroy
    ⟨[some (Process.create (hostWith firstDir) "nut_snmp".toList),
      some (Process.create (hostWith secondDir) "nut_snmp".toList)], ⟨twoDirs, tmp.paths⟩⟩ 1 _ rfl⟩
  have run := Steps.more step (.none _)
  have kept := directory_kept reachable_two (i := 0) rfl (by decide) run
  refine ⟨_, _, reachable_two, run, ?_, by decide⟩
  exact (kept.2 firstDir (.inl rfl)).mpr (by decide)

end FtyDiscovery.Nut.StateDirs
