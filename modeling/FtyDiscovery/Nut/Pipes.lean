import FtyDiscovery.Base.System
import FtyDiscovery.Nut.Process

/-! A run of a driver beside its child: two pipes of finite capacity between them, and a wait that
only waits for the end of the child. -/

namespace FtyDiscovery.Nut.Pipes

open Base

inductive Stream where
  | stdout
  | stderr
  deriving DecidableEq, Repr

abbrev Output := List (Stream × Char)

def written (output : Output) (stream : Stream) : Text :=
  (output.filter (fun byte => byte.1 = stream)).map Prod.snd

inductive Parent where
  | waiting
  | reading (stat : Int)
  | returned (result : Expected Text)

/-- The child with what it has still to write, the bytes in the pipes, and the parent. -/
structure State where
  left : Output
  exited : Bool := false
  pipes : Stream → Text := fun _ => []
  parent : Parent := .waiting

def collect (protocol : Text) (stat : Int) (pipes : Stream → Text) : Expected Text :=
  if stat = 0 then .ok (pipes .stdout)
  else if protocol = "nut_powercom".toList ∧
      (Text.find "Error when get client token on".toList (pipes .stderr)).isSome then
    .error "Bad login or password".toList
  else .error (pipes .stderr)

def push (pipes : Stream → Text) (stream : Stream) (c : Char) : Stream → Text :=
  fun other => if other = stream then pipes other ++ [c] else pipes other

/-- A step of the child or of the parent. A write needs room in its pipe. -/
inductive Step (capacity : Stream → Nat) (protocol : Text) (stat : Int) : State → State → Prop where
  | write (s : State) (stream : Stream) (c : Char) (rest : Output) (next : s.left = (stream, c) :: rest)
      (room : (s.pipes stream).length < capacity stream) :
      Step capacity protocol stat s { s with left := rest, pipes := push s.pipes stream c }
  | exit (s : State) (done : s.left = []) : Step capacity protocol stat s { s with exited := true }
  | wait (s : State) (waits : s.parent = .waiting) (ended : s.exited = true) :
      Step capacity protocol stat s { s with parent := .reading stat }
  | read (s : State) (stat' : Int) (reads : s.parent = .reading stat') :
      Step capacity protocol stat s { s with parent := .returned (collect protocol stat' s.pipes) }

def system (capacity : Stream → Nat) (protocol : Text) (output : Output) (stat : Int) : System State where
  init := { left := output }
  Step := Step capacity protocol stat

def Deadlock (capacity : Stream → Nat) (s : State) : Prop :=
  s.parent = .waiting ∧ ∃ stream c rest, s.left = (stream, c) :: rest ∧ capacity stream ≤ (s.pipes stream).length

variable {capacity : Stream → Nat} {protocol : Text} {output : Output} {stat : Int}

/-- What is in the pipes and what is left to write is the output; the pipes are not overfull, the
parent reads only behind the end, and what it returns is made of the whole output. -/
structure Inv (capacity : Stream → Nat) (protocol : Text) (output : Output) (stat : Int) (s : State) : Prop where
  whole : ∀ stream, s.pipes stream ++ written s.left stream = written output stream
  bounded : ∀ stream, (s.pipes stream).length ≤ capacity stream
  ended : s.exited = true → s.left = []
  behind : s.parent ≠ .waiting → s.exited = true
  told : ∀ stat', s.parent = .reading stat' → stat' = stat
  result : ∀ result, s.parent = .returned result → result = collect protocol stat (written output)

theorem written_cons (stream other : Stream) (c : Char) (rest : Output) :
    written ((stream, c) :: rest) other = if other = stream then c :: written rest other else written rest other := by
  by_cases same : other = stream
  · rw [if_pos same, written, List.filter_cons_of_pos (by simp [same])]
    rfl
  · rw [if_neg same, written, List.filter_cons_of_neg (by simpa using Ne.symm same)]
    rfl

theorem inv_step {s next : State} (inv : Inv capacity protocol output stat s)
    (step : Step capacity protocol stat s next) : Inv capacity protocol output stat next := by
  cases step with
  | write stream c rest begins room =>
    refine ⟨fun other => ?_, fun other => ?_, fun exited => ?_, inv.behind, inv.told, inv.result⟩
    · have whole := inv.whole other
      rw [begins, written_cons] at whole
      simp only [push]
      split at whole
      next same => rw [if_pos same, List.append_assoc, List.singleton_append, whole]
      next other' => rw [if_neg other', whole]
    · simp only [push]
      split
      next same =>
        subst same
        rw [List.length_append, List.length_singleton]
        exact room
      next => exact inv.bounded other
    · rw [inv.ended exited] at begins
      cases begins
  | exit done => exact ⟨inv.whole, inv.bounded, fun _ => done, fun _ => rfl, inv.told, inv.result⟩
  | wait waits ended =>
    refine ⟨inv.whole, inv.bounded, inv.ended, fun _ => ended, fun stat' reads => ?_, fun result returned => ?_⟩
    · exact (Parent.reading.inj reads).symm
    · cases returned
  | read stat' reads =>
    have exited := inv.behind (by rw [reads]; exact Parent.noConfusion)
    have pipes : s.pipes = written output := by
      funext stream
      have whole := inv.whole stream
      rw [inv.ended exited] at whole
      exact (List.append_nil _).symm.trans whole
    refine ⟨inv.whole, inv.bounded, inv.ended, fun _ => exited, fun _ again => ?_, fun result returned => ?_⟩
    · cases again
    · rw [← Parent.returned.inj returned, pipes, inv.told stat' reads]

theorem inv_reachable {s : State} (reachable : (system capacity protocol output stat).Reachable s) :
    Inv capacity protocol output stat s := by
  apply System.invariant (Inv capacity protocol output stat) _ _ reachable
  · refine ⟨fun _ => rfl, fun _ => Nat.zero_le _, Bool.noConfusion, fun moved => (moved rfl).elim, ?_, ?_⟩
    · exact fun _ reads => Parent.noConfusion reads
    · exact fun _ returned => Parent.noConfusion returned
  · exact fun _ _ inv step => inv_step inv step

theorem returned_run {s : State} {result : Expected Text} {host : Host} {proc : Process} {command : Command}
    (reachable : (system capacity proc.protocol output stat).Reachable s) (returned : s.parent = .returned result)
    (held : proc.process = some command)
    (started : host.start command = .ok ⟨.ok stat, written output .stdout, written output .stderr⟩) :
    proc.run host = .ok result := by
  rw [(inv_reachable reachable).result result returned]
  simp only [Process.run, held, started, collect]
  split
  next => rfl
  next => split <;> rfl

theorem runs_child {left : Output} {pipes : Stream → Text}
    (reachable : (system capacity protocol output stat).Reachable { left := left, pipes := pipes }) :
    (∃ s, (system capacity protocol output stat).Reachable s ∧ Deadlock capacity s) ∨
      ∃ pipes', (system capacity protocol output stat).Reachable { left := [], pipes := pipes' } := by
  induction left generalizing pipes with
  | nil => exact .inr ⟨pipes, reachable⟩
  | cons byte rest ih =>
    by_cases room : (pipes byte.1).length < capacity byte.1
    · exact ih (reachable.step (.write _ byte.1 byte.2 rest rfl room))
    · exact .inl ⟨_, reachable, rfl, byte.1, byte.2, rest, rfl, Nat.le_of_not_lt room⟩

theorem deadlock_of_overflow (protocol : Text) (stat : Int) (stream : Stream)
    (overflow : capacity stream < (written output stream).length) :
    ∃ s, (system capacity protocol output stat).Reachable s ∧ Deadlock capacity s := by
  have start : (system capacity protocol output stat).Reachable { left := output } := .init
  rcases runs_child start with blocked | ⟨pipes, reachable⟩
  · exact blocked
  · have inv := inv_reachable reachable
    have all : pipes stream = written output stream := (List.append_nil _).symm.trans (inv.whole stream)
    have bounded : (pipes stream).length ≤ capacity stream := inv.bounded stream
    rw [all] at bounded
    omega

/-- Neither waits for the other forever, and a success is everything that the child wrote to its first
pipe. -/
def Sound (capacity : Stream → Nat) (protocol : Text) (output : Output) (stat : Int) : Prop :=
  ∀ s, (system capacity protocol output stat).Reachable s →
    ¬Deadlock capacity s ∧ ∀ out, s.parent = .returned (.ok out) → out = written output .stdout

/-- A run is sound exactly when each of the two outputs fits into its pipe. -/
theorem run_sound_iff (capacity : Stream → Nat) (protocol : Text) (output : Output) (stat : Int) :
    Sound capacity protocol output stat ↔ ∀ stream, (written output stream).length ≤ capacity stream := by
  constructor
  · intro sound stream
    by_contra overflow
    obtain ⟨s, reachable, blocked⟩ := deadlock_of_overflow protocol stat stream (Nat.lt_of_not_le overflow)
    exact (sound s reachable).1 blocked
  · intro fits s reachable
    have inv := inv_reachable reachable
    constructor
    · intro ⟨_, stream, c, rest, left, full⟩
      have whole := congrArg List.length (inv.whole stream)
      rw [left, written_cons, if_pos rfl, List.length_append, List.length_cons] at whole
      have fit := fits stream
      omega
    · intro out returned
      have result := inv.result _ returned
      unfold collect at result
      split at result
      next => exact Except.ok.inj result
      next => split at result <;> cases result

theorem longDump_deadlock :
    (∃ s, (system (fun _ => 65536) "nut_snmp".toList (List.replicate 65537 (.stdout, 'x')) 0).Reachable s ∧
        Deadlock (fun _ => 65536) s) ∧
      ¬Sound (fun _ => 65536) "nut_snmp".toList (List.replicate 65537 (.stdout, 'x')) 0 := by
  have long : (written (List.replicate 65537 (.stdout, 'x')) .stdout).length = 65537 := by
    rw [written, List.filter_replicate_of_pos (by decide), List.length_map, List.length_replicate]
  obtain ⟨s, reachable, blocked⟩ := @deadlock_of_overflow (fun _ => 65536) (List.replicate 65537 (.stdout, 'x'))
    "nut_snmp".toList 0 .stdout (by rw [long]; omega)
  exact ⟨⟨s, reachable, blocked⟩, fun sound => (sound s reachable).1 blocked⟩

end FtyDiscovery.Nut.Pipes
