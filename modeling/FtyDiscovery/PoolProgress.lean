import FtyDiscovery.Pool

/-! The pool comes to rest: the mutex of the bus never holds up every task, each task has only so
many steps, and at rest each request was answered as its run asks for. -/

namespace FtyDiscovery.Pool

open Base

variable {discovery : Discovery} {throws : Throws} {s : State}

/-- A step of some task; only the arrival of a message makes the list of requests longer. -/
def Works (discovery : Discovery) (throws : Throws) (s next : State) : Prop :=
  Step discovery throws s next ∧ next.list.length = s.list.length

theorem works_iff {next : State} : Works discovery throws s next ↔
    ∃ i request w w' effect bus, s.list[i]? = some request ∧ request.task = some w ∧
      WorkerStep throws w effect w' ∧ effect.On i s.shared bus ∧
      next = s.update i { request with task := some w' } bus := by
  constructor
  · intro ⟨step, length⟩
    cases step with
    | receive msg => simp only [List.length_append, List.length_singleton, Nat.add_eq_left, one_ne_zero] at length
    | work i request w w' effect bus place task moved acted =>
      exact ⟨i, request, w, w', effect, bus, place, task, moved, acted, rfl⟩
  · rintro ⟨i, request, w, w', effect, bus, place, task, moved, acted, rfl⟩
    exact ⟨.work s i request w w' effect bus place task moved acted, List.length_set⟩

namespace Phase

variable {job : Job}

/-- The task takes no further step: it returned, an exception left it, or its run broke or never ends. -/
def Stopped : Phase job → Prop
  | .returned | .escaped _ => True
  | _ => False

/-- The task returned, or an exception left it. -/
def Finished : Phase job → Prop
  | .returned | .escaped (.thrown _) => True
  | _ => False

def Holds : Phase job → Prop
  | .locked _ _ _ _ => True
  | _ => False

def Within : Phase job → Prop
  | .locked _ _ _ written => written ≤ 3
  | _ => True

def left : Phase job → Nat
  | .queued => 7
  | .running _ => 6
  | .replying _ _ => 5
  | .locked _ _ _ written => 4 - written
  | .returned | .escaped _ => 0

end Phase

variable {w w' : Worker} {effect : Effect}

theorem left_step (moved : WorkerStep throws w effect w') : w'.phase.left < w.phase.left := by
  cases moved with
  | payloadEmpty phase | payloadWrong _ phase | decoded _ phase | ran _ _ phase | failed _ _ _ phase
  | broken _ _ _ phase | unconvertible _ _ _ phase | lock _ _ _ phase | send _ _ _ phase =>
    simp [phase, Worker.goes, Worker.ends, Phase.left]
  | write caught response answ written phase more =>
    simp only [phase, Worker.goes, Phase.left]
    omega
  | sendThrows caught response answ exn left phase thrown itself =>
    cases exn with
    | error what => exact (throws.foreign what thrown).elim
    | bus _ | secw _ | runtime _ | unknown => simp [phase, Worker.goes, afterThrow, Phase.left]

def Request.left (request : Request) : Nat := request.task.elim 0 (fun w => w.phase.left)

def left (s : State) : Nat := (s.list.map Request.left).sum

theorem left_works {s next : State} (works : Works discovery throws s next) : left next < left s := by
  obtain ⟨i, request, w, w', effect, bus, place, task, moved, -, rfl⟩ := works_iff.mp works
  apply Workers.sum_update_lt Request.left place
  simp only [Request.left, task, Option.elim_some]
  exact left_step moved

theorem left_le (s : State) : left s ≤ 7 * s.list.length := by
  have each : ∀ n ∈ s.list.map Request.left, n ≤ 7 := by
    intro n member
    obtain ⟨request, -, rfl⟩ := List.mem_map.mp member
    unfold Request.left
    cases request.task with
    | none => exact Nat.zero_le 7
    | some w => cases phase : w.phase <;> simp [phase, Phase.left]; omega
  have bound := List.sum_le_card_nsmul _ 7 each
  rw [List.length_map, smul_eq_mul] at bound
  unfold left
  omega

structure Guarded (i : Nat) (w : Worker) (bus : SharedBus) : Prop where
  holds : w.phase.Holds ↔ bus.holder = some i
  within : w.phase.Within

structure Mutex (s : State) : Prop where
  each : s.Each (fun i request bus => ∀ w, request.task = some w → Guarded i w bus)
  held : ∀ i, s.shared.holder = some i → ∃ request w, s.list[i]? = some request ∧ request.task = some w

theorem guarded_step {i : Nat} {bus bus' : SharedBus} (moved : WorkerStep throws w effect w')
    (acted : effect.On i bus bus') (guarded : Guarded i w bus) : Guarded i w' bus' := by
  obtain ⟨holds, within⟩ := guarded
  cases moved with
  | payloadEmpty phase | payloadWrong _ phase | decoded _ phase | ran _ _ phase | failed _ _ _ phase
  | broken _ _ _ phase | unconvertible _ _ _ phase =>
    obtain rfl : bus' = bus := acted
    rw [phase] at holds
    exact ⟨holds, trivial⟩
  | lock caught response answ phase =>
    obtain ⟨-, rfl⟩ := acted
    exact ⟨iff_of_true trivial rfl, Nat.zero_le 3⟩
  | write caught response answ written phase more =>
    obtain rfl : bus' = bus := acted
    rw [phase] at holds
    exact ⟨holds, more⟩
  | send caught response answ phase =>
    obtain ⟨-, rfl⟩ := acted
    exact ⟨iff_of_false id (by simp), trivial⟩
  | sendThrows caught response answ exn left phase thrown =>
    obtain ⟨-, rfl⟩ := acted
    cases exn with
    | error what => exact (throws.foreign what thrown).elim
    | bus _ | secw _ | runtime _ | unknown => exact ⟨iff_of_false id (by simp), trivial⟩

theorem holder_on {i j : Nat} {bus bus' : SharedBus} (acted : effect.On i bus bus') (other : j ≠ i) :
    bus'.holder = some j ↔ bus.holder = some j := by
  cases effect with
  | own =>
    obtain rfl : bus' = bus := acted
    rfl
  | lock =>
    obtain ⟨free, rfl⟩ := acted
    simp [free, other.symm]
  | unlock left =>
    obtain ⟨held, rfl⟩ := acted
    simp [held, other.symm]

theorem mutex_works {s next : State} (mutex : Mutex s) (works : Works discovery throws s next) : Mutex next := by
  obtain ⟨i, request, w, w', effect, bus, place, task, moved, acted, rfl⟩ := works_iff.mp works
  constructor
  · apply Workers.each_update mutex.each
    · intro worker same
      obtain rfl := Option.some.inj same
      exact guarded_step moved acted (mutex.each i request place w task)
    · intro j other apart guarded worker found
      obtain ⟨holds, within⟩ := guarded worker found
      exact ⟨holds.trans (holder_on acted apart).symm, within⟩
  · intro j held
    by_cases here : j = i
    · subst here
      exact ⟨_, w', Workers.update_self place _ _, rfl⟩
    · obtain ⟨other, worker, found, has⟩ := mutex.held j ((holder_on acted here).mp held)
      refine ⟨other, worker, ?_, has⟩
      rw [Workers.update, List.getElem?_set_ne (Ne.symm here)]
      exact found

theorem mutex_reachable (reachable : (pool discovery throws).Reachable s) : Mutex s := by
  refine System.invariant Mutex ⟨?_, ?_⟩ (fun s next mutex step => ?_) reachable
  · intro i request found
    cases found
  · intro i held
    cases held
  · cases step with
    | work i request w w' effect bus place task moved acted =>
      have works : Works discovery throws s _ :=
        works_iff.mpr ⟨i, request, w, w', effect, bus, place, task, moved, acted, rfl⟩
      exact mutex_works mutex works
    | receive msg =>
      constructor
      · apply Workers.each_append mutex.each
        intro w pushed
        cases found : discovery.discover msg with
        | none =>
          rw [found] at pushed
          cases pushed
        | some job =>
          rw [found] at pushed
          obtain rfl := Option.some.inj pushed
          refine ⟨iff_of_false id (fun held => ?_), trivial⟩
          obtain ⟨_, _, inside, -⟩ := mutex.held _ held
          exact absurd (List.getElem?_eq_some_iff.mp inside).1 (Nat.lt_irrefl _)
      · intro i held
        obtain ⟨request, w, found, task⟩ := mutex.held i held
        exact ⟨request, w, List.getElem?_append_left (List.getElem?_eq_some_iff.mp found).1 ▸ found, task⟩

theorem holder_steps (throws : Throws) {i : Nat} {bus : SharedBus} (guarded : Guarded i w bus)
    (held : bus.holder = some i) : ∃ effect w' bus', WorkerStep throws w effect w' ∧ effect.On i bus bus' := by
  have within := guarded.within
  have holds := guarded.holds.mpr held
  cases phase : w.phase with
  | locked caught response answ written =>
    rw [phase] at within
    by_cases more : written < 3
    · exact ⟨_, _, _, .write w caught response answ written phase more, rfl⟩
    · obtain rfl : written = 3 := Nat.le_antisymm within (Nat.le_of_not_lt more)
      exact ⟨_, _, _, .send w caught response answ phase, held, rfl⟩
  | queued | running _ | replying _ _ | returned | escaped _ =>
    rw [phase] at holds
    exact holds.elim

theorem free_steps (throws : Throws) {i : Nat} {bus : SharedBus} (guarded : Guarded i w bus)
    (free : bus.holder = none) (going : ¬w.phase.Stopped) :
    ∃ effect w' bus', WorkerStep throws w effect w' ∧ effect.On i bus bus' := by
  have holds := guarded.holds
  cases phase : w.phase with
  | queued =>
    by_cases empty : w.m_in.userData = []
    · exact ⟨_, _, _, .payloadEmpty w phase empty, rfl⟩
    · cases decoded : w.job.pack.decode w.m_in.userData with
      | error failed => exact ⟨_, _, _, .payloadWrong w failed phase empty decoded, rfl⟩
      | ok cmd => exact ⟨_, _, _, .decoded w cmd phase empty decoded, rfl⟩
  | running cmd => exact ⟨_, _, _, .ran w cmd w.job.pack.empty phase, rfl⟩
  | replying caught response =>
    cases converted : response.toMessage w.job.pack with
    | error stop => exact ⟨_, _, _, .unconvertible w caught response stop phase converted, rfl⟩
    | ok answ => exact ⟨_, _, _, .lock w caught response answ phase converted, free, rfl⟩
  | locked caught response answ written =>
    rw [phase, free] at holds
    cases holds.mp trivial
  | returned | escaped _ =>
    rw [phase] at going
    exact (going trivial).elim

def AtRest (s : State) : Prop := ∀ request ∈ s.list, ∀ w, request.task = some w → w.phase.Stopped

theorem works_of_mutex {s : State} (mutex : Mutex s) (busy : ¬AtRest s) : ∃ next, Works discovery throws s next := by
  cases holder : s.shared.holder with
  | some i =>
    obtain ⟨request, w, place, task⟩ := mutex.held i holder
    obtain ⟨effect, w', bus, moved, acted⟩ := holder_steps throws (mutex.each i request place w task) holder
    exact ⟨_, works_iff.mpr ⟨i, request, w, w', effect, bus, place, task, moved, acted, rfl⟩⟩
  | none =>
    simp only [AtRest, not_forall] at busy
    obtain ⟨request, member, w, task, going⟩ := busy
    obtain ⟨i, place⟩ := List.mem_iff_getElem?.mp member
    obtain ⟨effect, w', bus, moved, acted⟩ :=
      free_steps throws (mutex.each i request place w task) holder going
    exact ⟨_, works_iff.mpr ⟨i, request, w, w', effect, bus, place, task, moved, acted, rfl⟩⟩

def TaskAt (s : State) (i : Nat) (w : Worker) : Prop :=
  ∃ request, s.list[i]? = some request ∧ request.task = some w

theorem run_step (throws : Throws) {w : Worker} {cmd : w.job.In} (phase : w.phase = .running cmd)
    (ended : w.job.Out × FtyDiscovery.Outcome Unit) : ∃ next, WorkerStep throws w .own (w.ends ended next) := by
  rcases ended with ⟨out, stop | returned⟩
  · by_cases caught : ∃ what, stop = .thrown (.error what)
    · obtain ⟨what, rfl⟩ := caught
      exact ⟨_, .failed w cmd out what phase⟩
    · exact ⟨_, .broken w cmd out stop phase (fun what same => caught ⟨what, same⟩)⟩
  · exact ⟨_, .ran w cmd out phase⟩

/-- Only a run that ends changes more of its task than the phase. -/
theorem goes_of_waiting (moved : WorkerStep throws w effect w') (waiting : ∀ cmd, w.phase ≠ .running cmd) :
    ∃ phase, w' = w.goes phase := by
  cases moved with
  | ran cmd out phase | failed cmd out what phase | broken cmd out stop phase => exact (waiting cmd phase).elim
  | payloadEmpty | payloadWrong | decoded | unconvertible | lock | write | send | sendThrows => exact ⟨_, rfl⟩

theorem taskAt_update {Kept : Worker → Prop} (all : ∀ i w, TaskAt s i w → Kept w) {i : Nat} {request : Request}
    {w' : Worker} {bus : SharedBus} (place : s.list[i]? = some request) (kept : Kept w') :
    ∀ j w, TaskAt (s.update i { request with task := some w' } bus) j w → Kept w := by
  rintro j worker ⟨other, found, task⟩
  by_cases here : j = i
  · subst here
    rw [Workers.update_self place] at found
    obtain rfl := Option.some.inj found
    obtain rfl := Option.some.inj task
    exact kept
  · rw [Workers.update, List.getElem?_set_ne (Ne.symm here)] at found
    exact all j worker ⟨other, found, task⟩

theorem works_keeping {Kept : Worker → Prop} (mutex : Mutex s) (all : ∀ i w, TaskAt s i w → Kept w)
    (keeps : ∀ w phase, Kept w → Kept (w.goes phase))
    (ends : ∀ i w cmd, TaskAt s i w → w.phase = .running cmd → ∃ ended, ∀ phase, Kept (w.ends ended phase))
    (busy : ¬AtRest s) : ∃ next, Works discovery throws s next ∧ ∀ i w, TaskAt next i w → Kept w := by
  have moves : ∃ next, Works discovery throws s next := works_of_mutex mutex busy
  obtain ⟨next, works⟩ := moves
  obtain ⟨i, request, w, w', effect, bus, place, task, moved, acted, -⟩ := works_iff.mp works
  by_cases running : ∃ cmd, w.phase = .running cmd
  · obtain ⟨cmd, phase⟩ := running
    obtain ⟨ended, kept⟩ := ends i w cmd ⟨request, place, task⟩ phase
    obtain ⟨phase', ran⟩ := run_step throws phase ended
    exact ⟨_, works_iff.mpr ⟨i, request, w, _, .own, s.shared, place, task, ran, rfl, rfl⟩,
      taskAt_update all place (kept phase')⟩
  · obtain ⟨phase, rfl⟩ := goes_of_waiting moved (fun cmd phase => running ⟨cmd, phase⟩)
    have kept := keeps w phase (all i w ⟨request, place, task⟩)
    exact ⟨_, works_iff.mpr ⟨i, request, w, _, effect, bus, place, task, moved, acted, rfl⟩,
      taskAt_update all place kept⟩

/-- In every reachable state no two tasks have the mutex, and as long as some task has not stopped one
of them can take a step. -/
theorem pool_never_stuck (reachable : (pool discovery throws).Reachable s) :
    (∀ i j w w', TaskAt s i w → TaskAt s j w' → w.phase.Holds → w'.phase.Holds → i = j) ∧
      (¬AtRest s → ∃ next, Works discovery throws s next) := by
  have mutex := mutex_reachable reachable
  refine ⟨?_, works_of_mutex mutex⟩
  rintro i j w w' ⟨request, place, task⟩ ⟨other, place', task'⟩ holds holds'
  have first := (mutex.each i request place w task).holds.mp holds
  have second := (mutex.each j other place' w' task').holds.mp holds'
  exact Option.some.inj (first.symm.trans second)

theorem fake_busy : ∃ s : State, fakePool.Reachable s ∧ ¬AtRest s ∧ ∀ i w, TaskAt s i w → w.ended = none := by
  refine ⟨_, .step .init (.receive _ fakeMessage), fun rest => ?_, ?_⟩
  · have stopped := rest _ List.mem_cons_self _ rfl
    exact stopped
  · rintro i w ⟨request, place, task⟩
    obtain rfl := List.mem_singleton.mp (List.mem_of_getElem? place)
    obtain rfl := Option.some.inj task
    rfl

theorem fake_never_stuck : ∃ s : State, fakePool.Reachable s ∧ ¬AtRest s ∧ ∃ next, fakePool.Step s next := by
  obtain ⟨s, reachable, busy, -⟩ := fake_busy
  obtain ⟨next, works⟩ := (pool_never_stuck reachable).2 busy
  exact ⟨s, reachable, busy, next, works.1⟩

theorem repliesOf_outside (unmixed : Unmixed discovery s) {i : Nat} (outside : s.list.length ≤ i) :
    repliesOf s.shared i = [] := by
  simp only [repliesOf, List.map_eq_nil_iff, List.filter_eq_nil_iff, decide_eq_true_eq]
  intro entry member
  have placed := unmixed.placed entry member
  omega

/-- What a fresh task has, and its own steps keep of it and of what it has sent, holds of every task
in every reachable state. -/
theorem each_task (Kept : Worker → List BusMessage → Prop)
    (start : ∀ job m_in, Kept { job := job, m_in := m_in } [])
    (keeps : ∀ w w' effect replies, WorkerStep throws w effect w' → Kept w replies →
      Kept w' (replies ++ effect.replies))
    (reachable : (pool discovery throws).Reachable s) {i : Nat} (place : TaskAt s i w) :
    Kept w (repliesOf s.shared i) := by
  let Each (s : State) := s.Each (fun i request bus => ∀ w, request.task = some w → Kept w (repliesOf bus i))
  have each : Unmixed discovery s ∧ Each s := by
    refine System.invariant (fun s => Unmixed discovery s ∧ Each s) ⟨pool_unmixed .init, ?_⟩ ?_ reachable
    · intro i request found
      cases found
    · intro s next ⟨unmixed, each⟩ step
      refine ⟨unmixed_step unmixed step, ?_⟩
      cases step with
      | receive msg =>
        apply Workers.each_append each
        intro w pushed
        rw [repliesOf_outside unmixed le_rfl]
        obtain ⟨job, -, rfl⟩ := Option.map_eq_some_iff.mp pushed
        exact start job msg
      | work i request w w' effect bus place task moved acted =>
        apply Workers.each_update each
        · intro worker same
          obtain rfl := Option.some.inj same
          rw [repliesOf_own acted]
          exact keeps w w' effect _ moved (each i request place w task)
        · intro j other apart kept worker task
          rw [repliesOf_other acted apart]
          exact kept worker task
  obtain ⟨request, found, task⟩ := place
  exact each.2 i request found w task

/-- The run of a task, where it came to one, ended: it returned what can be sent, or by an exception. -/
def Ended (w : Worker) : Prop :=
  ∀ out result, w.ended = some (out, result) →
    (result = .ok () ∧ (w.job.pack.hasValue out = true → ∃ text, w.job.pack.serialize out = .ok text)) ∨
      ∃ exn, result = .error (.thrown exn)

def RunsEnd (s : State) : Prop := ∀ i w, TaskAt s i w → Ended w

def Ends (w : Worker) (_ : List BusMessage) : Prop :=
  match w.phase with
  | .queued | .running _ => w.ended = none
  | .replying _ response => Ended w → ∃ answ, response.toMessage w.job.pack = .ok answ
  | .locked _ _ _ _ | .returned => True
  | .escaped stop => Ended w → ∃ exn, stop = .thrown exn

theorem ends_step {replies : List BusMessage} (moved : WorkerStep throws w effect w') (ends : Ends w replies) :
    Ends w' (replies ++ effect.replies) := by
  have answers (response : Response w.job.Out) (what : Text) :
      ∃ answ, (response.setError what).toMessage w.job.pack = .ok answ := ⟨_, rfl⟩
  cases moved with
  | payloadEmpty phase empty => exact fun _ => answers _ _
  | payloadWrong failed phase present wrong => exact fun _ => answers _ _
  | decoded cmd phase present accepted =>
    simp only [Ends, phase] at ends
    exact ends
  | ran cmd out phase =>
    intro ended
    refine (Discovery.toMessage_ok_iff w.job.pack out).mpr ?_
    rcases ended out (.ok ()) rfl with ⟨-, written⟩ | ⟨exn, thrown⟩
    · exact written
    · cases thrown
  | failed cmd out what phase => exact fun _ => answers _ _
  | broken cmd out stop phase uncaught =>
    intro ended
    rcases ended out (.error stop) rfl with ⟨returned, -⟩ | ⟨exn, thrown⟩
    · cases returned
    · exact ⟨exn, Except.error.inj thrown⟩
  | unconvertible caught response stop phase failed =>
    simp only [Ends, phase] at ends
    intro ended
    obtain ⟨answ, converted⟩ := ends ended
    rw [failed] at converted
    cases converted
  | lock caught response answ phase converted => exact trivial
  | write caught response answ written phase more => exact trivial
  | send caught response answ phase => exact trivial
  | sendThrows caught response answ exn left phase thrown itself =>
    cases exn with
    | error what => exact (throws.foreign what thrown).elim
    | bus what => exact trivial
    | secw _ | runtime _ | unknown => exact fun _ => ⟨_, rfl⟩

theorem ends_reachable (reachable : (pool discovery throws).Reachable s) {i : Nat} (place : TaskAt s i w) :
    Ends w (repliesOf s.shared i) := by
  apply each_task Ends (fun _ _ => rfl) _ reachable place
  exact fun _ _ _ _ => ends_step

theorem runsEnd_stops (reachable : (pool discovery throws).Reachable s) (done : RunsEnd s) :
    ∃ n last, Steps (Works discovery throws) n s last ∧ RunsEnd last ∧ AtRest last := by
  let Ending (s next : State) := Works discovery throws s next ∧ RunsEnd next
  have lowers (s next : State) (taken : Ending s next) : left next < left s := left_works taken.1
  obtain ⟨n, last, run, ends⟩ := Steps.comes_to_rest lowers s
  have reached : (pool discovery throws).Reachable last := run.reachable (fun _ _ taken => taken.1.1) reachable
  have kept : RunsEnd last := run.keeps (fun _ _ taken _ => taken.2) done
  refine ⟨n, last, run.mono (fun _ _ taken => taken.1), kept, ?_⟩
  by_contra busy
  have failing (i : Nat) (w : Worker) (cmd : w.job.In) (_ : TaskAt last i w) (_ : w.phase = .running cmd) :
      ∃ ended, ∀ phase, Ended (w.ends ended phase) := by
    refine ⟨(w.job.pack.empty, .error (.thrown .unknown)), fun phase out result same => .inr ⟨.unknown, ?_⟩⟩
    exact (congrArg Prod.snd (Option.some.inj same)).symm
  obtain ⟨next, works, still⟩ := works_keeping (mutex_reachable reached) kept (fun _ _ ended => ended) failing busy
  exact ends next ⟨works, still⟩

theorem finished_of_ended (reachable : (pool discovery throws).Reachable s) {i : Nat} (place : TaskAt s i w)
    (stopped : w.phase.Stopped) (ended : Ended w) : w.phase.Finished := by
  have ends := ends_reachable reachable place
  cases phase : w.phase with
  | returned => trivial
  | escaped stop =>
    simp only [Ends, phase] at ends
    obtain ⟨exn, rfl⟩ := ends ended
    trivial
  | queued | running _ | replying _ _ | locked _ _ _ _ =>
    rw [phase] at stopped
    exact stopped.elim

/-- Without another message the tasks take at most seven steps for each request, in whatever order.
Where none of them can take one and every run ended, each task returned or was left by an exception;
and such a state is reached as long as every run ended so far. -/
theorem pool_comes_to_rest (reachable : (pool discovery throws).Reachable s) :
    (∀ n last, Steps (Works discovery throws) n s last → n ≤ 7 * s.list.length) ∧
      (∀ n last, Steps (Works discovery throws) n s last → (∀ next, ¬Works discovery throws last next) →
        RunsEnd last → ∀ i w, TaskAt last i w → w.phase.Finished) ∧
      (RunsEnd s → ∃ n last, Steps (Works discovery throws) n s last ∧ RunsEnd last ∧
        ∀ i w, TaskAt last i w → w.phase.Finished) := by
  have steps (s next : State) (works : Works discovery throws s next) : (pool discovery throws).Step s next := works.1
  have stopped {last : State} (rest : AtRest last) {i : Nat} {w : Worker} (place : TaskAt last i w) :
      w.phase.Stopped := by
    obtain ⟨request, found, task⟩ := place
    exact rest request (List.mem_of_getElem? found) w task
  refine ⟨fun n last run => ?_, fun n last run ends done i w place => ?_, fun done => ?_⟩
  · have lowers (s next : State) (works : Works discovery throws s next) : left next < left s := left_works works
    have bound := run.le_rank lowers
    have most := left_le s
    omega
  · have reached := run.reachable steps reachable
    have rest : AtRest last := by
      by_contra busy
      obtain ⟨next, works⟩ := works_of_mutex (mutex_reachable reached) busy
      exact ends next works
    exact finished_of_ended reached place (stopped rest place) (done i w place)
  · obtain ⟨n, last, run, kept, rest⟩ := runsEnd_stops reachable done
    have reached := run.reachable steps reachable
    exact ⟨n, last, run, kept, fun i w place => finished_of_ended reached place (stopped rest place) (kept i w place)⟩

theorem fake_comes_to_rest : ∃ s last : State, fakePool.Reachable s ∧ ¬AtRest s ∧ fakePool.Reachable last ∧
    ∀ i w, TaskAt last i w → w.phase.Finished := by
  obtain ⟨s, reachable, busy, fresh⟩ := fake_busy
  have done : RunsEnd s := by
    intro i w place out result ended
    rw [fresh i w place] at ended
    cases ended
  obtain ⟨n, last, run, -, finished⟩ := (pool_comes_to_rest reachable).2.2 done
  exact ⟨s, last, reachable, busy, run.reachable (fun _ _ works => works.1) reachable, finished⟩

def Answerable (w : Worker) : Prop := ∀ ran, w.ended = some ran → Discovery.Handled w.job.pack ran

def Ending (w : Worker) (replies : List BusMessage) : Prop :=
  match w.phase with
  | .queued | .running _ => w.ended = none ∧ replies = []
  | .replying _ response =>
      ((∃ answ, response.toMessage w.job.pack = .ok answ) ↔ Answerable w) ∧ replies = []
  | .locked _ _ _ _ => Answerable w ∧ replies = []
  | .returned => Answerable w ∧ replies.length = 1
  | .escaped _ => ¬Answerable w ∧ replies = []

theorem answerable_of_unended (unended : w.ended = none) : Answerable w := by
  intro ran ended
  rw [unended] at ended
  cases ended

theorem ending_step (quiet : ∀ exn, ¬throws.can exn) {replies : List BusMessage}
    (moved : WorkerStep throws w effect w') (ending : Ending w replies) : Ending w' (replies ++ effect.replies) := by
  have answers (response : Response w.job.Out) (what : Text) :
      ∃ answ, (response.setError what).toMessage w.job.pack = .ok answ := ⟨_, rfl⟩
  cases moved with
  | payloadEmpty phase empty =>
    simp only [Ending, phase] at ending
    obtain ⟨unended, rfl⟩ := ending
    exact ⟨iff_of_true (answers _ _) (answerable_of_unended unended), rfl⟩
  | payloadWrong failed phase present wrong =>
    simp only [Ending, phase] at ending
    obtain ⟨unended, rfl⟩ := ending
    exact ⟨iff_of_true (answers _ _) (answerable_of_unended unended), rfl⟩
  | decoded cmd phase present accepted =>
    simp only [Ending, phase] at ending
    obtain ⟨unended, rfl⟩ := ending
    exact ⟨unended, rfl⟩
  | ran cmd out phase =>
    simp only [Ending, phase] at ending
    obtain ⟨-, rfl⟩ := ending
    refine ⟨(Discovery.toMessage_ok_iff w.job.pack out).trans ?_, rfl⟩
    simp only [Answerable, Worker.ends, Option.some.injEq, forall_eq', Discovery.Handled]
  | failed cmd out what phase =>
    simp only [Ending, phase] at ending
    obtain ⟨-, rfl⟩ := ending
    refine ⟨iff_of_true (answers _ _) ?_, rfl⟩
    simp only [Answerable, Worker.ends, Option.some.injEq, forall_eq', Discovery.Handled]
  | broken cmd out stop phase uncaught =>
    simp only [Ending, phase] at ending
    obtain ⟨-, rfl⟩ := ending
    refine ⟨fun answerable => ?_, rfl⟩
    have handled := answerable _ rfl
    cases stop with
    | thrown exn =>
      cases exn with
      | error what => exact uncaught what rfl
      | secw _ | bus _ | runtime _ | unknown => exact handled
    | undefined | running => exact handled
  | unconvertible caught response stop phase failed =>
    simp only [Ending, phase] at ending
    obtain ⟨converts, rfl⟩ := ending
    refine ⟨fun answerable => ?_, rfl⟩
    obtain ⟨answ, converted⟩ := converts.mpr answerable
    rw [failed] at converted
    cases converted
  | lock caught response answ phase converted =>
    simp only [Ending, phase] at ending
    obtain ⟨converts, rfl⟩ := ending
    exact ⟨converts.mp ⟨answ, converted⟩, rfl⟩
  | write caught response answ written phase more =>
    simp only [Ending, phase] at ending
    obtain ⟨answerable, rfl⟩ := ending
    exact ⟨answerable, rfl⟩
  | send caught response answ phase =>
    simp only [Ending, phase] at ending
    obtain ⟨answerable, rfl⟩ := ending
    exact ⟨answerable, rfl⟩
  | sendThrows caught response answ exn left phase thrown => exact (quiet exn thrown).elim

theorem ending_reachable (quiet : ∀ exn, ¬throws.can exn) (reachable : (pool discovery throws).Reachable s)
    {i : Nat} (place : TaskAt s i w) : Ending w (repliesOf s.shared i) := by
  apply each_task Ending (fun _ _ => ⟨rfl, rfl⟩) _ reachable place
  exact fun _ _ _ _ => ending_step quiet

/-- Over a bus that does not throw, a task that has stopped has replied exactly once where its run, if
it came to one, returned what can be sent or ended with `job::Error`, and not at all otherwise; a
request that was made no task of has no reply. -/
theorem finished_once (quiet : ∀ exn, ¬throws.can exn) (reachable : (pool discovery throws).Reachable s) :
    (∀ i w, TaskAt s i w → w.phase.Stopped →
      (Answerable w → (repliesOf s.shared i).length = 1) ∧ (¬Answerable w → repliesOf s.shared i = [])) ∧
      ∀ i request, s.list[i]? = some request → discovery.discover request.msg = none →
        repliesOf s.shared i = [] := by
  constructor
  · intro i w place stopped
    have ending := ending_reachable quiet reachable place
    cases phase : w.phase with
    | returned =>
      simp only [Ending, phase] at ending
      exact ⟨fun _ => ending.2, fun unanswerable => (unanswerable ending.1).elim⟩
    | escaped stop =>
      simp only [Ending, phase] at ending
      exact ⟨fun answerable => (ending.1 answerable).elim, fun _ => ending.2⟩
    | queued | running _ | replying _ _ | locked _ _ _ _ =>
      rw [phase] at stopped
      exact stopped.elim
  · intro i request place dropped
    have good := (pool_unmixed reachable).each i request place
    unfold Good at good
    split at good
    next => exact good
    next w task =>
      rw [good.2.1] at dropped
      cases dropped

theorem fake_finished_once : ∃ (s : State) (w : Worker), fakePool.Reachable s ∧ TaskAt s 0 w ∧
    w.phase.Stopped ∧ (Answerable w → (repliesOf s.shared 0).length = 1) := by
  obtain ⟨s, reachable, received, answ, sent⟩ := reachable_fake 0
  have replies : repliesOf s.shared 0 = [(MessageBus.address fakeMessage answ).toMessageBus] := by
    rw [repliesOf, sent]
    rfl
  obtain ⟨request, rest, list, -, -⟩ := List.map_eq_cons_iff.mp received
  have place : s.list[0]? = some request := by rw [list, List.getElem?_cons_zero]
  cases task : request.task with
  | none =>
    have good := (pool_unmixed reachable).each 0 request place
    simp only [Good, task, replies, List.cons_ne_nil] at good
  | some w =>
    have ending := ending_reachable (fun _ => id) reachable ⟨request, place, task⟩
    have stopped : w.phase.Stopped := by
      rw [replies] at ending
      cases phase : w.phase with
      | returned | escaped _ => trivial
      | queued | running _ | replying _ _ | locked _ _ _ _ =>
        simp only [Ending, phase, List.cons_ne_nil, and_false] at ending
    have once := (finished_once (fun _ => id) reachable).1 0 w ⟨request, place, task⟩ stopped
    exact ⟨s, w, reachable, ⟨request, place, task⟩, stopped, once.1⟩

end FtyDiscovery.Pool
