import FtyDiscovery.PoolProgress

/-! The pool against an agent without tasks, which handles one request after another by calling
`operator()` on it: on the bus they cannot be told apart. -/

namespace FtyDiscovery.Serial

open Base Pool

/-- A message that was received, and how `operator()` ended on it once it is handled. -/
structure Handling where
  msg : Message
  ended : Option (Outcome Unit) := none

abbrev Served := Workers Handling (List (Nat × BusMessage))

def Within (throws : Throws) (bus : Bus) : Prop :=
  ∀ queue reply exn, bus.sendReply queue reply = .error exn → throws.can exn

/-- A call of `operator()`: how it ends, and the replies it leaves on the bus. Of a reply that the bus
throws at it is open whether it is sent. -/
inductive Handles (throws : Throws) (job : Job) (msg : Message) : Outcome Unit → List BusMessage → Prop where
  | call (run : job.In → job.Out → job.Out × Outcome Unit) (bus : Bus) {handed left : List SendReply}
      {ended : Outcome Unit} (within : Within throws bus)
      (called : Task.call job.pack run bus msg = ⟨handed, ended⟩) (some_of : left.Sublist handed)
      (taken : ∀ call ∈ handed, bus.sendReply call.queue call.msg = .ok () → call ∈ left) :
      Handles throws job msg ended (left.map SendReply.msg)

/-- A message arrives, or one that waits is handled as a whole. -/
inductive Serves (discovery : Discovery) (throws : Throws) : Served → Served → Prop where
  | receive (v : Served) (msg : Message) : Serves discovery throws v ⟨v.list ++ [{ msg := msg }], v.shared⟩
  | handle (v : Served) (i : Nat) (msg : Message) (job : Job) (ended : Outcome Unit) (replies : List BusMessage)
      (place : v.list[i]? = some { msg := msg }) (pushed : discovery.discover msg = some job)
      (handles : Handles throws job msg ended replies) :
      Serves discovery throws v
        (v.update i ⟨msg, some ended⟩ (v.shared ++ replies.map (fun reply => (i, reply))))

def serial (discovery : Discovery) (throws : Throws) : System Served where
  init := ⟨[], []⟩
  Step := Serves discovery throws

def phaseEnded {job : Job} : Phase job → Option (Outcome Unit)
  | .returned => some (.ok ())
  | .escaped stop => some (.error stop)
  | _ => none

def handling (request : Request) : Handling where
  msg := request.msg
  ended := request.task.bind (fun w => phaseEnded w.phase)

def served (s : State) : Served := ⟨s.list.map handling, s.shared.sent⟩

variable {discovery : Discovery} {throws : Throws} {s : State} {w w' : Worker} {effect : Effect}

def Present (w : Worker) : Prop :=
  (∃ cmd, w.phase = .running cmd) ∨ w.ended ≠ none → w.m_in.userData ≠ []

theorem present_step (moved : WorkerStep throws w effect w') (present : Present w) : Present w' := by
  unfold Present at present ⊢
  cases moved with
  | decoded cmd phase some_payload => exact fun _ => some_payload
  | ran cmd out phase | failed cmd out what phase | broken cmd out stop phase =>
    exact fun _ => present (.inl ⟨cmd, phase⟩)
  | payloadEmpty phase | payloadWrong _ phase | unconvertible _ _ _ phase | lock _ _ _ phase
  | write _ _ _ _ phase | send _ _ _ phase =>
    simpa [Worker.goes, phase] using present
  | sendThrows caught response answ exn left phase thrown =>
    intro either
    apply present
    rcases either with ⟨cmd, runs⟩ | unended
    · cases exn with
      | error what => exact (throws.foreign what thrown).elim
      | bus _ | secw _ | runtime _ | unknown => cases runs
    · exact .inr unended

def sameRun (w : Worker) : w.job.In → w.job.Out → w.job.Out × Outcome Unit :=
  fun _ _ => w.ended.getD (w.job.pack.empty, .ok ())

theorem settle_of_settled {response : Response w.job.Out} (settled : Settled w.job w.m_in w.ended response)
    (present : Present w) : Task.settle w.job.pack (sameRun w) w.m_in.userData = .ok response := by
  unfold Task.settle sameRun
  cases settled with
  | payloadEmpty empty =>
    rw [empty]
    rfl
  | payloadWrong failed present wrong => simp [present, wrong]
  | ran cmd out accepted returned =>
    have some_payload := present (.inr (by simp [returned]))
    simp [some_payload, accepted, returned, Response.initial]
  | failed cmd out what accepted thrown =>
    have some_payload := present (.inr (by simp [thrown]))
    simp [some_payload, accepted, thrown, Response.initial]

theorem call_of_settled {response : Response w.job.Out} (settled : Settled w.job w.m_in w.ended response)
    (present : Present w) (bus : Bus) :
    Task.call w.job.pack (sameRun w) bus w.m_in = Task.respond w.job.pack bus w.m_in response := by
  rw [Task.call_eq, settle_of_settled settled present]

theorem call_of_broken {job : Job} {msg : Message} {cmd : job.In} {out : job.Out} {stop : Stop} {bus : Bus}
    (some_payload : msg.userData ≠ []) (accepted : job.pack.decode msg.userData = .ok cmd)
    (uncaught : ∀ what, stop ≠ .thrown (.error what)) :
    Task.call job.pack (fun _ _ => (out, .error stop)) bus msg = .fail stop := by
  rw [Task.call_eq, Task.settle, if_neg (by simpa using some_payload), accepted]
  rcases stop with exn | _ | _
  · cases exn with
    | error what => exact (uncaught what rfl).elim
    | bus _ | secw _ | runtime _ | unknown => rfl
  · rfl
  · rfl

def throwing (exn : Exn) (foreign : ∀ what, exn ≠ .error what) : Bus where
  request _ _ _ := .error exn
  sendReply _ _ := .error exn
  sendReply_foreign _ _ what same := foreign what (Except.error.inj same)

theorem within_accepting (throws : Throws) : Within throws .accepting := by
  intro queue reply exn thrown
  cases thrown

theorem ended_afterThrow {caught : Bool} {response : Response w.job.Out} {exn : Exn} {bus : Bus} {answ : Message}
    (thrown : bus.sendReply Channel (MessageBus.address w.m_in answ).toMessageBus = .error exn) :
    phaseEnded (afterThrow w caught response exn) =
      some (Task.replied bus w.m_in answ).result := by
  simp only [Task.replied, MessageBus.reply, Bus.hands, thrown]
  cases exn with
  | error what => exact (bus.sendReply_foreign _ _ what thrown).elim
  | bus _ | secw _ | runtime _ | unknown => rfl

theorem handles_step {replies : List BusMessage} (moved : WorkerStep throws w effect w')
    (standing : Standing w replies) (present : Present w) :
    (phaseEnded w'.phase = none ∧ effect.replies = []) ∨
      ∃ ended, phaseEnded w'.phase = some ended ∧ Handles throws w.job w.m_in ended effect.replies := by
  cases moved with
  | payloadEmpty | payloadWrong | decoded | ran | failed | lock | write => exact .inl ⟨rfl, rfl⟩
  | broken cmd out stop phase uncaught =>
    simp only [Standing, phase] at standing
    have called : Task.call w.job.pack (fun _ _ => (out, .error stop)) .accepting w.m_in = .fail stop :=
      call_of_broken (present (.inl ⟨cmd, phase⟩)) standing.1 uncaught
    exact .inr ⟨.error stop, rfl, .call _ _ (within_accepting throws) called (List.Sublist.refl []) (by simp)⟩
  | unconvertible caught response stop phase failed =>
    simp only [Standing, phase] at standing
    obtain ⟨settled, -⟩ := standing
    refine .inr ⟨.error stop, rfl, ?_⟩
    have called := call_of_settled settled present .accepting
    simp only [Task.respond, failed] at called
    exact .call _ _ (within_accepting throws) called (List.Sublist.refl []) (by simp)
  | send caught response answ phase =>
    simp only [Standing, phase] at standing
    obtain ⟨⟨first, ⟨response, settled, converted⟩, rfl⟩, -⟩ := standing
    refine .inr ⟨.ok (), rfl, ?_⟩
    have called := call_of_settled settled present .accepting
    simp only [Task.respond, converted] at called
    exact .call _ _ (within_accepting throws) called (List.Sublist.refl _) (fun _ member _ => member)
  | sendThrows caught response answ exn left phase thrown itself =>
    simp only [Standing, phase] at standing
    obtain ⟨⟨first, ⟨response', settled, converted⟩, rfl⟩, -⟩ := standing
    have foreign (what : Text) : exn ≠ .error what := by
      rintro rfl
      exact throws.foreign what thrown
    have threw : (throwing exn foreign).sendReply Channel (MessageBus.address w.m_in first).toMessageBus = .error exn :=
      rfl
    refine .inr ⟨_, ended_afterThrow threw, ?_⟩
    have called := call_of_settled settled present (throwing exn foreign)
    simp only [Task.respond, converted] at called
    have within : Within throws (throwing exn foreign) := by
      intro queue reply other same
      obtain rfl := Except.error.inj same
      exact thrown
    let handed : SendReply := ⟨Channel, (MessageBus.address w.m_in first).toMessageBus⟩
    have untaken : ∀ call ∈ [handed], (throwing exn foreign).sendReply call.queue call.msg = .ok () →
        call ∈ (left.map (fun _ => handed)).toList := by
      intro call _ taken
      cases taken
    have some_of : (left.map (fun _ => handed)).toList.Sublist [handed] := by cases left <;> simp
    have handles := Handles.call _ _ within called some_of untaken
    cases left with
    | none => exact handles
    | some reply =>
      obtain rfl := itself reply rfl
      exact handles

theorem step_unended (moved : WorkerStep throws w effect w') : phaseEnded w.phase = none := by
  cases moved with
  | payloadEmpty phase | payloadWrong _ phase | decoded _ phase | ran _ _ phase | failed _ _ _ phase
  | broken _ _ _ phase | unconvertible _ _ _ phase | lock _ _ _ phase | write _ _ _ _ phase | send _ _ _ phase
  | sendThrows _ _ _ _ _ phase =>
    rw [phase]
    rfl

theorem present_reachable (reachable : (pool discovery throws).Reachable s) {i : Nat} (place : TaskAt s i w) :
    Present w := by
  refine each_task (fun w _ => Present w) (fun job m_in either => ?_) ?_ reachable place
  · rcases either with ⟨cmd, runs⟩ | unended
    · cases runs
    · exact (unended rfl).elim
  · exact fun _ _ _ _ => present_step

theorem served_update (s : State) (i : Nat) (request : Request) (bus : SharedBus) :
    served (s.update i request bus) = (served s).update i (handling request) bus.sent := by
  simp only [served, Workers.update, List.map_set]

theorem sent_on_eq {i : Nat} {bus bus' : SharedBus} (acted : effect.On i bus bus') :
    bus'.sent = bus.sent ++ effect.replies.map (fun reply => (i, reply)) := by
  cases effect with
  | own =>
    obtain rfl : bus' = bus := acted
    exact (List.append_nil _).symm
  | lock =>
    obtain ⟨-, rfl⟩ := acted
    exact (List.append_nil _).symm
  | unlock left =>
    obtain ⟨-, rfl⟩ := acted
    rfl

theorem served_receive (discovery : Discovery) (s : State) (msg : Message) :
    served ⟨s.list ++ [⟨msg, (discovery.discover msg).map (fun job => { job := job, m_in := msg })⟩], s.shared⟩ =
      ⟨(served s).list ++ [{ msg := msg }], (served s).shared⟩ := by
  cases discovery.discover msg <;> simp [served, handling, phaseEnded]

theorem serves_step {next : State} (reachable : (pool discovery throws).Reachable s)
    (step : (pool discovery throws).Step s next) :
    served next = served s ∨ Serves discovery throws (served s) (served next) := by
  cases step with
  | receive msg =>
    right
    rw [served_receive]
    exact .receive _ msg
  | work i request w w' effect bus place task moved acted =>
    have good := (pool_unmixed reachable).each i request place
    simp only [Good, task] at good
    obtain ⟨copied, pushed, standing⟩ := good
    have before : handling request = { msg := request.msg } := by
      simp [handling, task, step_unended moved]
    have found : (served s).list[i]? = some { msg := request.msg } := by
      rw [served, List.getElem?_map, place, Option.map_some, before]
    rw [served_update, sent_on_eq acted]
    rcases handles_step moved standing (present_reachable reachable ⟨request, place, task⟩) with
      ⟨unended, silent⟩ | ⟨ended, ends, handles⟩
    · left
      have same : handling { request with task := some w' } = { msg := request.msg } := by
        simp [handling, unended]
      rw [same, silent, List.map_nil, List.append_nil]
      exact Workers.update_same found
    · right
      have handled : handling { request with task := some w' } = ⟨request.msg, some ended⟩ := by
        simp [handling, ends]
      rw [handled]
      exact .handle _ i _ w.job ended _ found pushed (copied ▸ handles)

theorem serial_of_pool (reachable : (pool discovery throws).Reachable s) :
    (serial discovery throws).Reachable (served s) :=
  System.reachable_matched served rfl (fun _ _ => serves_step) reachable

abbrev fresh (job : Job) (msg : Message) : Worker := { job := job, m_in := msg }

theorem reachable_settled {i : Nat} {job : Job} {msg : Message} (run : job.In → job.Out → job.Out × Outcome Unit)
    (reachable : (pool discovery throws).Reachable s) (place : s.list[i]? = some ⟨msg, some (fresh job msg)⟩) :
    match Task.settle job.pack run msg.userData with
    | .ok response => ∃ caught ended, (pool discovery throws).Reachable
        (s.update i ⟨msg, some ⟨job, msg, .replying caught response, ended⟩⟩ s.shared)
    | .error stop => ∃ ended, (pool discovery throws).Reachable
        (s.update i ⟨msg, some ⟨job, msg, .escaped stop, ended⟩⟩ s.shared) := by
  obtain ⟨here, -⟩ := List.getElem?_eq_some_iff.mp place
  have start := (Workers.update_same place).symm ▸ reachable
  unfold Task.settle
  by_cases empty : msg.userData = []
  · rw [if_pos (by simpa using empty)]
    exact ⟨true, none, reachable_work here start (.payloadEmpty _ rfl empty) rfl⟩
  · rw [if_neg (by simpa using empty)]
    cases accepted : job.pack.decode msg.userData with
    | error failed => exact ⟨true, none, reachable_work here start (.payloadWrong _ failed rfl empty accepted) rfl⟩
    | ok cmd =>
      let running : Worker := ⟨job, msg, .running cmd, none⟩
      have decoded : (pool discovery throws).Reachable (s.update i ⟨msg, some running⟩ s.shared) :=
        reachable_work here start (.decoded (fresh job msg) cmd rfl empty accepted) rfl
      rcases ran : run cmd job.pack.empty with ⟨out, stop | returned⟩
      · by_cases caught : ∃ what, stop = .thrown (.error what)
        · obtain ⟨what, rfl⟩ := caught
          simp only [ran]
          exact ⟨true, _, reachable_work here decoded (.failed running cmd out what rfl) rfl⟩
        · have uncaught (what : Text) : stop ≠ .thrown (.error what) := fun same => caught ⟨what, same⟩
          have broken := reachable_work here decoded (.broken running cmd out stop rfl uncaught) rfl
          rcases stop with exn | _ | _
          · cases exn with
            | error what => exact (uncaught what rfl).elim
            | bus _ | secw _ | runtime _ | unknown =>
              simp only [ran]
              exact ⟨_, broken⟩
          · simp only [ran]
            exact ⟨_, broken⟩
          · simp only [ran]
            exact ⟨_, broken⟩
      · simp only [ran]
        exact ⟨false, _, reachable_work here decoded (.ran running cmd out rfl) rfl⟩

theorem reachable_replied {i : Nat} {job : Job} {msg : Message} {caught : Bool} {response : Response job.Out}
    {ran : Option (job.Out × Outcome Unit)} {bus : Bus} {handed left : List SendReply} {ended : Outcome Unit}
    (here : i < s.list.length) (free : s.shared.holder = none)
    (reachable : (pool discovery throws).Reachable
      (s.update i ⟨msg, some ⟨job, msg, .replying caught response, ran⟩⟩ s.shared))
    (within : Within throws bus) (called : Task.respond job.pack bus msg response = ⟨handed, ended⟩)
    (some_of : left.Sublist handed)
    (taken : ∀ call ∈ handed, bus.sendReply call.queue call.msg = .ok () → call ∈ left) :
    ∃ w, phaseEnded w.phase = some ended ∧ (pool discovery throws).Reachable (s.update i ⟨msg, some w⟩
      ⟨none, s.shared.sent ++ left.map (fun call => (i, call.msg))⟩) := by
  unfold Task.respond at called
  let replying : Worker := ⟨job, msg, .replying caught response, ran⟩
  cases converted : response.toMessage job.pack with
  | error stop =>
    rw [converted] at called
    obtain ⟨rfl, rfl⟩ := Traced.mk.inj called
    obtain rfl := List.sublist_nil.mp some_of
    have escaped := reachable_work here reachable (.unconvertible replying caught response stop rfl converted) rfl
    refine ⟨⟨job, msg, .escaped stop, ran⟩, rfl, ?_⟩
    rw [List.map_nil, List.append_nil, ← free]
    exact escaped
  | ok answ =>
    rw [converted] at called
    obtain ⟨rfl, rfl⟩ := Traced.mk.inj called
    let locked : Worker := ⟨job, msg, .locked caught response (MessageBus.address msg answ) 3, ran⟩
    have locks := reachable_work here reachable (.lock replying caught response answ rfl converted) ⟨free, rfl⟩
    have first := reachable_work here locks (.write _ caught response _ 0 rfl (by omega)) rfl
    have second := reachable_work here first (.write _ caught response _ 1 rfl (by omega)) rfl
    have third := reachable_work here second (.write _ caught response _ 2 rfl (by omega)) rfl
    cases sent : bus.sendReply Channel (MessageBus.address msg answ).toMessageBus with
    | ok =>
      obtain rfl := some_of.antisymm (List.singleton_sublist.mpr (taken _ (List.mem_singleton_self _) sent))
      refine ⟨⟨job, msg, .returned, ran⟩, ?_, reachable_work here third (.send locked caught response _ rfl) ⟨rfl, rfl⟩⟩
      simp only [MessageBus.reply, Bus.hands, sent]
      rfl
    | error exn =>
      have thrown := within _ _ _ sent
      refine ⟨locked.goes (afterThrow locked caught response exn), ended_afterThrow sent, ?_⟩
      rcases List.sublist_singleton.mp some_of with rfl | rfl
      · exact reachable_work here third
          (.sendThrows locked caught response _ exn none rfl thrown (by simp)) ⟨rfl, rfl⟩
      · exact reachable_work here third
          (.sendThrows locked caught response _ exn (some (MessageBus.address msg answ).toMessageBus) rfl thrown
            (by simp)) ⟨rfl, rfl⟩

theorem reachable_handled {i : Nat} {job : Job} {msg : Message} {ended : Outcome Unit} {replies : List BusMessage}
    (reachable : (pool discovery throws).Reachable s) (free : s.shared.holder = none)
    (place : s.list[i]? = some ⟨msg, some (fresh job msg)⟩) (handles : Handles throws job msg ended replies) :
    ∃ w, phaseEnded w.phase = some ended ∧ (pool discovery throws).Reachable
      (s.update i ⟨msg, some w⟩ ⟨none, s.shared.sent ++ replies.map (fun reply => (i, reply))⟩) := by
  obtain ⟨here, -⟩ := List.getElem?_eq_some_iff.mp place
  cases handles with
  | @call run bus handed left ended within called some_of taken =>
    have settles := reachable_settled run reachable place
    rw [Task.call_eq] at called
    rw [List.map_map]
    cases settled : Task.settle job.pack run msg.userData with
    | ok response =>
      rw [settled] at settles called
      obtain ⟨caught, ran, replying⟩ := settles
      exact reachable_replied here free replying within called some_of taken
    | error stop =>
      rw [settled] at settles called
      obtain ⟨rfl, rfl⟩ := Traced.mk.inj called
      obtain rfl := List.sublist_nil.mp some_of
      obtain ⟨ran, escaped⟩ := settles
      refine ⟨⟨job, msg, .escaped stop, ran⟩, rfl, ?_⟩
      rw [List.map_nil, List.append_nil, ← free]
      exact escaped

structure Idle (discovery : Discovery) (s : State) : Prop where
  free : s.shared.holder = none
  each : ∀ request ∈ s.list, (handling request).ended = none →
    request.task = (discovery.discover request.msg).map (fun job => fresh job request.msg)

theorem pool_of_serial {v : Served} (reachable : (serial discovery throws).Reachable v) :
    ∃ s, (pool discovery throws).Reachable s ∧ Idle discovery s ∧ served s = v := by
  induction reachable with
  | init => exact ⟨_, .init, ⟨rfl, by simp [pool]⟩, rfl⟩
  | step _ taken ih =>
    obtain ⟨s, reached, idle, rfl⟩ := ih
    cases taken with
    | receive msg =>
      refine ⟨_, .step reached (.receive s msg), ⟨idle.free, fun request member waits => ?_⟩,
        served_receive discovery s msg⟩
      rcases List.mem_append.mp member with before | anew
      · exact idle.each request before waits
      · obtain rfl := List.mem_singleton.mp anew
        rfl
    | handle i msg job ended replies place pushed handles =>
      rw [served, List.getElem?_map] at place
      obtain ⟨⟨msg', task⟩, found, waits⟩ := Option.map_eq_some_iff.mp place
      obtain rfl : msg' = msg := congrArg Handling.msg waits
      have waiting : task = (discovery.discover msg').map (fun job => fresh job msg') :=
        idle.each _ (List.mem_of_getElem? found) (congrArg Handling.ended waits)
      rw [pushed] at waiting
      subst waiting
      obtain ⟨w, ends, handled⟩ := reachable_handled reached idle.free found handles
      refine ⟨_, handled, ⟨rfl, fun request member unhandled => ?_⟩, ?_⟩
      · rcases List.mem_or_eq_of_mem_set member with before | rfl
        · exact idle.each request before unhandled
        · rw [handling, Option.bind_some, ends] at unhandled
          cases unhandled
      · rw [served_update, handling, Option.bind_some, ends]
        rfl

/-- What is seen of the pool in its reachable states, in whatever order the steps of its tasks come, is what
is seen of an agent that calls `operator()` on one request after another. -/
theorem pool_serial (discovery : Discovery) (throws : Throws) (v : Served) :
    (∃ s, (pool discovery throws).Reachable s ∧ served s = v) ↔ (serial discovery throws).Reachable v := by
  constructor
  · rintro ⟨s, reachable, rfl⟩
    exact serial_of_pool reachable
  · intro reachable
    obtain ⟨s, reached, -, same⟩ := pool_of_serial reachable
    exact ⟨s, reached, same⟩

end FtyDiscovery.Serial
