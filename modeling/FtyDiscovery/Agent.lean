import FtyDiscovery.Jobs.Ends
import FtyDiscovery.Jobs.Listing
import FtyDiscovery.PoolProgress

/-! The agent as a whole: the pool with its three jobs, each run on the world as it then is. As long as
the world is reliable, every request that is accepted is answered once. -/

namespace FtyDiscovery.Agent

open Base Jobs Pool

structure World where
  env : Env
  requests : Nat
  random : env.identity.State
  sorting : Mibs.Sorting
  net : Protocols.Network
  attempts : Nat

structure Packs where
  protocols : Pack Commands.Protocols.In Commands.Protocols.Out
  mibs : Pack Commands.Mibs.In Commands.Mibs.Out
  assets : Pack Commands.Assets.In Commands.Assets.Out

namespace World

def protocols (world : World) : Commands.Protocols.In → Commands.Protocols.Out → Commands.Protocols.Out × Outcome Unit :=
  asTask (Protocols.run world.net world.attempts) (fun out names => out ++ names)

def mibs (world : World) : Commands.Mibs.In → Commands.Mibs.Out → Commands.Mibs.Out × Outcome Unit :=
  asTask (Mibs.run world.env world.sorting world.requests) (fun _ mibs => mibs)

def assets (world : World) : Commands.Assets.In → Commands.Assets.Out → Commands.Assets.Out × Outcome Unit :=
  asTask (Assets.logged world.env world.requests world.random) (fun out found => out ++ found.1)

/-- Neither the machine nor the network fails in a way that the jobs do not see. -/
structure Reliable (world : World) : Prop where
  machine : Jobs.Reliable world.env world.requests
  parses : Protocols.Parses world.net
  gets : ∀ address, Protocols.Gets world.net world.attempts address
  writes : ∀ out, ∃ text, world.net.serialize out = .ok text

end World

def Packs.discovery (packs : Packs) (world : World) : Discovery where
  protocols := ⟨_, _, packs.protocols, world.protocols⟩
  mibs := ⟨_, _, packs.mibs, world.mibs⟩
  assets := ⟨_, _, packs.assets, world.assets⟩

structure Packs.Writes (packs : Packs) : Prop where
  protocols : ∀ out, ∃ text, packs.protocols.serialize out = .ok text
  mibs : ∀ out, ∃ text, packs.mibs.serialize out = .ok text
  assets : ∀ out, ∃ text, packs.assets.serialize out = .ok text

/-- How a run of a job can end: as it does in some reliable world. -/
inductive Ran (packs : Packs) : (job : Job) → job.In → job.Out × Outcome Unit → Prop where
  | protocols (run : Commands.Protocols.In → Commands.Protocols.Out → Commands.Protocols.Out × Outcome Unit)
      (world : World) (reliable : world.Reliable) (input : Commands.Protocols.In) :
      Ran packs ⟨_, _, packs.protocols, run⟩ input (world.protocols input packs.protocols.empty)
  | mibs (run : Commands.Mibs.In → Commands.Mibs.Out → Commands.Mibs.Out × Outcome Unit)
      (world : World) (reliable : world.Reliable) (input : Commands.Mibs.In) :
      Ran packs ⟨_, _, packs.mibs, run⟩ input (world.mibs input packs.mibs.empty)
  | assets (run : Commands.Assets.In → Commands.Assets.Out → Commands.Assets.Out × Outcome Unit)
      (world : World) (reliable : world.Reliable) (input : Commands.Assets.In) :
      Ran packs ⟨_, _, packs.assets, run⟩ input (world.assets input packs.assets.empty)

def Faithful (packs : Packs) (w : Worker) : Prop :=
  ∀ ended, w.ended = some ended → ∃ cmd, w.job.pack.decode w.m_in.userData = .ok cmd ∧ Ran packs w.job cmd ended

def AllFaithful (packs : Packs) (s : State) : Prop := ∀ i w, TaskAt s i w → Faithful packs w

def agent (packs : Packs) (world : World) (throws : Throws) : System State where
  init := ⟨[], {}⟩
  Step s next := Pool.Step (packs.discovery world) throws s next ∧ AllFaithful packs next

variable {packs : Packs} {world : World} {throws : Throws} {s : State}

theorem handled_asTask {Event Input In α Out : Type} {pack : Pack In Out} {job : Input → Traced Event Stop α}
    {input : Input} (writes : ∀ out, ∃ text, pack.serialize out = .ok text)
    (ends : ∀ stop, (job input).result = .error stop → Caught stop) (append : Out → α → Out) (out : Out) :
    Discovery.Handled pack (asTask job append input out) := by
  unfold asTask
  split
  next => exact fun _ => writes _
  next stop failed =>
    obtain ⟨what, rfl⟩ := ends stop failed
    trivial

theorem caught_of_ends {Event α : Type} {x : Traced Event Stop α} (ends : x.Ends Caught (fun _ => True)) :
    ∀ stop, x.result = .error stop → Caught stop := by
  intro stop failed
  unfold Traced.Ends at ends
  rw [failed] at ends
  exact ends

theorem protocols_ends (reliable : world.Reliable) (input : Commands.Protocols.In) :
    ∀ stop, (Protocols.run world.net world.attempts input).result = .error stop → Caught stop := by
  intro stop failed
  by_cases fake : input.address = "__fake__".toList
  · rw [Protocols.run, if_pos fake] at failed
    cases failed
  · by_cases found : available world.net.resolver input.address = true
    · have lists := Protocols.run_result reliable.parses (reliable.gets input.address) reliable.writes fake found
      rw [lists] at failed
      cases failed
    · rw [Protocols.run, if_neg fake, Traced.result_bind, Protocols.checkHost, if_neg found] at failed
      exact ⟨_, (Except.error.inj failed).symm⟩

theorem handled_ran (writes : packs.Writes) {job : Job} {cmd : job.In} {ended : job.Out × Outcome Unit}
    (ran : Ran packs job cmd ended) : Discovery.Handled job.pack ended := by
  cases ran with
  | protocols run world reliable input => exact handled_asTask writes.protocols (protocols_ends reliable input) _ _
  | mibs run world reliable input =>
    exact handled_asTask writes.mibs (caught_of_ends (Mibs.run_ends reliable.machine world.sorting input)) _ _
  | assets run world reliable input =>
    exact handled_asTask writes.assets (caught_of_ends (Assets.run_ends reliable.machine world.random input)) _ _

theorem pool_reachable (reachable : (agent packs world throws).Reachable s) :
    (pool (packs.discovery world) throws).Reachable s := by
  have follows (s next : State) (step : (agent packs world throws).Step s next) :
      next = s ∨ (pool (packs.discovery world) throws).Step s next := .inr step.1
  have start : (agent packs world throws).init = (pool (packs.discovery world) throws).init := rfl
  exact System.reachable_view id start follows reachable

theorem faithful_reachable (reachable : (agent packs world throws).Reachable s) : AllFaithful packs s := by
  refine System.invariant (AllFaithful packs) ?_ (fun s next _ step => ?_) reachable
  · rintro i w ⟨request, place, -⟩
    cases place
  · obtain ⟨-, faithful⟩ := step
    exact faithful

def Accepted (msg : Message) : Prop :=
  msg.metaData.subject = Commands.Protocols.Subject ∨ msg.metaData.subject = Commands.Mibs.Subject ∨
    msg.metaData.subject = Commands.Assets.Subject

instance (msg : Message) : Decidable (Accepted msg) := by
  unfold Accepted
  infer_instance

theorem discover_isSome (packs : Packs) (world : World) (msg : Message) :
    ((packs.discovery world).discover msg).isSome = true ↔ Accepted msg := by
  unfold Discovery.discover Accepted
  split
  next protocols => simp [protocols]
  next =>
    split
    next mibs => simp [mibs]
    next =>
      split
      next assets => simp [assets]
      next => simp [*]

theorem tasked_reachable {discovery : Discovery} (reachable : (pool discovery throws).Reachable s) :
    ∀ request ∈ s.list, request.task.isSome = (discovery.discover request.msg).isSome := by
  refine System.invariant (fun s : State => ∀ request ∈ s.list,
    request.task.isSome = (discovery.discover request.msg).isSome) ?_ ?_ reachable
  · intro request member
    cases member
  · intro s next each step
    cases step with
    | receive msg =>
      intro request member
      rcases List.mem_append.mp member with before | anew
      · exact each request before
      · obtain rfl := List.mem_singleton.mp anew
        exact Option.isSome_map
    | work i request w w' effect bus place task =>
      intro other member
      rcases List.mem_or_eq_of_mem_set member with before | rfl
      · exact each other before
      · have tasked := each request (List.mem_of_getElem? place)
        rw [task] at tasked
        exact tasked

theorem ran_discovered (reliable : world.Reliable) {msg : Message} {job : Job}
    (pushed : (packs.discovery world).discover msg = some job) (cmd : job.In) : Ran packs job cmd (job.ran cmd) := by
  unfold Discovery.discover at pushed
  split at pushed
  next =>
    obtain rfl := Option.some.inj pushed
    exact .protocols _ world reliable cmd
  next =>
    split at pushed
    next =>
      obtain rfl := Option.some.inj pushed
      exact .mibs _ world reliable cmd
    next =>
      split at pushed
      next =>
        obtain rfl := Option.some.inj pushed
        exact .assets _ world reliable cmd
      next => cases pushed

def Runs (packs : Packs) (world : World) (throws : Throws) (s next : State) : Prop :=
  Works (packs.discovery world) throws s next ∧ AllFaithful packs next

theorem runs_of_busy (reliable : world.Reliable) (reachable : (agent packs world throws).Reachable s)
    (busy : ¬AtRest s) : ∃ next, Runs packs world throws s next := by
  have inPool := pool_reachable reachable
  have ends (i : Nat) (w : Worker) (cmd : w.job.In) (held : TaskAt s i w) (phase : w.phase = .running cmd) :
      ∃ ended, ∀ phase, Faithful packs (w.ends ended phase) := by
    obtain ⟨request, place, task⟩ := held
    have good := (pool_unmixed inPool).each i request place
    simp only [Good, task, Standing, phase] at good
    obtain ⟨-, pushed, accepted, -⟩ := good
    refine ⟨w.job.ran cmd, fun phase ended same => ?_⟩
    obtain rfl := Option.some.inj same
    exact ⟨cmd, accepted, ran_discovered reliable pushed cmd⟩
  exact works_keeping (mutex_reachable inPool) (faithful_reachable reachable) (fun _ _ faithful => faithful) ends busy

theorem replied_once (writes : packs.Writes) (quiet : ∀ exn, ¬throws.can exn)
    (reachable : (agent packs world throws).Reachable s) {i : Nat} {w : Worker} (place : TaskAt s i w)
    (stopped : w.phase.Stopped) : (repliesOf s.shared i).length = 1 := by
  have answerable : Answerable w := by
    intro ended same
    obtain ⟨cmd, -, ran⟩ := faithful_reachable reachable i w place ended same
    exact handled_ran writes ran
  have ending := ending_reachable quiet (pool_reachable reachable) place
  cases phase : w.phase with
  | returned =>
    simp only [Ending, phase] at ending
    exact ending.2
  | escaped stop =>
    simp only [Ending, phase] at ending
    exact (ending.1 answerable).elim
  | queued | running _ | replying _ _ | locked _ _ _ _ =>
    rw [phase] at stopped
    exact stopped.elim

theorem messages_works {discovery : Discovery} {next : State} (works : Works discovery throws s next) :
    next.list.map Request.msg = s.list.map Request.msg := by
  obtain ⟨i, request, w, w', effect, bus, place, -, -, -, rfl⟩ := works_iff.mp works
  apply List.ext_getElem?
  intro j
  rw [List.getElem?_map, List.getElem?_map]
  by_cases here : j = i
  · subst here
    rw [Workers.update_self place, place]
    rfl
  · rw [Workers.update, List.getElem?_set_ne (Ne.symm here)]

def fakeWorld : World where
  env := sampleEnv
  requests := 3
  random := ()
  sorting := .stable
  net := Protocols.brokenNet
  attempts := 1

theorem fakeWorld_reliable : fakeWorld.Reliable where
  machine :=
    { socket := rfl
      documents := fun _ _ given => nomatch given
      replies := fun _ _ response _ got _ => by
        obtain ⟨rfl, -⟩ := Snmp.SynchResult.success.inj got
        exact List.cons_ne_nil _ _
      walks := fun _ _ => ⟨_, Snmp.Network.walk_lossless_v1 _ _ rfl (fun _ => rfl)⟩
      waits := fun _ child started => by
        obtain rfl := Except.ok.inj started
        exact ⟨0, rfl⟩
      logs := fun _ child started => by
        obtain rfl := Except.ok.inj started
        exact (Logging.Assets.parseLogs_verbatim_iff _).mpr (by decide)
      converts := fun _ => ⟨_, rfl⟩ }
  parses := Protocols.brokenNet_parses
  gets := fun _ _ => ⟨_, rfl⟩
  writes := fun _ => ⟨_, rfl⟩

def fakePacks : Packs where
  protocols := Client.fakePack
  mibs := .names (fun _ => .error "not the payload".toList)
  assets :=
    { decode := fun _ => .error "not the payload".toList
      empty := []
      hasValue := fun out => !out.isEmpty
      serialize := fun out => .ok (out.flatMap Commands.Assets.Return.subAddress)
      deserialize := fun _ => .ok []
      shape := .list }

def fakeAgent : System State := agent fakePacks fakeWorld ⟨fun _ => False, fun _ never => never⟩

theorem fake_writes : fakePacks.Writes where
  protocols := fun _ => ⟨_, rfl⟩
  mibs := fun _ => ⟨_, rfl⟩
  assets := fun _ => ⟨_, rfl⟩

theorem fake_rest : ∃ (s : State) (request : Request), fakeAgent.Reachable s ∧
    (∀ next, ¬Runs fakePacks fakeWorld ⟨fun _ => False, fun _ never => never⟩ s next) ∧
      s.list[0]? = some request ∧ request.msg = fakeMessage := by
  let throws : Throws := ⟨fun _ => False, fun _ never => never⟩
  let start : State := ⟨[⟨fakeMessage, ((fakePacks.discovery fakeWorld).discover fakeMessage).map
    (fun job => { job := job, m_in := fakeMessage })⟩], {}⟩
  have received : fakeAgent.Reachable start := by
    refine .step .init ⟨.receive _ fakeMessage, ?_⟩
    rintro i w ⟨request, place, task⟩ ended same
    obtain rfl := List.mem_singleton.mp (List.mem_of_getElem? place)
    have fresh : ((fakePacks.discovery fakeWorld).discover fakeMessage).map
        (fun job => ({ job := job, m_in := fakeMessage } : Worker)) = some w := task
    obtain ⟨job, -, rfl⟩ := Option.map_eq_some_iff.mp fresh
    cases same
  have lowers (s next : State) (runs : Runs fakePacks fakeWorld throws s next) : left next < left s := left_works runs.1
  obtain ⟨n, last, run, ends⟩ := Steps.comes_to_rest lowers start
  have steps (s next : State) (runs : Runs fakePacks fakeWorld throws s next) : fakeAgent.Step s next :=
    ⟨runs.1.1, runs.2⟩
  have kept (s next : State) (runs : Runs fakePacks fakeWorld throws s next)
      (same : s.list.map Request.msg = [fakeMessage]) : next.list.map Request.msg = [fakeMessage] :=
    (messages_works runs.1).trans same
  have messages : last.list.map Request.msg = [fakeMessage] := run.keeps kept rfl
  obtain ⟨request, rest, list, same, -⟩ := List.map_eq_cons_iff.mp messages
  exact ⟨last, request, run.reachable steps received, ends, by rw [list, List.getElem?_cons_zero], same⟩

end FtyDiscovery.Agent
