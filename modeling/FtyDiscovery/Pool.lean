import FtyDiscovery.Base.System
import FtyDiscovery.Client

/-! The tasks of the pool side by side on the one bus object: who is answered with what, in
whatever order their steps come. -/

namespace FtyDiscovery.Pool

open Base

/-- Where a task stands. Between `locked` and the end it holds the mutex of the bus; the number
counts the fields of the answer that are already overwritten. -/
inductive Phase (job : Job) where
  | queued
  | running (cmd : job.In)
  | replying (caught : Bool) (response : Response job.Out)
  | locked (caught : Bool) (response : Response job.Out) (answ : Message) (written : Nat)
  | returned
  | escaped (stop : Stop)

/-- A pushed task with its copy of the message; how its run ended is remembered. -/
structure Worker where
  job : Job
  m_in : Message
  phase : Phase job := .queued
  ended : Option (job.Out × Outcome Unit) := none

structure Request where
  msg : Message
  task : Option Worker

structure SharedBus where
  holder : Option Nat := none
  sent : List (Nat × BusMessage) := []

/-- The exceptions that the bus underneath can throw. -/
structure Throws where
  can : Exn → Prop
  foreign : ∀ what, ¬can (.error what)

inductive Effect where
  | own
  | lock
  | unlock (left : Option BusMessage)

namespace Worker

def goes (w : Worker) (phase : Phase w.job) : Worker := { w with phase := phase }

def ends (w : Worker) (ran : w.job.Out × Outcome Unit) (phase : Phase w.job) : Worker :=
  { w with phase := phase, ended := some ran }

def initial (w : Worker) : Response w.job.Out := Response.initial w.job.pack

end Worker

def addressed (req answ : Message) : Nat → Message
  | 0 => answ
  | 1 => { answ with metaData := { answ.metaData with correlationId := req.metaData.correlationId } }
  | 2 =>
      { answ with metaData :=
        { answ.metaData with
          correlationId := req.metaData.correlationId
          toName := req.metaData.fromName } }
  | _ => MessageBus.address req answ

def overwrite (req answ : Message) : Nat → Message
  | 0 => { answ with metaData := { answ.metaData with correlationId := req.metaData.correlationId } }
  | 1 => { answ with metaData := { answ.metaData with toName := req.metaData.fromName } }
  | _ => { answ with metaData := { answ.metaData with fromName := req.metaData.toName } }

theorem overwrite_addressed (req answ : Message) {written : Nat} (more : written < 3) :
    overwrite req (addressed req answ written) written = addressed req answ (written + 1) := by
  rcases written with _ | _ | _ | written
  · rfl
  · rfl
  · rfl
  · omega

/-- Where an exception that came out of the reply leads: a `job::Error` from the try block would
be caught and answered. -/
def afterThrow (w : Worker) (caught : Bool) (response : Response w.job.Out) (exn : Exn) : Phase w.job :=
  match exn with
  | .bus _ => .returned
  | .error what => if caught then .escaped (.thrown exn) else .replying true (response.setError what)
  | _ => .escaped (.thrown exn)

inductive WorkerStep (throws : Throws) : Worker → Effect → Worker → Prop where
  | payloadEmpty (w : Worker) (phase : w.phase = .queued) (empty : w.m_in.userData = []) :
      WorkerStep throws w .own
        (w.goes (.replying true (w.initial.setError "Wrong input data: payload is empty".toList)))
  | payloadWrong (w : Worker) (failed : Text) (phase : w.phase = .queued) (present : w.m_in.userData ≠ [])
      (wrong : w.job.pack.decode w.m_in.userData = .error failed) :
      WorkerStep throws w .own
        (w.goes (.replying true
          (w.initial.setError "Wrong input data: format of payload is incorrect".toList)))
  | decoded (w : Worker) (cmd : w.job.In) (phase : w.phase = .queued) (present : w.m_in.userData ≠ [])
      (accepted : w.job.pack.decode w.m_in.userData = .ok cmd) :
      WorkerStep throws w .own (w.goes (.running cmd))
  | ran (w : Worker) (cmd : w.job.In) (out : w.job.Out) (phase : w.phase = .running cmd) :
      WorkerStep throws w .own (w.ends (out, .ok ()) (.replying false { w.initial with out := out }))
  | failed (w : Worker) (cmd : w.job.In) (out : w.job.Out) (what : Text) (phase : w.phase = .running cmd) :
      WorkerStep throws w .own (w.ends (out, .error (.thrown (.error what)))
        (.replying true ({ w.initial with out := out }.setError what)))
  | broken (w : Worker) (cmd : w.job.In) (out : w.job.Out) (stop : Stop) (phase : w.phase = .running cmd)
      (uncaught : ∀ what, stop ≠ .thrown (.error what)) :
      WorkerStep throws w .own (w.ends (out, .error stop) (.escaped stop))
  | unconvertible (w : Worker) (caught : Bool) (response : Response w.job.Out) (stop : Stop)
      (phase : w.phase = .replying caught response) (failed : response.toMessage w.job.pack = .error stop) :
      WorkerStep throws w .own (w.goes (.escaped stop))
  | lock (w : Worker) (caught : Bool) (response : Response w.job.Out) (answ : Message)
      (phase : w.phase = .replying caught response) (converted : response.toMessage w.job.pack = .ok answ) :
      WorkerStep throws w .lock (w.goes (.locked caught response answ 0))
  | write (w : Worker) (caught : Bool) (response : Response w.job.Out) (answ : Message) (written : Nat)
      (phase : w.phase = .locked caught response answ written) (more : written < 3) :
      WorkerStep throws w .own
        (w.goes (.locked caught response (overwrite w.m_in answ written) (written + 1)))
  | send (w : Worker) (caught : Bool) (response : Response w.job.Out) (answ : Message)
      (phase : w.phase = .locked caught response answ 3) :
      WorkerStep throws w (.unlock (some answ.toMessageBus)) (w.goes .returned)
  | sendThrows (w : Worker) (caught : Bool) (response : Response w.job.Out) (answ : Message) (exn : Exn)
      (left : Option BusMessage) (phase : w.phase = .locked caught response answ 3) (thrown : throws.can exn)
      (itself : ∀ reply ∈ left, reply = answ.toMessageBus) :
      WorkerStep throws w (.unlock left) (w.goes (afterThrow w caught response exn))

/-- What an effect of the task at this place makes of the bus object; the mutex has one holder. -/
def Effect.On (i : Nat) : Effect → SharedBus → SharedBus → Prop
  | .own, bus, bus' => bus' = bus
  | .lock, bus, bus' => bus.holder = none ∧ bus' = { bus with holder := some i }
  | .unlock left, bus, bus' =>
      bus.holder = some i ∧ bus' = ⟨none, bus.sent ++ left.toList.map (fun reply => (i, reply))⟩

abbrev State := Workers Request SharedBus

inductive Step (discovery : Discovery) (throws : Throws) : State → State → Prop where
  | receive (s : State) (msg : Message) :
      Step discovery throws s
        ⟨s.list ++ [⟨msg, (discovery.discover msg).map (fun job => { job := job, m_in := msg })⟩], s.shared⟩
  | work (s : State) (i : Nat) (request : Request) (w w' : Worker) (effect : Effect) (bus : SharedBus)
      (place : s.list[i]? = some request) (task : request.task = some w)
      (moved : WorkerStep throws w effect w') (acted : effect.On i s.shared bus) :
      Step discovery throws s (s.update i { request with task := some w' } bus)

def pool (discovery : Discovery) (throws : Throws) : System State where
  init := ⟨[], {}⟩
  Step := Step discovery throws

/-- The response that the payload of a message and the end of its run settle. -/
inductive Settled (job : Job) (m_in : Message) (ended : Option (job.Out × Outcome Unit)) :
    Response job.Out → Prop where
  | payloadEmpty (empty : m_in.userData = []) :
      Settled job m_in ended
        ((Response.initial job.pack).setError "Wrong input data: payload is empty".toList)
  | payloadWrong (failed : Text) (present : m_in.userData ≠ [])
      (wrong : job.pack.decode m_in.userData = .error failed) :
      Settled job m_in ended
        ((Response.initial job.pack).setError "Wrong input data: format of payload is incorrect".toList)
  | ran (cmd : job.In) (out : job.Out) (accepted : job.pack.decode m_in.userData = .ok cmd)
      (returned : ended = some (out, .ok ())) :
      Settled job m_in ended { Response.initial job.pack with out := out }
  | failed (cmd : job.In) (out : job.Out) (what : Text) (accepted : job.pack.decode m_in.userData = .ok cmd)
      (thrown : ended = some (out, .error (.thrown (.error what)))) :
      Settled job m_in ended (({ Response.initial job.pack with out := out } : Response job.Out).setError what)

def Outcome (w : Worker) (answ : Message) : Prop :=
  ∃ response, Settled w.job w.m_in w.ended response ∧ response.toMessage w.job.pack = .ok answ

/-- What a task has sent, from where it stands. -/
def Standing (w : Worker) (replies : List BusMessage) : Prop :=
  match w.phase with
  | .queued => replies = []
  | .running cmd => w.job.pack.decode w.m_in.userData = .ok cmd ∧ replies = []
  | .replying _ response => Settled w.job w.m_in w.ended response ∧ replies = []
  | .locked _ _ answ written =>
      (∃ first, Outcome w first ∧ answ = addressed w.m_in first written) ∧ replies = []
  | .returned | .escaped _ =>
      replies = [] ∨ ∃ answ, Outcome w answ ∧ replies = [(MessageBus.address w.m_in answ).toMessageBus]

def Effect.replies : Effect → List BusMessage
  | .own | .lock => []
  | .unlock left => left.toList

theorem step_m_in {throws : Throws} {w w' : Worker} {effect : Effect}
    (moved : WorkerStep throws w effect w') : w'.m_in = w.m_in := by
  cases moved <;> rfl

theorem step_job {throws : Throws} {w w' : Worker} {effect : Effect}
    (moved : WorkerStep throws w effect w') : w'.job = w.job := by
  cases moved <;> rfl

theorem standing_step {throws : Throws} {w w' : Worker} {effect : Effect} {replies : List BusMessage}
    (moved : WorkerStep throws w effect w') (standing : Standing w replies) :
    Standing w' (replies ++ effect.replies) := by
  cases moved with
  | payloadEmpty phase empty =>
    simp only [Standing, phase] at standing
    subst standing
    exact ⟨.payloadEmpty empty, rfl⟩
  | payloadWrong failed phase present wrong =>
    simp only [Standing, phase] at standing
    subst standing
    exact ⟨.payloadWrong failed present wrong, rfl⟩
  | decoded cmd phase present accepted =>
    simp only [Standing, phase] at standing
    subst standing
    exact ⟨accepted, rfl⟩
  | ran cmd out phase =>
    simp only [Standing, phase] at standing
    obtain ⟨accepted, rfl⟩ := standing
    exact ⟨.ran cmd out accepted rfl, rfl⟩
  | failed cmd out what phase =>
    simp only [Standing, phase] at standing
    obtain ⟨accepted, rfl⟩ := standing
    exact ⟨.failed cmd out what accepted rfl, rfl⟩
  | broken cmd out stop phase uncaught =>
    simp only [Standing, phase] at standing
    obtain ⟨accepted, rfl⟩ := standing
    exact .inl rfl
  | unconvertible caught response stop phase failed =>
    simp only [Standing, phase] at standing
    obtain ⟨settled, rfl⟩ := standing
    exact .inl rfl
  | lock caught response answ phase converted =>
    simp only [Standing, phase] at standing
    obtain ⟨settled, rfl⟩ := standing
    exact ⟨⟨answ, ⟨response, settled, converted⟩, rfl⟩, rfl⟩
  | write caught response answ written phase more =>
    simp only [Standing, phase] at standing
    obtain ⟨⟨first, outcome, rfl⟩, rfl⟩ := standing
    exact ⟨⟨first, outcome, overwrite_addressed w.m_in first more⟩, rfl⟩
  | send caught response answ phase =>
    simp only [Standing, phase] at standing
    obtain ⟨⟨first, outcome, rfl⟩, rfl⟩ := standing
    exact .inr ⟨first, outcome, rfl⟩
  | sendThrows caught response answ exn left phase thrown itself =>
    simp only [Standing, phase] at standing
    obtain ⟨⟨first, outcome, rfl⟩, rfl⟩ := standing
    have sent : left.toList = [] ∨
        ∃ answ, Outcome w answ ∧ left.toList = [(MessageBus.address w.m_in answ).toMessageBus] := by
      cases left with
      | none => exact .inl rfl
      | some reply => exact .inr ⟨first, outcome, congrArg (fun reply => [reply]) (itself reply rfl)⟩
    cases exn with
    | error what => exact (throws.foreign what thrown).elim
    | bus what => exact sent
    | secw what => exact sent
    | runtime what => exact sent
    | unknown => exact sent

def repliesOf (bus : SharedBus) (i : Nat) : List BusMessage :=
  (bus.sent.filter (fun entry => entry.1 = i)).map (fun entry => entry.2)

theorem repliesOf_own {i : Nat} {effect : Effect} {bus bus' : SharedBus} (acted : effect.On i bus bus') :
    repliesOf bus' i = repliesOf bus i ++ effect.replies := by
  cases effect with
  | own =>
    obtain rfl : bus' = bus := acted
    exact (List.append_nil _).symm
  | lock =>
    obtain ⟨-, rfl⟩ := acted
    exact (List.append_nil _).symm
  | unlock left =>
    obtain ⟨-, rfl⟩ := acted
    cases left <;> simp [repliesOf, Effect.replies]

theorem repliesOf_other {i j : Nat} {effect : Effect} {bus bus' : SharedBus} (acted : effect.On i bus bus')
    (other : j ≠ i) : repliesOf bus' j = repliesOf bus j := by
  cases effect with
  | own =>
    obtain rfl : bus' = bus := acted
    rfl
  | lock =>
    obtain ⟨-, rfl⟩ := acted
    rfl
  | unlock left =>
    obtain ⟨-, rfl⟩ := acted
    cases left <;> simp [repliesOf, Ne.symm other]

theorem sent_on {i : Nat} {effect : Effect} {bus bus' : SharedBus} (acted : effect.On i bus bus')
    {entry : Nat × BusMessage} (member : entry ∈ bus'.sent) : entry ∈ bus.sent ∨ entry.1 = i := by
  cases effect with
  | own =>
    obtain rfl : bus' = bus := acted
    exact .inl member
  | lock =>
    obtain ⟨-, rfl⟩ := acted
    exact .inl member
  | unlock left =>
    obtain ⟨-, rfl⟩ := acted
    rcases List.mem_append.mp member with before | anew
    · exact .inl before
    · obtain ⟨reply, -, rfl⟩ := List.mem_map.mp anew
      exact .inr rfl

def Good (discovery : Discovery) (i : Nat) (request : Request) (bus : SharedBus) : Prop :=
  match request.task with
  | none => repliesOf bus i = []
  | some w =>
      w.m_in = request.msg ∧ discovery.discover request.msg = some w.job ∧ Standing w (repliesOf bus i)

/-- Every reply was sent from the place of a request, and every request is in good standing. -/
structure Unmixed (discovery : Discovery) (s : State) : Prop where
  each : s.Each (Good discovery)
  placed : ∀ entry ∈ s.shared.sent, entry.1 < s.list.length

theorem good_frame {discovery : Discovery} {bus bus' : SharedBus} {i : Nat} {request : Request}
    (same : repliesOf bus' i = repliesOf bus i) (good : Good discovery i request bus) :
    Good discovery i request bus' := by
  unfold Good at good ⊢
  rw [same]
  exact good

theorem unmixed_receive {discovery : Discovery} {s : State} (unmixed : Unmixed discovery s) (msg : Message) :
    Unmixed discovery
      ⟨s.list ++ [⟨msg, (discovery.discover msg).map (fun job => { job := job, m_in := msg })⟩], s.shared⟩ := by
  have unsent : repliesOf s.shared s.list.length = [] := by
    simp only [repliesOf, List.map_eq_nil_iff, List.filter_eq_nil_iff, decide_eq_true_eq]
    exact fun entry member => (unmixed.placed entry member).ne
  refine ⟨Workers.each_append unmixed.each ?_, fun entry member => ?_⟩
  · unfold Good
    cases found : discovery.discover msg with
    | none => exact unsent
    | some job => exact ⟨rfl, rfl, unsent⟩
  · have before := unmixed.placed entry member
    simp only [List.length_append, List.length_singleton]
    omega

theorem unmixed_step {discovery : Discovery} {throws : Throws} {s next : State}
    (unmixed : Unmixed discovery s) (step : Step discovery throws s next) : Unmixed discovery next := by
  cases step with
  | receive msg => exact unmixed_receive unmixed msg
  | work i request w w' effect bus place task moved acted =>
    have good := unmixed.each i request place
    simp only [Good, task] at good
    obtain ⟨copied, pushed, standing⟩ := good
    have own : Good discovery i { request with task := some w' } bus := by
      refine ⟨(step_m_in moved).trans copied, pushed.trans (congrArg some (step_job moved).symm), ?_⟩
      rw [repliesOf_own acted]
      exact standing_step moved standing
    refine ⟨Workers.each_update unmixed.each own (fun j other apart => good_frame (repliesOf_other acted apart)), ?_⟩
    intro entry member
    obtain ⟨here, -⟩ := List.getElem?_eq_some_iff.mp place
    rw [Workers.update, List.length_set]
    rcases sent_on acted member with before | rfl
    · exact unmixed.placed entry before
    · exact here

theorem pool_unmixed {discovery : Discovery} {throws : Throws} {s : State}
    (reachable : (pool discovery throws).Reachable s) : Unmixed discovery s := by
  refine System.invariant (Unmixed discovery) ⟨?_, ?_⟩ (fun _ _ kept step => unmixed_step kept step) reachable
  · intro i request found
    cases found
  · intro entry member
    cases member

theorem standing_replies {w : Worker} {replies : List BusMessage} (standing : Standing w replies) :
    replies = [] ∨ ∃ answ, Outcome w answ ∧ replies = [(MessageBus.address w.m_in answ).toMessageBus] := by
  unfold Standing at standing
  split at standing
  next => exact .inl standing
  next => exact .inl standing.2
  next => exact .inl standing.2
  next => exact .inl standing.2
  next => exact standing
  next => exact standing

structure Answers (discovery : Discovery) (request : Request) (reply : BusMessage) : Prop where
  correlationId : value reply.metaData .correlationId = request.msg.metaData.correlationId
  toName : value reply.metaData .to = request.msg.metaData.fromName
  fromName : value reply.metaData .from = request.msg.metaData.toName
  outcome : ∃ w answ, request.task = some w ∧ w.m_in = request.msg ∧
    discovery.discover request.msg = some w.job ∧ Outcome w answ ∧
    value reply.metaData .status = answ.metaData.status.write ∧ reply.userData = [answ.userData]

theorem answers_of_good {discovery : Discovery} {i : Nat} {request : Request} {bus : SharedBus}
    (good : Good discovery i request bus) :
    (repliesOf bus i).length ≤ 1 ∧ ∀ reply ∈ repliesOf bus i, Answers discovery request reply := by
  unfold Good at good
  split at good
  next => simp [good]
  next w task =>
    obtain ⟨copied, pushed, standing⟩ := good
    rcases standing_replies standing with none_yet | ⟨answ, outcome, one⟩
    · simp [none_yet]
    · rw [one]
      refine ⟨le_rfl, fun reply member => ?_⟩
      obtain rfl := List.mem_singleton.mp member
      exact ⟨by rw [← copied]; rfl, by rw [← copied]; rfl, by rw [← copied]; rfl,
        w, answ, task, copied, pushed, outcome, rfl, rfl⟩

/-- In every reachable state each request has had at most one reply; each reply answers the
request whose task sent it, and is told apart from all others by its identifier as long as the
identifiers of the received requests differ. -/
theorem replies_unmixed {discovery : Discovery} {throws : Throws} {s : State}
    (reachable : (pool discovery throws).Reachable s) :
    (∀ i, (repliesOf s.shared i).length ≤ 1) ∧
      ∀ entry ∈ s.shared.sent, ∃ request, s.list[entry.1]? = some request ∧
        Answers discovery request entry.2 ∧
        ((s.list.map (fun received => received.msg.metaData.correlationId)).Nodup →
          ∀ j other, s.list[j]? = some other →
            other.msg.metaData.correlationId = value entry.2.metaData .correlationId → j = entry.1) := by
  have unmixed := pool_unmixed reachable
  refine ⟨fun i => ?_, fun entry member => ?_⟩
  · by_cases here : i < s.list.length
    · exact (answers_of_good (unmixed.each i _ (List.getElem?_eq_getElem here))).1
    · have unsent : repliesOf s.shared i = [] := by
        simp only [repliesOf, List.map_eq_nil_iff, List.filter_eq_nil_iff, decide_eq_true_eq]
        intro entry member
        have placed := unmixed.placed entry member
        omega
      simp [unsent]
  · have here := unmixed.placed entry member
    have found := List.getElem?_eq_getElem here
    have answers := (answers_of_good (unmixed.each _ _ found)).2 entry.2
      (List.mem_map_of_mem (List.mem_filter.mpr ⟨member, by simp⟩))
    refine ⟨_, found, answers, fun distinct j other place same => ?_⟩
    rw [answers.correlationId] at same
    refine ((List.getElem?_inj (by simpa using here) distinct).mp ?_).symm
    rw [List.getElem?_map, List.getElem?_map, found, place, Option.map_some, Option.map_some, same]

variable {discovery : Discovery} {throws : Throws}

theorem reachable_work {s : State} {i : Nat} {msg : Message} {w w' : Worker} {effect : Effect}
    {bus bus' : SharedBus} (here : i < s.list.length)
    (reachable : (pool discovery throws).Reachable (s.update i ⟨msg, some w⟩ bus))
    (moved : WorkerStep throws w effect w') (acted : effect.On i bus bus') :
    (pool discovery throws).Reachable (s.update i ⟨msg, some w'⟩ bus') := by
  have place := Workers.update_self (List.getElem?_eq_getElem here) ⟨msg, some w⟩ bus
  rw [← Workers.update_update s i ⟨msg, some w⟩ ⟨msg, some w'⟩ bus bus']
  exact .step reachable (.work _ i _ w w' effect bus' place rfl moved acted)

theorem reachable_served {s : State} (i : Nat) {msg answ : Message} {job : Job} {cmd : job.In} (out : job.Out)
    (reachable : (pool discovery throws).Reachable s) (free : s.shared.holder = none)
    (place : s.list[i]? = some ⟨msg, some { job := job, m_in := msg }⟩) (present : msg.userData ≠ [])
    (accepted : job.pack.decode msg.userData = .ok cmd)
    (converted : ({ Response.initial job.pack with out := out } : Response job.Out).toMessage job.pack = .ok answ) :
    ∃ w, (pool discovery throws).Reachable (s.update i ⟨msg, some w⟩
      ⟨none, s.shared.sent ++ [(i, (MessageBus.address msg answ).toMessageBus)]⟩) := by
  obtain ⟨here, found⟩ := List.getElem?_eq_some_iff.mp place
  have queued : s.update i ⟨msg, some { job := job, m_in := msg }⟩ s.shared = s := by
    rw [Workers.update, ← found, List.set_getElem_self]
  have start := queued.symm ▸ reachable
  have decoded := reachable_work here start (.decoded _ cmd rfl present accepted) rfl
  have ran := reachable_work here decoded (.ran _ cmd out rfl) rfl
  have locked := reachable_work here ran (.lock _ false _ answ rfl converted) ⟨free, rfl⟩
  have first := reachable_work here locked (.write _ false _ _ 0 rfl (by omega)) rfl
  have second := reachable_work here first (.write _ false _ _ 1 rfl (by omega)) rfl
  have third := reachable_work here second (.write _ false _ _ 2 rfl (by omega)) rfl
  exact ⟨_, reachable_work here third (.send _ false _ _ rfl) ⟨rfl, rfl⟩⟩

def fakePool : System State :=
  pool
    { protocols := ⟨_, _, Client.fakePack, Client.fakeRun⟩
      mibs := ⟨_, _, Client.fakePack, Client.fakeRun⟩
      assets := ⟨_, _, Client.fakePack, Client.fakeRun⟩ }
    ⟨fun _ => False, fun _ never => never⟩

def fakeMessage : Message where
  userData := Client.fakeRequest
  metaData :=
    { subject := Commands.Protocols.Subject
      fromName := "ui".toList
      toName := "discovery-ng".toList
      correlationId := "1".toList }

theorem reachable_fake (more : Nat) : ∃ s, fakePool.Reachable s ∧
    s.list.map (fun request => request.msg) = List.replicate (more + 1) fakeMessage ∧
    ∃ answ, s.shared.sent = [(0, (MessageBus.address fakeMessage answ).toMessageBus)] := by
  have waiting (n : Nat) : ∃ s, fakePool.Reachable s ∧ s.shared = {} ∧
      s.list = List.replicate n
        ⟨fakeMessage, some { job := ⟨_, _, Client.fakePack, Client.fakeRun⟩, m_in := fakeMessage }⟩ := by
    induction n with
    | zero => exact ⟨_, .init, rfl, rfl⟩
    | succ n ih =>
      obtain ⟨s, reachable, idle, all⟩ := ih
      refine ⟨_, .step reachable (.receive s fakeMessage), idle, ?_⟩
      rw [List.replicate_succ', ← all]
      rfl
  obtain ⟨s, reachable, idle, all⟩ := waiting (more + 1)
  have accepted : Client.fakePack.decode fakeMessage.userData = .ok { address := "__fake__".toList } := by
    decide
  obtain ⟨w, served⟩ := reachable_served 0 [] reachable (by rw [idle])
    (by rw [all]; rfl) (by decide) accepted rfl
  refine ⟨_, served, ?_, _, by rw [idle]; rfl⟩
  simp [Workers.update, all, List.replicate_succ]

theorem same_identifier_twice : ∃ s : State, fakePool.Reachable s ∧ ∃ entry ∈ s.shared.sent,
    ¬∃! j : Nat, ∃ other : Request, s.list[j]? = some other ∧
      other.msg.metaData.correlationId = value entry.2.metaData .correlationId := by
  obtain ⟨s, reachable, both, answ, sent⟩ := reachable_fake 1
  have place (j : Nat) (early : j < 2) :
      ∃ other : Request, s.list[j]? = some other ∧ other.msg.metaData.correlationId = "1".toList := by
    have length : s.list.length = 2 := by simpa using congrArg List.length both
    have found := congrArg (fun messages => messages[j]?) both
    simp only [List.getElem?_map, List.getElem?_replicate, early, if_true,
      List.getElem?_eq_getElem (length ▸ early), Option.map_some, Option.some.injEq] at found
    exact ⟨_, List.getElem?_eq_getElem (length ▸ early), congrArg (fun msg => msg.metaData.correlationId) found⟩
  refine ⟨s, reachable, _, sent ▸ List.mem_singleton_self _, ?_⟩
  intro single
  rcases single with ⟨j, -, unique⟩
  have zero := unique 0 (place 0 (by omega))
  have one := unique 1 (place 1 (by omega))
  omega

theorem fake_unmixed : ∃ s : State, s.shared.sent ≠ [] ∧
    (∀ i, (repliesOf s.shared i).length ≤ 1) ∧
    ∀ entry ∈ s.shared.sent, ∃ request, s.list[entry.1]? = some request ∧
      value entry.2.metaData .correlationId = request.msg.metaData.correlationId := by
  obtain ⟨s, reachable, -, answ, sent⟩ := reachable_fake 0
  obtain ⟨once, belongs⟩ := replies_unmixed reachable
  refine ⟨s, by simp [sent], once, fun entry member => ?_⟩
  obtain ⟨request, found, answers, -⟩ := belongs entry member
  exact ⟨request, found, answers.correlationId⟩

end FtyDiscovery.Pool
