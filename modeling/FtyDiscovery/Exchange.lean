import FtyDiscovery.Correlation
import FtyDiscovery.PoolProgress
import FtyDiscovery.Rest

/-! Clients, the bus and the agent in one system: requests that are sent, lost or delivered more than
once, replies that come late or never, and the tasks of the agent between them. -/

namespace FtyDiscovery.Exchange

open Base

structure Call where
  wire : Message
  returned : Option (Outcome (Expected Message)) := none

structure State where
  generated : Nat := 0
  calls : List Call := []
  server : Pool.State := ⟨[], {}⟩

def received : Except Exn BusMessage → Outcome (Expected Message)
  | .ok answer =>
      let m := Message.ofBus answer
      if m.metaData.status = .error then .ok (.error m.userData) else .ok (.ok m)
  | .error (.bus what) => .ok (.error what)
  | .error exn => .error (.thrown exn)

theorem send_eq_received (bus : Bus) (actorName uuid queue : Text) (msg : Message) :
    MessageBus.send bus actorName uuid queue msg =
      received (bus.request queue (MessageBus.stamp actorName uuid msg).toMessageBus 10) := rfl

def identifier (msg : Message) : Text := msg.metaData.correlationId

def arrived (discovery : Discovery) (server : Pool.State) (msg : Message) : Pool.State :=
  ⟨server.list ++ [⟨msg, (discovery.discover msg).map (fun job => { job := job, m_in := msg })⟩], server.shared⟩

/-- A call is answered by any reply on the bus that carries its identifier, or it fails at any time,
as it does when it has waited for too long. -/
inductive Step (generator : Correlation.Generator) (discovery : Discovery) (throws : Pool.Throws) :
    State → State → Prop where
  | send (s : State) (actorName : Text) (msg : Message) (created : identifier msg = []) :
      Step generator discovery throws s
        { s with
          generated := s.generated + 1
          calls := s.calls ++ [{ wire := MessageBus.stamp actorName (generator.uuid s.generated) msg }] }
  | arrive (s : State) (call : Call) (sent : call ∈ s.calls) :
      Step generator discovery throws s
        { s with server := arrived discovery s.server (Message.ofBus call.wire.toMessageBus) }
  | work (s : State) (server : Pool.State) (works : Pool.Works discovery throws s.server server) :
      Step generator discovery throws s { s with server := server }
  | answer (s : State) (i : Nat) (call : Call) (entry : Nat × BusMessage) (place : s.calls[i]? = some call)
      (waiting : call.returned = none) (sent : entry ∈ s.server.shared.sent)
      (carries : value entry.2.metaData .correlationId = identifier call.wire) :
      Step generator discovery throws s
        { s with calls := s.calls.set i { call with returned := some (received (.ok entry.2)) } }
  | fail (s : State) (i : Nat) (call : Call) (exn : Exn) (place : s.calls[i]? = some call)
      (waiting : call.returned = none) :
      Step generator discovery throws s
        { s with calls := s.calls.set i { call with returned := some (received (.error exn)) } }

def system (generator : Correlation.Generator) (discovery : Discovery) (throws : Pool.Throws) : System State where
  init := {}
  Step := Step generator discovery throws

variable {generator : Correlation.Generator} {discovery : Discovery} {throws : Pool.Throws} {s : State}

theorem server_reachable (reachable : (system generator discovery throws).Reachable s) :
    (Pool.pool discovery throws).Reachable s.server := by
  refine System.reachable_view State.server rfl ?_ reachable
  intro s next step
  cases step with
  | send => exact .inl rfl
  | arrive => exact .inr (.receive _ _)
  | work server works => exact .inr works.1
  | answer => exact .inl rfl
  | fail => exact .inl rfl

def Fits (s : State) (call : Call) : Prop :=
  ∀ fate, call.returned = some fate → (∃ exn, fate = received (.error exn)) ∨
    ∃ entry ∈ s.server.shared.sent,
      value entry.2.metaData .correlationId = identifier call.wire ∧ fate = received (.ok entry.2)

/-- Every call has an identifier that was generated for it, the agent has only requests that were
sent, and a call returns what carries its identifier. -/
structure Inv (generator : Correlation.Generator) (s : State) : Prop where
  stamped : s.calls.map (fun call => identifier call.wire) = (List.range s.generated).map generator.uuid
  sent : ∀ request ∈ s.server.list, request.msg ∈ s.calls.map Call.wire
  fits : ∀ call ∈ s.calls, Fits s call

theorem sent_grows {i : Nat} {effect : Pool.Effect} {bus bus' : Pool.SharedBus} (acted : effect.On i bus bus') :
    ∀ entry ∈ bus.sent, entry ∈ bus'.sent := by
  intro entry member
  cases effect with
  | own =>
    obtain rfl : bus' = bus := acted
    exact member
  | lock =>
    obtain ⟨-, rfl⟩ := acted
    exact member
  | unlock left =>
    obtain ⟨-, rfl⟩ := acted
    exact List.mem_append_left _ member

theorem Fits.grows {s next : State} {call : Call}
    (grows : ∀ entry ∈ s.server.shared.sent, entry ∈ next.server.shared.sent)
    (fits : Fits s call) : Fits next call := by
  intro fate returned
  rcases fits fate returned with failed | ⟨entry, sent, carries⟩
  · exact .inl failed
  · exact .inr ⟨entry, grows entry sent, carries⟩

theorem map_wire_set {calls : List Call} {i : Nat} {call : Call} (place : calls[i]? = some call)
    (fate : Option (Outcome (Expected Message))) :
    (calls.set i { call with returned := fate }).map Call.wire = calls.map Call.wire := by
  induction calls generalizing i with
  | nil => rfl
  | cons head tail ih =>
    cases i with
    | zero =>
      obtain rfl := Option.some.inj place
      rfl
    | succ i => rw [List.set_cons_succ, List.map_cons, ih place, List.map_cons]

theorem inv_returned {s : State} (inv : Inv generator s) {i : Nat} {call : Call} (place : s.calls[i]? = some call)
    {fate : Outcome (Expected Message)} (fits : Fits s { call with returned := some fate }) :
    Inv generator { s with calls := s.calls.set i { call with returned := some fate } } := by
  have wires := map_wire_set place (some fate)
  constructor
  · have identifiers := congrArg (List.map identifier) wires
    rw [List.map_map, List.map_map] at identifiers
    exact identifiers.trans inv.stamped
  · intro request member
    rw [wires]
    exact inv.sent request member
  · intro other member
    rcases List.mem_or_eq_of_mem_set member with before | rfl
    · exact inv.fits other before
    · exact fits

theorem inv_step {next : State} (inv : Inv generator s) (step : Step generator discovery throws s next) :
    Inv generator next := by
  cases step with
  | send actorName msg created =>
    constructor
    · rw [List.map_append, inv.stamped, List.range_succ, List.map_append, List.map_singleton, List.map_singleton]
      simp only [identifier, MessageBus.stamp]
      rw [identifier] at created
      rw [created]
      rfl
    · intro request member
      rw [List.map_append]
      exact List.mem_append_left _ (inv.sent request member)
    · intro call member
      rcases List.mem_append.mp member with before | anew
      · exact inv.fits call before
      · obtain rfl := List.mem_singleton.mp anew
        intro fate returned
        cases returned
  | arrive call sent =>
    refine ⟨inv.stamped, ?_, inv.fits⟩
    intro request member
    rcases List.mem_append.mp member with before | anew
    · exact inv.sent request before
    · obtain rfl := List.mem_singleton.mp anew
      rw [Message.ofBus_toMessageBus]
      exact List.mem_map_of_mem sent
  | work server works =>
    obtain ⟨i, request, w, w', effect, bus, place, task, moved, acted, rfl⟩ := Pool.works_iff.mp works
    refine ⟨inv.stamped, ?_, fun call member => (inv.fits call member).grows (sent_grows acted)⟩
    intro other member
    rcases List.mem_or_eq_of_mem_set member with before | rfl
    · exact inv.sent other before
    · exact inv.sent request (List.mem_of_getElem? place)
  | answer i call entry place waiting sent carries =>
    refine inv_returned inv place (fun fate returned => .inr ⟨entry, sent, carries, ?_⟩)
    exact (Option.some.inj returned).symm
  | fail i call exn place waiting =>
    refine inv_returned inv place (fun fate returned => .inl ⟨exn, ?_⟩)
    exact (Option.some.inj returned).symm

theorem inv_reachable (reachable : (system generator discovery throws).Reachable s) : Inv generator s := by
  refine System.invariant (Inv generator) ⟨rfl, ?_, ?_⟩ (fun s next inv step => inv_step inv step) reachable
  · intro request member
    cases member
  · intro call member
    cases member

theorem wire_of_identifier (inv : Inv generator s) {call : Call} {msg : Message} (member : call ∈ s.calls)
    (sent : msg ∈ s.calls.map Call.wire) (same : identifier msg = identifier call.wire) : msg = call.wire := by
  have distinct : ((s.calls.map Call.wire).map identifier).Nodup := by
    rw [List.map_map]
    exact inv.stamped ▸ List.nodup_range.map generator.fresh
  exact List.inj_on_of_nodup_map distinct sent (List.mem_map_of_mem member) same

theorem received_address (req answ : Message) :
    received (.ok (MessageBus.address req answ).toMessageBus) =
      match answ.metaData.status with
      | .ok => .ok (.ok (MessageBus.address req answ))
      | .error => .ok (.error answ.userData) := by
  simp only [received, Message.ofBus_toMessageBus]
  cases status : answ.metaData.status <;> simp [MessageBus.address, status]

theorem returned_own (reachable : (system generator discovery throws).Reachable s) {call : Call}
    {fate : Outcome (Expected Message)} (member : call ∈ s.calls) (returned : call.returned = some fate) :
    (∃ exn, fate = received (.error exn)) ∨ ∃ i w answ, Pool.TaskAt s.server i w ∧ w.m_in = call.wire ∧
      discovery.discover call.wire = some w.job ∧ Pool.Outcome w answ ∧
      fate = received (.ok (MessageBus.address call.wire answ).toMessageBus) := by
  have inv := inv_reachable reachable
  rcases inv.fits call member fate returned with failed | ⟨entry, sent, carries, same⟩
  · exact .inl failed
  · right
    have unmixed := Pool.pool_unmixed (server_reachable reachable)
    have here := unmixed.placed entry sent
    have found := List.getElem?_eq_getElem here
    have good := unmixed.each _ _ found
    have reply : entry.2 ∈ Pool.repliesOf s.server.shared entry.1 :=
      List.mem_map_of_mem (List.mem_filter.mpr ⟨sent, by simp⟩)
    unfold Pool.Good at good
    split at good
    next =>
      rw [good] at reply
      cases reply
    next w task =>
      obtain ⟨copied, pushed, standing⟩ := good
      rcases Pool.standing_replies standing with unsent | ⟨answ, outcome, one⟩
      · rw [unsent] at reply
        cases reply
      · rw [one, List.mem_singleton] at reply
        rw [reply] at carries same
        have own := wire_of_identifier inv member (inv.sent _ (List.mem_of_getElem? found))
          (by rw [← copied]; exact carries)
        rw [own] at copied pushed
        exact ⟨entry.1, w, answ, ⟨_, found, task⟩, copied, pushed, outcome, copied ▸ same⟩

theorem status_toMessage {In Out : Type} {pack : Pack In Out} {response : Response Out} {answ : Message}
    (converted : response.toMessage pack = .ok answ) : answ.metaData.status = response.status := by
  unfold Response.toMessage at converted
  cases status : response.status with
  | error =>
    rw [status] at converted
    obtain rfl := Except.ok.inj converted
    rfl
  | ok =>
    simp only [status] at converted
    split at converted
    next =>
      cases serialized : pack.serialize response.out with
      | error failed =>
        rw [serialized] at converted
        cases converted
      | ok text =>
        rw [serialized] at converted
        obtain rfl := Except.ok.inj converted
        rfl
    next =>
      obtain rfl := Except.ok.inj converted
      rfl

def Refused (w : Pool.Worker) (text : Text) : Prop :=
  w.m_in.userData = [] ∧ text = "Wrong input data: payload is empty".toList ∨
    (∃ failed, w.job.pack.decode w.m_in.userData = .error failed) ∧
      text = "Wrong input data: format of payload is incorrect".toList

def Returned (w : Pool.Worker) (text : Text) : Prop :=
  ∃ out answ, w.ended = some (out, .ok ()) ∧
    ({ Response.initial w.job.pack with out := out } : Response w.job.Out).toMessage w.job.pack = .ok answ ∧
      text = answ.userData

def Failed (w : Pool.Worker) (text : Text) : Prop := ∃ out, w.ended = some (out, .error (.thrown (.error text)))

theorem outcome_cases {w : Pool.Worker} {answ : Message} (outcome : Pool.Outcome w answ) :
    match answ.metaData.status with
    | .ok => Returned w answ.userData
    | .error => Refused w answ.userData ∨ Failed w answ.userData := by
  obtain ⟨response, settled, converted⟩ := outcome
  cases settled with
  | payloadEmpty empty =>
    obtain rfl := Except.ok.inj converted
    exact .inl (.inl ⟨empty, rfl⟩)
  | payloadWrong failed present wrong =>
    obtain rfl := Except.ok.inj converted
    exact .inl (.inr ⟨⟨failed, wrong⟩, rfl⟩)
  | ran cmd out accepted returned =>
    rw [status_toMessage converted]
    exact ⟨out, answ, returned, converted, rfl⟩
  | failed cmd out what accepted thrown =>
    obtain rfl := Except.ok.inj converted
    exact .inr ⟨out, thrown⟩

/-- In every reachable state, whatever was lost, late or delivered twice: what a handler makes of the
return of its call is the output of a run on its own request, or a refusal or error of its own
request, or the failure of the bus. -/
theorem answers_own (reachable : (system generator discovery throws).Reachable s) {call : Call}
    {fate : Outcome (Expected Message)} (member : call ∈ s.calls) (returned : call.returned = some fate) :
    (∀ body, Rest.reply (Rest.payload fate) = .ok (.ok body) → ∃ i w text, Pool.TaskAt s.server i w ∧
        w.m_in = call.wire ∧ discovery.discover call.wire = some w.job ∧ Returned w text ∧
          body = text ++ "\n\n".toList) ∧
      ∀ text, Rest.reply (Rest.payload fate) = .ok (.error (.internal text)) →
        (∃ exn, fate = received (.error exn)) ∨ ∃ i w, Pool.TaskAt s.server i w ∧ w.m_in = call.wire ∧
          discovery.discover call.wire = some w.job ∧ (Refused w text ∨ Failed w text) := by
  have own := returned_own reachable member returned
  constructor
  · intro body ok
    obtain ⟨resp, rfl, status, rfl⟩ := Rest.reply_ok_iff.mp ok
    rcases own with ⟨exn, failed⟩ | ⟨i, w, answ, place, copied, pushed, outcome, same⟩
    · cases exn <;> cases failed
    · rw [received_address] at same
      have told := outcome_cases outcome
      split at same
      next fine =>
        obtain rfl := Except.ok.inj (Except.ok.inj same)
        rw [fine] at told
        exact ⟨i, w, answ.userData, place, copied, pushed, told, rfl⟩
      next => cases same
  · intro text error
    rcases own with failed | ⟨i, w, answ, place, copied, pushed, outcome, same⟩
    · exact .inl failed
    · refine .inr ⟨i, w, place, copied, pushed, ?_⟩
      rw [received_address] at same
      have told := outcome_cases outcome
      split at same
      next fine =>
        rcases Rest.reply_internal_iff.mp error with other | ⟨resp, other, status, -⟩
        · rw [same] at other
          cases other
        · rw [same] at other
          obtain rfl := Except.ok.inj (Except.ok.inj other)
          have still : (MessageBus.address call.wire answ).metaData.status = answ.metaData.status := rfl
          rw [still, fine] at status
          cases status
      next wrong =>
        rcases Rest.reply_internal_iff.mp error with other | ⟨resp, other, -⟩
        · rw [same] at other
          obtain rfl := Except.error.inj (Except.ok.inj other)
          rw [wrong] at told
          exact told
        · rw [same] at other
          cases other

def fakeSystem : System State :=
  system Correlation.counting
    { protocols := ⟨_, _, Client.fakePack, Client.fakeRun⟩
      mibs := ⟨_, _, Client.fakePack, Client.fakeRun⟩
      assets := ⟨_, _, Client.fakePack, Client.fakeRun⟩ }
    ⟨fun _ => False, fun _ never => never⟩

theorem fakeSystem_works {generated : Nat} {calls : List Call} {server : Pool.State} {i : Nat} {msg : Message}
    {w w' : Pool.Worker}
    {effect : Pool.Effect} {bus bus' : Pool.SharedBus} (here : i < server.list.length)
    (reachable : fakeSystem.Reachable ⟨generated, calls, server.update i ⟨msg, some w⟩ bus⟩)
    (moved : Pool.WorkerStep ⟨fun _ => False, fun _ never => never⟩ w effect w') (acted : effect.On i bus bus') :
    fakeSystem.Reachable ⟨generated, calls, server.update i ⟨msg, some w'⟩ bus'⟩ := by
  have place := Workers.update_self (List.getElem?_eq_getElem here) ⟨msg, some w⟩ bus
  refine .step reachable (.work _ _ (Pool.works_iff.mpr ⟨i, _, w, w', effect, bus', place, rfl, moved, acted, ?_⟩))
  rw [Workers.update_update]

def fakeCall : Call where
  wire := MessageBus.stamp Rest.actorName (Correlation.counting.uuid 0)
    (Rest.message Commands.Protocols.Subject Client.fakeRequest)

theorem fake_returned : ∃ (s : State) (call : Call) (m : Message), fakeSystem.Reachable s ∧ call ∈ s.calls ∧
    call.returned = some (.ok (.ok m)) ∧ m.metaData.status = .ok := by
  have accepted : Client.fakePack.decode fakeCall.wire.userData = .ok { address := "__fake__".toList } := by decide
  have present : fakeCall.wire.userData ≠ [] := by decide
  let out := ["nut_snmp".toList, "nut_xml_pdc".toList]
  let answ : Message := { userData := "[\"nut_snmp\",\"nut_xml_pdc\"]".toList }
  have converted : ({ Response.initial Client.fakePack with out := out } : Response _).toMessage Client.fakePack =
      .ok answ := by decide
  let cmd : Commands.Protocols.In := { address := "__fake__".toList }
  let fresh : Pool.Worker := { job := ⟨_, _, Client.fakePack, Client.fakeRun⟩, m_in := fakeCall.wire }
  let server : Pool.State := ⟨[⟨fakeCall.wire, some fresh⟩], {}⟩
  have here : 0 < server.list.length := Nat.one_pos
  have asked : fakeSystem.Reachable { generated := 1, calls := [fakeCall] } :=
    .step .init (.send {} Rest.actorName (Rest.message Commands.Protocols.Subject Client.fakeRequest) rfl)
  have queued : fakeSystem.Reachable ⟨1, [fakeCall], server.update 0 ⟨fakeCall.wire, some fresh⟩ {}⟩ :=
    .step asked (.arrive _ fakeCall List.mem_cons_self)
  have decoded := fakeSystem_works here queued (.decoded fresh cmd rfl present accepted) rfl
  have ran := fakeSystem_works here decoded (.ran _ cmd out rfl) rfl
  have locked := fakeSystem_works here ran (.lock _ false _ answ rfl converted) ⟨rfl, rfl⟩
  have first := fakeSystem_works here locked (.write _ false _ _ 0 rfl (by omega)) rfl
  have second := fakeSystem_works here first (.write _ false _ _ 1 rfl (by omega)) rfl
  have third := fakeSystem_works here second (.write _ false _ _ 2 rfl (by omega)) rfl
  have replied := fakeSystem_works here third (.send _ false _ _ rfl) ⟨rfl, rfl⟩
  have answered := System.Reachable.step replied
    (.answer _ 0 fakeCall (0, (MessageBus.address fakeCall.wire answ).toMessageBus) rfl rfl List.mem_cons_self rfl)
  exact ⟨_, _, MessageBus.address fakeCall.wire answ, answered, List.mem_cons_self, by rw [received_address], rfl⟩

theorem fake_answers_own : ∃ (s : State) (call : Call) (body : Text), fakeSystem.Reachable s ∧ call ∈ s.calls ∧
    ∃ i w text, Pool.TaskAt s.server i w ∧ w.m_in = call.wire ∧ Returned w text ∧ body = text ++ "\n\n".toList := by
  obtain ⟨s, call, m, reachable, member, returned, status⟩ := fake_returned
  obtain ⟨i, w, text, place, copied, -, returns, body⟩ :=
    (answers_own reachable member returned).1 _ (Rest.reply_ok_iff.mpr ⟨m, rfl, status, rfl⟩)
  exact ⟨s, call, _, reachable, member, i, w, text, place, copied, returns, body⟩

end FtyDiscovery.Exchange
