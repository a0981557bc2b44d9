import FtyDiscovery.Discovery

/-! A request as its client sees it: what the server makes of it, carried back by the bus. -/

namespace FtyDiscovery.Client

open Base

variable {In Out : Type}

/-- The output survives its encoding: with a value through the serialiser, without one through
the empty list that stands for it. -/
structure RoundTrips (pack : Pack In Out) (out : Out) : Prop where
  shape : pack.shape = .list
  value : pack.hasValue out = true →
    ∃ text, pack.serialize out = .ok text ∧ pack.deserialize text = .ok out
  empty : pack.hasValue out = false → pack.deserialize "[]".toList = .ok out

def RepliesTo (wire reply : BusMessage) : Prop :=
  value reply.metaData .to = value wire.metaData .from ∧
    value reply.metaData .correlationId = value wire.metaData .correlationId

instance (wire reply : BusMessage) : Decidable (RepliesTo wire reply) := inferInstanceAs (Decidable (_ ∧ _))

def taken (bus : Bus) (handed : List SendReply) : List BusMessage :=
  (handed.filter (fun call => (bus.sendReply call.queue call.msg).isOk)).map SendReply.msg

/-- The reply to a request: the first that the bus of the server took. -/
def served (pack : Pack In Out) (run : In → Out → Out × Outcome Unit) (server : Bus) (wire : BusMessage) :
    Option BusMessage :=
  (taken server (Task.call pack run server (Message.ofBus wire)).events).find? (RepliesTo wire)

/-- The bus takes what the server hands to it, and a request brings back the reply to it, unchanged, or
else fails. -/
structure Delivers (pack : Pack In Out) (run : In → Out → Out × Outcome Unit) (server client : Bus) : Prop where
  takes : ∀ queue msg, server.sendReply queue msg = .ok ()
  brings : ∀ queue wire timeout,
    match served pack run server wire with
    | some reply => client.request queue wire timeout = .ok reply
    | none => ∃ exn, client.request queue wire timeout = .error exn

variable {pack : Pack In Out} {run : In → Out → Out × Outcome Unit} {server client : Bus}

theorem repliesTo_address (req answ : Message) :
    RepliesTo req.toMessageBus (MessageBus.address req answ).toMessageBus := ⟨rfl, rfl⟩

theorem served_of_replied (delivers : Delivers pack run server client) {m_in answ : Message}
    (answered : Task.call pack run server m_in = Task.replied server m_in answ) :
    served pack run server m_in.toMessageBus = some (MessageBus.address m_in answ).toMessageBus := by
  have took : (server.sendReply Channel (MessageBus.address m_in answ).toMessageBus).isOk = true := by
    rw [delivers.takes]
    rfl
  simp [served, taken, Message.ofBus_toMessageBus, answered, took, repliesTo_address]

theorem served_of_silent {m_in : Message} (silent : (Task.call pack run server m_in).events = []) :
    served pack run server m_in.toMessageBus = none := by
  simp [served, taken, Message.ofBus_toMessageBus, silent]

theorem send_of_served (delivers : Delivers pack run server client) (queue : Text) {actorName uuid : Text}
    {msg answ : Message}
    (answered : Task.call pack run server (MessageBus.stamp actorName uuid msg) =
      Task.replied server (MessageBus.stamp actorName uuid msg) answ) :
    MessageBus.send client actorName uuid queue msg =
      match answ.metaData.status with
      | .ok => .ok (.ok (MessageBus.address (MessageBus.stamp actorName uuid msg) answ))
      | .error => .ok (.error answ.userData) := by
  have carried := delivers.brings queue (MessageBus.stamp actorName uuid msg).toMessageBus 10
  rw [served_of_replied delivers answered] at carried
  simp only [MessageBus.send, carried, Message.ofBus_toMessageBus]
  cases status : answ.metaData.status <;> simp [MessageBus.address, status]

theorem send_of_unserved (delivers : Delivers pack run server client) {actorName uuid queue : Text}
    {msg : Message}
    (unanswered : (Task.call pack run server (MessageBus.stamp actorName uuid msg)).events = []) (m : Message) :
    MessageBus.send client actorName uuid queue msg ≠ .ok (.ok m) := by
  have lost := delivers.brings queue (MessageBus.stamp actorName uuid msg).toMessageBus 10
  rw [served_of_silent unanswered] at lost
  obtain ⟨exn, failed⟩ := lost
  simp only [MessageBus.send, failed]
  cases exn <;> simp

theorem toMessage_roundTrips {out : Out} (lossless : RoundTrips pack out) :
    ∃ answ, ({ Response.initial pack with out := out }).toMessage pack = .ok answ ∧
      answ.metaData.status = .ok ∧ pack.deserialize answ.userData = .ok out := by
  by_cases present : pack.hasValue out = true
  · obtain ⟨text, serialized, decoded⟩ := lossless.value present
    refine ⟨{ userData := text, metaData := { status := .ok } }, ?_, rfl, decoded⟩
    simp [Response.toMessage, Response.initial, present, serialized, deref, Except.map]
  · refine ⟨{ userData := "[]".toList, metaData := { status := .ok } }, ?_, rfl,
      lossless.empty (by simpa using present)⟩
    simp [Response.toMessage, Response.initial, present, lossless.shape, Response.emptyText]

theorem call_of_returned (server : Bus) (m_in : Message) {cmd : In} (present : m_in.userData ≠ [])
    (decoded : pack.decode m_in.userData = .ok cmd) (lossless : RoundTrips pack (run cmd pack.empty).1)
    (returned : (run cmd pack.empty).2 = .ok ()) :
    ∃ answ, Task.call pack run server m_in = Task.replied server m_in answ ∧ answ.metaData.status = .ok ∧
      pack.deserialize answ.userData = .ok (run cmd pack.empty).1 := by
  obtain ⟨answ, converted, status, payload⟩ := toMessage_roundTrips lossless
  refine ⟨answ, ?_, status, payload⟩
  rw [Task.call_eq, Task.settle, if_neg (by simpa using present)]
  simp only [decoded, returned, Task.respond, converted]

theorem call_of_stopped (server : Bus) (m_in : Message) {cmd : In} {stop : Stop} (present : m_in.userData ≠ [])
    (decoded : pack.decode m_in.userData = .ok cmd) (stopped : (run cmd pack.empty).2 = .error stop) :
    Task.call pack run server m_in =
      match stop with
      | .thrown (.error what) =>
          Task.replied server m_in { userData := what, metaData := { status := .error } }
      | stop => .fail stop := by
  rw [Task.call_eq, Task.settle, if_neg (by simpa using present)]
  simp only [decoded, stopped]
  cases stop with
  | thrown exn => cases exn <;> rfl
  | undefined => rfl
  | running => rfl

/-- The client of an accepted request sees the run of the server: its output as a success that
decodes to it, its error as that error, and a success in no other case. -/
theorem send_sees_run (delivers : Delivers pack run server client) (actorName uuid queue : Text)
    {msg : Message} {cmd : In} (present : msg.userData ≠ []) (decoded : pack.decode msg.userData = .ok cmd)
    (lossless : RoundTrips pack (run cmd pack.empty).1) :
    ((run cmd pack.empty).2 = .ok () →
        ∃ m, MessageBus.send client actorName uuid queue msg = .ok (.ok m) ∧ m.metaData.status = .ok ∧
          pack.deserialize m.userData = .ok (run cmd pack.empty).1) ∧
      (∀ what, (run cmd pack.empty).2 = .error (.thrown (.error what)) →
        MessageBus.send client actorName uuid queue msg = .ok (.error what)) ∧
      ((∃ m, MessageBus.send client actorName uuid queue msg = .ok (.ok m)) ↔
        (run cmd pack.empty).2 = .ok ()) := by
  have success (returned : (run cmd pack.empty).2 = .ok ()) :
      ∃ m, MessageBus.send client actorName uuid queue msg = .ok (.ok m) ∧ m.metaData.status = .ok ∧
        pack.deserialize m.userData = .ok (run cmd pack.empty).1 := by
    obtain ⟨answ, answered, status, payload⟩ := call_of_returned server
      (MessageBus.stamp actorName uuid msg) present decoded lossless returned
    have sent := send_of_served delivers queue answered
    rw [status] at sent
    exact ⟨_, sent, status, payload⟩
  refine ⟨success, fun what failed => ?_, fun ⟨m, sent⟩ => ?_, fun returned => ?_⟩
  · exact send_of_served delivers queue
      (call_of_stopped server (MessageBus.stamp actorName uuid msg) present decoded failed)
  · cases ended : (run cmd pack.empty).2 with
    | ok => rfl
    | error stop =>
      have answers := call_of_stopped server (MessageBus.stamp actorName uuid msg) present decoded ended
      split at answers
      next what =>
        rw [send_of_served delivers queue answers] at sent
        cases sent
      next stop _ => exact (send_of_unserved delivers (congrArg Traced.events answers) m sent).elim
  · obtain ⟨m, sent, -⟩ := success returned
    exact ⟨m, sent⟩

def linked (pack : Pack In Out) (run : In → Out → Out × Outcome Unit) (server : Bus) : Bus where
  request _ wire _ :=
    match served pack run server wire with
    | some reply => .ok reply
    | none => .error (.bus "Request timed out.".toList)
  sendReply _ _ := .ok ()
  sendReply_foreign _ _ _ same := by cases same

theorem linked_delivers (pack : Pack In Out) (run : In → Out → Out × Outcome Unit) :
    Delivers pack run .accepting (linked pack run .accepting) where
  takes _ _ := rfl
  brings queue wire timeout := by
    cases found : served pack run .accepting wire with
    | none => exact ⟨.bus "Request timed out.".toList, by simp only [linked, found]⟩
    | some reply => simp only [linked, found]

def fakeRequest : Text := "\x7b\"address\":\"__fake__\"\x7d".toList

def fakePack : Pack Commands.Protocols.In Commands.Protocols.Out :=
  .names (fun text =>
    if text = fakeRequest then .ok { address := "__fake__".toList } else .error "not the payload".toList)

def fakeRun (_ : Commands.Protocols.In) (_ : Commands.Protocols.Out) :
    Commands.Protocols.Out × Outcome Unit :=
  (["nut_snmp".toList, "nut_xml_pdc".toList], .ok ())

theorem fake_sees_run :
    ∃ m, MessageBus.send (linked fakePack fakeRun .accepting) "ui".toList "1".toList Channel
        { userData := fakeRequest, metaData := { subject := Commands.Protocols.Subject } } = .ok (.ok m) ∧
      m.metaData.status = .ok ∧
      fakePack.deserialize m.userData = .ok ["nut_snmp".toList, "nut_xml_pdc".toList] := by
  have decoded : fakePack.decode fakeRequest = .ok { address := "__fake__".toList } := by decide
  have lossless : RoundTrips fakePack ["nut_snmp".toList, "nut_xml_pdc".toList] :=
    ⟨rfl, fun _ => ⟨"[\"nut_snmp\",\"nut_xml_pdc\"]".toList, by decide, by decide⟩, by decide⟩
  exact (send_sees_run (linked_delivers fakePack fakeRun) "ui".toList "1".toList Channel
    (by decide) decoded lossless).1 rfl

end FtyDiscovery.Client
