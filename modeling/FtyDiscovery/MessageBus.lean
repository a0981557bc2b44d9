import FtyDiscovery.Base.Traced
import FtyDiscovery.Message

/-! The wrapper of the message bus. The bus itself is outside: it carries a message or throws. -/

namespace FtyDiscovery

open Base

def Channel : Text := "discovery".toList

/-- The bus underneath. It knows nothing of `job::Error`, so it cannot throw one. -/
structure Bus where
  request : Text → BusMessage → Nat → Except Exn BusMessage
  sendReply : Text → BusMessage → Except Exn Unit
  sendReply_foreign : ∀ queue msg what, sendReply queue msg ≠ .error (.error what)

def Bus.accepting : Bus where
  request _ _ _ := .error (.bus "Request timed out.".toList)
  sendReply _ _ := .ok ()
  sendReply_foreign := by simp

structure SendReply where
  queue : Text
  msg : BusMessage

def Bus.hands (bus : Bus) (call : SendReply) : Traced SendReply Exn Unit := ⟨[call], bus.sendReply call.queue call.msg⟩

namespace MessageBus

/-- What `reply` writes into the answer before it is sent. -/
def address (req answ : Message) : Message :=
  { answ with metaData :=
    { answ.metaData with
      correlationId := req.metaData.correlationId
      toName := req.metaData.fromName
      fromName := req.metaData.toName } }

def reply (bus : Bus) (queue : Text) (req answ : Message) : Traced SendReply Stop (Expected Unit) :=
  let handed := bus.hands ⟨queue, (address req answ).toMessageBus⟩
  ⟨handed.events,
    match handed.result with
    | .ok () => .ok (.ok ())
    | .error (.bus what) => .ok (.error what)
    | .error exn => .error (.thrown exn)⟩

/-- What `send` writes into the message before the request. -/
def stamp (actorName uuid : Text) (msg : Message) : Message :=
  { msg with metaData :=
    { msg.metaData with
      correlationId := if msg.metaData.correlationId.isEmpty then uuid else msg.metaData.correlationId
      fromName := actorName } }

def send (bus : Bus) (actorName uuid queue : Text) (msg : Message) : Outcome (Expected Message) :=
  match bus.request queue (stamp actorName uuid msg).toMessageBus 10 with
  | .ok answer =>
      let m := Message.ofBus answer
      if m.metaData.status = .error then .ok (.error m.userData) else .ok (.ok m)
  | .error (.bus what) => .ok (.error what)
  | .error exn => .error (.thrown exn)

theorem reply_foreign (bus : Bus) (queue : Text) (req answ : Message) (what : Text) :
    (reply bus queue req answ).result ≠ .error (.thrown (.error what)) := by
  have foreign := bus.sendReply_foreign queue (address req answ).toMessageBus what
  unfold reply Bus.hands
  cases sent : bus.sendReply queue (address req answ).toMessageBus with
  | ok => simp
  | error exn =>
    rw [sent] at foreign
    cases exn <;> simp_all

end MessageBus

end FtyDiscovery
