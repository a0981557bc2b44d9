import FtyDiscovery.Jobs.Assets
import FtyDiscovery.Jobs.Mibs
import FtyDiscovery.Task

/-! The dispatcher, and which of the requests it accepts are answered. -/

namespace FtyDiscovery

open Base Jobs

structure Job where
  In : Type
  Out : Type
  pack : Pack In Out
  run : In → Out → Out × Outcome Unit

namespace Job

def call (job : Job) (bus : Bus) (m_in : Message) : Task.Called := Task.call job.pack job.run bus m_in

def ran (job : Job) (cmd : job.In) : job.Out × Outcome Unit := job.run cmd job.pack.empty

end Job

structure Discovery where
  protocols : Job
  mibs : Job
  assets : Job

namespace Discovery

/-- The worker that a message is pushed to; other subjects are dropped. -/
def discover (discovery : Discovery) (msg : Message) : Option Job :=
  if msg.metaData.subject = Commands.Protocols.Subject then some discovery.protocols
  else if msg.metaData.subject = Commands.Mibs.Subject then some discovery.mibs
  else if msg.metaData.subject = Commands.Assets.Subject then some discovery.assets
  else none

/-- An accepted request reaches `MessageBus::reply`, which hands its answer to the bus. -/
def Answered (discovery : Discovery) (bus : Bus) (msg : Message) : Prop :=
  ∀ job ∈ discovery.discover msg, (job.call bus msg).events ≠ []

/-- The run returned with an output that can be sent, or ended with `job::Error`. -/
def Handled {In Out : Type} (pack : Pack In Out) : Out × Outcome Unit → Prop
  | (out, .ok ()) => pack.hasValue out = true → ∃ text, pack.serialize out = .ok text
  | (_, .error (.thrown (.error _))) => True
  | (_, .error _) => False

def RunsHandled (discovery : Discovery) (msg : Message) : Prop :=
  ∀ job ∈ discovery.discover msg, msg.userData ≠ [] →
    ∀ cmd, job.pack.decode msg.userData = .ok cmd → Handled job.pack (job.ran cmd)

theorem respond_answers {In Out : Type} (pack : Pack In Out) (bus : Bus) (m_in : Message)
    (response : Response Out) :
    (Task.respond pack bus m_in response).events ≠ [] ↔ ∃ answ, response.toMessage pack = .ok answ := by
  unfold Task.respond
  cases converted : response.toMessage pack with
  | error stop => simp [Traced.fail]
  | ok answ => simp

theorem toMessage_ok_iff {In Out : Type} (pack : Pack In Out) (out : Out) :
    (∃ answ, ({ Response.initial pack with out := out }).toMessage pack = .ok answ) ↔
      (pack.hasValue out = true → ∃ text, pack.serialize out = .ok text) := by
  by_cases present : pack.hasValue out = true
  · cases serialized : pack.serialize out with
    | ok text => simp [Response.toMessage, Response.initial, present, serialized, deref, Except.map]
    | error failed => simp [Response.toMessage, Response.initial, present, serialized, deref, Except.map]
  · simp [Response.toMessage, Response.initial, present]

theorem call_answers {In Out : Type} (pack : Pack In Out) (run : In → Out → Out × Outcome Unit)
    (bus : Bus) (m_in : Message) :
    (Task.call pack run bus m_in).events ≠ [] ↔
      (m_in.userData ≠ [] → ∀ cmd, pack.decode m_in.userData = .ok cmd →
        Handled pack (run cmd pack.empty)) := by
  rw [Task.call_eq, Task.settle]
  by_cases empty : m_in.userData = []
  · simp [empty, Task.respond_setError]
  · rw [if_neg (by simpa using empty)]
    cases decoded : pack.decode m_in.userData with
    | error failed => simp [Task.respond_setError]
    | ok cmd =>
      rcases ended : run cmd pack.empty with ⟨out, result⟩
      rcases result with stop | returned
      · rcases stop with exn | _ | _
        · cases exn <;> simp [ended, empty, Handled, Task.respond_setError, Traced.fail]
        · simp [ended, empty, Handled, Traced.fail]
        · simp [ended, empty, Handled, Traced.fail]
      · simp only [ended, respond_answers, toMessage_ok_iff, Handled]
        simp [empty, ended]

/-- A request that is accepted gets an answer exactly when its run, if it comes to one, returns
or ends with `job::Error`. -/
theorem answered_iff (discovery : Discovery) (bus : Bus) (msg : Message) :
    discovery.Answered bus msg ↔ discovery.RunsHandled msg :=
  forall₂_congr (fun job _ => call_answers job.pack job.run bus msg)

def walletDown : Env :=
  { sampleEnv with wallet :=
    { socket := .error (.runtime "Impossible to connect to server with the socket".toList)
      document := fun _ => .error .unknown } }

def credentialRequest : Text :=
  "\x7b\"address\":\"ups\",\"secw_credential_id\":\"c1\"\x7d".toList

def mibsJob (env : Env) (sorting : Mibs.Sorting) (requests : Nat) : Job where
  In := Commands.Mibs.In
  Out := List Text
  pack := .names (fun text =>
    if text = credentialRequest then .ok { address := "ups".toList, credentialId := "c1".toList }
    else .error "not the payload".toList)
  run := asTask (Mibs.run env sorting requests) (fun _ mibs => mibs)

theorem walletDown_unanswered :
    ¬Answered
      { protocols := mibsJob walletDown .stable 0
        mibs := mibsJob walletDown .stable 0
        assets := mibsJob walletDown .stable 0 }
      Bus.accepting
      { userData := credentialRequest
        metaData := { subject := Commands.Mibs.Subject } } := by
  intro answered
  exact answered (mibsJob walletDown .stable 0) rfl rfl

end Discovery

end FtyDiscovery
