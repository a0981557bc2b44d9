import FtyDiscovery.MessageBus

/-! One task of the pool: decode the request, run the job, reply. -/

namespace FtyDiscovery

open Base

inductive Shape where
  | list
  | map
  | scalar
  deriving DecidableEq, Repr

structure Pack (In Out : Type) where
  decode : Text → Expected In
  empty : Out
  hasValue : Out → Bool
  serialize : Out → Expected Text
  deserialize : Text → Expected Out
  shape : Shape

def Pack.names {In : Type} (decode : Text → Expected In) : Pack In (List Text) where
  decode := decode
  empty := []
  hasValue names := !names.isEmpty
  serialize names :=
    .ok ('[' :: [','].intercalate (names.map (fun name => '"' :: name ++ ['"'])) ++ [']'])
  deserialize text :=
    let inner := text.tail.dropLast
    .ok (if inner.isEmpty then [] else (inner.splitOn ',').map (fun name => name.tail.dropLast))
  shape := .list

structure Response (Out : Type) where
  error : Text
  status : Status
  out : Out

namespace Response

variable {In Out : Type}

def initial (pack : Pack In Out) : Response Out where
  error := []
  status := .ok
  out := pack.empty

def setError (response : Response Out) (errMsg : Text) : Response Out :=
  { response with error := errMsg, status := .error }

def emptyText : Shape → Text
  | .list => "[]".toList
  | .map => "{}".toList
  | .scalar => []

/-- `operator disco::Message`. -/
def toMessage (pack : Pack In Out) (response : Response Out) : Outcome Message :=
  match response.status with
  | .ok =>
      if pack.hasValue response.out then
        (deref (pack.serialize response.out)).map (fun text =>
          { userData := text, metaData := { status := .ok } })
      else .ok { userData := emptyText pack.shape, metaData := { status := .ok } }
  | .error => .ok { userData := response.error, metaData := { status := .error } }

theorem toMessage_undefined {pack : Pack In Out} {response : Response Out} {stop : Stop}
    (failed : toMessage pack response = .error stop) : stop = .undefined := by
  unfold toMessage at failed
  split at failed
  next =>
    split at failed
    next =>
      cases serialized : pack.serialize response.out with
      | ok => simp [serialized, deref, Except.map] at failed
      | error =>
        simp only [serialized, deref, Except.map, Except.error.injEq] at failed
        exact failed.symm
    next => cases failed
  next => cases failed

end Response

namespace Task

variable {In Out : Type}

abbrev Called := Traced SendReply Stop Unit

def replied (bus : Bus) (m_in answ : Message) : Called :=
  let sent := MessageBus.reply bus Channel m_in answ
  ⟨sent.events, sent.result.map (fun _ => ())⟩

@[simp] theorem replied_events (bus : Bus) (m_in answ : Message) :
    (replied bus m_in answ).events = [⟨Channel, (MessageBus.address m_in answ).toMessageBus⟩] := rfl

def respond (pack : Pack In Out) (bus : Bus) (m_in : Message) (response : Response Out) : Called :=
  match response.toMessage pack with
  | .error stop => .fail stop
  | .ok answ => replied bus m_in answ

/-- The try block of `operator()`. Its dynamic cast to the job's own class cannot fail. -/
def attempt (pack : Pack In Out) (run : In → Out → Out × Outcome Unit) (bus : Bus)
    (m_in : Message) : Response Out × Called :=
  let response := Response.initial pack
  if m_in.userData.isEmpty then
    (response, .fail (jobError "Wrong input data: payload is empty".toList))
  else
    match pack.decode m_in.userData with
    | .error _ =>
        (response, .fail (jobError "Wrong input data: format of payload is incorrect".toList))
    | .ok cmd =>
        let ran := run cmd response.out
        let response := { response with out := ran.1 }
        match ran.2 with
        | .error stop => (response, .fail stop)
        | .ok () =>
            let response := { response with status := .ok }
            (response, respond pack bus m_in response)

/-- `operator()`: only `job::Error` is caught. -/
def call (pack : Pack In Out) (run : In → Out → Out × Outcome Unit) (bus : Bus)
    (m_in : Message) : Called :=
  match attempt pack run bus m_in with
  | (response, ⟨sent, .error (.thrown (.error what))⟩) =>
      let caught := respond pack bus m_in (response.setError what)
      ⟨sent ++ caught.events, caught.result⟩
  | (_, called) => called

theorem respond_setError (pack : Pack In Out) (bus : Bus) (m_in : Message) (response : Response Out)
    (what : Text) :
    respond pack bus m_in (response.setError what) =
      replied bus m_in { userData := what, metaData := { status := .error } } := rfl

theorem respond_foreign (pack : Pack In Out) (bus : Bus) (m_in : Message) (response : Response Out)
    (what : Text) : (respond pack bus m_in response).result ≠ .error (.thrown (.error what)) := by
  unfold respond
  cases converted : response.toMessage pack with
  | error stop =>
    obtain rfl := Response.toMessage_undefined converted
    simp [Traced.fail]
  | ok answ =>
    have foreign := MessageBus.reply_foreign bus Channel m_in answ what
    simp only [replied]
    cases sent : (MessageBus.reply bus Channel m_in answ).result with
    | error stop =>
      rw [sent] at foreign
      simpa [Except.map] using foreign
    | ok => simp [Except.map]

/-- The response a payload leads to: of the ways a run can stop, only `job::Error` leads to one. -/
def settle (pack : Pack In Out) (run : In → Out → Out × Outcome Unit) (userData : Text) :
    Except Stop (Response Out) :=
  let response := Response.initial pack
  if userData.isEmpty then .ok (response.setError "Wrong input data: payload is empty".toList)
  else
    match pack.decode userData with
    | .error _ => .ok (response.setError "Wrong input data: format of payload is incorrect".toList)
    | .ok cmd =>
        let ran := run cmd pack.empty
        match ran.2 with
        | .ok () => .ok { response with out := ran.1 }
        | .error (.thrown (.error what)) => .ok ({ response with out := ran.1 }.setError what)
        | .error stop => .error stop

/-- The two places that reply exclude each other: a call replies with the one response that the
payload leads to. -/
theorem call_eq (pack : Pack In Out) (run : In → Out → Out × Outcome Unit) (bus : Bus) (m_in : Message) :
    call pack run bus m_in =
      match settle pack run m_in.userData with
      | .ok response => respond pack bus m_in response
      | .error stop => .fail stop := by
  unfold call attempt settle
  by_cases empty : m_in.userData.isEmpty = true
  · simp only [empty, if_true, jobError]
    rfl
  · simp only [empty]
    cases pack.decode m_in.userData with
    | error failed =>
      simp only [jobError]
      rfl
    | ok cmd =>
      simp only [Response.initial]
      cases ended : (run cmd pack.empty).2 with
      | ok =>
        simp only []
        split
        next foreign => exact (respond_foreign _ _ _ _ _ (congrArg (fun attempt => attempt.2.result) foreign)).elim
        next same => exact (congrArg Prod.snd same).symm
      | error stop =>
        cases stop with
        | thrown exn => cases exn <;> rfl
        | undefined => rfl
        | running => rfl

theorem call_congr {pack : Pack In Out} {run run' : In → Out → Out × Outcome Unit} {m_in : Message} (bus : Bus)
    (same : ∀ cmd, pack.decode m_in.userData = .ok cmd → run' cmd pack.empty = run cmd pack.empty) :
    call pack run' bus m_in = call pack run bus m_in := by
  have attempts : attempt pack run' bus m_in = attempt pack run bus m_in := by
    unfold attempt
    cases decoded : pack.decode m_in.userData with
    | error failed => rfl
    | ok cmd =>
      have ran : run' cmd (Response.initial pack).out = run cmd (Response.initial pack).out := same cmd decoded
      simp only [ran]
  rw [call, call, attempts]

end Task

end FtyDiscovery
