import FtyDiscovery.Base.Printf
import FtyDiscovery.Nut.MappingFile
import FtyDiscovery.Task

/-! The log calls that are made with texts from outside: what drivers print, and what goes wrong with
the mapping file, a job and a reply. -/

namespace FtyDiscovery.Logging

open Base Printf

/-- A call of a log macro, with its strings as `c_str()` gives them, and the line it is made for. -/
structure Call where
  format : Text
  args : List Text
  line : Text
  deriving DecidableEq

def Call.Verbatim (call : Call) : Prop :=
  conversions call.format = call.args.length ∧ printf call.format call.args = some call.line

/-- What a call does: nothing is known of it where its format asks for what it is not given. -/
def Call.outcome (call : Call) : Outcome Unit :=
  match printf call.format call.args with
  | some _ => .ok ()
  | none => .error .undefined

theorem outcome_verbatim {calls : List Call} (verbatim : ∀ call ∈ calls, call.Verbatim) :
    calls.forM Call.outcome = .ok () := by
  induction calls with
  | nil => rfl
  | cons call calls ih =>
    obtain ⟨first, rest⟩ := List.forall_mem_cons.mp verbatim
    have printed : call.outcome = .ok () := by
      unfold Call.outcome
      rw [first.2]
    show (call.outcome >>= fun _ => calls.forM Call.outcome) = .ok ()
    rw [printed]
    exact ih rest

/-- `log_error(text.c_str())`. -/
def bare (text : Text) : Call := ⟨cString text, [], cString text⟩

/-- `log_error("Error: %s", text.c_str())`, also with another label in place of `Error: `. -/
def labelled (label text : Text) : Call := ⟨label ++ ['%', 's'], [cString text], label ++ cString text⟩

theorem bare_verbatim_iff (text : Text) : (bare text).Verbatim ↔ '%' ∉ cString text := by
  constructor
  · intro verbatim
    exact (printf_nil_iff _).mp verbatim.2
  · intro plain
    exact ⟨conversions_eq_zero plain, (printf_nil_iff _).mpr plain⟩

theorem labelled_verbatim {label : Text} (plain : '%' ∉ label) (text : Text) : (labelled label text).Verbatim := by
  constructor
  · show conversions (label ++ ['%', 's']) = 1
    rw [conversions_append plain]
    rfl
  · show printf (label ++ ['%', 's']) [cString text] = some (label ++ cString text)
    rw [printf_append plain]
    show some (label ++ (cString text ++ [])) = _
    rw [List.append_nil]

namespace Assets

def parseLogs (cnt : Text) : List Call := [bare cnt]

theorem parseLogs_verbatim_iff (cnt : Text) : (∀ call ∈ parseLogs cnt, call.Verbatim) ↔ '%' ∉ cString cnt := by
  rw [parseLogs, List.forall_mem_singleton, bare_verbatim_iff]

end Assets

namespace Mapper

structure Loader (Table : Type) where
  hasValue : Table → Bool
  deserialize : Text → Table → Table × Expected Unit

variable {Table : Type}

/-- `mapping`: the table after the call, and what was logged. It is read while it has no value. -/
def mapping (utils : Nut.Trimming) (loader : Loader Table) (file : Text) (table : Table) : Table × List Call :=
  if loader.hasValue table then (table, [])
  else
    let read := loader.deserialize (Nut.Mapper.mapCnt utils file) table
    match read.2 with
    | .ok () => (read.1, [])
    | .error failed => (read.1, [bare failed])

def Fails (utils : Nut.Trimming) (loader : Loader Table) (file : Text) (table : Table) (failed : Text) : Prop :=
  loader.hasValue table = false ∧ (loader.deserialize (Nut.Mapper.mapCnt utils file) table).2 = .error failed

theorem mem_mapping_iff {utils : Nut.Trimming} {loader : Loader Table} {file : Text} {table : Table} {call : Call} :
    call ∈ (mapping utils loader file table).2 ↔
      ∃ failed, Fails utils loader file table failed ∧ call = bare failed := by
  unfold mapping Fails
  split
  next loaded => simp only [loaded, Bool.true_eq_false, false_and, exists_false, List.not_mem_nil]
  next unloaded =>
    rw [Bool.not_eq_true] at unloaded
    dsimp only
    split
    next read => simp only [unloaded, read, reduceCtorEq, and_false, false_and, exists_false, List.not_mem_nil]
    next failed read =>
      simp only [unloaded, read, true_and, Except.error.injEq, exists_eq_left', List.mem_singleton]

theorem mapping_verbatim_iff (utils : Nut.Trimming) (loader : Loader Table) (file : Text) (table : Table) :
    (∀ call ∈ (mapping utils loader file table).2, call.Verbatim) ↔
      ∀ failed, Fails utils loader file table failed → '%' ∉ cString failed := by
  constructor
  · intro verbatim failed fails
    exact (bare_verbatim_iff failed).mp (verbatim _ (mem_mapping_iff.mpr ⟨failed, fails, rfl⟩))
  · intro plain call member
    obtain ⟨failed, fails, rfl⟩ := mem_mapping_iff.mp member
    exact (bare_verbatim_iff failed).mpr (plain failed fails)

end Mapper

namespace Operator

variable {In Out : Type}

def respondLogs (pack : Pack In Out) (bus : Bus) (m_in : Message) (response : Response Out) : List Call :=
  match response.toMessage pack with
  | .error _ => []
  | .ok answ =>
      match (MessageBus.reply bus Channel m_in answ).result with
      | .ok (.error failed) => [bare failed]
      | _ => []

def attemptLogs (pack : Pack In Out) (run : In → Out → Out × Outcome Unit) (bus : Bus) (m_in : Message) :
    List Call :=
  if m_in.userData.isEmpty then []
  else
    match pack.decode m_in.userData with
    | .error _ => []
    | .ok cmd =>
        let ran := run cmd pack.empty
        match ran.2 with
        | .error _ => []
        | .ok () => respondLogs pack bus m_in { Response.initial pack with out := ran.1, status := .ok }

/-- The catch clause: the error is logged before the reply. -/
def caughtLogs (pack : Pack In Out) (bus : Bus) (m_in : Message) : Response Out × Task.Called → List Call
  | (response, ⟨_, .error (.thrown (.error what))⟩) =>
      labelled "Error: ".toList what :: respondLogs pack bus m_in (response.setError what)
  | _ => []

def logs (pack : Pack In Out) (run : In → Out → Out × Outcome Unit) (bus : Bus) (m_in : Message) : List Call :=
  attemptLogs pack run bus m_in ++ caughtLogs pack bus m_in (Task.attempt pack run bus m_in)

def ReplyFails (pack : Pack In Out) (run : In → Out → Out × Outcome Unit) (bus : Bus) (m_in : Message)
    (what : Text) : Prop :=
  ∃ response answ, Task.settle pack run m_in.userData = .ok response ∧
    response.toMessage pack = .ok answ ∧
    bus.sendReply Channel (MessageBus.address m_in answ).toMessageBus = .error (.bus what)

theorem mem_respondLogs_iff {pack : Pack In Out} {bus : Bus} {m_in : Message} {response : Response Out} {call : Call} :
    call ∈ respondLogs pack bus m_in response ↔ ∃ answ what, response.toMessage pack = .ok answ ∧
      bus.sendReply Channel (MessageBus.address m_in answ).toMessageBus = .error (.bus what) ∧ call = bare what := by
  unfold respondLogs
  cases converted : response.toMessage pack with
  | error stop => simp only [List.not_mem_nil, reduceCtorEq, false_and, exists_false]
  | ok answ =>
    simp only [MessageBus.reply, Bus.hands, Except.ok.injEq, exists_and_left, exists_eq_left']
    cases sent : bus.sendReply Channel (MessageBus.address m_in answ).toMessageBus with
    | ok _ => simp only [List.not_mem_nil, reduceCtorEq, false_and, exists_false]
    | error exn =>
      cases exn with
      | bus what => simp only [List.mem_singleton, Except.error.injEq, Exn.bus.injEq, exists_eq_left']
      | error _ | secw _ | runtime _ | unknown =>
        simp only [List.not_mem_nil, Except.error.injEq, reduceCtorEq, false_and, exists_false]

theorem caughtLogs_foreign {pack : Pack In Out} {bus : Bus} {m_in : Message} {response : Response Out}
    {called : Task.Called} (foreign : ∀ what, called.result ≠ .error (.thrown (.error what))) :
    caughtLogs pack bus m_in (response, called) = [] := by
  unfold caughtLogs
  split
  next what caught =>
    obtain ⟨rfl, rfl⟩ := Prod.mk.inj caught
    exact absurd rfl (foreign what)
  next => rfl

theorem logs_eq (pack : Pack In Out) (run : In → Out → Out × Outcome Unit) (bus : Bus) (m_in : Message) :
    logs pack run bus m_in =
      match Task.settle pack run m_in.userData with
      | .ok response =>
          (if response.status = .error then [labelled "Error: ".toList response.error] else []) ++
            respondLogs pack bus m_in response
      | .error _ => [] := by
  unfold logs attemptLogs Task.attempt Task.settle
  by_cases empty : m_in.userData.isEmpty = true
  · simp only [empty, if_true, jobError]
    rfl
  · simp only [empty]
    cases pack.decode m_in.userData with
    | error failed =>
      simp only [jobError]
      rfl
    | ok cmd =>
      simp only [Response.initial]
      cases ended : (run cmd pack.empty).2 with
      | ok =>
        simp only [Bool.false_eq_true, if_false]
        rw [caughtLogs_foreign (Task.respond_foreign pack bus m_in _), List.append_nil]
        rfl
      | error stop =>
        cases stop with
        | thrown exn => cases exn <;> rfl
        | undefined => rfl
        | running => rfl

theorem logs_verbatim_iff (pack : Pack In Out) (run : In → Out → Out × Outcome Unit) (bus : Bus) (m_in : Message) :
    (∀ call ∈ logs pack run bus m_in, call.Verbatim) ↔
      ∀ what, ReplyFails pack run bus m_in what → '%' ∉ cString what := by
  rw [logs_eq]
  unfold ReplyFails
  cases settled : Task.settle pack run m_in.userData with
  | error stop => simp only [List.not_mem_nil, reduceCtorEq, false_and, exists_false, false_imp_iff, implies_true]
  | ok response =>
    have label : '%' ∉ "Error: ".toList := by decide
    constructor
    · intro verbatim what
      rintro ⟨_, answ, same, converted, sent⟩
      obtain rfl := Except.ok.inj same
      have logged := mem_respondLogs_iff.mpr ⟨answ, what, converted, sent, rfl⟩
      exact (bare_verbatim_iff what).mp (verbatim _ (List.mem_append_right _ logged))
    · intro plain call member
      rcases List.mem_append.mp member with caught | replied
      · split at caught
        next =>
          obtain rfl := List.mem_singleton.mp caught
          exact labelled_verbatim label response.error
        next => cases caught
      · obtain ⟨answ, what, converted, sent, rfl⟩ := mem_respondLogs_iff.mp replied
        exact (bare_verbatim_iff what).mpr (plain what ⟨response, answ, rfl, converted, sent⟩)

end Operator

/-- The texts from outside are logged as they are exactly where those that are passed as formats have
no percent sign: what a driver prints, the error of the mapping file, and that of a reply. -/
theorem verbatim_iff {Table In Out : Type} (cnt : Text) (utils : Nut.Trimming) (loader : Mapper.Loader Table)
    (file : Text) (table : Table) (pack : Pack In Out) (run : In → Out → Out × Outcome Unit) (bus : Bus)
    (m_in : Message) :
    (∀ call ∈ Assets.parseLogs cnt ++ (Mapper.mapping utils loader file table).2 ++
        Operator.logs pack run bus m_in, call.Verbatim) ↔
      '%' ∉ cString cnt ∧
      (∀ failed, Mapper.Fails utils loader file table failed → '%' ∉ cString failed) ∧
      ∀ what, Operator.ReplyFails pack run bus m_in what → '%' ∉ cString what := by
  simp only [List.forall_mem_append, Assets.parseLogs_verbatim_iff, Mapper.mapping_verbatim_iff,
    Operator.logs_verbatim_iff, and_assoc]

theorem percent_unverbatim :
    ∃ call ∈ Assets.parseLogs "device.model: 100%s".toList, call.args = [] ∧ ¬call.Verbatim := by
  refine ⟨_, List.mem_singleton_self _, rfl, fun verbatim => ?_⟩
  exact (bare_verbatim_iff _).mp verbatim (by decide)

end FtyDiscovery.Logging
