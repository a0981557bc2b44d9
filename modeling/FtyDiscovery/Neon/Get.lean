import FtyDiscovery.Base.Loop
import FtyDiscovery.Expected

/-! Getting a page over HTTP: a request is sent again as long as its end says so. -/

namespace FtyDiscovery.Neon

open Base

/-- One return of `ne_read_response_block`: bytes, where none are the end of the body, or a
negative value. -/
inductive Block where
  | bytes (text : Text)
  | failed
  deriving DecidableEq, Repr

inductive EndRequest where
  | ok
  | retry
  | failed
  deriving DecidableEq, Repr

/-- One attempt at a request: whether it began, its status, the error of the session, what reading
the body returned and how the request ended. -/
structure Attempt where
  began : Bool := true
  code : Nat := 200
  reason : Text := "OK".toList
  error : Text := []
  blocks : List Block
  ended : EndRequest := .ok
  deriving DecidableEq, Repr

def readBlocks (body : Text) : List Block → Text
  | [] => body
  | .failed :: _ => body
  | .bytes text :: rest => if text.isEmpty then body else readBlocks (body ++ text) rest

structure Getting where
  sent : Nat
  body : Text
  deriving DecidableEq, Repr

def getBody (server : Nat → Attempt) (getting : Getting) : Getting ⊕ Expected Text :=
  let attempt := server getting.sent
  if !attempt.began then
    .inr (.error (if attempt.code = 0 then attempt.error
      else Text.decimal attempt.code ++ ' ' :: attempt.reason))
  else if attempt.code ≠ 200 then .inr (.error "unsupported (status is not ok)".toList)
  else
    let body := readBlocks [] attempt.blocks
    if attempt.ended = .retry then .inl ⟨getting.sent + 1, body⟩ else .inr (.ok body)

def get (server : Nat → Attempt) (attempts : Nat) : Getting ⊕ Expected Text :=
  Loop.run (getBody server) attempts ⟨0, []⟩

namespace Attempt

def Answered (attempt : Attempt) : Prop := attempt.began = true ∧ attempt.code = 200

instance (attempt : Attempt) : Decidable attempt.Answered := inferInstanceAs (Decidable (_ ∧ _))

def content (attempt : Attempt) : List Text :=
  (attempt.blocks.map (fun block => match block with
    | .bytes text => text
    | .failed => [])).takeWhile (fun text => text ≠ [])

def ReadToEnd (attempt : Attempt) : Prop :=
  attempt.blocks.find? (fun block => block = .failed ∨ block = .bytes []) ≠ some .failed

instance (attempt : Attempt) : Decidable attempt.ReadToEnd := inferInstanceAs (Decidable (_ ≠ _))

structure Whole (attempt : Attempt) : Prop where
  answered : attempt.Answered
  read : attempt.ReadToEnd
  ended : attempt.ended = .ok

end Attempt

def LastAttempt (server : Nat → Attempt) (n : Nat) : Prop :=
  (∀ k < n, (server k).Answered ∧ (server k).ended = .retry) ∧
    ¬((server n).Answered ∧ (server n).ended = .retry)

/-- What is returned for a run that ends with this attempt: its whole body, or an error. -/
def OnlyWhole (attempt : Attempt) (result : Expected Text) : Prop :=
  (∀ body, result = .ok body → attempt.Whole ∧ body = attempt.content.flatten) ∧
    (¬attempt.Whole → ∃ failed, result = .error failed)

theorem readBlocks_eq (body : Text) (attempt : Attempt) :
    readBlocks body attempt.blocks = body ++ attempt.content.flatten := by
  rcases attempt with ⟨_, _, _, _, blocks, _⟩
  unfold Attempt.content
  simp only
  induction blocks generalizing body with
  | nil => simp [readBlocks]
  | cons block blocks ih =>
    cases block with
    | failed => simp [readBlocks]
    | bytes text =>
      by_cases done : text = []
      · simp [readBlocks, done]
      · simp [readBlocks, done, ih]

variable {server : Nat → Attempt} {n : Nat}

theorem getBody_retry {getting : Getting} (answered : (server getting.sent).Answered)
    (retry : (server getting.sent).ended = .retry) :
    getBody server getting = .inl ⟨getting.sent + 1, (server getting.sent).content.flatten⟩ := by
  simp [getBody, answered.1, answered.2, retry, readBlocks_eq]

theorem getBody_last (getting : Getting) (answered : (server getting.sent).Answered)
    (last : (server getting.sent).ended ≠ .retry) :
    getBody server getting = .inr (.ok (server getting.sent).content.flatten) := by
  simp [getBody, answered.1, answered.2, last, readBlocks_eq]

theorem getBody_unanswered (getting : Getting) (unanswered : ¬(server getting.sent).Answered) :
    ∃ failed, getBody server getting = .inr (.error failed) := by
  unfold getBody
  simp only
  split
  next => exact ⟨_, rfl⟩
  next began =>
    have code : (server getting.sent).code ≠ 200 := fun code => unanswered ⟨by simpa using began, code⟩
    rw [if_pos code]
    exact ⟨_, rfl⟩

theorem get_retried (retried : ∀ k < n, (server k).Answered ∧ (server k).ended = .retry) :
    ∃ body, get server n = .inl ⟨n, body⟩ := by
  induction n with
  | zero => exact ⟨[], rfl⟩
  | succ n ih =>
    obtain ⟨body, reached⟩ := ih (fun k less => retried k (by omega))
    obtain ⟨answered, retry⟩ := retried n (Nat.lt_succ_self n)
    rw [get] at reached ⊢
    exact ⟨_, (Loop.run_succ reached).trans (getBody_retry answered retry)⟩

theorem get_last (last : LastAttempt server n) :
    ∃ result, get server (n + 1) = .inr result ∧
      ((server n).Answered → result = .ok (server n).content.flatten) ∧
      (¬(server n).Answered → ∃ failed, result = .error failed) := by
  obtain ⟨body, reached⟩ := get_retried last.1
  rw [get] at reached
  by_cases answered : (server n).Answered
  · have ended : (server n).ended ≠ .retry := fun retry => last.2 ⟨answered, retry⟩
    exact ⟨_, (Loop.run_succ reached).trans (getBody_last ⟨n, body⟩ answered ended), fun _ => rfl,
      fun other => (other answered).elim⟩
  · obtain ⟨failed, left⟩ := getBody_unanswered ⟨n, body⟩ answered
    exact ⟨_, (Loop.run_succ reached).trans left, fun other => (answered other).elim, fun _ => ⟨failed, rfl⟩⟩

/-- A run of attempts gives the whole body of its last attempt or an error exactly when the last
attempt was not answered with the status 200, or was read to the end and ended without an error. -/
theorem get_whole_iff (last : LastAttempt server n) :
    (∃ result, get server (n + 1) = .inr result ∧ OnlyWhole (server n) result) ↔
      ((server n).Answered → (server n).ReadToEnd ∧ (server n).ended = .ok) := by
  obtain ⟨result, returned, success, failure⟩ := get_last last
  constructor
  · intro ⟨result', returned', only⟩ answered
    obtain rfl := Sum.inr.inj (returned.symm.trans returned')
    have whole := (only.1 _ (success answered)).1
    exact ⟨whole.read, whole.ended⟩
  · intro sound
    refine ⟨result, returned, ?_, ?_⟩
    · intro body ok
      by_cases answered : (server n).Answered
      · rw [success answered] at ok
        exact ⟨⟨answered, (sound answered).1, (sound answered).2⟩, (Except.ok.inj ok).symm⟩
      · obtain ⟨failed, error⟩ := failure answered
        rw [error] at ok
        cases ok
    · intro broken
      exact failure (fun answered => broken ⟨answered, (sound answered).1, (sound answered).2⟩)

def retriedServer : Nat → Attempt
  | 0 => { blocks := [.bytes "lost".toList], ended := .retry }
  | _ => { blocks := [.bytes "pro".toList, .bytes "duct".toList, .bytes []] }

theorem retriedServer_whole :
    (∃ result, get retriedServer 2 = .inr result ∧ OnlyWhole (retriedServer 1) result) ↔
      ((retriedServer 1).Answered → (retriedServer 1).ReadToEnd ∧ (retriedServer 1).ended = .ok) :=
  get_whole_iff (n := 1) ⟨by decide, by decide⟩

def brokenServer (_ : Nat) : Attempt where
  blocks := [.bytes "pro".toList, .failed]
  ended := .failed

theorem brokenServer_partial :
    get brokenServer 1 = .inr (.ok "pro".toList) ∧ ¬(brokenServer 0).ReadToEnd ∧ (brokenServer 0).ended ≠ .ok ∧
      ¬OnlyWhole (brokenServer 0) (.ok "pro".toList) := by
  refine ⟨by decide, by decide, by decide, fun only => ?_⟩
  have whole := (only.1 _ rfl).1.ended
  revert whole
  decide

end FtyDiscovery.Neon
