import Mathlib.Data.List.Nodup
import FtyDiscovery.MessageBus

/-! The correlation ids of the requests that a client sends, over the whole life of its message
objects. -/

namespace FtyDiscovery.Correlation

open Base

/-- `messagebus::generateUuid`, call by call: it never repeats, and it never gives nothing. -/
structure Generator where
  uuid : Nat → Text
  fresh : Function.Injective uuid
  something : ∀ k, uuid k ≠ []

inductive Step where
  | setUserData (object : Nat) (userData : Text)
  | send (object : Nat) (actorName queue : Text)
  deriving DecidableEq, Repr

structure Client where
  objects : Nat → Message
  generated : Nat := 0
  wire : List BusMessage := []

def correlationId (msg : Message) : Text := msg.metaData.correlationId

def ids (client : Client) : List Text :=
  client.wire.map (fun msg => (msg.metaData .correlationId).getD [])

/-- `MessageBus::send` writes into the object that it sends, and generates an id only where the
object has none. -/
def step (generator : Generator) (client : Client) : Step → Client
  | .setUserData object userData =>
      { client with objects := fun other =>
        if other = object then { client.objects other with userData := userData } else client.objects other }
  | .send object actorName _ =>
      let msg := client.objects object
      let stamped := MessageBus.stamp actorName (generator.uuid client.generated) msg
      { objects := fun other => if other = object then stamped else client.objects other
        generated := if (correlationId msg).isEmpty then client.generated + 1 else client.generated
        wire := client.wire ++ [stamped.toMessageBus] }

def run (generator : Generator) (messages : Nat → Message) (steps : List Step) : Client :=
  steps.foldl (step generator) { objects := messages }

def sent : List Step → List Nat
  | [] => []
  | .setUserData _ _ :: steps => sent steps
  | .send object _ _ :: steps => object :: sent steps

structure Inv (generator : Generator) (client : Client) (sent : List Nat) : Prop where
  numbered : ∀ i ∈ sent, ∃ k < client.generated, correlationId (client.objects i) = generator.uuid k
  blank : ∀ i, i ∉ sent → correlationId (client.objects i) = []
  apart : ∀ i ∈ sent, ∀ j ∈ sent, correlationId (client.objects i) = correlationId (client.objects j) → i = j
  wire : ids client = sent.map (fun i => correlationId (client.objects i))

theorem sent_append (steps later : List Step) : sent (steps ++ later) = sent steps ++ sent later := by
  induction steps with
  | nil => rfl
  | cons step steps ih => cases step <;> simp [sent, ih]

variable {generator : Generator} {client : Client} {before : List Nat}

theorem correlationId_send (generator : Generator) (client : Client) (object : Nat) (actorName queue : Text) (i : Nat) :
    correlationId ((step generator client (.send object actorName queue)).objects i) =
      if i = object ∧ correlationId (client.objects object) = [] then generator.uuid client.generated
      else correlationId (client.objects i) := by
  by_cases same : i = object
  · subst same
    simp only [step, if_true, true_and, correlationId, MessageBus.stamp, List.isEmpty_iff]
  · simp only [step, same, false_and, if_false]

theorem ids_send (generator : Generator) (client : Client) (object : Nat) (actorName queue : Text) :
    ids (step generator client (.send object actorName queue)) =
      ids client ++ [correlationId ((step generator client (.send object actorName queue)).objects object)] := by
  simp only [ids, step, List.map_append, List.map_cons, List.map_nil, if_true]
  rfl

theorem inv_setUserData (inv : Inv generator client before) (object : Nat) (userData : Text) :
    Inv generator (step generator client (.setUserData object userData)) before := by
  have same (i : Nat) : correlationId ((step generator client (.setUserData object userData)).objects i) =
      correlationId (client.objects i) := by
    simp only [step]
    split
    next => rfl
    next => rfl
  constructor
  · simp only [same]
    exact inv.numbered
  · simp only [same]
    exact inv.blank
  · simp only [same]
    exact inv.apart
  · simp only [same]
    exact inv.wire

theorem inv_again (inv : Inv generator client before) {object : Nat} (again : object ∈ before)
    (actorName queue : Text) :
    Inv generator (step generator client (.send object actorName queue)) (before ++ [object]) := by
  obtain ⟨k, -, numbered⟩ := inv.numbered object again
  have present : correlationId (client.objects object) ≠ [] := numbered ▸ generator.something k
  have same (i : Nat) : correlationId ((step generator client (.send object actorName queue)).objects i) =
      correlationId (client.objects i) := by
    rw [correlationId_send, if_neg (fun both => present both.2)]
  have generated : (step generator client (.send object actorName queue)).generated = client.generated := by
    simp only [step, List.isEmpty_iff, present, if_false]
  have members (i : Nat) : i ∈ before ++ [object] ↔ i ∈ before := by
    rw [List.mem_append, List.mem_singleton, or_iff_left_of_imp]
    rintro rfl
    exact again
  constructor
  · simp only [same, members, generated]
    exact inv.numbered
  · simp only [same, members]
    exact inv.blank
  · simp only [same, members]
    exact inv.apart
  · rw [ids_send, inv.wire, same, List.map_append]
    simp only [same, List.map_cons, List.map_nil]

theorem inv_first (inv : Inv generator client before) {object : Nat} (first : object ∉ before)
    (actorName queue : Text) :
    Inv generator (step generator client (.send object actorName queue)) (before ++ [object]) := by
  have blank := inv.blank object first
  have own : correlationId ((step generator client (.send object actorName queue)).objects object) =
      generator.uuid client.generated := by
    rw [correlationId_send, if_pos ⟨rfl, blank⟩]
  have other {i : Nat} (ne : i ≠ object) :
      correlationId ((step generator client (.send object actorName queue)).objects i) =
        correlationId (client.objects i) := by
    rw [correlationId_send, if_neg (fun both => ne both.1)]
  have apart {i : Nat} (member : i ∈ before) : i ≠ object := by
    rintro rfl
    exact first member
  have generated : (step generator client (.send object actorName queue)).generated = client.generated + 1 := by
    simp only [step, List.isEmpty_iff, blank, if_true]
  -- The ids before were generated by earlier calls.
  have unlike {i : Nat} (member : i ∈ before) : correlationId (client.objects i) ≠ generator.uuid client.generated := by
    obtain ⟨k, earlier, numbered⟩ := inv.numbered i member
    rw [numbered]
    exact fun same => Nat.ne_of_lt earlier (generator.fresh same)
  constructor
  · intro i member
    rw [generated]
    rcases List.mem_append.mp member with early | late
    · obtain ⟨k, earlier, numbered⟩ := inv.numbered i early
      exact ⟨k, Nat.lt_succ_of_lt earlier, by rw [other (apart early), numbered]⟩
    · obtain rfl := List.mem_singleton.mp late
      exact ⟨client.generated, Nat.lt_succ_self _, own⟩
  · intro i absent
    simp only [List.mem_append, List.mem_singleton, not_or] at absent
    rw [other absent.2]
    exact inv.blank i absent.1
  · intro i member j member' same
    rcases List.mem_append.mp member with early | late
    · rcases List.mem_append.mp member' with early' | late'
      · rw [other (apart early), other (apart early')] at same
        exact inv.apart i early j early' same
      · obtain rfl := List.mem_singleton.mp late'
        rw [other (apart early), own] at same
        exact (unlike early same).elim
    · obtain rfl := List.mem_singleton.mp late
      rcases List.mem_append.mp member' with early' | late'
      · rw [own, other (apart early')] at same
        exact (unlike early' same.symm).elim
      · exact (List.mem_singleton.mp late').symm
  · rw [ids_send, inv.wire, List.map_append, List.map_singleton]
    congr 1
    apply List.map_congr_left
    intro i member
    exact (other (apart member)).symm

theorem inv_run (generator : Generator) {messages : Nat → Message}
    (created : ∀ i, correlationId (messages i) = []) (steps : List Step) :
    Inv generator (run generator messages steps) (sent steps) := by
  induction steps using List.reverseRecOn with
  | nil =>
    constructor
    · intro i member
      cases member
    · intro i _
      exact created i
    · intro i member
      cases member
    · rfl
  | append_singleton steps last ih =>
    rw [run, List.foldl_concat, ← run, sent_append]
    cases last with
    | setUserData object userData =>
      rw [sent, sent, List.append_nil]
      exact inv_setUserData ih object userData
    | send object actorName queue =>
      by_cases again : object ∈ sent steps
      · exact inv_again ih again actorName queue
      · exact inv_first ih again actorName queue

/-- The requests of a client whose messages are created without an id have ids of their own exactly
when no message object is sent twice. -/
theorem ids_nodup_iff (generator : Generator) (messages : Nat → Message)
    (created : ∀ i, correlationId (messages i) = []) (steps : List Step) :
    (ids (run generator messages steps)).Nodup ↔ (sent steps).Nodup := by
  have inv := inv_run generator created steps
  rw [inv.wire]
  constructor
  · exact List.Nodup.of_map _
  · intro once
    exact once.map_on inv.apart

def counting : Generator where
  uuid := fun k => '#' :: Text.decimal k
  fresh := fun _ _ same => Text.decimal_injective (List.cons.inj same).2
  something := fun _ => List.cons_ne_nil _ _

theorem twoObjects_nodup :
    (ids (run counting (fun _ => {}) [.send 0 "unit-test".toList Channel, .send 1 "unit-test".toList Channel])).Nodup :=
  (ids_nodup_iff counting (fun _ => {}) (fun _ => rfl) _).mpr (by decide)

def reuse : List Step :=
  [.setUserData 0 "127.0.0.1".toList, .send 0 "unit-test".toList Channel,
    .setUserData 0 "10.130.33.178".toList, .send 0 "unit-test".toList Channel]

theorem reuse_same_id :
    ids (run counting (fun _ => {}) reuse) = ["#0".toList, "#0".toList] ∧
      ¬(ids (run counting (fun _ => {}) reuse)).Nodup :=
  ⟨rfl, by decide⟩

end FtyDiscovery.Correlation
