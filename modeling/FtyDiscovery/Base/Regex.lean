import Mathlib.Data.List.Basic

/-! Regular expressions with capture groups, matched by backtracking in the order of
ECMAScript: a greedy repetition gives back one character at a time, and the first
alternative is tried first. Repetition is over one class of characters. -/

namespace FtyDiscovery.Base.Regex

inductive Pattern (α : Type) where
  | empty
  | one (accept : α → Bool)
  | many (accept : α → Bool)
  | seq (first second : Pattern α)
  | alt (first second : Pattern α)
  | group (index : Nat) (body : Pattern α)

variable {α : Type}

abbrev Captures (α : Type) := List (Nat × List α)

structure Attempt (α : Type) where
  taken : List α
  captures : Captures α
  rest : List α

def literal [DecidableEq α] : List α → Pattern α
  | [] => .empty
  | c :: word => .seq (.one (fun d => d == c)) (literal word)

def plus (accept : α → Bool) : Pattern α :=
  .seq (.one accept) (.many accept)

def runs (accept : α → Bool) : List α → List (List α × List α)
  | [] => [([], [])]
  | c :: text =>
      if accept c then (runs accept text).map (fun run => (c :: run.1, run.2)) ++ [([], c :: text)]
      else [([], c :: text)]

/-- Every way to match a prefix of the text, in the order a backtracking matcher tries them. -/
def attempts : Pattern α → List α → List (Attempt α)
  | .empty, text => [⟨[], [], text⟩]
  | .one _, [] => []
  | .one accept, c :: text => if accept c then [⟨[c], [], text⟩] else []
  | .many accept, text => (runs accept text).map (fun run => ⟨run.1, [], run.2⟩)
  | .seq first second, text =>
      (attempts first text).flatMap (fun head =>
        (attempts second head.rest).map (fun tail =>
          ⟨head.taken ++ tail.taken, head.captures ++ tail.captures, tail.rest⟩))
  | .alt first second, text => attempts first text ++ attempts second text
  | .group index body, text =>
      (attempts body text).map (fun found =>
        ⟨found.taken, (index, found.taken) :: found.captures, found.rest⟩)

/-- The captures of the first attempt that consumes the whole text. -/
def fullMatch (pattern : Pattern α) (text : List α) : Option (Captures α) :=
  ((attempts pattern text).find? (fun found => found.rest.isEmpty)).map (fun found => found.captures)

def capture (captures : Captures α) (index : Nat) : List α :=
  (captures.lookup index).getD []

/-- The pattern derives exactly this text with these captures, in whatever order. -/
def Parses : Pattern α → List α → Captures α → Prop
  | .empty, text, captures => text = [] ∧ captures = []
  | .one accept, text, captures => ∃ c, accept c = true ∧ text = [c] ∧ captures = []
  | .many accept, text, captures => (∀ c ∈ text, accept c = true) ∧ captures = []
  | .seq first second, text, captures => ∃ s t cs ds,
      Parses first s cs ∧ Parses second t ds ∧ text = s ++ t ∧ captures = cs ++ ds
  | .alt first second, text, captures =>
      Parses first text captures ∨ Parses second text captures
  | .group index body, text, captures =>
      ∃ cs, Parses body text cs ∧ captures = (index, text) :: cs

theorem mem_runs (accept : α → Bool) (text : List α) (run : List α × List α) :
    run ∈ runs accept text ↔ (∀ c ∈ run.1, accept c = true) ∧ run.1 ++ run.2 = text := by
  induction text generalizing run with
  | nil =>
    rcases run with ⟨taken, rest⟩
    simp only [runs, List.mem_singleton, Prod.mk.injEq, List.append_eq_nil_iff]
    constructor
    · intro ends
      rcases ends with ⟨rfl, rfl⟩
      simp
    · exact fun h => h.2
  | cons c text ih =>
    rcases run with ⟨taken, rest⟩
    cases taken with
    | nil => by_cases ok : accept c = true <;> simp [runs, ok]
    | cons d taken =>
      by_cases ok : accept c = true
      · simp only [runs, if_pos ok, List.mem_append, List.mem_map, Prod.mk.injEq, List.cons.injEq,
          reduceCtorEq, false_and, List.mem_cons, List.not_mem_nil, or_false, forall_eq_or_imp,
          List.cons_append]
        constructor
        · intro hit
          rcases hit with ⟨run, member, ⟨rfl, rfl⟩, rfl⟩
          have inner := (ih run).mp member
          exact ⟨⟨ok, inner.1⟩, rfl, inner.2⟩
        · intro parsed
          rcases parsed with ⟨⟨-, all⟩, rfl, whole⟩
          exact ⟨(taken, rest), (ih _).mpr ⟨all, whole⟩, ⟨rfl, rfl⟩, rfl⟩
      · simp only [runs, if_neg ok, Prod.mk.injEq, reduceCtorEq, false_and, List.mem_cons,
          List.not_mem_nil, or_false, forall_eq_or_imp, List.cons_append, List.cons.injEq, false_iff]
        intro parsed
        rcases parsed with ⟨⟨accepted, -⟩, rfl, -⟩
        exact ok accepted

theorem mem_attempts (pattern : Pattern α) (text : List α) (found : Attempt α) :
    found ∈ attempts pattern text ↔
      Parses pattern found.taken found.captures ∧ found.taken ++ found.rest = text := by
  induction pattern generalizing text found with
  | empty =>
    rcases found with ⟨taken, captures, rest⟩
    simp only [attempts, List.mem_singleton, Attempt.mk.injEq, Parses]
    constructor
    · intro hit
      rcases hit with ⟨rfl, rfl, rfl⟩
      simp
    · intro parsed
      rcases parsed with ⟨⟨rfl, rfl⟩, whole⟩
      exact ⟨rfl, rfl, whole⟩
  | one accept =>
    rcases found with ⟨taken, captures, rest⟩
    cases text with
    | nil =>
      simp only [attempts, List.not_mem_nil, Parses, List.append_eq_nil_iff, false_iff]
      intro parsed
      rcases parsed with ⟨⟨c, -, taken_eq, -⟩, taken_nil, -⟩
      rw [taken_nil] at taken_eq
      cases taken_eq
    | cons c text =>
      by_cases ok : accept c = true
      · simp only [attempts, if_pos ok, List.mem_singleton, Attempt.mk.injEq, Parses]
        constructor
        · intro hit
          rcases hit with ⟨rfl, rfl, rfl⟩
          exact ⟨⟨c, ok, rfl, rfl⟩, rfl⟩
        · intro parsed
          rcases parsed with ⟨⟨d, -, rfl, rfl⟩, whole⟩
          obtain ⟨rfl, rfl⟩ := List.cons.inj whole
          exact ⟨rfl, rfl, rfl⟩
      · simp only [attempts, if_neg ok, List.not_mem_nil, Parses, false_iff]
        intro parsed
        rcases parsed with ⟨⟨d, accepted, rfl, -⟩, whole⟩
        obtain ⟨rfl, -⟩ := List.cons.inj whole
        exact ok accepted
  | many accept =>
    rcases found with ⟨taken, captures, rest⟩
    simp only [attempts, List.mem_map, Attempt.mk.injEq, Parses]
    constructor
    · intro hit
      rcases hit with ⟨run, member, rfl, rfl, rfl⟩
      have inner := (mem_runs accept text run).mp member
      exact ⟨⟨inner.1, rfl⟩, inner.2⟩
    · intro parsed
      rcases parsed with ⟨⟨all, rfl⟩, whole⟩
      exact ⟨(taken, rest), (mem_runs accept text _).mpr ⟨all, whole⟩, rfl, rfl, rfl⟩
  | seq first second ih₁ ih₂ =>
    rcases found with ⟨taken, captures, rest⟩
    simp only [attempts, List.mem_flatMap, List.mem_map, Attempt.mk.injEq, Parses]
    constructor
    · intro hit
      rcases hit with ⟨head, hhead, tail, htail, rfl, rfl, rfl⟩
      obtain ⟨p₁, e₁⟩ := (ih₁ text head).mp hhead
      obtain ⟨p₂, e₂⟩ := (ih₂ head.rest tail).mp htail
      exact ⟨⟨_, _, _, _, p₁, p₂, rfl, rfl⟩, by rw [List.append_assoc, e₂, e₁]⟩
    · intro parsed
      rcases parsed with ⟨⟨s, t, cs, ds, p₁, p₂, rfl, rfl⟩, whole⟩
      rw [List.append_assoc] at whole
      exact ⟨⟨s, cs, t ++ rest⟩, (ih₁ text _).mpr ⟨p₁, whole⟩,
        ⟨t, ds, rest⟩, (ih₂ _ _).mpr ⟨p₂, rfl⟩, rfl, rfl, rfl⟩
  | alt first second ih₁ ih₂ =>
    simp only [attempts, List.mem_append, ih₁, ih₂, Parses, or_and_right]
  | group index body ih =>
    rcases found with ⟨taken, captures, rest⟩
    simp only [attempts, List.mem_map, Attempt.mk.injEq, Parses]
    constructor
    · intro hit
      rcases hit with ⟨inner, member, rfl, rfl, rfl⟩
      obtain ⟨p, e⟩ := (ih text inner).mp member
      exact ⟨⟨_, p, rfl⟩, e⟩
    · intro parsed
      rcases parsed with ⟨⟨cs, p, rfl⟩, whole⟩
      exact ⟨⟨taken, cs, rest⟩, (ih text _).mpr ⟨p, whole⟩, rfl, rfl, rfl⟩

theorem fullMatch_sound {pattern : Pattern α} {text : List α} {captures : Captures α}
    (matched : fullMatch pattern text = some captures) : Parses pattern text captures := by
  obtain ⟨found, hit, rfl⟩ := Option.map_eq_some_iff.mp matched
  have whole : found.rest = [] := by simpa using List.find?_some hit
  obtain ⟨parsed, split⟩ := (mem_attempts pattern text found).mp (List.mem_of_find?_eq_some hit)
  rw [whole, List.append_nil] at split
  exact split ▸ parsed

theorem fullMatch_complete {pattern : Pattern α} {text : List α} {captures : Captures α}
    (parsed : Parses pattern text captures) : (fullMatch pattern text).isSome = true := by
  rw [fullMatch, Option.isSome_map, List.find?_isSome]
  exact ⟨⟨text, captures, []⟩, (mem_attempts pattern text _).mpr ⟨parsed, by simp⟩, by simp⟩

/-- Where only one derivation exists, the order of the attempts does not matter. -/
theorem fullMatch_of_unique {pattern : Pattern α} {text : List α} {captures : Captures α}
    (parsed : Parses pattern text captures)
    (unique : ∀ others, Parses pattern text others → others = captures) :
    fullMatch pattern text = some captures := by
  obtain ⟨others, matched⟩ := Option.isSome_iff_exists.mp (fullMatch_complete parsed)
  rw [matched, unique others (fullMatch_sound matched)]

theorem parses_literal [DecidableEq α] (word text : List α) (captures : Captures α) :
    Parses (literal word) text captures ↔ text = word ∧ captures = [] := by
  induction word generalizing text captures with
  | nil => rfl
  | cons c word ih =>
    simp only [literal, Parses, beq_iff_eq, ih]
    constructor
    · intro parsed
      rcases parsed with ⟨_, _, _, _, ⟨_, rfl, rfl, rfl⟩, ⟨rfl, rfl⟩, rfl, rfl⟩
      exact ⟨rfl, rfl⟩
    · intro both
      rcases both with ⟨rfl, rfl⟩
      exact ⟨[c], word, [], [], ⟨c, rfl, rfl, rfl⟩, ⟨rfl, rfl⟩, rfl, rfl⟩

theorem parses_plus (accept : α → Bool) (text : List α) (captures : Captures α) :
    Parses (plus accept) text captures ↔
      text ≠ [] ∧ (∀ c ∈ text, accept c = true) ∧ captures = [] := by
  simp only [plus, Parses]
  constructor
  · intro parsed
    rcases parsed with ⟨_, t, _, _, ⟨c, ok, rfl, rfl⟩, ⟨all, rfl⟩, rfl, rfl⟩
    exact ⟨by simp, by simpa using ⟨ok, all⟩, rfl⟩
  · intro given
    rcases given with ⟨nonempty, all, rfl⟩
    cases text with
    | nil => exact (nonempty rfl).elim
    | cons c text =>
      exact ⟨[c], text, [], [], ⟨c, all c (by simp), rfl, rfl⟩,
        ⟨fun d member => all d (by simp [member]), rfl⟩, rfl, rfl⟩

theorem run_unique {accept : α → Bool} {s s' t t' : List α}
    (all : ∀ c ∈ s, accept c = true) (all' : ∀ c ∈ s', accept c = true)
    (stop : ∀ c ∈ t.head?, accept c = false) (stop' : ∀ c ∈ t'.head?, accept c = false)
    (same : s ++ t = s' ++ t') : s = s' ∧ t = t' := by
  induction s generalizing s' with
  | nil =>
    cases s' with
    | nil => exact ⟨rfl, same⟩
    | cons c s' =>
      simp only [List.nil_append, List.cons_append] at same
      have rejected := stop c (by simp [same])
      rw [all' c (by simp)] at rejected
      cases rejected
  | cons c s ih =>
    cases s' with
    | nil =>
      simp only [List.nil_append, List.cons_append] at same
      have rejected := stop' c (by simp [← same])
      rw [all c (by simp)] at rejected
      cases rejected
    | cons d s' =>
      obtain ⟨rfl, rest⟩ := List.cons.inj same
      obtain ⟨rfl, rfl⟩ := ih (fun e member => all e (by simp [member]))
        (fun e member => all' e (by simp [member])) rest
      exact ⟨rfl, rfl⟩

theorem fullMatch_seq (first second : Pattern α) (text : List α) :
    fullMatch (.seq first second) text = (attempts first text).findSome? (fun head =>
      (fullMatch second head.rest).map (fun captures => head.captures ++ captures)) := by
  rw [fullMatch, attempts, List.find?_flatMap, List.map_findSome?]
  congr 1
  funext head
  rw [Function.comp_apply, List.find?_map, fullMatch, Option.map_map, Option.map_map]
  rfl

def Greedy (pattern : Pattern α) : Prop :=
  ∀ text, (attempts pattern text).Pairwise (fun a b => b.taken.length ≤ a.taken.length)

theorem greedy_many (accept : α → Bool) : Greedy (.many accept) := by
  have ordered (text : List α) : (runs accept text).Pairwise (fun a b => b.1.length ≤ a.1.length) := by
    induction text with
    | nil => exact List.pairwise_singleton ..
    | cons c text ih =>
      unfold runs
      split
      next =>
        rw [List.pairwise_append, List.pairwise_map]
        refine ⟨ih.imp (fun less => Nat.succ_le_succ less), List.pairwise_singleton .., ?_⟩
        intro a _ b member
        rw [List.mem_singleton.mp member]
        exact Nat.zero_le _
      next => exact List.pairwise_singleton ..
  intro text
  rw [attempts, List.pairwise_map]
  exact ordered text

theorem greedy_seq {first second : Pattern α} (greedy : Greedy first) {n : Nat}
    (fixed : ∀ text captures, Parses second text captures → text.length = n) : Greedy (.seq first second) := by
  have size {head : Attempt α} {found : Attempt α} (made : found ∈ (attempts second head.rest).map (fun tail =>
      ⟨head.taken ++ tail.taken, head.captures ++ tail.captures, tail.rest⟩)) :
      found.taken.length = head.taken.length + n := by
    obtain ⟨tail, member, rfl⟩ := List.mem_map.mp made
    rw [List.length_append, fixed _ _ ((mem_attempts _ _ _).mp member).1]
  intro text
  rw [attempts, List.pairwise_flatMap]
  constructor
  · intro head _
    refine List.pairwise_of_forall_mem_list (fun a made b made' => ?_)
    exact Nat.le_of_eq ((size made').trans (size made).symm)
  · refine (greedy text).imp (fun less a made b made' => ?_)
    rw [size made, size made']
    exact Nat.add_le_add_right less n

theorem greedy_group {index : Nat} {body : Pattern α} (greedy : Greedy body) : Greedy (.group index body) := by
  intro text
  rw [attempts, List.pairwise_map]
  exact greedy text

/-- The head of a match takes as much as it can where longer attempts come first. -/
theorem longest_of_greedy {first second : Pattern α} (greedy : Greedy first) {text : List α} {captures : Captures α}
    (matched : fullMatch (.seq first second) text = some captures) :
    ∃ s t cs ds, text = s ++ t ∧ Parses first s cs ∧ fullMatch second t = some ds ∧ captures = cs ++ ds ∧
      ∀ s' t' cs', text = s' ++ t' → Parses first s' cs' → (fullMatch second t').isSome = true →
        s'.length ≤ s.length := by
  rw [fullMatch_seq, List.findSome?_eq_some_iff] at matched
  obtain ⟨before, head, after, split, found, missed⟩ := matched
  obtain ⟨ds, rest, rfl⟩ := Option.map_eq_some_iff.mp found
  obtain ⟨parsed, whole⟩ := (mem_attempts first text head).mp (by simp [split])
  refine ⟨head.taken, head.rest, head.captures, ds, whole.symm, parsed, rest, rfl, ?_⟩
  intro s' t' cs' cut parsed' matched'
  have other := (mem_attempts first text ⟨s', cs', t'⟩).mpr ⟨parsed', cut.symm⟩
  have ordered := greedy text
  rw [split] at other ordered
  rcases List.mem_append.mp other with earlier | here
  · rw [Option.isSome_iff_exists] at matched'
    obtain ⟨ds', found'⟩ := matched'
    have absent := missed _ earlier
    simp [found'] at absent
  · rcases List.mem_cons.mp here with same | later
    · exact Nat.le_of_eq (congrArg (fun found : Attempt α => found.taken.length) same)
    · exact List.rel_of_pairwise_cons (List.pairwise_append.mp ordered).2.1 later

end FtyDiscovery.Base.Regex
