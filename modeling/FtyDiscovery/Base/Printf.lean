import FtyDiscovery.Base.Text

/-! `printf` with string arguments: where its behaviour is defined, and what it prints. -/

namespace FtyDiscovery.Base.Printf

def conversions : Text → Nat
  | [] => 0
  | c :: format =>
      if c ≠ '%' then conversions format
      else match format with
        | [] => 1
        | d :: format => if d = '%' then conversions format else conversions format + 1

/-- What is printed; nothing is known where an argument is missing or no string is asked for. -/
def printf : Text → List Text → Option Text
  | [], _ => some []
  | c :: format, args =>
      if c ≠ '%' then (printf format args).map (fun out => c :: out)
      else match format, args with
        | [], _ => none
        | d :: format, args =>
            if d = '%' then (printf format args).map (fun out => '%' :: out)
            else if d = 's' then
              match args with
              | [] => none
              | arg :: args => (printf format args).map (fun out => arg ++ out)
            else none

theorem conversions_cons {c : Char} (other : c ≠ '%') (format : Text) :
    conversions (c :: format) = conversions format := by
  rw [conversions.eq_def]
  exact if_pos other

theorem printf_cons {c : Char} (other : c ≠ '%') (format : Text) (args : List Text) :
    printf (c :: format) args = (printf format args).map (fun out => c :: out) := by
  rw [printf.eq_def]
  exact if_pos other

theorem printf_percent (format : Text) (args : List Text) :
    printf ('%' :: '%' :: format) args = (printf format args).map (fun out => '%' :: out) := by
  rw [printf.eq_def]
  rfl

theorem printf_missing {d : Char} (other : d ≠ '%') (format : Text) : printf ('%' :: d :: format) [] = none := by
  rw [printf.eq_def]
  show (if d = '%' then _ else if d = 's' then none else none) = none
  rw [if_neg other, ite_self]

theorem conversions_append {before : Text} (plain : '%' ∉ before) (format : Text) :
    conversions (before ++ format) = conversions format := by
  induction before with
  | nil => rfl
  | cons c before ih =>
    obtain ⟨other, plain'⟩ := List.ne_and_not_mem_of_not_mem_cons plain
    rw [List.cons_append, conversions_cons other.symm, ih plain']

theorem printf_append {before : Text} (plain : '%' ∉ before) (format : Text) (args : List Text) :
    printf (before ++ format) args = (printf format args).map (fun out => before ++ out) := by
  induction before with
  | nil => simp only [List.nil_append, Option.map_id']
  | cons c before ih =>
    obtain ⟨other, plain'⟩ := List.ne_and_not_mem_of_not_mem_cons plain
    rw [List.cons_append, printf_cons other.symm, ih plain', Option.map_map]
    rfl

theorem length_printf {format out : Text} (printed : printf format [] = some out) :
    out.length ≤ format.length ∧ ('%' ∈ format → out.length < format.length) := by
  induction format using List.twoStepInduction generalizing out with
  | nil =>
    obtain rfl := Option.some.inj printed
    exact ⟨Nat.le_refl _, fun percent => by cases percent⟩
  | singleton c =>
    by_cases percent : c = '%'
    · rw [percent] at printed
      cases printed
    · rw [printf_cons percent] at printed
      obtain rfl := Option.some.inj printed
      exact ⟨Nat.le_refl _, fun member => absurd (List.mem_singleton.mp member).symm percent⟩
  | cons_cons c d format ih ih' =>
    by_cases percent : c = '%'
    · rw [percent] at printed
      by_cases twice : d = '%'
      · rw [twice, printf_percent] at printed
        obtain ⟨rest, printed', rfl⟩ := Option.map_eq_some_iff.mp printed
        have shorter := (ih printed').1
        simp only [List.length_cons]
        omega
      · rw [printf_missing twice] at printed
        cases printed
    · rw [printf_cons percent] at printed
      obtain ⟨rest, printed', rfl⟩ := Option.map_eq_some_iff.mp printed
      obtain ⟨shorter, strictly⟩ := ih' d printed'
      refine ⟨Nat.succ_le_succ shorter, fun member => Nat.succ_lt_succ (strictly ?_)⟩
      exact (List.mem_cons.mp member).resolve_left (fun same => percent same.symm)

/-- A text as the whole format is printed as it is exactly where it has no percent sign. -/
theorem printf_nil_iff (text : Text) : printf text [] = some text ↔ '%' ∉ text := by
  constructor
  · intro printed percent
    exact Nat.lt_irrefl _ ((length_printf printed).2 percent)
  · intro plain
    have printed := printf_append plain [] []
    rw [List.append_nil] at printed
    simpa only [printf, Option.map_some, List.append_nil] using printed

theorem conversions_eq_zero {text : Text} (plain : '%' ∉ text) : conversions text = 0 := by
  rw [← List.append_nil text, conversions_append plain]
  rfl

end FtyDiscovery.Base.Printf
