import Mathlib.Data.List.DropRight
import Mathlib.Data.List.Infix

/-! Texts as a `std::string` holds them, one character for each byte, with the operations
of the standard library that a program of texts uses. -/

namespace FtyDiscovery.Base

abbrev Text := List Char

namespace Text

/-- `isspace` in the C locale. -/
def isSpace (c : Char) : Bool :=
  [' ', '\t', '\n', '\x0b', '\x0c', '\r'].contains c

/-- `.` of a regular expression: every character but a line terminator. -/
def notLineEnd (c : Char) : Bool := c != '\n' && c != '\r'

/-- The position of the first occurrence, as `std::string::find`. -/
def find (needle : Text) : Text → Option Nat
  | [] => if needle.isEmpty then some 0 else none
  | c :: text =>
      if needle.isPrefixOf (c :: text) then some 0 else (find needle text).map (fun pos => pos + 1)

theorem find_eq_zero_iff (needle text : Text) : find needle text = some 0 ↔ needle <+: text := by
  cases text with
  | nil => simp [find]
  | cons c text =>
    by_cases start : needle.isPrefixOf (c :: text) = true
    · simp only [find, if_pos start, true_iff]
      exact List.isPrefixOf_iff_prefix.mp start
    · simp only [find, if_neg start, Option.map_eq_some_iff, Nat.add_eq_zero_iff, Nat.one_ne_zero,
        and_false, exists_const, false_iff]
      exact fun occurs => start (List.isPrefixOf_iff_prefix.mpr occurs)

theorem find_take {needle text : Text} {pos : Nat} (some_needle : needle ≠ [])
    (found : find needle text = some pos) : find needle (text.take pos) = none := by
  induction text generalizing pos with
  | nil => simp [find, some_needle] at found
  | cons c text ih =>
    rw [find] at found
    split at found
    next =>
      obtain rfl := Option.some.inj found
      simp [find, some_needle]
    next other =>
      obtain ⟨before, found', rfl⟩ := Option.map_eq_some_iff.mp found
      rw [List.take_succ_cons, find, if_neg, ih found', Option.map_none]
      intro occurs
      have shorter : c :: text.take before <+: c :: text :=
        List.cons_prefix_cons.mpr ⟨rfl, List.take_prefix before text⟩
      exact other (List.isPrefixOf_iff_prefix.mpr ((List.isPrefixOf_iff_prefix.mp occurs).trans shorter))

theorem take_find (c : Char) (text : Text) :
    ((find [c] text).map (fun pos => text.take pos)).getD text = text.takeWhile (fun d => d != c) := by
  induction text with
  | nil => rfl
  | cons d text ih =>
    by_cases here : d = c
    · subst here
      simp [find]
    · have other : ¬[c].isPrefixOf (d :: text) = true := by simp [Ne.symm here]
      rw [find, if_neg other, List.takeWhile_cons_of_pos (by simpa using here), ← ih, Option.map_map]
      cases find [c] text <;> rfl

/-- `std::to_string` of a number. -/
def decimal (n : Nat) : Text := Nat.toDigits 10 n

theorem decimal_injective : Function.Injective decimal := by
  intro m n same
  have read := congrArg (fun digits => Nat.ofDigitChars 10 digits 0) same
  simpa only [decimal, Nat.ofDigitChars_ten_toDigits] using read

theorem isDigit_of_mem_decimal {n : Nat} {c : Char} (member : c ∈ decimal n) : c.isDigit = true :=
  Nat.isDigit_of_mem_toDigits (by decide) (by decide) member

theorem not_mem_decimal {c : Char} (other : c.isDigit = false) (n : Nat) : c ∉ decimal n := by
  intro member
  rw [isDigit_of_mem_decimal member] at other
  cases other

/-- The lines a loop of `std::getline` reads: an empty last line is not one. -/
def getlines : Text → List Text
  | [] => []
  | c :: text =>
      if c = '\n' then [] :: getlines text
      else match getlines text with
        | [] => [[c]]
        | line :: lines => (c :: line) :: lines

theorem stop_prefix_iff {c : Char} {first second rest : Text} (free : c ∉ first) (free' : c ∉ second) :
    first ++ [c] <+: second ++ c :: rest ↔ first = second := by
  have cut {text : Text} (tail : Text) (free : c ∉ text) :
      (text ++ c :: tail).takeWhile (fun d => d != c) = text := by
    rw [List.takeWhile_append_of_pos (fun d member => bne_iff_ne.mpr (ne_of_mem_of_not_mem member free)),
      List.takeWhile_cons_of_neg (by simp), List.append_nil]
  constructor
  · intro ⟨tail, whole⟩
    rw [List.append_assoc, List.singleton_append] at whole
    rw [← cut tail free, ← cut rest free', whole]
  · rintro rfl
    exact ⟨rest, by rw [List.append_assoc, List.singleton_append]⟩

theorem decimal_prefix {m n : Nat} {c : Char} (stop : c.isDigit = false) {rest : Text}
    (occurs : decimal m ++ [c] <+: decimal n ++ c :: rest) : m = n :=
  decimal_injective ((stop_prefix_iff (not_mem_decimal stop m) (not_mem_decimal stop n)).mp occurs)

def trim (text : Text) : Text :=
  (text.dropWhile isSpace).rdropWhile isSpace

def Blank (text : Text) : Prop := ∀ c ∈ text, isSpace c = true

instance (text : Text) : Decidable (Blank text) := List.decidableBAll _ _

def solid (text : Text) : Text := text.filter (fun c => !isSpace c)

theorem solid_append (first second : Text) : solid (first ++ second) = solid first ++ solid second :=
  List.filter_append ..

theorem solid_eq_nil_iff (text : Text) : solid text = [] ↔ Blank text := by
  simp only [solid, List.filter_eq_nil_iff, Bool.not_eq_true', Bool.not_eq_false, Blank]

theorem solid_trim (text : Text) : solid (trim text) = solid text := by
  have left (t : Text) : solid (t.dropWhile isSpace) = solid t := by
    conv_rhs => rw [← List.takeWhile_append_dropWhile (p := isSpace) (l := t), solid_append]
    rw [(solid_eq_nil_iff _).mpr (fun c member => List.mem_takeWhile_imp member), List.nil_append]
  rw [trim, List.rdropWhile, solid, List.filter_reverse]
  change (solid ((text.dropWhile isSpace).reverse.dropWhile isSpace)).reverse = solid text
  rw [left, solid, List.filter_reverse, List.reverse_reverse]
  exact left text

theorem trim_eq_nil_iff (text : Text) : trim text = [] ↔ Blank text := by
  constructor
  · intro empty
    rw [← solid_eq_nil_iff, ← solid_trim, empty]
    rfl
  · intro blank
    rw [trim, List.dropWhile_eq_nil_iff.mpr blank, List.rdropWhile_nil]

theorem trim_append_left {before : Text} (blank : Blank before) (text : Text) :
    trim (before ++ text) = trim text := by
  rw [trim, List.dropWhile_append_of_pos blank, trim]

theorem trim_append_right {after : Text} (blank : Blank after) (text : Text) :
    trim (text ++ after) = trim text := by
  by_cases empty : Blank text
  · rw [trim_append_left empty, (trim_eq_nil_iff _).mpr blank, (trim_eq_nil_iff _).mpr empty]
  · have stops : ¬(text.dropWhile isSpace).isEmpty = true := by
      simpa [List.dropWhile_eq_nil_iff, Blank] using empty
    rw [trim, List.dropWhile_append, if_neg stops, trim, List.rdropWhile, List.reverse_append,
      List.dropWhile_append_of_pos (by simpa [Blank] using blank), List.rdropWhile]

end Text

end FtyDiscovery.Base
