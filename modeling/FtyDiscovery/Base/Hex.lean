import FtyDiscovery.Base.Text

/-! Bytes as lower-case hexadecimal digits, in groups of so many bytes with dashes between them. -/

namespace FtyDiscovery.Base.Hex

def digit (c : Char) : Option Nat := (List.range 16).find? (fun n => Nat.digitChar n = c)

def byte (b : UInt8) : Text := [Nat.digitChar (b.toNat / 16), Nat.digitChar (b.toNat % 16)]

def print (bytes : List UInt8) : Text := bytes.flatMap byte

def read : Text → Option (List UInt8)
  | [] => some []
  | [_] => none
  | high :: low :: text =>
      (digit high).bind (fun h => (digit low).bind (fun l =>
        (read text).map (fun bytes => UInt8.ofNat (16 * h + l) :: bytes)))

/-- How many bytes there are in groups of these sizes. -/
def total : Nat → List Nat → Nat
  | size, [] => size
  | size, next :: sizes => size + total next sizes

/-- The bytes in groups of these sizes. -/
def join : Nat → List Nat → List UInt8 → Text
  | size, [], bytes => print (bytes.take size)
  | size, next :: sizes, bytes => print (bytes.take size) ++ '-' :: join next sizes (bytes.drop size)

def readGroups : Nat → List Nat → Text → Option (List UInt8)
  | size, [], text => if text.length = 2 * size then read text else none
  | size, next :: sizes, text =>
      match text.drop (2 * size) with
      | '-' :: rest =>
          (read (text.take (2 * size))).bind (fun first =>
            (readGroups next sizes rest).map (fun later => first ++ later))
      | _ => none

theorem digit_eq_some_iff {c : Char} {n : Nat} : digit c = some n ↔ n < 16 ∧ Nat.digitChar n = c := by
  have apart : ∀ m < 16, digit (Nat.digitChar m) = some m := by decide
  constructor
  · intro found
    have member := List.mem_of_find?_eq_some found
    exact ⟨List.mem_range.mp member, by simpa using List.find?_some found⟩
  · rintro ⟨small, rfl⟩
    exact apart n small

theorem read_byte (b : UInt8) (text : Text) : read (byte b ++ text) = (read text).map (fun bytes => b :: bytes) := by
  have small := b.toNat_lt
  have high : digit (Nat.digitChar (b.toNat / 16)) = some (b.toNat / 16) := digit_eq_some_iff.mpr ⟨by omega, rfl⟩
  have low : digit (Nat.digitChar (b.toNat % 16)) = some (b.toNat % 16) := digit_eq_some_iff.mpr ⟨by omega, rfl⟩
  have whole : 16 * (b.toNat / 16) + b.toNat % 16 = b.toNat := by omega
  rw [byte, List.cons_append, List.cons_append, List.nil_append, read, high, low, Option.bind_some, Option.bind_some,
    whole, UInt8.ofNat_toNat]

theorem byte_of_digits {high low : Char} {h l : Nat} (upper : digit high = some h) (lower : digit low = some l) :
    byte (UInt8.ofNat (16 * h + l)) = [high, low] := by
  obtain ⟨small, rfl⟩ := digit_eq_some_iff.mp upper
  obtain ⟨small', rfl⟩ := digit_eq_some_iff.mp lower
  have value : (UInt8.ofNat (16 * h + l)).toNat = 16 * h + l := UInt8.toNat_ofNat_of_lt' (by
    change 16 * h + l < 256
    omega)
  have first : (16 * h + l) / 16 = h := by omega
  have second : (16 * h + l) % 16 = l := by omega
  rw [byte, value, first, second]

theorem read_print (bytes : List UInt8) : read (print bytes) = some bytes := by
  induction bytes with
  | nil => rfl
  | cons b bytes ih => rw [print, List.flatMap_cons, ← print, read_byte, ih, Option.map_some]

theorem read_eq_some_iff {text : Text} {bytes : List UInt8} : read text = some bytes ↔ text = print bytes := by
  constructor
  · intro found
    induction text using read.induct generalizing bytes with
    | case1 =>
      obtain rfl := Option.some.inj found
      rfl
    | case2 => cases found
    | case3 high low text ih =>
      obtain ⟨h, upper, found⟩ := Option.bind_eq_some_iff.mp found
      obtain ⟨l, lower, found⟩ := Option.bind_eq_some_iff.mp found
      obtain ⟨later, rest, rfl⟩ := Option.map_eq_some_iff.mp found
      rw [print, List.flatMap_cons, ← print, byte_of_digits upper lower, ← ih rest]
      rfl
  · rintro rfl
    exact read_print bytes

theorem length_print (bytes : List UInt8) : (print bytes).length = 2 * bytes.length := by
  induction bytes with
  | nil => rfl
  | cons b bytes ih =>
    rw [print, List.flatMap_cons, ← print, List.length_append, ih, List.length_cons]
    change 2 + 2 * bytes.length = _
    omega

theorem readGroups_nil_iff {size : Nat} {text : Text} {bytes : List UInt8} :
    readGroups size [] text = some bytes ↔ bytes.length = size ∧ text = print bytes := by
  rw [readGroups, Option.ite_none_right_eq_some, read_eq_some_iff]
  constructor
  · rintro ⟨long, rfl⟩
    rw [length_print] at long
    exact ⟨by omega, rfl⟩
  · rintro ⟨rfl, rfl⟩
    exact ⟨length_print bytes, rfl⟩

theorem readGroups_eq_some_iff {size : Nat} {sizes : List Nat} {text : Text} {bytes : List UInt8} :
    readGroups size sizes text = some bytes ↔ bytes.length = total size sizes ∧ text = join size sizes bytes := by
  induction sizes generalizing size text bytes with
  | nil =>
    rw [readGroups_nil_iff, join, total]
    refine and_congr_right (fun long => ?_)
    rw [List.take_of_length_le (le_of_eq long)]
  | cons next sizes ih =>
    rw [readGroups, join, total]
    constructor
    · intro found
      split at found
      next rest behind =>
        obtain ⟨first, here, found⟩ := Option.bind_eq_some_iff.mp found
        obtain ⟨later, there, rfl⟩ := Option.map_eq_some_iff.mp found
        have printed := read_eq_some_iff.mp here
        obtain ⟨many, joined⟩ := ih.mp there
        have long : first.length = size := by
          have lengths := congrArg List.length printed
          have some_rest := congrArg List.length behind
          rw [length_print, List.length_take] at lengths
          rw [List.length_drop, List.length_cons] at some_rest
          omega
        refine ⟨by rw [List.length_append]; omega, ?_⟩
        rw [List.take_left' long, List.drop_left' long, ← printed, ← joined, ← behind, List.take_append_drop]
      next => cases found
    · rintro ⟨many, rfl⟩
      have long : (print (bytes.take size)).length = 2 * size := by
        rw [length_print, List.length_take]
        omega
      have there : readGroups next sizes (join next sizes (bytes.drop size)) = some (bytes.drop size) :=
        ih.mpr ⟨by rw [List.length_drop]; omega, rfl⟩
      rw [List.drop_left' long, List.take_left' long]
      simp only [read_print, there, Option.bind_some, Option.map_some, List.take_append_drop]

theorem join_take (size : Nat) (sizes : List Nat) (bytes : List UInt8) :
    join size sizes (bytes.take (total size sizes)) = join size sizes bytes := by
  induction sizes generalizing size bytes with
  | nil => rw [join, join, total, List.take_take, Nat.min_self]
  | cons next sizes ih =>
    have within : min size (size + total next sizes) = size := by omega
    rw [join, join, total, List.take_take, List.drop_take, within, Nat.add_sub_cancel_left, ih]

end FtyDiscovery.Base.Hex
