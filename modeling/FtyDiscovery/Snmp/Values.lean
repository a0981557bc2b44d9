import Mathlib.Data.List.Basic
import FtyDiscovery.Snmp.Session

/-! What `read` returns for a variable, by its type and its value. -/

namespace FtyDiscovery.Snmp

open Base

def number (bytes : List UInt8) : Nat := bytes.foldr (fun byte high => byte.toNat + 256 * high) 0

def subids (value : List UInt8) : Oid :=
  (List.range (value.length / 8)).map (fun i => number ((value.drop (8 * i)).take 8))

def textOf (lib : NetSnmp) (type : Asn) (value : List UInt8) : Option Text :=
  match type with
  | .boolean | .integer | .counter | .gauge | .timeticks | .uinteger =>
      if value.length < 8 then none else some (decimalInt (BitVec.ofNat 64 (number (value.take 8))).toInt)
  | .bitStr | .octetStr | .opaqueData => some (value.map (fun byte => Char.ofNat byte.toNat))
  | .ipAddress =>
      if value.length < 4 then none
      else some (['.'].intercalate ((value.take 4).map (fun byte => Text.decimal byte.toNat)))
  | .objectId => if value.length < 8 then none else some (lib.snprintObjid (subids value))
  | _ => none

structure Carries (response : Pdu) (type : Asn) (value : List UInt8) : Prop where
  success : response.errstat = 0
  first : ∃ var rest, response.vars = var :: rest ∧ var.type = type ∧ var.valLen = value.length ∧
    bytesAt response.memory var.val value.length = value

def Gives (text : Option Text) (result : Expected Text) : Prop :=
  match text with
  | some text => result = .ok text
  | none => ∃ failed, result = .error failed

/-- Wherever the value is stored, `read` gives its text, or an error where it has none. -/
def ReadsValue (lib : NetSnmp) (type : Asn) (value : List UInt8) : Prop :=
  ∀ peer stroid name response errno, lib.parseOid stroid = some name →
    peer.get name = .success response errno → Carries response type value →
      ∃ result, read lib peer stroid = .ok result ∧ Gives (textOf lib type value) result

/-- Strings with something in them, and the other types without a value or, but for the integers,
with one that is long enough. -/
def Readable (type : Asn) (value : List UInt8) : Prop :=
  match type with
  | .boolean | .integer | .counter | .gauge | .timeticks | .uinteger => value = []
  | .bitStr | .octetStr | .opaqueData => value ≠ []
  | .ipAddress => value = [] ∨ 4 ≤ value.length
  | .objectId => value = [] ∨ 8 ≤ value.length
  | _ => True

theorem bytesAt_slice (memory : Nat → UInt8) (address : Nat) {start length whole : Nat}
    (within : start + length ≤ whole) :
    bytesAt memory (address + start) length = ((bytesAt memory address whole).drop start).take length := by
  apply List.ext_getElem
  · simp only [bytesAt, List.length_map, List.length_range, List.length_take, List.length_drop]
    omega
  · intro i first second
    simp only [bytesAt, List.getElem_map, List.getElem_range, List.getElem_take, List.getElem_drop, Nat.add_assoc]

theorem read_eq {lib : NetSnmp} {peer : Peer} {stroid : Text} {name : Oid} {response : Pdu} {errno : Int}
    {var : Var} {rest : List Var} (parsed : lib.parseOid stroid = some name)
    (replied : peer.get name = .success response errno) (success : response.errstat = 0)
    (vars : response.vars = var :: rest) :
    read lib peer stroid =
      .ok (if var.valLen > 0 then readVal lib response.memory var else .error (lib.apiErrstring errno)) := by
  simp only [read, parsed, replied, success, if_true, vars]
  split
  next => rfl
  next => rfl

def stored (address : Nat) (value : List UInt8) (place : Nat) : UInt8 := value.getD (place - address) 0

def answering (type : Asn) (value : List UInt8) (address : Nat) : Peer where
  opens := .ok ()
  get name := .success ⟨0, [⟨name, type, address, value.length⟩], stored address value⟩ 0
  getNext _ _ := .timeout 0

theorem bytesAt_stored (address : Nat) (value : List UInt8) :
    bytesAt (stored address value) address value.length = value := by
  apply List.ext_getElem
  · simp only [bytesAt, List.length_map, List.length_range]
  · intro i first second
    simp only [bytesAt, stored, List.getElem_map, List.getElem_range, Nat.add_sub_cancel_left]
    exact by rw [List.getD_eq_getElem?_getD, List.getElem?_eq_getElem second, Option.getD_some]

theorem reads_stored {lib : NetSnmp} {type : Asn} {value : List UInt8} (reads : ReadsValue lib type value)
    (address : Nat) : Gives (textOf lib type value)
      (if value.length > 0 then
        readVal lib (stored address value) ⟨[1, 3, 6, 1, 2, 1], type, address, value.length⟩
      else .error (lib.apiErrstring 0)) := by
  have replied : (answering type value address).get [1, 3, 6, 1, 2, 1] =
      .success ⟨0, [⟨[1, 3, 6, 1, 2, 1], type, address, value.length⟩], stored address value⟩ 0 := rfl
  have carries : Carries ⟨0, [⟨[1, 3, 6, 1, 2, 1], type, address, value.length⟩], stored address value⟩
      type value := ⟨rfl, _, [], rfl, rfl, rfl, bytesAt_stored address value⟩
  obtain ⟨result, returned, gives⟩ := reads _ _ _ _ _ lib.parseOid_root replied carries
  rw [read_eq lib.parseOid_root replied rfl rfl] at returned
  rw [Except.ok.inj returned]
  exact gives

theorem not_gives_none (text : Text) : ¬Gives none (.ok text) := by
  rintro ⟨failed, wrong⟩
  cases wrong

theorem not_gives_pointer (text : Option Text) :
    ¬ ∀ address : Nat, Gives text (.ok (decimalInt (BitVec.ofNat 64 address).toInt)) := by
  intro given
  cases text with
  | none => exact not_gives_none _ (given 4096)
  | some text =>
    have first := Except.ok.inj (given 4096)
    have second := Except.ok.inj (given 8192)
    have differ : decimalInt (BitVec.ofNat 64 4096).toInt ≠ decimalInt (BitVec.ofNat 64 8192).toInt := by
      decide
    exact differ (first.trans second.symm)

theorem readable_of_reads {lib : NetSnmp} {type : Asn} {value : List UInt8}
    (reads : ReadsValue lib type value) : Readable type value := by
  have gives := reads_stored reads
  by_cases long : value.length > 0
  · simp only [if_pos long] at gives
    cases type with
    | boolean | integer | counter | gauge | timeticks | uinteger =>
      exact absurd gives (not_gives_pointer _)
    | bitStr | octetStr | opaqueData => exact List.ne_nil_of_length_pos long
    | ipAddress =>
      right
      by_contra short
      have given := gives 0
      rw [textOf, if_pos (Nat.lt_of_not_le short)] at given
      exact not_gives_none _ given
    | objectId =>
      right
      by_contra short
      have given := gives 0
      rw [textOf, if_pos (Nat.lt_of_not_le short)] at given
      exact not_gives_none _ given
    | noSuchObject | noSuchInstance | endOfMibView | unknown => trivial
  · obtain rfl : value = [] := List.eq_nil_of_length_eq_zero (by omega)
    have given := gives 0
    cases type with
    | bitStr | octetStr | opaqueData => cases given
    | boolean | integer | counter | gauge | timeticks | uinteger => rfl
    | ipAddress | objectId => exact Or.inl rfl
    | noSuchObject | noSuchInstance | endOfMibView | unknown => trivial

theorem gives_readVal (lib : NetSnmp) {memory : Nat → UInt8} {var : Var} {value : List UInt8}
    (some_value : value ≠ []) (stored : bytesAt memory var.val value.length = value)
    (valLen : var.valLen = value.length) (readable : Readable var.type value) :
    Gives (textOf lib var.type value) (readVal lib memory var) := by
  have slice : ∀ {start length : Nat}, start + length ≤ value.length →
      bytesAt memory (var.val + start) length = (value.drop start).take length := by
    intro start length within
    rw [bytesAt_slice memory var.val within, stored]
  unfold readVal textOf
  cases type : var.type with
  | boolean | integer | counter | gauge | timeticks | uinteger =>
    rw [type] at readable
    exact absurd readable some_value
  | bitStr | octetStr | opaqueData =>
    show Except.ok _ = Except.ok _
    rw [valLen, stored]
  | ipAddress =>
    rw [type] at readable
    have long : 4 ≤ value.length := readable.resolve_left some_value
    simp only [if_neg (Nat.not_lt.mpr long)]
    show Except.ok _ = Except.ok _
    rw [← Nat.add_zero var.val, slice (by omega : 0 + 4 ≤ value.length), List.drop_zero]
  | objectId =>
    rw [type] at readable
    have long : 8 ≤ value.length := readable.resolve_left some_value
    simp only [if_neg (Nat.not_lt.mpr long)]
    show Except.ok _ = Except.ok _
    rw [readObjName, valLen]
    apply congrArg (fun oid => Except.ok (lib.snprintObjid oid))
    apply List.map_congr_left
    intro i member
    have within : 8 * i + 8 ≤ value.length := by
      have counted := List.mem_range.mp member
      omega
    rw [subidAt, slice within]
    rfl
  | noSuchObject | noSuchInstance | endOfMibView | unknown => exact ⟨_, rfl⟩

theorem reads_of_readable (lib : NetSnmp) {type : Asn} {value : List UInt8} (readable : Readable type value) :
    ReadsValue lib type value := by
  intro peer stroid name response errno parsed replied carries
  obtain ⟨success, var, rest, vars, rfl, valLen, stored⟩ := id carries
  rw [read_eq parsed replied success vars, valLen]
  apply Exists.intro
  apply And.intro rfl
  by_cases long : value.length > 0
  · rw [if_pos long]
    exact gives_readVal lib (List.ne_nil_of_length_pos long) stored valLen readable
  · obtain rfl : value = [] := List.eq_nil_of_length_eq_zero (by omega)
    rw [if_neg long]
    cases type : var.type with
    | bitStr | octetStr | opaqueData =>
      rw [type] at readable
      exact absurd rfl readable
    | boolean | integer | counter | gauge | timeticks | uinteger => exact ⟨_, rfl⟩
    | ipAddress | objectId => exact ⟨_, rfl⟩
    | noSuchObject | noSuchInstance | endOfMibView | unknown => exact ⟨_, rfl⟩

/-- Of the values that are there, `read` gives strings, addresses and names of their full length.
An empty value is an error, also as a string. -/
theorem readsValue_iff (lib : NetSnmp) (type : Asn) (value : List UInt8) :
    ReadsValue lib type value ↔ Readable type value := by
  constructor
  · exact readable_of_reads
  · exact reads_of_readable lib

def ifNumber : Peer := answering .integer [5, 0, 0, 0, 0, 0, 0, 0] 4096

theorem ifNumber_misread :
    textOf (.loaded []) .integer [5, 0, 0, 0, 0, 0, 0, 0] = some "5".toList ∧
    read (.loaded []) ifNumber ".1.3.6.1.2.1.2.1.0".toList = .ok (.ok "4096".toList) ∧
    ¬ ReadsValue (.loaded []) .integer [5, 0, 0, 0, 0, 0, 0, 0] := by
  refine ⟨by decide, by decide, fun reads => ?_⟩
  cases readable_of_reads reads

end FtyDiscovery.Snmp
