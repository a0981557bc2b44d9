import FtyDiscovery.Base.Hex

/-! The identity of an asset. -/

namespace FtyDiscovery

open Base

structure Identity where
  State : Type
  sha1 : Text → Vector UInt8 20
  generateRandom : State → Vector UInt8 16 × State

namespace Uuid

def ns : Text :=
  ['\x93', '\x3d', '\x6c', '\x80', '\xde', '\xa9', '\x8c', '\x6b',
    '\xd1', '\x11', '\x8b', '\x3b', '\x46', '\xa1', '\x81', '\xf1']

/-- `uuid_unparse_lower` of the first sixteen bytes. -/
def unparseLower (bytes : List UInt8) : Text := Hex.join 4 [2, 2, 2, 6] bytes

def source (manufacturer model serial : Text) : Text := ns ++ manufacturer ++ model ++ serial

def stamp (hash : Vector UInt8 20) : Vector UInt8 20 :=
  let hash := hash.set 6 (hash[6] &&& 0x0F ||| 0x50)
  hash.set 8 (hash[8] &&& 0x3F ||| 0x80)

def generateUUID (identity : Identity) (manufacturer model serial : Text) (random : identity.State) :
    Text × identity.State :=
  if !manufacturer.isEmpty && !model.isEmpty && !serial.isEmpty then
    (unparseLower (stamp (identity.sha1 (source manufacturer model serial))).toList, random)
  else
    let u := identity.generateRandom random
    (unparseLower u.1.toList, u.2)

def read (text : Text) : Option (List UInt8) := Hex.readGroups 4 [2, 2, 2, 6] text

theorem read_eq_some_iff {text : Text} {bytes : List UInt8} :
    read text = some bytes ↔ bytes.length = 16 ∧ text = unparseLower bytes := Hex.readGroups_eq_some_iff

theorem read_unparseLower {bytes : List UInt8} (enough : 16 ≤ bytes.length) :
    read (unparseLower bytes) = some (bytes.take 16) := by
  refine read_eq_some_iff.mpr ⟨by rw [List.length_take]; omega, ?_⟩
  exact (Hex.join_take 4 [2, 2, 2, 6] bytes).symm

theorem generateUUID_ne_nil (identity : Identity) (manufacturer model serial : Text) (random : identity.State) :
    (generateUUID identity manufacturer model serial random).1 ≠ [] := by
  unfold generateUUID unparseLower
  split
  next => simp [Hex.join]
  next => simp [Hex.join]

def Collide (identity : Identity) (first second : Text) : Prop :=
  first ≠ second ∧
    (stamp (identity.sha1 first)).toList.take 16 = (stamp (identity.sha1 second)).toList.take 16

/-- What is hashed tells devices apart as far as their joined values differ, whatever the bounds
between the values are; beyond that only a collision gives two devices one identifier. -/
theorem identities_apart (identity : Identity) {manufacturer model serial manufacturer' model' serial' : Text}
    (named : manufacturer ≠ [] ∧ model ≠ [] ∧ serial ≠ [])
    (named' : manufacturer' ≠ [] ∧ model' ≠ [] ∧ serial' ≠ []) :
    (source manufacturer model serial = source manufacturer' model' serial' ↔
        manufacturer ++ model ++ serial = manufacturer' ++ model' ++ serial') ∧
      (manufacturer.length = manufacturer'.length → model.length = model'.length →
        (manufacturer, model, serial) ≠ (manufacturer', model', serial') →
          source manufacturer model serial ≠ source manufacturer' model' serial') ∧
      ∀ random random', (generateUUID identity manufacturer model serial random).1 =
          (generateUUID identity manufacturer' model' serial' random').1 →
        manufacturer ++ model ++ serial = manufacturer' ++ model' ++ serial' ∨
          Collide identity (source manufacturer model serial) (source manufacturer' model' serial') := by
  have joined : source manufacturer model serial = source manufacturer' model' serial' ↔
      manufacturer ++ model ++ serial = manufacturer' ++ model' ++ serial' := by
    simp only [source, List.append_assoc, List.append_cancel_left_eq]
  refine ⟨joined, ?_, ?_⟩
  · intro sameManufacturer sameModel different same
    have whole := joined.mp same
    rw [List.append_assoc, List.append_assoc] at whole
    obtain ⟨rfl, rest⟩ := List.append_inj whole sameManufacturer
    obtain ⟨rfl, rfl⟩ := List.append_inj rest sameModel
    exact different rfl
  · intro random random' same
    by_cases equal : source manufacturer model serial = source manufacturer' model' serial'
    · exact .inl (joined.mp equal)
    · have printed : unparseLower (stamp (identity.sha1 (source manufacturer model serial))).toList =
          unparseLower (stamp (identity.sha1 (source manufacturer' model' serial'))).toList := by
        simpa [generateUUID, named.1, named.2.1, named.2.2, named'.1, named'.2.1, named'.2.2] using same
      have readable := congrArg read printed
      rw [read_unparseLower (by simp), read_unparseLower (by simp)] at readable
      exact .inr ⟨equal, Option.some.inj readable⟩

def sampleIdentity : Identity where
  State := Nat
  sha1 text := Vector.ofFn (fun i : Fin 20 => UInt8.ofNat (text.reverse.getD i.val 'A').toNat)
  generateRandom n := (Vector.replicate 16 (UInt8.ofNat n), n + 1)

theorem sampleIdentities_apart :
    (source "Eaton".toList "5P".toList "G1".toList = source "Eaton".toList "9P".toList "G1".toList ↔
        "Eaton".toList ++ "5P".toList ++ "G1".toList = "Eaton".toList ++ "9P".toList ++ "G1".toList) ∧
      source "Eaton".toList "5P".toList "G1".toList ≠ source "Eaton".toList "9P".toList "G1".toList ∧
      ((generateUUID sampleIdentity "Eaton".toList "5P".toList "G1".toList (0 : Nat)).1 =
          (generateUUID sampleIdentity "Eaton".toList "9P".toList "G1".toList (0 : Nat)).1 →
        "Eaton".toList ++ "5P".toList ++ "G1".toList = "Eaton".toList ++ "9P".toList ++ "G1".toList ∨
          Collide sampleIdentity (source "Eaton".toList "5P".toList "G1".toList)
            (source "Eaton".toList "9P".toList "G1".toList)) := by
  obtain ⟨joined, apart, identifiers⟩ := @identities_apart sampleIdentity "Eaton".toList "5P".toList
    "G1".toList "Eaton".toList "9P".toList "G1".toList (by decide) (by decide)
  exact ⟨joined, apart rfl rfl (by decide), identifiers (0 : Nat) (0 : Nat)⟩

theorem shifted_same_source :
    ("Eaton".toList, "5P1".toList, "2".toList) ≠ ("Eaton".toList, "5P".toList, "12".toList) ∧
      source "Eaton".toList "5P1".toList "2".toList = source "Eaton".toList "5P".toList "12".toList := by
  decide

end Uuid

end FtyDiscovery
