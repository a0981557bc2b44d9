import FtyDiscovery.Jobs.Environment

/-! The job that lists the MIBs of an endpoint. -/

namespace FtyDiscovery.Jobs.Mibs

open Base Snmp Commands.Mibs

def index (mib : Text) : Nat :=
  if mib = "XUPS-MIB".toList then 0
  else if mib = "MG-SNMP-UPS-MIB".toList then 1
  else if mib ≠ [] ∧ mib.all Text.notLineEnd then 2
  else 999

def sortMibs (l r : Text) : Bool := index l < index r

/-- `std::sort` with `sortMibs`: which of two equal elements comes first is left open. -/
structure Sorting where
  sort : List Text → List Text
  perm : ∀ mibs, (sort mibs).Perm mibs
  ordered : ∀ mibs, (sort mibs).Pairwise (fun l r => sortMibs r l = false)

def snmpError : Text := "Host is not available or SNMP is not supported. SNMP error: ".toList

def run (env : Env) (sorting : Sorting) (requests : Nat) (input : In) : Run Out := do
  checkHost env input.address
  let sess ← setAccess env input.credentialId input.community
    (Session.create input.address input.port.toUInt16)
  let sess := if hasValue 1000 input.timeout then sess.setTimeout input.timeout else sess
  Traced.emit (.session sess)
  let _ ← orThrow snmpError (MibsReader.readName env.lib (env.peer sess) false)
  let mibs ← orThrow snmpError (MibsReader.read env.lib (env.peer sess) true env.tryAll requests)
  return sorting.sort mibs.toList

def Sorting.stable : Sorting where
  sort mibs := mibs.mergeSort (fun l r => !sortMibs r l)
  perm mibs := List.mergeSort_perm mibs _
  ordered mibs := by
    have sorted : (mibs.mergeSort (fun l r => !sortMibs r l)).Pairwise (fun l r => (!sortMibs r l) = true) :=
      List.pairwise_mergeSort (fun a b c below above => by simp [sortMibs] at *; omega)
      (fun a b => by simp [sortMibs]; omega) mibs
    simpa using sorted

end FtyDiscovery.Jobs.Mibs
