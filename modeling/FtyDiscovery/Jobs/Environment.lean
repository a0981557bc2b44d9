import FtyDiscovery.Base.Traced
import FtyDiscovery.Commands
import FtyDiscovery.Nut.Mapper
import FtyDiscovery.Nut.Process
import FtyDiscovery.Ping
import FtyDiscovery.Snmp.Agent
import FtyDiscovery.Uuid

/-! What the jobs find around them, and the computations they are written in. -/

namespace FtyDiscovery.Jobs

open Base Snmp

/-- The two helpers of the string library that the parser of a dump uses. -/
structure StringUtils where
  split : Text → Regex.Pattern Char → Text × Text
  convertInt : Text → Except Exn Int
  split_eq : ∀ line rex, split line rex =
    match Regex.fullMatch rex line with
    | some found => (Regex.capture found 1, Regex.capture found 2)
    | none => ([], [])
  convertInt_decimal : ∀ n < 2 ^ 31, convertInt (Text.decimal n) = .ok (n : Int)

/-- The part of a connection that a job opens: an SNMP session, or a driver that is started. -/
inductive Contact where
  | session (sess : Session)
  | driver (command : Nut.Command)
  deriving DecidableEq

structure Env where
  resolver : Resolver
  lib : NetSnmp
  peer : Session → Peer
  wallet : Wallet
  tryAll : Bool
  host : Nut.Host
  utils : StringUtils
  mapping : Nut.Mapping
  identity : Identity

abbrev Run (α : Type) := Traced Contact Stop α

/-- `throw Error(text)`. -/
def raise {α : Type} (text : Text) : Run α := Traced.fail (jobError text)

/-- Take a value, or throw `Error` with what the value misses and this text before it. -/
def orThrow {α : Type} (before : Text) (outcome : Outcome (Expected α)) : Run α :=
  match outcome with
  | .ok (.ok value) => pure value
  | .ok (.error failed) => raise (before ++ failed)
  | .error stop => Traced.fail stop

def notAvailable (address : Text) : Text := "Host is not available: ".toList ++ address

def checkHost (env : Env) (address : Text) : Run Unit :=
  if available env.resolver address then pure () else raise (notAvailable address)

/-- The credential id goes before the community; one of the two is needed. -/
def setAccess (env : Env) (credentialId community : Text) (sess : Session) : Run Session :=
  if hasValue [] credentialId then orThrow [] (sess.setCredentialId env.lib env.wallet credentialId)
  else if hasValue [] community then pure (sess.setCommunity community)
  else raise "Credential or community must be set".toList

/-- The job as a task calls it: what it appends to the output, and how it ends. -/
def asTask {Event In α Out : Type} (job : In → Traced Event Stop α) (append : Out → α → Out) (input : In) (out : Out) :
    Out × Outcome Unit :=
  match (job input).result with
  | .ok value => (append out value, .ok ())
  | .error stop => (out, .error stop)

section AsTask

variable {Event In α Out : Type} {job job' : In → Traced Event Stop α} {append : Out → α → Out} {input : In} {out : Out}

theorem asTask_congr (same : (job input).result = (job' input).result) :
    asTask job append input out = asTask job' append input out := by
  rw [asTask, asTask, same]

theorem asTask_error {stop : Stop} (failed : (asTask job append input out).2 = .error stop) :
    (job input).result = .error stop := by
  unfold asTask at failed
  split at failed
  next => cases failed
  next reason ended =>
    rw [ended]
    exact congrArg Except.error (Except.error.inj failed)

end AsTask

theorem orThrow_eq_ok_iff {α : Type} {before : Text} {outcome : Outcome (Expected α)} {events : List Contact}
    {value : α} : orThrow before outcome = ⟨events, .ok value⟩ ↔ events = [] ∧ outcome = .ok (.ok value) := by
  unfold orThrow
  split
  next => simp [Traced.pure_eq_ok_iff]
  next => simp [raise, Traced.fail_ne_ok]
  next => simp [Traced.fail_ne_ok]

def StringUtils.plain : StringUtils where
  split line rex :=
    match Regex.fullMatch rex line with
    | some found => (Regex.capture found 1, Regex.capture found 2)
    | none => ([], [])
  convertInt text := .ok (if text.all Char.isDigit then Nat.ofDigitChars 10 text 0 else 0)
  split_eq _ _ := rfl
  convertInt_decimal n _ := by
    have digits : (Text.decimal n).all Char.isDigit = true :=
      List.all_eq_true.mpr (fun c member => Text.isDigit_of_mem_decimal member)
    rw [if_pos digits, Text.decimal, Nat.ofDigitChars_ten_toDigits]

def sampleEnv : Env where
  resolver := ⟨fun _ => some [⟨true, true⟩]⟩
  lib := sampleLib
  peer _ := (Network.lossless sampleAgent .v1 (.ok ()) noObject).peer
  wallet :=
    { socket := .ok ()
      document := fun _ => .ok (.snmpv1 "public".toList) }
  tryAll := true
  host :=
    { tempDir := some "/tmp/nut1".toList
      executable := fun _ => true
      start := fun _ => .ok ⟨.ok 0, "device.type: ups\n".toList, []⟩
      mibDatabase := "mibs".toList }
  utils := .plain
  mapping _ := none
  identity := ⟨Unit, fun _ => Vector.replicate 20 0, fun _ => (Vector.replicate 16 0, ())⟩

def probedEnv (objects : List Text) : Env :=
  { sampleEnv with
    lib := .loaded ((sysDescr, "SNMPv2-MIB::sysDescr.0".toList) ::
      objects.zipIdx.map (fun object => ([1, 3, 6, 1, 4, 1, object.2], object.1)))
    peer := fun _ =>
      { opens := .ok ()
        get := fun oid =>
          .success { errstat := 0, vars := [{ name := oid, type := .integer, val := 1, valLen := 4 }] } 0
        getNext := fun _ _ => .timeout (-24) }
    tryAll := false }

end FtyDiscovery.Jobs
