import FtyDiscovery.Base.Loop
import FtyDiscovery.Wallet

/-! An SNMP session: how it is set up, `read` of one object and `walk` over all of them.
The net-snmp library is outside: requests go to it, responses and texts come from it. -/

namespace FtyDiscovery.Snmp

open Base

abbrev Oid := List Nat

inductive Asn where
  | boolean
  | integer
  | counter
  | gauge
  | timeticks
  | uinteger
  | bitStr
  | octetStr
  | opaqueData
  | ipAddress
  | objectId
  | noSuchObject
  | noSuchInstance
  | endOfMibView
  | unknown
  deriving DecidableEq, Repr

/-- `netsnmp_variable_list`: `val` is the address that the members of the union hold. -/
structure Var where
  name : Oid
  type : Asn
  val : Nat := 0
  valLen : Nat := 0
  deriving DecidableEq, Repr

/-- `netsnmp_pdu` of a response, with the memory its variables point into. -/
structure Pdu where
  errstat : Nat
  vars : List Var
  memory : Nat → UInt8 := fun _ => 0

/-- `snmp_sess_synch_response`, with the `snmp_errno` it leaves. -/
inductive SynchResult where
  | success (response : Pdu) (errno : Int)
  | error (errno : Int)
  | timeout (errno : Int)

/-- What the session uses of the library. `snprintObjid` prints into the 255 bytes given to it, and
`generateKu` makes the key of a passphrase for a hash where there is room for so many bytes. -/
structure NetSnmp where
  parseOid : Text → Option Oid
  snprintObjid : Oid → Text
  errstring : Int → Text
  apiErrstring : Int → Text
  generateKu : Option AuthProtocol → Nat → Text → Option Text
  parseOid_root : parseOid ".1.3.6.1.2.1".toList = some [1, 3, 6, 1, 2, 1]

namespace NetSnmp

def parseNumeric (text : Text) : Option Oid :=
  ((text.splitOn '.').filter (fun part => !part.isEmpty)).mapM (fun part =>
    if part.all Char.isDigit then some (Nat.ofDigitChars 10 part 0) else none)

def printNumeric (oid : Oid) : Text := oid.flatMap (fun subid => '.' :: Text.decimal subid)

def usmAuthKuLen : Nat := 32

def usmPrivKuLen : Nat := 32

def usmLengthPMin : Nat := 8

def loaded (objects : List (Oid × Text)) : NetSnmp where
  parseOid text := (parseNumeric text).or ((objects.find? (fun object => object.2 = text)).map Prod.fst)
  snprintObjid oid := (objects.lookup oid).getD (printNumeric oid)
  errstring _ := "Unknown Error".toList
  apiErrstring _ := "Unknown Error".toList
  generateKu hashtype kulen passphrase :=
    if hashtype.isSome ∧ usmAuthKuLen ≤ kulen ∧ usmLengthPMin ≤ passphrase.length then some passphrase else none
  parseOid_root := by
    have parsed : parseNumeric ".1.3.6.1.2.1".toList = some [1, 3, 6, 1, 2, 1] := by decide
    rw [parsed, Option.some_or]

end NetSnmp

/-- The other end of an opened session; successive GETNEXT requests are numbered. -/
structure Peer where
  opens : Expected Unit
  get : Oid → SynchResult
  getNext : Nat → Oid → SynchResult

inductive Version where
  | v1
  | v3
  deriving DecidableEq, Repr

/-- `netsnmp_session`; a timeout is in microseconds. The two texts are what stands in front of the
terminator of their buffers, which need not be as long as the lengths say. A key is there once it is
generated; its length is the room for it before. -/
structure Session where
  peername : Text
  version : Option Version := none
  community : Text := []
  communityLen : Nat := 0
  securityName : Text := []
  securityNameLen : Nat := 0
  securityLevel : Option SecurityLevel := none
  securityAuthProto : Option AuthProtocol := none
  securityAuthKey : Option Text := none
  securityAuthKeyLen : Nat := 0
  securityPrivProto : Option PrivProtocol := none
  securityPrivKey : Option Text := none
  securityPrivKeyLen : Nat := 0
  retries : Nat := 1
  timeout : Nat := 500 * 1000
  deriving DecidableEq, Repr

def level : SecurityLevel → Expected SecurityLevel
  | .max => .error "No privs defined".toList
  | lvl => .ok lvl

def authProt : AuthProtocol → Expected AuthProtocol
  | .max => .error "Wrong protocol".toList
  | proc => .ok proc

def authPriv : PrivProtocol → Expected PrivProtocol
  | .max => .error "Wrong protocol".toList
  | proc => .ok proc

namespace Session

def create (addr : Text) (port : UInt16) : Session where
  peername := addr ++ ':' :: Text.decimal port.toNat

def setCommunity (community : Text) (sess : Session) : Session :=
  { sess with version := some .v1, community := cString community, communityLen := (cString community).length }

/-- A key and its length behind `generate_Ku`, which leaves both as they are where it fails. -/
def generateKey (lib : NetSnmp) (hashtype : Option AuthProtocol) (passphrase : Text) (key : Option Text) (len : Nat) :
    Option Text × Nat :=
  match lib.generateKu hashtype len passphrase with
  | some made => (some made, made.length)
  | none => (key, len)

/-- The SNMPv3 branch of `setCredentialId`: a part out of range is left unset, with no room for its key,
and a key that cannot be generated is only logged. -/
def setSnmpv3 (lib : NetSnmp) (credV3 : Snmpv3) (sess : Session) : Session :=
  let sess :=
    { sess with
      version := some .v3
      securityName := cString credV3.securityName
      securityNameLen := credV3.securityName.length }
  let sess := match level credV3.securityLevel with
    | .ok lvl => { sess with securityLevel := some lvl }
    | .error _ => sess
  let sess := match authProt credV3.authProtocol with
    | .ok prot => { sess with securityAuthProto := some prot, securityAuthKeyLen := NetSnmp.usmAuthKuLen }
    | .error _ => sess
  let sess := match authPriv credV3.privProtocol with
    | .ok prot => { sess with securityPrivProto := some prot, securityPrivKeyLen := NetSnmp.usmPrivKuLen }
    | .error _ => sess
  let auth :=
    generateKey lib sess.securityAuthProto credV3.authPassword sess.securityAuthKey sess.securityAuthKeyLen
  let priv :=
    generateKey lib sess.securityAuthProto credV3.privPassword sess.securityPrivKey sess.securityPrivKeyLen
  { sess with
    securityAuthKey := auth.1
    securityAuthKeyLen := auth.2
    securityPrivKey := priv.1
    securityPrivKeyLen := priv.2 }

/-- Only the exception of the wallet is caught; an unknown document leaves the session as it is. -/
def setCredentialId (lib : NetSnmp) (wallet : Wallet) (credId : Text) (sess : Session) :
    Outcome (Expected Session) :=
  match wallet.socket.bind (fun _ => wallet.document credId) with
  | .ok (.snmpv3 credV3) => .ok (.ok (sess.setSnmpv3 lib credV3))
  | .ok (.snmpv1 communityName) =>
      .ok (.ok
        { sess with
          version := some .v1
          community := cString communityName
          communityLen := communityName.length })
  | .ok _ => .ok (.ok sess)
  | .error (.secw what) => .ok (.error (cString what))
  | .error exn => .error (.thrown exn)

def setTimeout (milliseconds : UInt32) (sess : Session) : Session :=
  { sess with timeout := milliseconds.toNat * 1000 }

end Session

def decimalInt (n : Int) : Text :=
  if n < 0 then '-' :: Text.decimal n.natAbs else Text.decimal n.natAbs

def bytesAt (memory : Nat → UInt8) (address length : Nat) : List UInt8 :=
  (List.range length).map (fun i => memory (address + i))

/-- One sub-identifier in memory, eight bytes with the lowest first. -/
def subidAt (memory : Nat → UInt8) (address : Nat) : Nat :=
  (bytesAt memory address 8).foldr (fun byte high => byte.toNat + 256 * high) 0

def readObjName (lib : NetSnmp) (memory : Nat → UInt8) (lst : Var) : Text :=
  lib.snprintObjid ((List.range (lst.valLen / 8)).map (fun i => subidAt memory (lst.val + 8 * i)))

/-- For the integer types the pointer itself is converted. -/
def readVal (lib : NetSnmp) (memory : Nat → UInt8) (lst : Var) : Expected Text :=
  match lst.type with
  | .boolean | .integer | .counter | .gauge | .timeticks | .uinteger =>
      .ok (decimalInt (BitVec.ofNat 64 lst.val).toInt)
  | .bitStr | .octetStr | .opaqueData =>
      .ok ((bytesAt memory lst.val lst.valLen).map (fun byte => Char.ofNat byte.toNat))
  | .ipAddress =>
      .ok (['.'].intercalate ((bytesAt memory lst.val 4).map (fun byte => Text.decimal byte.toNat)))
  | .objectId => .ok (readObjName lib memory lst)
  | _ => .error "Unsupported type or null value".toList

/-- An empty value ends like a failed request: the error made for it is not returned. -/
def read (lib : NetSnmp) (peer : Peer) (stroid : Text) : Outcome (Expected Text) :=
  match lib.parseOid stroid with
  | none => .ok (.error ("Cannot parse OID '".toList ++ stroid ++ "'".toList))
  | some name =>
      match peer.get name with
      | .success response errno =>
          if response.errstat = 0 then
            match response.vars with
            | [] => .error .undefined
            | first :: _ =>
                if first.valLen > 0 then .ok (readVal lib response.memory first)
                else .ok (.error (lib.apiErrstring errno))
          else .ok (.error (lib.errstring response.errstat))
      | .error errno | .timeout errno => .ok (.error (lib.apiErrstring errno))

structure Walking where
  sent : Nat
  name : Oid
  calls : List Text
  deriving DecidableEq, Repr

structure Walked where
  calls : List Text
  result : Expected Unit
  deriving DecidableEq

def Var.Ends (var : Var) : Prop :=
  var.type = .endOfMibView ∨ var.type = .noSuchObject ∨ var.type = .noSuchInstance

instance (var : Var) : Decidable var.Ends := by unfold Var.Ends; infer_instance

/-- The variables of one response: what `func` is called with, and the name to go on from.
The break on the end of the view leaves this loop only. -/
def scan (lib : NetSnmp) : List Var → Oid → List Text × Oid
  | [], name => ([], name)
  | var :: vars, name =>
      if var.Ends then ([lib.snprintObjid var.name], name)
      else
        let rest := scan lib vars var.name
        (lib.snprintObjid var.name :: rest.1, rest.2)

def walkBody (lib : NetSnmp) (peer : Peer) (walking : Walking) : Walking ⊕ Walked :=
  match peer.getNext walking.sent walking.name with
  | .error errno => .inr ⟨walking.calls, .error (lib.errstring errno)⟩
  | .success response _ =>
      if response.errstat = 0 then
        let scanned := scan lib response.vars walking.name
        .inl ⟨walking.sent + 1, scanned.2, walking.calls ++ scanned.1⟩
      else .inr ⟨walking.calls, .ok ()⟩
  | .timeout _ => .inr ⟨walking.calls, .ok ()⟩

/-- The walk while at most so many requests are sent. -/
def walk (lib : NetSnmp) (peer : Peer) (requests : Nat) : Walking ⊕ Walked :=
  match lib.parseOid ".1.3.6.1.2.1".toList with
  | none => .inr ⟨[], .error "Cannot parse root OID '.1.3.6.1.2.1'".toList⟩
  | some root => Loop.run (walkBody lib peer) requests ⟨0, root, []⟩

end FtyDiscovery.Snmp
