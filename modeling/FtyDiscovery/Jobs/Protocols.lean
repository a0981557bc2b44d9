import FtyDiscovery.Jobs.Environment
import FtyDiscovery.Neon.Deserialize
import FtyDiscovery.Neon.Get

/-! The job that tries out which protocols an endpoint supports. -/

namespace FtyDiscovery.Jobs.Protocols

open Base Neon Commands.Protocols

/-- What `poll` comes to. `SO_ERROR` of a socket that is ready may not be readable. -/
inductive Polled where
  | ready (soError : Except Int Int)
  | timedOut
  | failed (errno : Int)

/-- A socket for datagrams to one address: what the calls on it come to, an error being its `errno`,
and the `errno` there was before. -/
structure Datagrams where
  errno : Int := 0
  socket : Except Int Unit := .ok ()
  connect : Except Int Unit := .ok ()
  polled : Polled := .timedOut
  write : Nat → Int := fun _ => 1

/-- The network, and the libraries that read what comes from it. `http` is told the host of the
session and the path of the request, `datagrams` the host and the port. -/
structure Network where
  resolver : Resolver
  http : Text → Text → Nat → Attempt
  datagrams : Text → Text → Expected Datagrams
  strerror : Int → Text
  moves : Vectors.Policy
  parseXml : Text → List Callback
  deviceType : Text → Expected Text
  serialize : Out → Expected Text

inductive Visit where
  | http (host path : Text)
  | datagrams (host : Text)
  deriving DecidableEq, Repr

def Visit.host : Visit → Text
  | .http host _ => host
  | .datagrams host => host

abbrev Visiting (α : Type) := Traced Visit Stop α

def getPage (net : Network) (attempts : Nat) (address path : Text) : Visiting (Expected Text) := do
  let host := cString address
  let rpath := cString ('/' :: path)
  Traced.emit (.http host rpath)
  match Neon.get (net.http host rpath) attempts with
  | .inl _ => Traced.fail .running
  | .inr content => return content

def pageFields : Fields :=
  .value "a::url".toList (.value "a::security".toList (.value "a::mode".toList .nil))

def summaryFields : Fields :=
  .node "XML_SUMMARY_PAGE".toList pageFields
    (.node "CENTRAL_CFG".toList pageFields (.node "CSV_LOGS".toList pageFields .nil))

def productFields : Fields :=
  .value "a::name".toList (.value "a::type".toList (.value "a::version".toList
    (.value "a::protocol".toList (.node "SUMMARY".toList summaryFields .nil))))

def propertiesFields : Fields :=
  .value "a::authentication".toList
    (.list "OBJECT".toList (.value "a::name".toList (.value "cdata".toList .nil)) .nil)

structure ProductInfo where
  name : Text
  protocol : Text
  url : Text
  deriving DecidableEq, Repr

def ProductInfo.ofFilled : Filled → ProductInfo
  | .value name (.value _ (.value _ (.value protocol (.node (.node (.value url _) _) _)))) => ⟨name, protocol, url⟩
  | _ => ⟨[], [], []⟩

def getXml (net : Network) (attempts : Nat) (address : Text) (fields : Fields) (uri : Text) :
    Visiting (Expected Filled) := do
  match ← getPage net attempts address uri with
  | .error failed => return .error failed
  | .ok cnt =>
    match deserialize net.moves (net.parseXml cnt) fields with
    | none => Traced.fail .undefined
    | some info => return .ok info

def tryXmlPdc (net : Network) (attempts : Nat) (input : In) : Visiting (Expected Unit) := do
  match ← getXml net attempts input.address productFields "product.xml".toList with
  | .error failed => return .error failed
  | .ok filled =>
    let prod := ProductInfo.ofFilled filled
    if ¬(prod.name = "Network Management Card".toList ∨ prod.name = "HPE UPS Network Module".toList) then
      return .error "unsupported card type".toList
    else if prod.protocol = "XML.V4".toList then return .error "unsupported XML.V4".toList
    else
      let props ← getXml net attempts input.address propertiesFields prod.url
      return props.map (fun _ => ())

def ETIMEDOUT : Int := 110

def EINPROGRESS : Int := 115

/-- The result, and the `errno` behind it. Only a poll that fails is an error: what the connection
came to is left in `errno`. -/
def timeoutConnect (sock : Datagrams) : Expected Unit × Int :=
  match sock.connect with
  | .ok () => (.ok (), sock.errno)
  | .error errno =>
      if errno = EINPROGRESS then
        match sock.polled with
        | .ready (.ok optval) => (.ok (), optval)
        | .ready (.error failed) => (.ok (), failed)
        | .timedOut => (.ok (), ETIMEDOUT)
        | .failed failed => (.error "poll failed".toList, failed)
      else (.ok (), errno)

/-- What `trySnmp` does with its socket. The result of `timeoutConnect` compared with zero is true of
an error; four bytes are written, and the last one decides. -/
def trySocket (strerror : Int → Text) (sock : Datagrams) : Expected Unit :=
  match sock.socket with
  | .error errno => .error (strerror errno)
  | .ok () =>
    match timeoutConnect sock with
    | (.error _, errno) => .error (strerror errno)
    | (.ok (), _) =>
      let ret := (List.range 4).foldl (fun (_ : Int) i => if sock.write i = 1 then 1 else -1) 1
      if ret = -1 then .error "cannot write".toList else .ok ()

def trySnmp (net : Network) (input : In) : Visiting (Expected Unit) := do
  let host := cString input.address
  Traced.emit (.datagrams host)
  return (net.datagrams host "161".toList).bind (trySocket net.strerror)

def notSupported (what : Text) : Text := "not supported device (".toList ++ what ++ ")".toList

/-- An exception of the YAML library is an error with its text. -/
def tryPowercom (net : Network) (attempts : Nat) (input : In) : Visiting (Expected Unit) := do
  match ← getPage net attempts input.address "etn/v1/comm/services/powerdistributions1".toList with
  | .error failed => return .error failed
  | .ok content =>
    match net.deviceType content with
    | .error what => return .error (notSupported (cString what))
    | .ok deviceType =>
      if deviceType = "ups".toList ∨ deviceType = "ats".toList then return .ok ()
      else return .error (notSupported deviceType)

inductive ProtocolType where
  | powercom
  | xml
  | snmp
  deriving DecidableEq, Repr

namespace ProtocolType

def value : ProtocolType → Nat
  | powercom => 1
  | xml => 2
  | snmp => 3

def name : ProtocolType → Text
  | snmp => "nut_snmp".toList
  | xml => "nut_xml_pdc".toList
  | powercom => "nut_powercom".toList

end ProtocolType

def sortProtocols (protocols : List ProtocolType) : List ProtocolType :=
  protocols.insertionSort (fun l r => l.value ≤ r.value)

def found (type : ProtocolType) : Expected Unit → List ProtocolType
  | .ok () => [type]
  | .error _ => []

def checkHost (net : Network) (address : Text) : Visiting Unit :=
  if available net.resolver address then pure ()
  else Traced.fail (jobError (notAvailable address))

def run (net : Network) (attempts : Nat) (input : In) : Visiting Out :=
  if input.address = "__fake__".toList then pure ["nut_snmp".toList, "nut_xml_pdc".toList]
  else do
    checkHost net input.address
    let xml ← tryXmlPdc net attempts input
    let snmp ← trySnmp net input
    let powercom ← tryPowercom net attempts input
    let protocols := sortProtocols (found .xml xml ++ found .snmp snmp ++ found .powercom powercom)
    let out := protocols.map ProtocolType.name
    let _ ← Traced.lift (deref (net.serialize out))
    return out

variable {net : Network} {attempts : Nat} {input : In} {visit : Visit}

theorem getPage_host {address path : Text} (made : visit ∈ (getPage net attempts address path).events) :
    visit.host = cString address := by
  unfold getPage at made
  rcases Traced.mem_bind_iff.mp made with here | ⟨_, -, late⟩
  · obtain rfl := List.mem_singleton.mp here
    rfl
  · split at late <;> cases late

theorem getXml_host {address uri : Text} {fields : Fields}
    (made : visit ∈ (getXml net attempts address fields uri).events) : visit.host = cString address := by
  unfold getXml at made
  rcases Traced.mem_bind_iff.mp made with here | ⟨page, -, late⟩
  · exact getPage_host here
  · split at late
    next => cases late
    next => split at late <;> cases late

theorem tryXmlPdc_host (made : visit ∈ (tryXmlPdc net attempts input).events) :
    visit.host = cString input.address := by
  unfold tryXmlPdc at made
  rcases Traced.mem_bind_iff.mp made with here | ⟨page, -, made⟩
  · exact getXml_host here
  · split at made
    next => cases made
    next =>
      simp only at made
      split at made
      next => cases made
      next =>
        split at made
        next => cases made
        next =>
          rcases Traced.mem_bind_iff.mp made with here | ⟨_, -, late⟩
          · exact getXml_host here
          · cases late

theorem trySnmp_host (made : visit ∈ (trySnmp net input).events) : visit.host = cString input.address := by
  unfold trySnmp at made
  rcases Traced.mem_bind_iff.mp made with here | ⟨_, -, late⟩
  · obtain rfl := List.mem_singleton.mp here
    rfl
  · cases late

theorem tryPowercom_host (made : visit ∈ (tryPowercom net attempts input).events) :
    visit.host = cString input.address := by
  unfold tryPowercom at made
  rcases Traced.mem_bind_iff.mp made with here | ⟨page, -, late⟩
  · exact getPage_host here
  · split at late
    next => cases late
    next =>
      split at late
      next => cases late
      next => split at late <;> cases late

theorem run_host (made : visit ∈ (run net attempts input).events) : visit.host = cString input.address := by
  unfold run at made
  split at made
  next => cases made
  next =>
    rcases Traced.mem_bind_iff.mp made with early | ⟨_, -, made⟩
    · unfold checkHost at early
      split at early <;> cases early
    rcases Traced.mem_bind_iff.mp made with xml | ⟨_, -, made⟩
    · exact tryXmlPdc_host xml
    rcases Traced.mem_bind_iff.mp made with snmp | ⟨_, -, made⟩
    · exact trySnmp_host snmp
    rcases Traced.mem_bind_iff.mp made with powercom | ⟨_, -, made⟩
    · exact tryPowercom_host powercom
    rcases Traced.mem_bind_iff.mp made with late | ⟨_, -, late⟩
    · cases late
    · cases late

theorem run_first (other : input.address ≠ "__fake__".toList) (found : available net.resolver input.address = true) :
    .http (cString input.address) "/product.xml".toList ∈ (run net attempts input).events := by
  rw [run, if_neg other]
  refine Traced.mem_bind_iff.mpr (.inr ⟨(), ?_, Traced.mem_bind_iff.mpr (.inl ?_)⟩)
  · rw [checkHost, if_pos found]
    rfl
  · exact Traced.mem_bind_iff.mpr (.inl (Traced.mem_bind_iff.mpr (.inl (Traced.mem_bind_iff.mpr
      (.inl List.mem_cons_self)))))

end FtyDiscovery.Jobs.Protocols
