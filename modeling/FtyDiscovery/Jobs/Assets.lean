import FtyDiscovery.Jobs.Environment

/-! The job that runs a NUT driver and makes assets of what the driver prints. -/

namespace FtyDiscovery.Jobs.Assets

open Base Snmp Commands.Assets

/-- `[a-z0-9\.]`. -/
def keyChar (c : Char) : Bool := ('a' ≤ c && c ≤ 'z') || c.isDigit || c = '.'

/-- `([a-z0-9\.]+)\s*:\s+(.*)`. -/
def lineRex : Regex.Pattern Char :=
  .seq (.group 1 (Regex.plus keyChar)) (.seq (.many Text.isSpace) (.seq (Regex.literal [':'])
    (.seq (Regex.plus Text.isSpace) (.group 2 (.many Text.notLineEnd)))))

abbrev Dump := Std.ExtTreeMap Text Text

/-- One line of a dump: the first value of a key stays. -/
def readLine (utils : StringUtils) (tmpMap : Dump) (line : Text) : Dump :=
  let split := utils.split line lineRex
  tmpMap.insertIfNew split.1 split.2

def readDump (utils : StringUtils) (cnt : Text) : Dump :=
  (Text.getlines cnt).foldl (readLine utils) ∅

def addAssetVal (key val : Text) (readOnly : Bool) (ext : List Attr) : List Attr :=
  ext ++ [{ key := key, val := val, readOnly := readOnly }]

/-- The entries under a prefix that the mapper knows; the single device has the empty prefix. -/
def mappedAttrs (mapping : Nut.Mapping) (devicePrefix : Text) (entries : List (Text × Text)) : List Attr :=
  entries.filterMap (fun p =>
    if Text.find devicePrefix p.1 ≠ some 0 then none
    else
      let key := Nut.Mapper.mapKey mapping (p.1.drop devicePrefix.length)
      if key.isEmpty then none else some { key := key, val := p.2, readOnly := true })

def findVal (ext : List Attr) (key : Text) : Option Text :=
  (ext.find? (fun info => info.key = key)).map (fun info => info.val)

def enrichSubtype (ext : List Attr) (subtype : Text) : Text :=
  let subtype := if subtype.isEmpty then (findVal ext "device.type".toList).getD subtype else subtype
  let subtype := if subtype = "pdu".toList then "epdu".toList else subtype
  if subtype = "ats".toList then "sts".toList else subtype

def addEndpoint (params : In) (subAddress : Text) (ext : List Attr) : List Attr :=
  let ext := addAssetVal "ip.1".toList params.address false ext
  let ext := addAssetVal "endpoint.1.protocol".toList params.protocol false ext
  let ext := addAssetVal "endpoint.1.port".toList (Text.decimal params.port.toNat) false ext
  let ext := addAssetVal "endpoint.1.sub_address".toList subAddress false ext
  let ext := addAssetVal "endpoint.1.status.operating".toList "IN_SERVICE".toList false ext
  addAssetVal "endpoint.1.status.error_msg".toList [] false ext

def uuidVal (identity : Identity) (ext : List Attr) (random : identity.State) : Text × identity.State :=
  match findVal ext "manufacturer".toList, findVal ext "model".toList, findVal ext "serial_no".toList with
  | some manufacturer, some model, some serial =>
      Uuid.generateUUID identity manufacturer model serial random
  | _, _, _ => ([], random)

def addMaxPower (ext : List Attr) : List Attr :=
  match findVal ext "realpower.nominal".toList with
  | some power => addAssetVal "max_power".toList power false ext
  | none =>
      match findVal ext "realpower.default.nominal".toList with
      | some power => addAssetVal "max_power".toList power false ext
      | none => ext

def addSetting (key setting : Text) (ext : List Attr) : List Attr :=
  if hasValue [] setting then addAssetVal key setting false ext else ext

def addSettings (params : In) (ext : List Attr) : List Attr :=
  if params.protocol = "nut_snmp".toList then
    let ext := addSetting "endpoint.1.nut_snmp.secw_credential_id".toList params.settings.credentialId ext
    let ext := addSetting "endpoint.1.nut_snmp.community".toList params.settings.community ext
    addSetting "endpoint.1.nut_snmp.MIB".toList params.settings.mib ext
  else ext

def addDaisyChain (subtype subAddress : Text) (ext : List Attr) : List Attr :=
  if subtype = "epdu".toList then
    addAssetVal "daisy_chain".toList (if subAddress.isEmpty then "0".toList else subAddress) true ext
  else ext

def enrichAsset (identity : Identity) (params : In) (ret : Return) (random : identity.State) :
    Return × identity.State :=
  let subtype := enrichSubtype ret.asset.ext ret.asset.subtype
  let ext := addEndpoint params ret.subAddress ret.asset.ext
  let uuid := uuidVal identity ext random
  let ext := addAssetVal "uuid".toList uuid.1 false ext
  let ext := addDaisyChain subtype ret.subAddress (addSettings params (addMaxPower ext))
  ({ ret with asset := { ret.asset with subtype := subtype, ext := ext } }, uuid.2)

def deviceAsset (mapping : Nut.Mapping) (tmpMap : Dump) (deviceType subAddress devicePrefix : Text) : Return where
  subAddress := subAddress
  asset :=
    { type := "device".toList
      subtype := deviceType
      ext := mappedAttrs mapping devicePrefix tmpMap.toList }

def devicePrefix (i : Nat) : Text := "device.".toList ++ Text.decimal i ++ ['.']

def chain (env : Env) (params : In) (tmpMap : Dump) (deviceType : Text) :
    Nat → Nat → env.identity.State → Out × env.identity.State
  | _, 0, random => ([], random)
  | i, left + 1, random =>
      let asset := enrichAsset env.identity params
        (deviceAsset env.mapping tmpMap deviceType (Text.decimal (i + 1)) (devicePrefix (i + 1))) random
      let rest := chain env params tmpMap deviceType (i + 1) left asset.2
      (asset.1 :: rest.1, rest.2)

/-- `parse`: the assets it appends. -/
def parse (env : Env) (params : In) (cnt : Text) (random : env.identity.State) :
    Outcome (Out × env.identity.State) :=
  let tmpMap := readDump env.utils cnt
  let deviceType := tmpMap.getD "device.type".toList []
  match (tmpMap["device.count".toList]?).elim (.ok 0) env.utils.convertInt with
  | .error exn => .error (.thrown exn)
  | .ok dcount =>
      if dcount > 1 then .ok (chain env params tmpMap deviceType 0 dcount.toNat random)
      else
        let asset := enrichAsset env.identity params (deviceAsset env.mapping tmpMap deviceType [] []) random
        .ok ([asset.1], asset.2)

def settlePort (params : In) : In := if hasValue 0 params.port then params else { params with port := 161 }

def settleMib (params : In) (mibs : MibsReader.MibList) : Run In :=
  if hasValue [] params.settings.mib then pure params
  else
    match mibs.toList with
    | first :: _ => pure { params with settings := { params.settings with mib := first } }
    | [] => Traced.fail .undefined

def checkSnmp (env : Env) (requests : Nat) (params : In) : Run In := do
  let sess ← setAccess env params.settings.credentialId params.settings.community
    (Session.create params.address params.port.toUInt16)
  Traced.emit (.session sess)
  let mibs ← orThrow [] (MibsReader.read env.lib (env.peer sess) false env.tryAll requests)
  settleMib params mibs

def settle (env : Env) (requests : Nat) (params : In) : Run In :=
  if params.protocol = "nut_snmp".toList then checkSnmp env requests (settlePort params) else pure params

/-- The credentials go before the community. -/
def driverAccess (env : Env) (settings : Settings) (proc : Nut.Process) : Run Nut.Process :=
  if hasValue [] settings.credentialId then orThrow [] (proc.setCredentialId env.wallet settings.credentialId)
  else if hasValue [] settings.community then orThrow [] (.ok (proc.setCommunity settings.community))
  else pure proc

/-- What the set-up of the user returns is not looked at. -/
def driverUser (settings : Settings) (proc : Nut.Process) : Run Nut.Process :=
  if hasValue [] settings.username && hasValue [] settings.password then
    Traced.lift ((proc.setCredential settings.username settings.password).map
      (fun set => set.toOption.getD proc))
  else pure proc

/-- What the set-ups of the timeout and the MIB return is not looked at. -/
def driverOptions (settings : Settings) (proc : Nut.Process) : Nut.Process :=
  let proc :=
    if hasValue 1000 settings.timeout then (proc.setTimeout settings.timeout).toOption.getD proc else proc
  if hasValue [] settings.mib then (proc.setMib settings.mib).toOption.getD proc else proc

def setUp (env : Env) (params : In) : Run Nut.Process := do
  let proc ← orThrow []
    (.ok ((Nut.Process.create env.host params.protocol).init env.host params.address params.port.toUInt16))
  let proc ← driverAccess env params.settings proc
  let proc ← driverUser params.settings proc
  return driverOptions params.settings proc

def launch (proc : Nut.Process) : Run Unit :=
  match proc.process with
  | some command => Traced.emit (.driver command)
  | none => pure ()

/-- `run` up to what the driver printed, with the settled request. -/
def dump (env : Env) (requests : Nat) (input : In) : Run (In × Text) := do
  checkHost env input.address
  let params ← settle env requests input
  let proc ← setUp env params
  launch proc
  let cnt ← orThrow [] (proc.run env.host)
  return (params, cnt)

/-- `run` but for the log of the dump; `logged` has that as well. -/
def run (env : Env) (requests : Nat) (random : env.identity.State) (input : In) :
    Run (Out × env.identity.State) := do
  let read ← dump env requests input
  Traced.lift (parse env read.1 read.2 random)

theorem run_eq (env : Env) (requests : Nat) (random : env.identity.State) (input : In) :
    run env requests random input = (do
      checkHost env input.address
      let params ← settle env requests input
      let proc ← setUp env params
      launch proc
      let cnt ← orThrow [] (proc.run env.host)
      Traced.lift (parse env params cnt random)) := by
  simp only [run, dump, Traced.bind_assoc, Traced.pure_bind]

def deviceStart (count k : Nat) : Text := if 1 < count then devicePrefix (k + 1) else []

def device (env : Env) (tmpMap : Dump) (count k : Nat) : Return :=
  deviceAsset env.mapping tmpMap (tmpMap.getD "device.type".toList [])
    (if 1 < count then Text.decimal (k + 1) else []) (deviceStart count k)

theorem chain_assets (env : Env) (params : In) (tmpMap : Dump) (deviceType : Text) (i left : Nat)
    (random : env.identity.State) :
    (chain env params tmpMap deviceType i left random).1.length = left ∧
      ∀ k < left, ∃ state, (chain env params tmpMap deviceType i left random).1[k]? =
        some (enrichAsset env.identity params (deviceAsset env.mapping tmpMap deviceType
          (Text.decimal (i + k + 1)) (devicePrefix (i + k + 1))) state).1 := by
  induction left generalizing i random with
  | zero => exact ⟨rfl, fun k less => (Nat.not_lt_zero k less).elim⟩
  | succ left ih =>
    obtain ⟨length, assets⟩ := ih (i + 1) (enrichAsset env.identity params
      (deviceAsset env.mapping tmpMap deviceType (Text.decimal (i + 1)) (devicePrefix (i + 1))) random).2
    refine ⟨congrArg (fun n => n + 1) length, fun k less => ?_⟩
    cases k with
    | zero => exact ⟨random, rfl⟩
    | succ k =>
      obtain ⟨state, found⟩ := assets k (by omega)
      rw [Nat.add_right_comm i 1 k] at found
      exact ⟨state, found⟩

theorem parse_ok {env : Env} {params : In} {cnt : Text} {random : env.identity.State}
    {out : Out × env.identity.State} (ok : parse env params cnt random = .ok out) :
    ∀ k ret, out.1[k]? = some ret → ∃ state,
      ret = (enrichAsset env.identity params (device env (readDump env.utils cnt) out.1.length k) state).1 := by
  unfold parse at ok
  simp only at ok
  split at ok
  next => cases ok
  next dcount _ =>
    intro k ret found
    split at ok
    next several =>
      obtain rfl := Except.ok.inj ok
      obtain ⟨length, assets⟩ := chain_assets env params (readDump env.utils cnt)
        ((readDump env.utils cnt).getD "device.type".toList []) 0 dcount.toNat random
      have within := (List.getElem?_eq_some_iff.mp found).1
      obtain ⟨state, here⟩ := assets k (length ▸ within)
      have many : 1 < dcount.toNat := by omega
      refine ⟨state, ?_⟩
      rw [here] at found
      rw [length, ← Option.some.inj found, device, deviceStart, if_pos many, if_pos many, Nat.zero_add]
    next =>
      obtain rfl := Except.ok.inj ok
      cases k with
      | zero => exact ⟨random, (Option.some.inj found).symm⟩
      | succ k => cases found

end FtyDiscovery.Jobs.Assets
