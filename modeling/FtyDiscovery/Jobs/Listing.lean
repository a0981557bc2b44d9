import FtyDiscovery.Jobs.Protocols
import FtyDiscovery.Neon.FlatTargets
import FtyDiscovery.Nut.Calls

/-! What the job lists: the pages of a device as the documents they are, and the protocols that the
device supports in the order of preference. -/

namespace FtyDiscovery.Jobs.Protocols

open Base Neon Commands.Protocols

def ProductInfo.ofDocument (doc : Neon.Document) : ProductInfo where
  name := doc.attr "name".toList
  protocol := doc.attr "protocol".toList
  url := ((doc.first "SUMMARY".toList).bind (fun summary => summary.first "XML_SUMMARY_PAGE".toList)).elim []
    (fun page => page.attr "url".toList)

theorem ofFilled_fill (doc : Neon.Document) : ProductInfo.ofFilled (doc.fill productFields) = .ofDocument doc := by
  have name := value_attr doc "name".toList
  have protocol := value_attr doc "protocol".toList
  have summary := @firstChild_element doc "SUMMARY".toList (by decide) (by decide)
  rw [ProductInfo.ofDocument, ← name, ← protocol, ← summary]
  cases found : doc.firstChild "SUMMARY".toList with
  | none =>
    simp only [productFields, Neon.Document.fill, found, Option.elim_none, Option.bind_none]
    rfl
  | some inside =>
    have page := @firstChild_element inside "XML_SUMMARY_PAGE".toList (by decide) (by decide)
    rw [Option.bind_some, ← page]
    cases below : inside.firstChild "XML_SUMMARY_PAGE".toList with
    | none =>
      simp only [productFields, summaryFields, Neon.Document.fill, found, below, Option.elim_some, Option.elim_none]
      rfl
    | some summaryPage =>
      rw [Option.elim_some, ← value_attr summaryPage "url".toList]
      simp only [productFields, summaryFields, pageFields, Neon.Document.fill, found, below, Option.elim_some]
      rfl

/-- The product page as far as it was delivered; without its first tag nothing is known. -/
def ProductInfo.ofCut (doc : Neon.Document) : Nat → ProductInfo
  | 0 => ⟨[], [], []⟩
  | n + 1 => .ofDocument (doc.cut n)

theorem ofFilled_fillCut (doc : Neon.Document) (n : Nat) :
    ProductInfo.ofFilled (doc.fillCut productFields n) = .ofCut doc n := by
  cases n with
  | zero => rfl
  | succ n => exact ofFilled_fill (doc.cut n)

def page (net : Network) (attempts : Nat) (address path : Text) : Getting ⊕ Expected Text :=
  Neon.get (net.http (cString address) (cString ('/' :: path))) attempts

def judged (info : ProductInfo) (properties : Text → Getting ⊕ Expected Text) : Outcome (Expected Unit) :=
  if ¬(info.name = "Network Management Card".toList ∨ info.name = "HPE UPS Network Module".toList) then
    .ok (.error "unsupported card type".toList)
  else if info.protocol = "XML.V4".toList then .ok (.error "unsupported XML.V4".toList)
  else
    match properties info.url with
    | .inl _ => .error .running
    | .inr content => .ok (content.map (fun _ => ()))

/-- Every text is read as a document, to its end or to where it breaks off. -/
def Parses (net : Network) : Prop :=
  ∀ cnt, ∃ (doc : Neon.Document) (n : Nat), net.parseXml cnt = doc.content.callbacks.take n

variable {net : Network} {attempts : Nat} {input : In}

theorem getPage_result (address path : Text) : (getPage net attempts address path).result =
    match page net attempts address path with
    | .inl _ => .error .running
    | .inr content => .ok content := by
  unfold getPage page
  simp only [Traced.result_bind, Traced.emit]
  cases Neon.get (net.http (cString address) (cString ('/' :: path))) attempts <;> rfl

theorem getXml_result {address uri : Text} {fields : Fields} (flat : fields.flat = true) :
    (∀ failed, page net attempts address uri = .inr (.error failed) →
        (getXml net attempts address fields uri).result = .ok (.error failed)) ∧
      ∀ cnt (doc : Neon.Document) n, page net attempts address uri = .inr (.ok cnt) →
        net.parseXml cnt = doc.content.callbacks.take n →
          (getXml net attempts address fields uri).result = .ok (.ok (doc.fillCut fields n)) := by
  constructor
  · intro failed got
    rw [getXml, Traced.result_bind, getPage_result, got]
    rfl
  · intro cnt doc n got parsed
    rw [getXml, Traced.result_bind, getPage_result, got]
    simp only [Except.bind, parsed, flat_fills net.moves doc flat n]
    rfl

theorem tryXmlPdc_result (parses : Parses net) {cnt : Text} {doc : Neon.Document} {n : Nat}
    (got : page net attempts input.address "product.xml".toList = .inr (.ok cnt))
    (parsed : net.parseXml cnt = doc.content.callbacks.take n) :
    (tryXmlPdc net attempts input).result = judged (.ofCut doc n) (page net attempts input.address) := by
  have flat : productFields.flat = true := by decide
  have product := (getXml_result flat).2 cnt doc n got parsed
  rw [tryXmlPdc, Traced.result_bind, product]
  simp only [Except.bind, ofFilled_fillCut]
  unfold judged
  split
  next => rfl
  next =>
    split
    next => rfl
    next =>
      have flat : propertiesFields.flat = true := by decide
      rw [Traced.result_bind]
      cases properties : page net attempts input.address (ProductInfo.ofCut doc n).url with
      | inl getting =>
        rw [getXml, Traced.result_bind, getPage_result, properties]
        rfl
      | inr content =>
        cases content with
        | error failed =>
          rw [(getXml_result flat).1 failed properties]
          rfl
        | ok cnt' =>
          obtain ⟨doc', n', parsed'⟩ := parses cnt'
          rw [(getXml_result flat).2 cnt' doc' n' properties parsed']
          rfl

/-- The probe judges a device by the document that its product page is, or by as much of it as there
is, and the page of the properties is read completely: no pointer into the nodes of a page is stale. -/
theorem device_judged (parses : Parses net) {cnt : Text} {doc : Neon.Document} {n : Nat}
    (got : page net attempts input.address "product.xml".toList = .inr (.ok cnt))
    (parsed : net.parseXml cnt = doc.content.callbacks.take n) :
    (tryXmlPdc net attempts input).result = judged (.ofCut doc n) (page net attempts input.address) ∧
      ∀ uri cnt' (doc' : Neon.Document) n', page net attempts input.address uri = .inr (.ok cnt') →
        net.parseXml cnt' = doc'.content.callbacks.take n' →
          (getXml net attempts input.address propertiesFields uri).result =
            .ok (.ok (doc'.fillCut propertiesFields n')) := by
  have flat : propertiesFields.flat = true := by decide
  exact ⟨tryXmlPdc_result parses got parsed, fun uri => (getXml_result flat).2⟩

def cardPage : Neon.Document where
  name := "PRODUCT_INFO".toList
  attrs := [("name".toList, "Network Management Card".toList), ("protocol".toList, "XML.V3".toList)]
  inner := .element "SUMMARY".toList []
    (.element "XML_SUMMARY_PAGE".toList [("url".toList, "upsprop.xml".toList)] .nil .nil) .nil

def brokenNet : Network where
  resolver := ⟨fun _ => some [⟨true, true⟩]⟩
  http _ path _ := { blocks := [.bytes path] }
  datagrams _ _ := .error "Name or service not known".toList
  strerror _ := "Unknown error".toList
  moves := Vectors.doubling
  parseXml content := if content = "/product.xml".toList then cardPage.content.callbacks.take 3 else []
  deviceType _ := .error "bad conversion".toList
  serialize _ := .ok "[]".toList

theorem brokenNet_parses : Parses brokenNet := by
  intro cnt
  by_cases product : cnt = "/product.xml".toList
  · exact ⟨cardPage, 3, if_pos product⟩
  · exact ⟨cardPage, 0, if_neg product⟩

theorem brokenNet_judged : (tryXmlPdc brokenNet 1 { address := "ups".toList }).result =
    judged (.ofCut cardPage 3) (page brokenNet 1 "ups".toList) :=
  (device_judged brokenNet_parses rfl rfl).1

def Gets (net : Network) (attempts : Nat) (address : Text) : Prop :=
  ∀ path, ∃ content, page net attempts address path = .inr content

theorem tryXmlPdc_returns (parses : Parses net) (gets : Gets net attempts input.address) :
    ∃ outcome, (tryXmlPdc net attempts input).result = .ok outcome := by
  obtain ⟨content, got⟩ := gets "product.xml".toList
  cases content with
  | error failed =>
    have product := (getXml_result (show productFields.flat = true by decide)).1 failed got
    exact ⟨.error failed, by rw [tryXmlPdc, Traced.result_bind, product]; rfl⟩
  | ok cnt =>
    obtain ⟨doc, n, parsed⟩ := parses cnt
    rw [tryXmlPdc_result parses got parsed, judged]
    split
    next => exact ⟨_, rfl⟩
    next =>
      split
      next => exact ⟨_, rfl⟩
      next =>
        obtain ⟨content, properties⟩ := gets (ProductInfo.ofCut doc n).url
        rw [properties]
        exact ⟨_, rfl⟩

theorem tryPowercom_returns (gets : Gets net attempts input.address) :
    ∃ outcome, (tryPowercom net attempts input).result = .ok outcome := by
  obtain ⟨content, got⟩ := gets "etn/v1/comm/services/powerdistributions1".toList
  rw [tryPowercom, Traced.result_bind, getPage_result, got]
  simp only [Except.bind]
  cases content with
  | error failed => exact ⟨_, rfl⟩
  | ok cnt =>
    simp only
    cases net.deviceType cnt with
    | error what => exact ⟨_, rfl⟩
    | ok deviceType =>
      simp only
      split
      next => exact ⟨_, rfl⟩
      next => exact ⟨_, rfl⟩

def probe (net : Network) (attempts : Nat) (input : In) : ProtocolType → Outcome (Expected Unit)
  | .xml => (tryXmlPdc net attempts input).result
  | .snmp => (trySnmp net input).result
  | .powercom => (tryPowercom net attempts input).result

def supports (net : Network) (attempts : Nat) (input : In) (type : ProtocolType) : Bool :=
  match probe net attempts input type with
  | .ok outcome => outcome.toBool
  | .error _ => false

def preferred : List ProtocolType := [.powercom, .xml, .snmp]

theorem sorted_found (outcome : ProtocolType → Expected Unit) :
    sortProtocols (found .xml (outcome .xml) ++ found .snmp (outcome .snmp) ++ found .powercom (outcome .powercom)) =
      preferred.filter (fun type => (outcome type).toBool) := by
  simp only [preferred, List.filter_cons, List.filter_nil]
  cases outcome .xml <;> cases outcome .snmp <;> cases outcome .powercom <;> rfl

theorem probe_returns (parses : Parses net) (gets : Gets net attempts input.address) :
    ∃ outcome : ProtocolType → Expected Unit, ∀ type, probe net attempts input type = .ok (outcome type) := by
  have each (type : ProtocolType) : ∃ outcome, probe net attempts input type = .ok outcome := by
    cases type with
    | xml => exact tryXmlPdc_returns parses gets
    | snmp => exact ⟨_, rfl⟩
    | powercom => exact tryPowercom_returns gets
  choose outcome returned using each
  exact ⟨outcome, returned⟩

theorem driver_listed (type : ProtocolType) : ∃ name, Nut.Call.driver type.name = some name := by
  cases type with
  | xml => exact ⟨"netxml-ups".toList, rfl⟩
  | snmp => exact ⟨"snmp-ups".toList, rfl⟩
  | powercom => exact ⟨"etn-nut-powerconnect".toList, rfl⟩

theorem run_result (parses : Parses net) (gets : Gets net attempts input.address)
    (writes : ∀ out, ∃ text, net.serialize out = .ok text) (real : input.address ≠ "__fake__".toList)
    (found : available net.resolver input.address = true) :
    (run net attempts input).result = .ok ((preferred.filter (supports net attempts input)).map ProtocolType.name) := by
  obtain ⟨outcome, returned⟩ := probe_returns parses gets
  have xml : (tryXmlPdc net attempts input).result = .ok (outcome .xml) := returned .xml
  have snmp : (trySnmp net input).result = .ok (outcome .snmp) := returned .snmp
  have powercom : (tryPowercom net attempts input).result = .ok (outcome .powercom) := returned .powercom
  have supported : supports net attempts input = fun type => (outcome type).toBool := by
    funext type
    rw [supports, returned]
  obtain ⟨text, written⟩ := writes ((preferred.filter (supports net attempts input)).map ProtocolType.name)
  rw [run, if_neg real, Traced.result_bind, checkHost, if_pos found]
  simp only [Traced.result_bind, xml, snmp, powercom, Except.bind]
  rw [sorted_found, ← supported]
  simp only [Traced.result_pure, Traced.result_lift, written, deref]

/-- The names of the protocols whose probes succeed are returned, in one order whatever the device is;
each of them has a driver, which can be set up on the machines that have it. -/
theorem run_lists (parses : Parses net) (gets : Gets net attempts input.address)
    (writes : ∀ out, ∃ text, net.serialize out = .ok text) (real : input.address ≠ "__fake__".toList)
    (found : available net.resolver input.address = true) :
    (run net attempts input).result = .ok ((preferred.filter (supports net attempts input)).map ProtocolType.name) ∧
      ∀ out, (run net attempts input).result = .ok out → ∀ protocol ∈ out,
        (∃ name, Nut.Call.driver protocol = some name) ∧
          ∀ (host : Nut.Host) (address : Text) (port : UInt16),
            (∃ proc, (Nut.Process.create host protocol).init host address port = .ok proc) ↔
              Nut.Call.Installed host protocol := by
  have lists := run_result parses gets writes real found
  refine ⟨lists, fun out returned protocol member => ?_⟩
  obtain rfl := Except.ok.inj (returned.symm.trans lists)
  obtain ⟨type, -, rfl⟩ := List.mem_map.mp member
  exact ⟨driver_listed type, fun host address port => Nut.Call.init_iff host address port _⟩

def netxmlHost : Nut.Host where
  tempDir := some "/tmp/nut1".toList
  executable path := path = "/lib/nut/netxml-ups".toList
  start _ := .ok ⟨.ok 0, [], []⟩
  mibDatabase := "mibs".toList

theorem brokenNet_lists : (run brokenNet 1 { address := "ups".toList }).result =
      .ok ((preferred.filter (supports brokenNet 1 { address := "ups".toList })).map ProtocolType.name) ∧
    ∃ proc, (Nut.Process.create netxmlHost "nut_xml_pdc".toList).init netxmlHost "ups".toList 80 = .ok proc := by
  let input : In := { address := "ups".toList }
  have gets : Gets brokenNet 1 input.address := fun _ => ⟨_, rfl⟩
  have real : input.address ≠ "__fake__".toList := by decide
  obtain ⟨lists, listed⟩ := run_lists brokenNet_parses gets (fun _ => ⟨_, rfl⟩) real rfl
  have drivers := (listed ["nut_xml_pdc".toList] rfl _ List.mem_cons_self).2 netxmlHost "ups".toList 80
  exact ⟨lists, drivers.mpr ⟨"netxml-ups".toList, rfl, by decide⟩⟩

example : (run brokenNet 1 { address := "ups".toList }).result = .ok ["nut_xml_pdc".toList] := rfl

end FtyDiscovery.Jobs.Protocols
