import FtyDiscovery.Agent

/-! What the documents of the wallet say goes to the devices and the drivers only: where these answer alike,
the agent replies alike, whatever the secrets are. -/

namespace FtyDiscovery.Secrets

open Base Snmp Jobs

def SameKind : Document → Document → Prop
  | .snmpv3 _, .snmpv3 _ | .snmpv1 _, .snmpv1 _ | .userAndPassword .., .userAndPassword .. | .unknown, .unknown => True
  | _, _ => False

inductive Handed : Except Exn Document → Except Exn Document → Prop where
  | document {before after : Document} (kind : SameKind before after) : Handed (.ok before) (.ok after)
  | exn (exn : Exn) : Handed (.error exn) (.error exn)

/-- Two wallets that differ in what their documents say. -/
structure Alike (wallet other : Wallet) : Prop where
  socket : other.socket = wallet.socket
  document : ∀ id, Handed (wallet.document id) (other.document id)

/-- The other end of two contacts answers them alike. -/
def Answers (env : Env) : Contact → Contact → Prop
  | .session sess, .session sess' => env.peer sess' = env.peer sess
  | .driver command, .driver command' => env.host.start command' = env.host.start command
  | _, _ => True

variable {env : Env} {other : Wallet}

def withWallet (env : Env) (wallet : Wallet) : Env := { env with wallet := wallet }

theorem agree_orThrow {α β : Type} {related : α → β → Prop} (before : Text) {outcome : Outcome (Expected α)}
    {outcome' : Outcome (Expected β)}
    (same : (∃ a b, outcome = .ok (.ok a) ∧ outcome' = .ok (.ok b) ∧ related a b) ∨
      (∃ failed, outcome = .ok (.error failed) ∧ outcome' = .ok (.error failed)) ∨
      ∃ stop, outcome = .error stop ∧ outcome' = .error stop) :
    Traced.Agree (Answers env) related (orThrow before outcome) (orThrow before outcome') := by
  rcases same with ⟨a, b, rfl, rfl, same⟩ | ⟨failed, rfl, rfl⟩ | ⟨stop, rfl, rfl⟩
  · exact Traced.agree_pure same
  · exact Traced.agree_fail _
  · exact Traced.agree_fail stop

theorem agree_session (alike : Alike env.wallet other) (credentialId : Text) (sess : Session) :
    Traced.Agree (Answers env) (fun _ _ => True) (orThrow [] (sess.setCredentialId env.lib env.wallet credentialId))
      (orThrow [] (sess.setCredentialId env.lib other credentialId)) := by
  apply agree_orThrow
  unfold Session.setCredentialId
  rw [alike.socket]
  cases opened : env.wallet.socket with
  | error exn => cases exn <;> simp [Except.bind]
  | ok =>
    have handed := alike.document credentialId
    simp only [Except.bind]
    generalize env.wallet.document credentialId = before at handed
    generalize other.document credentialId = after at handed
    cases handed with
    | exn exn => cases exn <;> simp
    | @document before after kind => cases before <;> cases after <;> simp [SameKind] at kind ⊢

theorem agree_setAccess (alike : Alike env.wallet other) (credentialId community : Text) (sess : Session) :
    Traced.Agree (Answers env) (fun _ _ => True) (setAccess env credentialId community sess)
      (setAccess (withWallet env other) credentialId community sess) := by
  unfold setAccess
  split
  next => exact agree_session alike credentialId sess
  next =>
    split
    next => exact Traced.agree_pure trivial
    next => exact Traced.agree_fail _

theorem agree_mibs (alike : Alike env.wallet other) (sorting : Mibs.Sorting) (requests : Nat)
    (input : Commands.Mibs.In) : Traced.Agree (Answers env) Eq (Mibs.run env sorting requests input)
      (Mibs.run (withWallet env other) sorting requests input) := by
  unfold Mibs.run
  apply Traced.agree_bind (Traced.agree_refl (checkHost env input.address))
  intro _ _ _
  apply Traced.agree_bind (agree_setAccess alike input.credentialId input.community _)
  intro sess sess' _
  apply Traced.agree_bind (Traced.agree_emit _ _)
  intro _ _ answers
  have peers : (withWallet env other).peer _ = env.peer _ := answers
  rw [peers]
  exact Traced.agree_refl _

theorem agree_settle (alike : Alike env.wallet other) (requests : Nat) (input : Commands.Assets.In) :
    Traced.Agree (Answers env) Eq (Assets.settle env requests input)
      (Assets.settle (withWallet env other) requests input) := by
  unfold Assets.settle
  split
  next =>
    unfold Assets.checkSnmp
    apply Traced.agree_bind (agree_setAccess alike _ _ _)
    intro sess sess' _
    apply Traced.agree_bind (Traced.agree_emit _ _)
    intro _ _ answers
    have peers : (withWallet env other).peer sess' = env.peer sess := answers
    rw [peers]
    exact Traced.agree_refl _
  next => exact Traced.agree_refl _

structure Paired (proc proc' : Nut.Process) : Prop where
  protocol : proc'.protocol = proc.protocol
  held : proc'.process.isSome = proc.process.isSome

namespace Paired

variable {proc proc' : Nut.Process}

theorem cases (paired : Paired proc proc') : (proc.process = none ∧ proc'.process = none) ∨
    ∃ command command', proc.process = some command ∧ proc'.process = some command' := by
  have held := paired.held
  cases here : proc.process with
  | none => exact .inl ⟨rfl, by simpa [here] using held⟩
  | some command =>
    have there : proc'.process.isSome = true := by simp [held, here]
    obtain ⟨command', found⟩ := Option.isSome_iff_exists.mp there
    exact .inr ⟨command, command', rfl, found⟩

theorem hold (paired : Paired proc proc') (command command' : Nut.Command) :
    Paired (proc.hold command) (proc'.hold command') := ⟨paired.protocol, rfl⟩

end Paired

inductive PairedSet : Expected Nut.Process → Expected Nut.Process → Prop where
  | refused (failed : Text) : PairedSet (.error failed) (.error failed)
  | set {proc proc' : Nut.Process} (paired : Paired proc proc') : PairedSet (.ok proc) (.ok proc')

variable {proc proc' : Nut.Process}

theorem PairedSet.getD {set set' : Expected Nut.Process} (sets : PairedSet set set') (paired : Paired proc proc') :
    Paired (set.toOption.getD proc) (set'.toOption.getD proc') := by
  cases sets with
  | refused => exact paired
  | set paired => exact paired

theorem pairedSet_snmp (paired : Paired proc proc') {set set' : Expected Nut.Process}
    (unheld : proc.process = none → proc'.process = none → set = .error "uninitialized".toList ∧
      set' = .error "uninitialized".toList)
    (sets : ∀ command command', proc.process = some command → proc'.process = some command' → ∃ next next',
      set = (if proc.protocol ≠ "nut_snmp".toList then .error "unsupported".toList else .ok (proc.hold next)) ∧
        set' = (if proc'.protocol ≠ "nut_snmp".toList then .error "unsupported".toList else .ok (proc'.hold next'))) :
    PairedSet set set' := by
  rcases paired.cases with ⟨missing, missing'⟩ | ⟨command, command', held, held'⟩
  · obtain ⟨rfl, rfl⟩ := unheld missing missing'
    exact .refused _
  · obtain ⟨next, next', rfl, rfl⟩ := sets command command' held held'
    rw [paired.protocol]
    by_cases snmp : proc.protocol = "nut_snmp".toList
    · rw [if_neg (not_not_intro snmp), if_neg (not_not_intro snmp)]
      exact .set (paired.hold _ _)
    · rw [if_pos snmp, if_pos snmp]
      exact .refused _

theorem pairedSet_setCommunity (paired : Paired proc proc') (community community' : Text) :
    PairedSet (proc.setCommunity community) (proc'.setCommunity community') := by
  apply pairedSet_snmp paired
  · intro missing missing'
    simp only [Nut.Process.setCommunity, missing, missing', and_self]
  · intro command command' held held'
    simp only [Nut.Process.setCommunity, held, held']
    exact ⟨_, _, rfl, rfl⟩

theorem pairedSet_setTimeout (paired : Paired proc proc') (milliseconds : UInt32) :
    PairedSet (proc.setTimeout milliseconds) (proc'.setTimeout milliseconds) := by
  apply pairedSet_snmp paired
  · intro missing missing'
    simp only [Nut.Process.setTimeout, missing, missing', and_self]
  · intro command command' held held'
    simp only [Nut.Process.setTimeout, held, held']
    exact ⟨_, _, rfl, rfl⟩

theorem pairedSet_setMib (paired : Paired proc proc') (mib : Text) :
    PairedSet (proc.setMib mib) (proc'.setMib mib) := by
  apply pairedSet_snmp paired
  · intro missing missing'
    simp only [Nut.Process.setMib, missing, missing', and_self]
  · intro command command' held held'
    simp only [Nut.Process.setMib, held, held']
    exact ⟨_, _, rfl, rfl⟩

inductive PairedEnd : Outcome (Expected Nut.Process) → Outcome (Expected Nut.Process) → Prop where
  | set {set set' : Expected Nut.Process} (sets : PairedSet set set') : PairedEnd (.ok set) (.ok set')
  | stop (stop : Stop) : PairedEnd (.error stop) (.error stop)

theorem agree_paired {set set' : Outcome (Expected Nut.Process)} (ends : PairedEnd set set') :
    Traced.Agree (Answers env) Paired (orThrow [] set) (orThrow [] set') := by
  apply agree_orThrow
  cases ends with
  | stop stop => exact .inr (.inr ⟨stop, rfl, rfl⟩)
  | set sets =>
    cases sets with
    | refused failed => exact .inr (.inl ⟨failed, rfl, rfl⟩)
    | set paired => exact .inl ⟨_, _, rfl, rfl, paired⟩

theorem paired_credential_snmp (alike : Alike env.wallet other) (paired : Paired proc proc')
    {command command' : Nut.Command} (held : proc.process = some command) (held' : proc'.process = some command')
    (snmp : proc.protocol = "nut_snmp".toList) (credential : Text) :
    PairedEnd (proc.setCredentialId env.wallet credential) (proc'.setCredentialId other credential) := by
  have snmp' : proc'.protocol = "nut_snmp".toList := paired.protocol.trans snmp
  simp only [Nut.Process.setCredentialId, held, held', if_pos snmp, if_pos snmp', alike.socket]
  have handed := alike.document credential
  generalize env.wallet.document credential = before at handed
  generalize other.document credential = after at handed
  cases env.wallet.socket with
  | error exn => exact .stop _
  | ok =>
    cases handed with
    | exn exn =>
      cases exn with
      | secw what => exact .set (.refused _)
      | _ => exact .stop _
    | @document before after kind =>
      cases before <;> cases after <;> try exact kind.elim
      case snmpv3.snmpv3 => exact .set (.set (paired.hold _ _))
      case snmpv1.snmpv1 community community' =>
        exact .set (.set ((pairedSet_setCommunity paired community community').getD paired))
      all_goals exact .set (.refused _)

theorem paired_credential_powercom (alike : Alike env.wallet other) (paired : Paired proc proc')
    {command command' : Nut.Command} (held : proc.process = some command) (held' : proc'.process = some command')
    (powercom : proc.protocol = "nut_powercom".toList) (credential : Text) :
    PairedEnd (proc.setCredentialId env.wallet credential) (proc'.setCredentialId other credential) := by
  have powercom' : proc'.protocol = "nut_powercom".toList := paired.protocol.trans powercom
  have unlike : "nut_powercom".toList ≠ "nut_snmp".toList := by decide
  have snmp : proc.protocol ≠ "nut_snmp".toList := powercom ▸ unlike
  have snmp' : proc'.protocol ≠ "nut_snmp".toList := powercom' ▸ unlike
  simp only [Nut.Process.setCredentialId, held, held', if_neg snmp, if_neg snmp', if_pos powercom, if_pos powercom',
    alike.socket]
  have handed := alike.document credential
  generalize env.wallet.document credential = before at handed
  generalize other.document credential = after at handed
  cases env.wallet.socket with
  | error exn => exact .stop _
  | ok =>
    cases handed with
    | exn exn =>
      cases exn with
      | unknown => exact .stop _
      | _ => exact .set (.refused _)
    | @document before after kind =>
      cases before <;> cases after <;> try exact kind.elim
      case userAndPassword.userAndPassword => exact .set (.set (paired.hold _ _))
      all_goals exact .set (.set paired)

theorem paired_credential (alike : Alike env.wallet other) (paired : Paired proc proc') (credential : Text) :
    PairedEnd (proc.setCredentialId env.wallet credential) (proc'.setCredentialId other credential) := by
  rcases paired.cases with ⟨missing, missing'⟩ | ⟨command, command', held, held'⟩
  · simp only [Nut.Process.setCredentialId, missing, missing']
    exact .set (.refused _)
  · by_cases snmp : proc.protocol = "nut_snmp".toList
    · exact paired_credential_snmp alike paired held held' snmp credential
    · by_cases powercom : proc.protocol = "nut_powercom".toList
      · exact paired_credential_powercom alike paired held held' powercom credential
      · have snmp' : proc'.protocol ≠ "nut_snmp".toList := paired.protocol ▸ snmp
        have powercom' : proc'.protocol ≠ "nut_powercom".toList := paired.protocol ▸ powercom
        simp only [Nut.Process.setCredentialId, held, held', if_neg snmp, if_neg snmp', if_neg powercom,
          if_neg powercom']
        exact .set (.set paired)

theorem agree_driverAccess (alike : Alike env.wallet other) (settings : Commands.Assets.Settings)
    (paired : Paired proc proc') : Traced.Agree (Answers env) Paired (Assets.driverAccess env settings proc)
      (Assets.driverAccess (withWallet env other) settings proc') := by
  unfold Assets.driverAccess
  split
  next => exact agree_paired (paired_credential alike paired settings.credentialId)
  next =>
    split
    next => exact agree_paired (.set (pairedSet_setCommunity paired settings.community settings.community))
    next => exact Traced.agree_pure paired

theorem agree_driverUser (settings : Commands.Assets.Settings) (paired : Paired proc proc') :
    Traced.Agree (Answers env) Paired (Assets.driverUser settings proc) (Assets.driverUser settings proc') := by
  unfold Assets.driverUser Nut.Process.setCredential
  split
  next =>
    rw [paired.protocol]
    by_cases powercom : proc.protocol = "nut_powercom".toList
    · rw [if_pos powercom, if_pos powercom]
      rcases paired.cases with ⟨missing, missing'⟩ | ⟨command, command', held, held'⟩
      · rw [missing, missing']
        exact Traced.agree_fail _
      · rw [held, held']
        exact Traced.agree_pure (paired.hold _ _)
    · rw [if_neg powercom, if_neg powercom]
      exact Traced.agree_pure paired
  next => exact Traced.agree_pure paired

theorem paired_driverOptions (settings : Commands.Assets.Settings) (paired : Paired proc proc') :
    Paired (Assets.driverOptions settings proc) (Assets.driverOptions settings proc') := by
  have timed : Paired
      (if hasValue 1000 settings.timeout then (proc.setTimeout settings.timeout).toOption.getD proc else proc)
      (if hasValue 1000 settings.timeout then (proc'.setTimeout settings.timeout).toOption.getD proc' else proc') := by
    split
    next => exact (pairedSet_setTimeout paired settings.timeout).getD paired
    next => exact paired
  by_cases named : hasValue [] settings.mib = true
  · simp only [Assets.driverOptions, if_pos named]
    exact (pairedSet_setMib timed settings.mib).getD timed
  · simp only [Assets.driverOptions, if_neg named]
    exact timed

theorem agree_setUp (alike : Alike env.wallet other) (params : Commands.Assets.In) :
    Traced.Agree (Answers env) Paired (Assets.setUp env params) (Assets.setUp (withWallet env other) params) := by
  unfold Assets.setUp
  apply Traced.agree_bind (Traced.agree_refl _)
  rintro started _ rfl
  apply Traced.agree_bind (agree_driverAccess alike params.settings ⟨rfl, rfl⟩)
  intro accessed accessed' paired
  apply Traced.agree_bind (agree_driverUser params.settings paired)
  intro used used' paired
  exact Traced.agree_pure (paired_driverOptions params.settings paired)

theorem agree_launch (env : Env) (paired : Paired proc proc') : Traced.Agree (Answers env)
    (fun _ _ => proc'.run env.host = proc.run env.host) (Assets.launch proc) (Assets.launch proc') := by
  unfold Assets.launch Nut.Process.run
  rcases paired.cases with ⟨missing, missing'⟩ | ⟨command, command', held, held'⟩
  · rw [missing, missing']
    exact Traced.agree_pure rfl
  · rw [held, held', paired.protocol]
    intro alike
    refine .inl ⟨(), (), rfl, rfl, ?_⟩
    have starts : env.host.start command' = env.host.start command :=
      alike _ (List.mem_singleton_self _) _ (List.mem_singleton_self _)
    simp only [starts]

theorem chain_withWallet (env : Env) (wallet : Wallet) (params : Commands.Assets.In) (tmpMap : Assets.Dump)
    (deviceType : Text) (i left : Nat) (random : env.identity.State) :
    Assets.chain (withWallet env wallet) params tmpMap deviceType i left random =
      Assets.chain env params tmpMap deviceType i left random := by
  induction left generalizing i random with
  | zero => rfl
  | succ left ih =>
    have rest := ih (i + 1) (Assets.enrichAsset env.identity params
      (Assets.deviceAsset env.mapping tmpMap deviceType (Text.decimal (i + 1)) (Assets.devicePrefix (i + 1))) random).2
    simp only [Assets.chain]
    rw [← rest]
    rfl

theorem parse_withWallet (env : Env) (wallet : Wallet) (params : Commands.Assets.In) (cnt : Text)
    (random : env.identity.State) :
    Assets.parse (withWallet env wallet) params cnt random = Assets.parse env params cnt random := by
  unfold Assets.parse
  simp only [chain_withWallet]
  rfl

theorem agree_dump (alike : Alike env.wallet other) (requests : Nat) (input : Commands.Assets.In) :
    Traced.Agree (Answers env) Eq (Assets.dump env requests input)
      (Assets.dump (withWallet env other) requests input) := by
  unfold Assets.dump
  apply Traced.agree_bind (Traced.agree_refl (checkHost env input.address))
  intro _ _ _
  apply Traced.agree_bind (agree_settle alike requests input)
  rintro params _ rfl
  apply Traced.agree_bind (agree_setUp alike params)
  intro proc proc' paired
  apply Traced.agree_bind (agree_launch env paired)
  intro _ _ runs
  have exits : proc'.run (withWallet env other).host = proc.run env.host := runs
  rw [exits]
  apply Traced.agree_bind (Traced.agree_refl _)
  rintro cnt _ rfl
  exact Traced.agree_refl _

theorem agree_assets (alike : Alike env.wallet other) (requests : Nat) (random : env.identity.State)
    (input : Commands.Assets.In) : Traced.Agree (Answers env) Eq (Assets.logged env requests random input)
      (Assets.logged (withWallet env other) requests random input) := by
  unfold Assets.logged
  apply Traced.agree_bind (agree_dump alike requests input)
  rintro read _ rfl
  apply Traced.agree_bind (Traced.agree_refl _)
  intro _ _ _
  rw [parse_withWallet]
  exact Traced.agree_refl _

open Agent

def elsewhere (world : World) (wallet : Wallet) : World :=
  { world with env := withWallet world.env wallet, random := world.random }

/-- The contacts that a message leads to are answered as those in the other world are. -/
structure Answered (packs : Packs) (world : World) (wallet : Wallet) (msg : Message) : Prop where
  mibs : ∀ input, packs.mibs.decode msg.userData = .ok input →
    ∀ contact ∈ (Mibs.run world.env world.sorting world.requests input).events,
      ∀ contact' ∈ (Mibs.run (withWallet world.env wallet) world.sorting world.requests input).events,
        Answers world.env contact contact'
  assets : ∀ input, packs.assets.decode msg.userData = .ok input →
    ∀ contact ∈ (Assets.run world.env world.requests world.random input).events,
      ∀ contact' ∈ (Assets.run (withWallet world.env wallet) world.requests world.random input).events,
        Answers world.env contact contact'

/-- What a task sends and how it ends tells no secret of the wallet: with other secrets in documents of the same
kinds it is the same, as long as the devices and the drivers that the message leads to answer the same. -/
theorem reply_kept {packs : Packs} {world : World} {wallet : Wallet} (alike : Alike world.env.wallet wallet)
    {msg : Message} (answered : Answered packs world wallet msg) (bus : Bus) :
    ((packs.discovery (elsewhere world wallet)).discover msg).map (fun job => job.call bus msg) =
      ((packs.discovery world).discover msg).map (fun job => job.call bus msg) := by
  have mibs : Task.call packs.mibs (elsewhere world wallet).mibs bus msg = Task.call packs.mibs world.mibs bus msg := by
    refine Task.call_congr bus (fun input decoded => ?_)
    have agree := agree_mibs alike world.sorting world.requests input
    have ends := Traced.result_eq_of_agree agree (answered.mibs input decoded)
    exact asTask_congr ends.symm
  have assets : Task.call packs.assets (elsewhere world wallet).assets bus msg =
      Task.call packs.assets world.assets bus msg := by
    refine Task.call_congr bus (fun input decoded => ?_)
    have agree := agree_assets alike world.requests world.random input
    have events := Assets.logged_events world.env world.requests world.random input
    have events' := Assets.logged_events (withWallet world.env wallet) world.requests world.random input
    have ends := Traced.result_eq_of_agree agree (fun contact made contact' made' =>
      answered.assets input decoded contact (events ▸ made) contact' (events' ▸ made'))
    exact asTask_congr ends.symm
  unfold Discovery.discover
  split
  next => rfl
  next =>
    split
    next => exact congrArg some mibs
    next =>
      split
      next => exact congrArg some assets
      next => rfl

def knownPacks : Packs :=
  { fakePacks with
    assets := { fakePacks.assets with
      decode := fun _ => .ok
        { address := "ups".toList
          protocol := "nut_snmp".toList
          settings := { credentialId := "known".toList } } } }

def knownMessage : Message where
  userData := "known".toList
  metaData := { subject := Commands.Assets.Subject }

def otherWallet : Wallet where
  socket := .ok ()
  document := fun _ => .ok (.snmpv1 "private".toList)

theorem known_kept : ((knownPacks.discovery fakeWorld).discover knownMessage).isSome = true ∧
    ((knownPacks.discovery (elsewhere fakeWorld otherWallet)).discover knownMessage).map
      (fun job => job.call .accepting knownMessage) =
    ((knownPacks.discovery fakeWorld).discover knownMessage).map (fun job => job.call .accepting knownMessage) := by
  have alike : Alike fakeWorld.env.wallet otherWallet := ⟨rfl, fun _ => .document trivial⟩
  have anyhow (contact contact' : Contact) : Answers fakeWorld.env contact contact' := by
    cases contact <;> cases contact' <;> trivial
  have answered : Answered knownPacks fakeWorld otherWallet knownMessage :=
    ⟨fun _ _ contact _ contact' _ => anyhow contact contact', fun _ _ contact _ contact' _ => anyhow contact contact'⟩
  exact ⟨rfl, reply_kept alike answered .accepting⟩

end FtyDiscovery.Secrets
