import FtyDiscovery.Client

/-! The REST handlers: a request over HTTP becomes a message to the agent, and its answer the body of
the reply. -/

namespace FtyDiscovery.Rest

open Base

/-- What a handler throws: the result of the check of permissions, a body that is no input of the
command, or whatever goes wrong with the request. -/
inductive Failure where
  | error (text : Text)
  | badRequestDocument (text : Text)
  | internal (text : Text)
  deriving DecidableEq, Repr

structure Codec (In : Type) where
  deserialize : Text → Expected In
  serialize : In → Expected Text

/-- A request as a handler finds it: what `checkPermissions` says of its user, its body, and whether
the bus that is made for it connects. -/
structure Posted where
  permitted : Expected Unit := .ok ()
  body : Text
  connects : Expected Unit := .ok ()

def actorName : Text := "discovery_rest".toList

def message (subject text : Text) : Message where
  userData := text
  metaData :=
    { toName := "discovery-ng".toList
      subject := subject
      fromName := actorName }

/-- What is made of the answer of `send`; its status is looked at once more. -/
def payload : Outcome (Expected Message) → Outcome (Expected Text)
  | .ok (.ok resp) => if resp.metaData.status = .error then .ok (.error resp.userData) else .ok (.ok resp.userData)
  | .ok (.error failed) => .ok (.error failed)
  | .error stop => .error stop

/-- What is written to `m_reply` with `HTTP_OK`, or the error that is thrown. -/
def reply : Outcome (Expected Text) → Outcome (Except Failure Text)
  | .ok (.ok text) => .ok (.ok (text ++ "\n\n".toList))
  | .ok (.error failed) => .ok (.error (.internal failed))
  | .error stop => .error stop

variable {In Out : Type}

def prepare (subject : Text) (codec : Codec In) (posted : Posted) : Outcome (Except Failure Message) :=
  match posted.permitted with
  | .error failed => .ok (.error (.error failed))
  | .ok () =>
    match codec.deserialize posted.body with
    | .error failed => .ok (.error (.badRequestDocument failed))
    | .ok param =>
      match posted.connects with
      | .error failed => .ok (.error (.internal failed))
      | .ok () => (deref (codec.serialize param)).map (fun text => .ok (message subject text))

def run (subject : Text) (codec : Codec In) (client : Bus) (uuid : Text) (posted : Posted) :
    Outcome (Except Failure Text) :=
  match prepare subject codec posted with
  | .error stop => .error stop
  | .ok (.error failure) => .ok (.error failure)
  | .ok (.ok msg) => reply (payload (MessageBus.send client actorName uuid Channel msg))

def Protocols.run : Codec Commands.Protocols.In → Bus → Text → Posted → Outcome (Except Failure Text) :=
  Rest.run Commands.Protocols.Subject

def Mibs.run : Codec Commands.Mibs.In → Bus → Text → Posted → Outcome (Except Failure Text) :=
  Rest.run Commands.Mibs.Subject

def AssetRest.run : Codec Commands.Assets.In → Bus → Text → Posted → Outcome (Except Failure Text) :=
  Rest.run Commands.Assets.Subject

variable {subject uuid : Text} {codec : Codec In} {client server : Bus} {posted : Posted} {pack : Pack In Out}
  {job : In → Out → Out × Outcome Unit}

theorem prepare_ok_iff {msg : Message} : prepare subject codec posted = .ok (.ok msg) ↔
    posted.permitted = .ok () ∧ posted.connects = .ok () ∧ ∃ param text,
      codec.deserialize posted.body = .ok param ∧ codec.serialize param = .ok text ∧ msg = message subject text := by
  unfold prepare
  cases posted.permitted with
  | error failed => simp
  | ok =>
    cases codec.deserialize posted.body with
    | error failed => simp
    | ok param =>
      cases posted.connects with
      | error failed => simp
      | ok =>
        cases encoded : codec.serialize param with
        | error failed => simp [encoded, deref, Except.map]
        | ok text => simp [encoded, deref, Except.map, eq_comm]

/-- An answer with an error in its status never gets here, since `send` has made an error of it. -/
theorem reply_ok_iff {sent : Outcome (Expected Message)} {body : Text} :
    reply (payload sent) = .ok (.ok body) ↔ ∃ resp, sent = .ok (.ok resp) ∧ resp.metaData.status = .ok ∧
      body = resp.userData ++ "\n\n".toList := by
  rcases sent with stop | failed | resp
  · simp [payload, reply]
  · simp [payload, reply]
  · cases status : resp.metaData.status <;> simp [payload, reply, status, eq_comm]

theorem reply_internal_iff {sent : Outcome (Expected Message)} {text : Text} :
    reply (payload sent) = .ok (.error (.internal text)) ↔ sent = .ok (.error text) ∨
      ∃ resp, sent = .ok (.ok resp) ∧ resp.metaData.status = .error ∧ text = resp.userData := by
  rcases sent with stop | failed | resp
  · simp [payload, reply]
  · simp [payload, reply]
  · cases status : resp.metaData.status <;> simp [payload, reply, status, eq_comm]

theorem run_ok_iff {body : Text} : run subject codec client uuid posted = .ok (.ok body) ↔
    ∃ msg resp, prepare subject codec posted = .ok (.ok msg) ∧
      MessageBus.send client actorName uuid Channel msg = .ok (.ok resp) ∧
      resp.metaData.status = .ok ∧ body = resp.userData ++ "\n\n".toList := by
  unfold run
  rcases prepare subject codec posted with stop | failure | msg
  · simp
  · simp
  · simp only [reply_ok_iff, Except.ok.injEq, exists_and_left, exists_eq_left']

def Carries (codec : Codec In) (pack : Pack In Out) : Prop :=
  ∀ param, ∃ text, codec.serialize param = .ok text ∧ text ≠ [] ∧ pack.decode text = .ok param

/-- A request is answered with `HTTP_OK` exactly where its user is permitted, its body is an input, the
bus connects and the job returns; the body of the answer decodes to the output of the job, and where
the job ends with `job::Error`, its text is the error. -/
theorem run_sees_job (delivers : Client.Delivers pack job server client) (carries : Carries codec pack)
    (lossless : ∀ param, Client.RoundTrips pack (job param pack.empty).1) (subject uuid : Text) (posted : Posted) :
    ((∃ body, run subject codec client uuid posted = .ok (.ok body)) ↔
        posted.permitted = .ok () ∧ posted.connects = .ok () ∧ ∃ param,
          codec.deserialize posted.body = .ok param ∧ (job param pack.empty).2 = .ok ()) ∧
      (∀ body, run subject codec client uuid posted = .ok (.ok body) → ∃ param text,
        codec.deserialize posted.body = .ok param ∧ body = text ++ "\n\n".toList ∧
          pack.deserialize text = .ok (job param pack.empty).1) ∧
      ∀ param what, posted.permitted = .ok () → posted.connects = .ok () →
        codec.deserialize posted.body = .ok param → (job param pack.empty).2 = .error (.thrown (.error what)) →
          run subject codec client uuid posted = .ok (.error (.internal what)) := by
  have carried {param : In} {text : Text} (encoded : codec.serialize param = .ok text) :
      (message subject text).userData ≠ [] ∧ pack.decode (message subject text).userData = .ok param := by
    obtain ⟨_, same, present, accepted⟩ := carries param
    obtain rfl := Except.ok.inj (same.symm.trans encoded)
    exact ⟨present, accepted⟩
  refine ⟨⟨?_, ?_⟩, ?_, ?_⟩
  · intro ⟨body, ok⟩
    obtain ⟨msg, resp, prepared, sent, -, -⟩ := run_ok_iff.mp ok
    obtain ⟨permitted, connects, param, text, decoded, encoded, rfl⟩ := prepare_ok_iff.mp prepared
    obtain ⟨present, accepted⟩ := carried encoded
    have only := (Client.send_sees_run delivers actorName uuid Channel present accepted (lossless param)).2.2
    exact ⟨permitted, connects, param, decoded, only.mp ⟨resp, sent⟩⟩
  · intro ⟨permitted, connects, param, decoded, returned⟩
    obtain ⟨text, encoded, -, -⟩ := carries param
    obtain ⟨present, accepted⟩ := carried encoded
    have returns := (Client.send_sees_run delivers actorName uuid Channel present accepted (lossless param)).1
    obtain ⟨resp, sent, status, -⟩ := returns returned
    have prepared : prepare subject codec posted = .ok (.ok (message subject text)) :=
      prepare_ok_iff.mpr ⟨permitted, connects, param, text, decoded, encoded, rfl⟩
    exact ⟨_, run_ok_iff.mpr ⟨_, resp, prepared, sent, status, rfl⟩⟩
  · intro body ok
    obtain ⟨msg, resp, prepared, sent, -, rfl⟩ := run_ok_iff.mp ok
    obtain ⟨-, -, param, text, decoded, encoded, rfl⟩ := prepare_ok_iff.mp prepared
    obtain ⟨present, accepted⟩ := carried encoded
    obtain ⟨returns, -, only⟩ :=
      Client.send_sees_run delivers actorName uuid Channel present accepted (lossless param)
    obtain ⟨m, same, -, payload⟩ := returns (only.mp ⟨resp, sent⟩)
    obtain rfl := Except.ok.inj (Except.ok.inj (same.symm.trans sent))
    exact ⟨param, m.userData, decoded, rfl, payload⟩
  · intro param what permitted connects decoded failed
    obtain ⟨text, encoded, -, -⟩ := carries param
    obtain ⟨present, accepted⟩ := carried encoded
    have fails := (Client.send_sees_run delivers actorName uuid Channel present accepted (lossless param)).2.1
    have prepared : prepare subject codec posted = .ok (.ok (message subject text)) :=
      prepare_ok_iff.mpr ⟨permitted, connects, param, text, decoded, encoded, rfl⟩
    simp only [run, prepared, fails what failed, payload, reply]

def addressStart : Text := "\x7b\"address\":\"".toList

def addressJson (param : Commands.Protocols.In) : Text := addressStart ++ (param.address ++ ['\"', '\x7d'])

def ofAddressJson (text : Text) : Expected Commands.Protocols.In :=
  if addressStart.isPrefixOf text then
    .ok { address := (text.drop addressStart.length).dropLast.dropLast }
  else .error "not the payload".toList

theorem ofAddressJson_addressJson (param : Commands.Protocols.In) : ofAddressJson (addressJson param) = .ok param := by
  have start : addressStart.isPrefixOf (addressJson param) = true :=
    List.isPrefixOf_iff_prefix.mpr (List.prefix_append _ _)
  rw [ofAddressJson, if_pos start, addressJson, List.drop_left]
  simp

def addressPack : Pack Commands.Protocols.In Commands.Protocols.Out := .names ofAddressJson

theorem fake_sees_job : ∃ body, Protocols.run ⟨ofAddressJson, fun param => .ok (addressJson param)⟩
    (Client.linked addressPack Client.fakeRun .accepting) "1".toList { body := Client.fakeRequest } =
      .ok (.ok body) := by
  have lossless : Client.RoundTrips addressPack ["nut_snmp".toList, "nut_xml_pdc".toList] :=
    ⟨rfl, fun _ => ⟨"[\"nut_snmp\",\"nut_xml_pdc\"]".toList, by decide, by decide⟩, by decide⟩
  have carries : Carries ⟨ofAddressJson, fun param => .ok (addressJson param)⟩ addressPack := by
    intro param
    exact ⟨addressJson param, rfl, List.cons_ne_nil _ _, ofAddressJson_addressJson param⟩
  exact (run_sees_job (Client.linked_delivers addressPack Client.fakeRun) carries (fun _ => lossless)
    Commands.Protocols.Subject "1".toList { body := Client.fakeRequest }).1.mpr
      ⟨rfl, rfl, { address := "__fake__".toList }, by decide, rfl⟩

end FtyDiscovery.Rest
