import FtyDiscovery.Jobs.Identities

/-! Two parses of one dump with different states of the random generator. -/

namespace FtyDiscovery.Jobs.Rediscovery

open Base Assets Commands.Assets

variable {Random : Type}

/-- Both parses end in the same way, with assets that are equal one by one, random identifiers
apart. -/
def Rediscovered : Outcome (Out × Random) → Outcome (Out × Random) → Prop
  | .ok found, .ok found' => List.Forall₂ Enrich.SameButRandomUuid found.1 found'.1
  | .error stop, .error stop' => stop = stop'
  | _, _ => False

def AsksRandom (out : Out) : Prop := ∃ ret ∈ out, Enrich.asksRandom ret.asset.ext = true

theorem chain_rediscovers (env : Env) (params : In) (tmpMap : Assets.Dump) (deviceType : Text) (i left : Nat)
    (random random' : env.identity.State) :
    List.Forall₂ Enrich.SameButRandomUuid (chain env params tmpMap deviceType i left random).1
      (chain env params tmpMap deviceType i left random').1 := by
  induction left generalizing i random random' with
  | zero => exact .nil
  | succ left ih => exact .cons (Enrich.enrichAsset_random ..) (ih ..)

theorem parse_related (env : Env) (params : In) (cnt : Text) (random random' : env.identity.State) :
    Rediscovered (parse env params cnt random) (parse env params cnt random') := by
  simp only [parse]
  cases ((readDump env.utils cnt)["device.count".toList]?).elim (.ok 0) env.utils.convertInt with
  | error exn => rfl
  | ok dcount =>
    by_cases several : dcount > 1
    · simp only [if_pos several]
      exact chain_rediscovers ..
    · simp only [if_neg several]
      exact .cons (Enrich.enrichAsset_random ..) .nil

theorem eq_of_related {out out' : Out} (related : List.Forall₂ Enrich.SameButRandomUuid out out')
    (settled : ¬AsksRandom out) : out = out' := by
  induction related with
  | nil => rfl
  | cons first _ ih =>
    rcases first with rfl | ⟨asks, -, -⟩
    · rw [ih (fun later => settled (later.imp fun _ asks => ⟨List.mem_cons_of_mem _ asks.1, asks.2⟩))]
    · exact (settled ⟨_, List.mem_cons_self, asks⟩).elim

theorem parse_again {env : Env} {params : In} {cnt : Text} {random : env.identity.State} {out : Out}
    {after : env.identity.State} (parsed : parse env params cnt random = .ok (out, after)) (settled : ¬AsksRandom out)
    (random' : env.identity.State) : ∃ after', parse env params cnt random' = .ok (out, after') := by
  have related := parse_related env params cnt random random'
  rw [parsed] at related
  cases parsed' : parse env params cnt random' with
  | error stop =>
    rw [parsed'] at related
    exact related.elim
  | ok found =>
    rw [parsed'] at related
    obtain rfl := eq_of_related related settled
    exact ⟨found.2, rfl⟩

/-- The identifier that the enricher gave to an asset, with the generator in this state: a random one where
it is asked for, and none where one of the three values is missing. -/
structure Identified (identity : Identity) (state : identity.State) (ret : Return) (uuid : Text) : Prop where
  given : Enrich.writableVal ret.asset.ext "uuid".toList = some uuid
  random : Enrich.asksRandom ret.asset.ext = true →
    uuid = Uuid.unparseLower (identity.generateRandom state).1.toList
  missing : (∃ key ∈ Identities.identityNames, findVal ret.asset.ext key = none) → uuid = []

theorem parse_identified {env : Env} {params : In} {cnt : Text} {random : env.identity.State} {out : Out}
    {after : env.identity.State} (parsed : parse env params cnt random = .ok (out, after)) :
    ∀ k ret, out[k]? = some ret → ∃ uuid, Identified env.identity
      (Identities.drawn env.identity random (Identities.draws (out.take k))) ret uuid := by
  intro k ret found
  obtain ⟨uuid, given, known⟩ := (Identities.drawn_parse parsed).identified k ret found
  exact ⟨uuid, given, known.random, known.eq_nil⟩

/-- The state of the generator matters to random identifiers only, and these are asked for only
where manufacturer, model and serial number are all reported and one of them is empty; where one is
missing the identifier is empty. -/
theorem parse_rediscovers (env : Env) (params : In) (cnt : Text) (random random' : env.identity.State) :
    Rediscovered (parse env params cnt random) (parse env params cnt random') ∧
      ∀ out after, parse env params cnt random = .ok (out, after) →
        (¬AsksRandom out → ∃ after', parse env params cnt random' = .ok (out, after')) ∧
          ∀ k ret, out[k]? = some ret → ∃ uuid, Identified env.identity
            (Identities.drawn env.identity random (Identities.draws (out.take k))) ret uuid :=
  ⟨parse_related env params cnt random random',
    fun _ _ parsed => ⟨fun settled => parse_again parsed settled random', parse_identified parsed⟩⟩

def identifiedEnv : Env :=
  { sampleEnv with
    mapping := fun key => [("device.mfr".toList, "manufacturer".toList), ("device.model".toList, "model".toList),
      ("device.serial".toList, "serial_no".toList)].lookup key
    identity := Uuid.sampleIdentity }

def namelessDump : Text := "device.mfr: Eaton\ndevice.serial: G1\n".toList

theorem namelessDump_rediscovers :
    ∃ ret after after', parse identifiedEnv {} namelessDump (0 : Nat) = .ok ([ret], after) ∧
      parse identifiedEnv {} namelessDump (1 : Nat) = .ok ([ret], after') ∧
      Enrich.writableVal ret.asset.ext "uuid".toList = some [] := by
  obtain ⟨ret, parsed, settled, nameless⟩ : ∃ ret, parse identifiedEnv {} namelessDump (0 : Nat) = .ok ([ret], (0 : Nat)) ∧
      Enrich.asksRandom ret.asset.ext = false ∧ findVal ret.asset.ext "model".toList = none := ⟨_, rfl, rfl, rfl⟩
  obtain ⟨again, identified⟩ := (parse_rediscovers identifiedEnv {} namelessDump (0 : Nat) (1 : Nat)).2 _ _ parsed
  obtain ⟨after', parsed'⟩ := again (by simp [AsksRandom, settled])
  obtain ⟨uuid, given, -, missing⟩ := identified 0 ret rfl
  obtain rfl := missing ⟨"model".toList, by decide, nameless⟩
  exact ⟨ret, _, _, parsed, parsed', given⟩

def emptySerialDump : Text := "device.mfr: Eaton\ndevice.model: 5P\ndevice.serial: \n".toList

theorem emptySerial_random :
    ∃ ret ret' after after', parse identifiedEnv {} emptySerialDump (0 : Nat) = .ok ([ret], after) ∧
      parse identifiedEnv {} emptySerialDump (1 : Nat) = .ok ([ret'], after') ∧
      findVal ret.asset.ext "uuid".toList = some "00000000-0000-0000-0000-000000000000".toList ∧
      findVal ret'.asset.ext "uuid".toList = some "01010101-0101-0101-0101-010101010101".toList ∧ [ret] ≠ [ret'] :=
  ⟨_, _, _, _, rfl, rfl, by decide, by decide, by decide⟩

end FtyDiscovery.Jobs.Rediscovery
