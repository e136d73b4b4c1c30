import ZoneGate.Api.Enrolment

/-!
# The policy configuration across restarts

A saved configuration is assigned to the running engine as it is, and written to the store as a
text.  A restart reads the text, validates it again and falls back to the defaults.  The two ways
agree because validation accepts what it has produced and leaves it as it is.
-/

namespace ZoneGate

open Py Effects

/-! ## The stored text -/

/-- How JSON is read and written; a text that is no JSON is not read. -/
structure JsonCodec where
  parse : String → Option Json
  dump : Json → String

namespace JsonCodec

variable (codec : JsonCodec)

/-- `PolicyConfig.model_validate_json`, with `none` for a validation error. -/
def modelValidateJson (raw : String) : Option PolicyConfig :=
  (codec.parse raw).bind PolicyConfig.modelValidate

/-- `config.model_dump_json()` -/
def modelDumpJson (config : PolicyConfig) : String := codec.dump config.modelDump

/-- The text that is written for the configuration is read as what was written. -/
def Reads (config : PolicyConfig) : Prop :=
  codec.parse (codec.modelDumpJson config) = some config.modelDump

variable {codec}

/-- A configuration that is stored is found again. -/
theorem Reads.modelValidateJson {config : PolicyConfig} (h : codec.Reads config) :
    codec.modelValidateJson (codec.modelDumpJson config) = some config := by
  rw [JsonCodec.modelValidateJson, h]
  exact PolicyConfig.modelValidate_modelDump config

end JsonCodec

/-! ## A deployment -/

/-- The stored text and the configuration of the running engine. -/
structure Deployment where
  record : Option String
  engine : PolicyConfig

inductive PolicyEvent
  | updateConfig (actor : Option Actor) (body : Json)
  | restart

namespace Deployment

variable (codec : JsonCodec)

/-- `get_policy_config` -/
def getPolicyConfig (record : Option String) : Option PolicyConfig :=
  record.bind codec.modelValidateJson

/-- The start-up, on a stored text. -/
def start (record : Option String) : Deployment where
  record := record
  engine := (getPolicyConfig codec record).getD PolicyConfig.default

def restart (d : Deployment) : Deployment := start codec d.record

/-- `update_config`, for whoever is signed in, if anybody is, and the body of the request. -/
def updateConfig (d : Deployment) (actor : Option Actor) (body : Json) : Deployment :=
  match guarded actor, PolicyConfig.modelValidate body with
  | .ok _, some data => { record := some (codec.modelDumpJson data), engine := data }
  | _, _ => d

def step (d : Deployment) : PolicyEvent → Deployment
  | .updateConfig actor body => d.updateConfig codec actor body
  | .restart => d.restart codec

/-- The deployment after events, one after the other. -/
def run (d : Deployment) (events : List PolicyEvent) : Deployment := events.foldl (step codec) d

/-- A restart would give the engine the configuration that it has. -/
def Settled (d : Deployment) : Prop := (d.restart codec).engine = d.engine

variable {codec}

theorem settled_start (record : Option String) : (start codec record).Settled codec := rfl

theorem Settled.updateConfig {d : Deployment} (h : d.Settled codec) {actor : Option Actor}
    {body : Json}
    (reads : ∀ data, PolicyConfig.modelValidate body = some data → codec.Reads data) :
    (d.updateConfig codec actor body).Settled codec := by
  unfold Deployment.updateConfig
  rcases guarded actor with e | actor
  · exact h
  rcases accepted : PolicyConfig.modelValidate body with _ | data
  · exact h
  · have found := (reads data accepted).modelValidateJson
    exact congrArg (fun config => Option.getD config PolicyConfig.default) found

theorem Settled.run {d : Deployment} (h : d.Settled codec) {events : List PolicyEvent}
    (reads : ∀ actor body data, .updateConfig actor body ∈ events →
      PolicyConfig.modelValidate body = some data → codec.Reads data) :
    (d.run codec events).Settled codec := by
  induction events generalizing d with
  | nil => exact h
  | cons event events ih =>
    refine ih ?_ fun actor body data mem => reads actor body data (List.mem_cons_of_mem _ mem)
    cases event with
    | updateConfig actor body =>
      exact h.updateConfig fun data => reads actor body data List.mem_cons_self
    | restart => exact settled_start d.record

/-- After every run from any stored text, a restart decides as the running engine did; for what
validation makes of a category map validates again, to itself. -/
theorem restart_decides_alike (codec : JsonCodec) (record : Option String)
    (events : List PolicyEvent)
    (reads : ∀ actor body data, .updateConfig actor body ∈ events →
      PolicyConfig.modelValidate body = some data → codec.Reads data) :
    let d := (start codec record).run codec events
    (∀ category, (d.restart codec).engine.authorityFor category = d.engine.authorityFor category) ∧
      ∀ value config, PolicyConfig.checkCategories value = .ok config →
        PolicyConfig.checkCategories config.restrictedCategories = .ok config := by
  intro d
  have settled : d.Settled codec := (settled_start record).run reads
  exact ⟨fun category => by rw [settled],
    fun value config _ => PolicyConfig.checkCategories_self config⟩

end Deployment

/-! ## The deployment in the world -/

namespace PolicyText

/-- What the store has of decoded data. -/
def ofData (data : Json) : PolicyText :=
  match PolicyConfig.dropRetiredFields data with
  | .obj fields =>
      if fields.any fun m => m.1 ≠ "restricted_categories" then .invalid
      else match fields.lookup "restricted_categories" with
      | none => .absent
      | some (.obj members) => (PolicyConfig.stringItems members).elim .invalid .categories
      | some _ => .invalid
  | _ => .invalid

theorem parse_ofData (data : Json) : (ofData data).parse = PolicyConfig.modelValidate data := by
  unfold ofData PolicyConfig.modelValidate
  cases PolicyConfig.dropRetiredFields data with
  | obj fields =>
    dsimp only
    split_ifs
    · rfl
    rcases fields.lookup "restricted_categories" with _ | found
    · rfl
    cases found with
    | obj members =>
      dsimp only
      rcases PolicyConfig.stringItems members with _ | entries <;> rfl
    | _ => rfl
  | _ => rfl

/-- What the store has of a text. -/
def ofText (codec : JsonCodec) (raw : String) : PolicyText := (codec.parse raw).elim .invalid ofData

theorem parse_ofText (codec : JsonCodec) (raw : String) :
    (ofText codec raw).parse = codec.modelValidateJson raw := by
  rw [ofText, JsonCodec.modelValidateJson]
  rcases codec.parse raw with _ | data
  · rfl
  · exact parse_ofData data

/-- What is written for a configuration is its categories. -/
theorem ofText_modelDumpJson {codec : JsonCodec} {config : PolicyConfig}
    (reads : codec.Reads config) :
    ofText codec (codec.modelDumpJson config) = .categories config.restrictedCategories := by
  have items : ofData config.modelDump = (PolicyConfig.stringItems
      (config.restrictedCategories.map fun e => (e.1, .str e.2))).elim .invalid .categories := rfl
  rw [ofText, reads]
  change ofData config.modelDump = _
  rw [items, PolicyConfig.stringItems_map]
  rfl

end PolicyText

section World

variable [Unicode]

/-- `PolicyController.update_config` -/
def PolicyController.updateConfig (cookie : Option String) (data : PolicyConfig) :
    Api PolicyConfig := do
  let _ ← requireConsoleActor cookie
  (store (.savePolicyConfig data) : Service Unit)
  (Prog.perform (I := Services) (Effect.setEngineConfig data) : Service Unit)
  return data

omit [Unicode] in
/-- The part of the start-up that builds the policy engine. -/
def startEngine : Service Unit := do
  let storedPolicy ← store .getPolicyConfig
  Prog.perform (I := Services) (Effect.setEngineConfig (storedPolicy.getD PolicyConfig.default))

/-- The world runs the configuration of the deployment, and stores its text. -/
structure Deployment.Represents (codec : JsonCodec) (d : Deployment) (w : World) : Prop where
  engine : w.config = d.engine
  record : w.kv .policyConfig = d.record.map (PolicyText.ofText codec)

variable {codec : JsonCodec} {d : Deployment} {env : Env} {peers : Peers} {w : World}

/-- A request with a valid body does in the world what it does in the deployment. -/
theorem PolicyController.updateConfig_simulates (h : d.Represents codec w) (cookie : Option String)
    {body : Json} {data : PolicyConfig} (accepted : PolicyConfig.modelValidate body = some data)
    (reads : codec.Reads data) :
    ∃ found, (∀ actor, found = some actor ↔ SignedIn env w cookie actor) ∧
      (d.updateConfig codec found body).Represents codec
        (Prog.run (handle env peers) (updateConfig cookie data).run w).2 := by
  obtain ⟨found, w', ran, looked, finds, -⟩ := resolve_run env peers w cookie
  refine ⟨found, finds, ?_⟩
  have same : d.Represents codec w' := by
    refine ⟨looked.config.trans h.engine, ?_⟩
    rcases looked.contents with same | ⟨id, same⟩
    · rw [same, h.record]
    · rw [same]
      exact h.record
  rw [updateConfig, Prog.run_except_bind, requireConsoleActor_eq, Prog.run_bind, ran]
  unfold Deployment.updateConfig
  rcases found with _ | actor
  · exact same
  · rw [accepted]
    refine ⟨rfl, ?_⟩
    exact congrArg some (PolicyText.ofText_modelDumpJson reads).symm

omit [Unicode] in
/-- The start-up does in the world what a restart does in the deployment. -/
theorem startEngine_simulates (h : d.Represents codec w) :
    (d.restart codec).Represents codec (Prog.run (handle env peers) startEngine w).2 := by
  have found : (w.kv .policyConfig).bind PolicyText.parse =
      Deployment.getPolicyConfig codec d.record := by
    rw [h.record, Deployment.getPolicyConfig]
    rcases d.record with _ | raw
    · rfl
    · exact PolicyText.parse_ofText codec raw
  exact ⟨congrArg (fun config => Option.getD config PolicyConfig.default) found, h.record⟩

end World

/-! ### A map with one category twice -/

namespace Sample

def oldText : String :=
  "\x7b\"restricted_categories\":\x7b\"HAZARDOUS\":\"ROLE_SAFETY_OFFICER\"\x7d," ++
    "\"window_start_hour\":6,\"window_end_hour\":20\x7d"

def weaponsText : String :=
  "\x7b\"restricted_categories\":\x7b\"WEAPONS\":\"ROLE_SECURITY_OFFICER\"\x7d\x7d"

def weapons : PolicyConfig := ⟨[("WEAPONS", "ROLE_SECURITY_OFFICER")], by decide, by decide⟩

/-- Reads and writes these two texts. -/
def codec : JsonCodec where
  parse raw :=
    if raw = oldText then
      some (.obj [("restricted_categories", .obj [("HAZARDOUS", .str "ROLE_SAFETY_OFFICER")]),
        ("window_start_hour", .int 6), ("window_end_hour", .int 20)])
    else if raw = weaponsText then some weapons.modelDump
    else none
  dump _ := weaponsText

/-- The two names are the same once they are stripped. -/
def twice : Json :=
  .obj [("restricted_categories", .obj [(" WEAPONS", .str "ROLE_CARGO_SUPERVISOR"),
    ("WEAPONS", .str "ROLE_SECURITY_OFFICER ")])]

end Sample

theorem restart_decides_alike_twice :
    let d := (Deployment.start Sample.codec (some Sample.oldText)).run Sample.codec
      [.restart, .updateConfig (some Sample.supervisor) Sample.twice]
    (∀ category, (d.restart Sample.codec).engine.authorityFor category =
        d.engine.authorityFor category) ∧
      ∀ value config, PolicyConfig.checkCategories value = .ok config →
        PolicyConfig.checkCategories config.restrictedCategories = .ok config := by
  refine Deployment.restart_decides_alike _ _ _ fun actor body data mem accepted => ?_
  obtain ⟨-, rfl⟩ : actor = some Sample.supervisor ∧ body = Sample.twice := by simpa using mem
  have validated : PolicyConfig.modelValidate Sample.twice = some Sample.weapons := by
    decide +kernel
  obtain rfl := Option.some.inj (validated.symm.trans accepted)
  unfold JsonCodec.Reads
  rfl

end ZoneGate
