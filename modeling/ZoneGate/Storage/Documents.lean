import ZoneGate.Api.Policy
import ZoneGate.Domain.DecimalText
import ZoneGate.Library.Encoding
import ZoneGate.Py.Model

/-!
# The texts of the records

What `ZoneGateStore` keeps are texts: the JSON of a record, of a list of ids, or an id as it is.
Each record has its fields under the names of the source, with their types and defaults, and is
read back from the text that is written for it.
-/

namespace ZoneGate

open Py Codecs FieldCodec

/-! ## Fields -/

/-- A field without a default. -/
def required {α : Type} (name : String) (codec : FieldCodec α) : Field Json.WellFormed String α :=
  ⟨name, codec, none⟩

/-- A field with a default. -/
def defaulted {α : Type} (name : String) (codec : FieldCodec α) (default : α) :
    Field Json.WellFormed String α := ⟨name, codec, some default⟩

def Decimal.codec : FieldCodec Decimal := str.build Decimal.ofText Decimal.text Decimal.ofText_text

def EvidenceKind.codec : FieldCodec EvidenceKind :=
  enum EvidenceKind.value EvidenceKind.byValue fun kind => by cases kind <;> decide

def DecisionOutcome.codec : FieldCodec DecisionOutcome :=
  enum DecisionOutcome.value [.approve, .hold, .deny] fun outcome => by cases outcome <;> decide

def optionalStr : FieldCodec (Option String) := nullable str nofun

def optionalBool : FieldCodec (Option Bool) := nullable bool nofun

def optionalDatetime : FieldCodec (Option DateTime) := nullable datetime nofun

/-! ## Records -/

def Actor.codec : FieldCodec Actor :=
  model (((Schema.cons (required "actor_id" str) <| .cons (required "role" str) <|
      .cons (defaulted "permissions" (list str) []) <|
      .cons (required "registered_phone_number" str) <|
      .cons (required "registered_device_id" str) <|
      .one (defaulted "enrollment_status" str "ACTIVE"))).build
    (fun (actorId, role, permissions, phone, device, status) =>
      some ⟨actorId, role, permissions, phone, device, status⟩)
    (fun a => (a.actorId, a.role, a.permissions, a.registeredPhoneNumber, a.registeredDeviceId,
      a.enrollmentStatus))
    fun _ => rfl) (by decide)

def DeviceBinding.codec : FieldCodec DeviceBinding :=
  model ((Schema.cons (required "actor_id" str) <| .cons (required "phone_number" str) <|
      .cons (required "device_id" str) <| .cons (required "bound_at" datetime) <|
      .one (defaulted "is_active" bool true)).build
    (fun (actorId, phone, device, boundAt, active) =>
      some ⟨actorId, phone, device, boundAt, active⟩)
    (fun b => (b.actorId, b.phoneNumber, b.deviceId, b.boundAt, b.isActive))
    fun _ => rfl) (by decide)

example : DeviceBinding.codec.modelDumpJson
    { actorId := "op", phoneNumber := "+1", deviceId := "dev", boundAt := ⟨0⟩ } =
      "\x7b\"actor_id\":\"op\",\"phone_number\":\"+1\",\"device_id\":\"dev\"," ++
        "\"bound_at\":\"0001-01-01T00:00:00Z\",\"is_active\":true\x7d" := by decide +kernel

def OperatorCredential.codec : FieldCodec OperatorCredential :=
  model ((Schema.cons (required "actor_id" str) <| .cons (required "password_hash" str) <|
      .one (required "updated_at" datetime)).build
    (fun (actorId, hash, updatedAt) => some ⟨actorId, hash, updatedAt⟩)
    (fun c => (c.actorId, c.passwordHash, c.updatedAt))
    fun _ => rfl) (by decide)

def ConsoleSession.codec : FieldCodec ConsoleSession :=
  model ((Schema.cons (required "session_id" str) <| .cons (required "actor_id" str) <|
      .cons (required "created_at" datetime) <| .one (required "expires_at" datetime)).build
    (fun (sessionId, actorId, createdAt, expiresAt) =>
      some ⟨sessionId, actorId, createdAt, expiresAt⟩)
    (fun s => (s.sessionId, s.actorId, s.createdAt, s.expiresAt))
    fun _ => rfl) (by decide)

/-- The length of the category is checked on reading as on creation. -/
def TransactionRequest.codec : FieldCodec TransactionRequest :=
  model ((Schema.cons (required "transaction_id" str) <| .cons (required "actor_id" str) <|
      .cons (required "action" str) <| .cons (required "resource_id" str) <|
      .cons (required "zone" str) <| .cons (required "timestamp" datetime) <|
      .cons (defaulted "value" Decimal.codec ⟨false, 0, -1⟩) <|
      .cons (defaulted "category" str defaultCategory) <|
      .one (defaulted "metadata" (dict str) [])).build
    (fun (transactionId, actorId, action, resourceId, zone, timestamp, value, category, metadata) =>
      if h : 1 ≤ category.length ∧ category.length ≤ 64 then
        some ⟨transactionId, actorId, action, resourceId, zone, timestamp, value, category,
          metadata, h⟩
      else none)
    (fun t => (t.transactionId, t.actorId, t.action, t.resourceId, t.zone, t.timestamp, t.value,
      t.category, t.metadata))
    fun t => dif_pos t.category_length) (by decide)

def ValidatedEvidencePlan.codec : FieldCodec ValidatedEvidencePlan :=
  model ((Schema.cons (required "mandatory" (list EvidenceKind.codec)) <|
      .cons (defaulted "optional" (list EvidenceKind.codec) []) <|
      .cons (required "combined" (list EvidenceKind.codec)) <|
      .cons (defaulted "rationale" (list str) []) <|
      .cons (defaulted "planner_consulted" bool false) <|
      .cons (defaulted "offered_optional" (list EvidenceKind.codec) []) <|
      .one (defaulted "proposed_optional" (list EvidenceKind.codec) [])).build
    (fun (mandatory, optional, combined, rationale, consulted, offered, proposed) =>
      some ⟨mandatory, optional, combined, rationale, consulted, offered, proposed⟩)
    (fun p => (p.mandatory, p.optional, p.combined, p.rationale, p.plannerConsulted,
      p.offeredOptional, p.proposedOptional))
    fun _ => rfl) (by decide)

def CanonicalEvidence.codec : FieldCodec CanonicalEvidence :=
  model ((Schema.cons (defaulted "number_verified" optionalBool none) <|
      .cons (defaulted "location_verified" optionalBool none) <|
      .cons (defaulted "recent_sim_swap" optionalBool none) <|
      .cons (defaulted "recent_device_swap" optionalBool none) <|
      .cons (defaulted "reachable" optionalBool none) <|
      .cons (defaulted "kyc_match" optionalBool none) <|
      .one (required "collected_at" datetime)).build
    (fun (number, location, sim, device, reachable, kyc, collectedAt) =>
      some ⟨number, location, sim, device, reachable, kyc, collectedAt⟩)
    (fun e => (e.numberVerified, e.locationVerified, e.recentSimSwap, e.recentDeviceSwap,
      e.reachable, e.kycMatch, e.collectedAt))
    fun _ => rfl) (by decide)

def ContextEvaluation.codec : FieldCodec ContextEvaluation :=
  model ((Schema.cons (defaulted "risk_factors" (list str) []) <|
      .cons (required "recommended_control" DecisionOutcome.codec) <|
      .one (required "rationale" str)).build
    (fun (factors, control, rationale) => some ⟨factors, control, rationale⟩)
    (fun e => (e.riskFactors, e.recommendedControl, e.rationale))
    fun _ => rfl) (by decide)

def HoldResolution.codec : FieldCodec HoldResolution :=
  model ((Schema.cons (required "outcome" DecisionOutcome.codec) <|
      .cons (required "resolved_by" str) <| .cons (required "authority_role" str) <|
      .cons (defaulted "note" str "") <| .one (required "resolved_at" datetime)).build
    (fun (outcome, resolvedBy, role, note, resolvedAt) =>
      some ⟨outcome, resolvedBy, role, note, resolvedAt⟩)
    (fun r => (r.outcome, r.resolvedBy, r.authorityRole, r.note, r.resolvedAt))
    fun _ => rfl) (by decide)

/-- The dictionary that the engine writes. -/
def EvidenceSummary.codec : FieldCodec EvidenceSummary :=
  model ((Schema.cons (required "number_verified" optionalBool) <|
      .cons (required "location_verified" optionalBool) <|
      .cons (required "recent_sim_swap" optionalBool) <|
      .cons (required "recent_device_swap" optionalBool) <|
      .one (required "reachable" optionalBool)).build
    (fun (number, location, sim, device, reachable) =>
      some ⟨number, location, sim, device, reachable⟩)
    (fun s => (s.numberVerified, s.locationVerified, s.recentSimSwap, s.recentDeviceSwap,
      s.reachable))
    fun _ => rfl) (by decide)

def PolicyDecision.codec : FieldCodec PolicyDecision :=
  model ((Schema.cons (required "decision_id" str) <| .cons (required "transaction_id" str) <|
      .cons (required "decision" DecisionOutcome.codec) <| .cons (required "reasons" (list str)) <|
      .cons (defaulted "required_authority" optionalStr none) <|
      .cons (defaulted "context_evaluation" (nullable ContextEvaluation.codec nofun) none) <|
      .cons (defaulted "evidence_summary" (nullable EvidenceSummary.codec nofun) none) <|
      .cons (required "decided_at" datetime) <|
      .one (defaulted "resolution" (nullable HoldResolution.codec nofun) none)).build
    (fun (decisionId, transactionId, decision, reasons, authority, evaluation, summary, decidedAt,
      resolution) => some ⟨decisionId, transactionId, decision, reasons, authority, evaluation,
        summary, decidedAt, resolution⟩)
    (fun d => (d.decisionId, d.transactionId, d.decision, d.reasons, d.requiredAuthority,
      d.contextEvaluation, d.evidenceSummary, d.decidedAt, d.resolution))
    fun _ => rfl) (by decide)

def Receipt.codec : FieldCodec Receipt :=
  model ((Schema.cons (required "receipt_id" str) <| .cons (required "decision_id" str) <|
      .cons (required "transaction_id" str) <| .cons (required "decision" DecisionOutcome.codec) <|
      .cons (required "issued_at" datetime) <| .one (defaulted "token" optionalStr none)).build
    (fun (receiptId, decisionId, transactionId, decision, issuedAt, token) =>
      some ⟨receiptId, decisionId, transactionId, decision, issuedAt, token⟩)
    (fun r => (r.receiptId, r.decisionId, r.transactionId, r.decision, r.issuedAt, r.token))
    fun _ => rfl) (by decide)

def ScopedAuthorizationToken.codec : FieldCodec ScopedAuthorizationToken :=
  model ((Schema.cons (required "token_id" str) <| .cons (required "actor_id" str) <|
      .cons (required "action" str) <| .cons (required "resource_id" str) <|
      .cons (required "zone" str) <| .cons (required "decision_id" str) <|
      .cons (required "issued_at" datetime) <| .cons (required "expires_at" datetime) <|
      .cons (required "signature" str) <| .cons (defaulted "claimed" bool false) <|
      .one (defaulted "claimed_at" optionalDatetime none)).build
    (fun (tokenId, actorId, action, resourceId, zone, decisionId, issuedAt, expiresAt, signature,
      claimed, claimedAt) => some ⟨tokenId, actorId, action, resourceId, zone, decisionId, issuedAt,
        expiresAt, signature, claimed, claimedAt⟩)
    (fun t => (t.tokenId, t.actorId, t.action, t.resourceId, t.zone, t.decisionId, t.issuedAt,
      t.expiresAt, t.signature, t.claimed, t.claimedAt))
    fun _ => rfl) (by decide)

/-! ## The policy configuration -/

/-- The JSON of the store. -/
def storedJson : JsonCodec := ⟨loads, fun v => String.ofList (JsonStyle.compact.write v)⟩

theorem wellFormed_categories (entries : List (String × String)) :
    (Json.obj (entries.map fun e => (e.1, .str e.2))).WellFormed := (dict str).good entries

/-- Every configuration is read back, as a deployment relies on. -/
theorem storedJson_reads (config : PolicyConfig) : storedJson.Reads config := by
  refine loads_write JsonStyle.compact (.obj _ fun e mem => ?_)
  rw [List.mem_singleton.1 mem]
  exact wellFormed_categories config.restrictedCategories

/-- A text that parses to the given; of these only the first is ever written. -/
def PolicyText.text : PolicyText → String
  | .categories entries => storedJson.dump
      (.obj [("restricted_categories", .obj (entries.map fun e => (e.1, .str e.2)))])
  | .absent => storedJson.dump (.obj [])
  | .invalid => storedJson.dump .null

theorem PolicyText.ofText_text (t : PolicyText) : ofText storedJson t.text = t := by
  have read {v : Json} (good : v.WellFormed) :
      ofText storedJson (storedJson.dump v) = ofData v := by
    change (loads (String.ofList (JsonStyle.compact.write v))).elim .invalid ofData = _
    rw [loads_write _ good, Option.elim_some]
  cases t with
  | categories entries =>
    have items : ofData
        (.obj [("restricted_categories", .obj (entries.map fun e => (e.1, .str e.2)))]) =
          (PolicyConfig.stringItems (entries.map fun e => (e.1, .str e.2))).elim .invalid
            .categories := rfl
    rw [text, read (.obj _ fun e mem => by
      rw [List.mem_singleton.1 mem]
      exact wellFormed_categories entries), items, PolicyConfig.stringItems_map, Option.elim_some]
  | absent => exact read (.obj [] (List.forall_mem_nil _))
  | invalid => exact read .null

/-! ## Cells -/

/-- How the values of a type are kept as texts. -/
abbrev TextCodec (α : Type) := Codec (fun _ : String => True) α

/-- By `model_dump_json` and `model_validate_json`. -/
def modelText {α : Type} (c : FieldCodec α) : TextCodec α :=
  ⟨c.modelDumpJson, c.modelValidateJson, fun _ => trivial, c.modelValidateJson_modelDumpJson⟩

/-- By `json.dumps` and `json.loads`. -/
def dumpsText {α : Type} (c : FieldCodec α) : TextCodec α :=
  ⟨c.dumps, c.modelValidateJson, fun _ => trivial, c.modelValidateJson_dumps⟩

/-- An id stands for itself. -/
def idText : TextCodec String := ⟨id, some, fun _ => trivial, fun _ => rfl⟩

/-- Any text is a configuration, if only an invalid one. -/
def policyText : TextCodec PolicyText :=
  ⟨PolicyText.text, fun raw => some (.ofText storedJson raw), fun _ => trivial,
    fun t => congrArg some t.ofText_text⟩

namespace Cell

/-- The namespace and the key. -/
def address : Cell → String × String
  | actors actorId => ("actors", actorId)
  | deviceBindings actorId => ("device_bindings", actorId)
  | consoleCredentials actorId => ("console_credentials", actorId)
  | consoleSessions sessionId => ("console_sessions", sessionId)
  | transactions transactionId => ("transactions", transactionId)
  | evidencePlans transactionId => ("evidence_plans", transactionId)
  | evidence transactionId => ("evidence", transactionId)
  | contextEvaluations transactionId => ("context_evaluations", transactionId)
  | decisions decisionId => ("decisions", decisionId)
  | decisionTxIndex transactionId => ("decision_tx_index", transactionId)
  | receipts receiptId => ("receipts", receiptId)
  | receiptTxIndex transactionId => ("receipt_tx_index", transactionId)
  | tokens tokenId => ("tokens", tokenId)
  | tokenSigIndex signature => ("token_sig_index", signature)
  | decisionList => ("indexes", "decisions")
  | actorList => ("indexes", "actors")
  | policyConfig => ("indexes", "policy_config")

/-- The cell at an address. -/
def ofAddress : String × String → Option Cell
  | ("actors", key) => some (.actors key)
  | ("device_bindings", key) => some (.deviceBindings key)
  | ("console_credentials", key) => some (.consoleCredentials key)
  | ("console_sessions", key) => some (.consoleSessions key)
  | ("transactions", key) => some (.transactions key)
  | ("evidence_plans", key) => some (.evidencePlans key)
  | ("evidence", key) => some (.evidence key)
  | ("context_evaluations", key) => some (.contextEvaluations key)
  | ("decisions", key) => some (.decisions key)
  | ("decision_tx_index", key) => some (.decisionTxIndex key)
  | ("receipts", key) => some (.receipts key)
  | ("receipt_tx_index", key) => some (.receiptTxIndex key)
  | ("tokens", key) => some (.tokens key)
  | ("token_sig_index", key) => some (.tokenSigIndex key)
  | ("indexes", "decisions") => some .decisionList
  | ("indexes", "actors") => some .actorList
  | ("indexes", "policy_config") => some .policyConfig
  | _ => none

/-- No two cells share a namespace and a key. -/
theorem address_injective : Function.Injective address := by
  have back (c : Cell) : ofAddress c.address = some c := by cases c <;> rfl
  exact fun a b e => Option.some.inj ((back a).symm.trans ((congrArg ofAddress e).trans (back b)))

/-- How the document of a cell is kept. -/
def codec : (c : Cell) → TextCodec c.Doc
  | actors _ => modelText Actor.codec
  | deviceBindings _ => modelText DeviceBinding.codec
  | consoleCredentials _ => modelText OperatorCredential.codec
  | consoleSessions _ => modelText ConsoleSession.codec
  | transactions _ => modelText TransactionRequest.codec
  | evidencePlans _ => modelText ValidatedEvidencePlan.codec
  | evidence _ => modelText CanonicalEvidence.codec
  | contextEvaluations _ => modelText ContextEvaluation.codec
  | decisions _ => modelText PolicyDecision.codec
  | decisionTxIndex _ => idText
  | receipts _ => modelText Receipt.codec
  | receiptTxIndex _ => idText
  | tokens _ => modelText ScopedAuthorizationToken.codec
  | tokenSigIndex _ => idText
  | decisionList => dumpsText (list str)
  | actorList => dumpsText (list str)
  | policyConfig => policyText

end Cell

/-- The database of texts keeps the cells. -/
def storedTexts : Cells.Encoding Cell.Doc (String × String) String where
  address := Cell.address
  write c := c.codec.write
  read c := c.codec.read
  address_injective := Cell.address_injective
  read_write c := c.codec.read_write

end ZoneGate
