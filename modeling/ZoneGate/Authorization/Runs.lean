import ZoneGate.Authorization.Service
import ZoneGate.Py.Numerals

/-!
# What one request does

Each program of the service, run to its end on a world: the result and the world it leaves.
-/

namespace ZoneGate

open Py Effects

namespace AuthorizationService

variable {env : Env} {peers : Peers} (svc : AuthorizationService) (w : World)

/-! ## Stages that leave the world as it was -/

@[simp] theorem emit_run (listener : Bool) (stage : Stage) (status : StageStatus)
    (detail : String) :
    (emit listener stage status detail).run (handle env peers) w = (.ok (), w) := by
  cases listener <;> rfl

@[simp] theorem emit_bind_run {α : Type} (listener : Bool) (stage : Stage) (status : StageStatus)
    (detail : String) (next : Unit → Service α) :
    (emit listener stage status detail >>= next).run (handle env peers) w =
      (next ()).run (handle env peers) w := by
  rw [Prog.run_bind, emit_run]

/-- The plan the service has after asking its planner. -/
def proposal (peers : Peers) (transaction : TransactionRequest) (policy : WorkflowEvidencePolicy) :
    Option EvidencePlan :=
  if svc.planner then
    match peers.planner transaction transaction.action policy.optional with
    | .returned plan => plan
    | .raised _ | .failed _ => none
  else none

@[simp] theorem planEvidence_run (listener : Bool) (transaction : TransactionRequest)
    (policy : WorkflowEvidencePolicy) :
    (svc.planEvidence listener transaction policy).run (handle env peers) w =
      (.ok (svc.proposal peers transaction policy), w) := by
  unfold planEvidence proposal
  split_ifs with hplanner
  · simp only [emit_bind_run, Prog.perform_eq, Prog.call_bind, Prog.ret_bind, run_plan]
    rcases peers.planner transaction transaction.action policy.optional with (_ | plan) | m | m <;>
      simp
  · simp

/-- The advice the service has after asking its evaluator. -/
def advice (peers : Peers) (transaction : TransactionRequest) (evidence : CanonicalEvidence) :
    Option ContextEvaluation :=
  if svc.evaluator then contextOf (peers.evaluator transaction evidence) else none

@[simp] theorem askEvaluator_run (listener : Bool) (transaction : TransactionRequest)
    (evidence : CanonicalEvidence) :
    (svc.askEvaluator listener transaction evidence).run (handle env peers) w =
      (.ok (svc.advice peers transaction evidence), w) := by
  unfold askEvaluator advice
  split_ifs <;> simp

/-! ## Stages that write -/

/-- The world once the advice, if any, is stored. -/
def advised (transaction : TransactionRequest) (advice : Option ContextEvaluation) (w : World) :
    World :=
  match advice with
  | some evaluation => w.after (.saveContextEvaluation transaction.transactionId evaluation)
  | none => w

theorem assessContext_run (listener : Bool) (transaction : TransactionRequest)
    (evidence : CanonicalEvidence) :
    (svc.assessContext listener transaction evidence).run (handle env peers) w =
      (.ok (svc.advice peers transaction evidence),
        advised transaction (svc.advice peers transaction evidence) w) := by
  rw [assessContext, Prog.run_bind, askEvaluator_run]
  rcases svc.advice peers transaction evidence with _ | evaluation <;> simp [advised]

/-- The world once a decision and its receipt are stored. -/
def persist (w : World) (decision : PolicyDecision) (receipt : Receipt) : World :=
  (w.after (.saveDecision decision)).after (.saveReceipt receipt)

/-- The decision of an exit before the policy engine. -/
def denial (transaction : TransactionRequest) (now : DateTime) (hex reason : String) :
    PolicyDecision :=
  { decisionId := PolicyEngine.newDecisionId hex
    transactionId := transaction.transactionId
    decision := .deny
    reasons := [reason]
    requiredAuthority := none
    decidedAt := now }

theorem refuse_run (listener : Bool) (transaction : TransactionRequest) (now : DateTime)
    (stage : Stage) (detail reason : String) :
    (refuse listener transaction now stage detail reason).run (handle env peers) w =
      let decision := denial transaction now (w.nextHex env) reason
      let receipt := receiptFor decision now none
      (.ok (decision, receipt), persist (w.draw env) decision receipt) := by
  simp [refuse, denial, persist]

/-- The token that is issued next, for the scope and the decision. -/
def nextToken (env : Env) (w : World) (actorId action resourceId zone decisionId : String) :
    ScopedAuthorizationToken :=
  TokenService.newToken svc.sign (TokenService.newTokenId (w.nextHex env)) actorId action resourceId
    zone decisionId (env.clock w.readings) 300

/-- The world once the next token is issued and stored. -/
def issued (env : Env) (w : World) (token : ScopedAuthorizationToken) : World :=
  (w.tick.draw env).after (.saveToken token)

@[simp] theorem issueToken_run (actorId action resourceId zone decisionId : String) :
    (TokenService.issueToken svc.sign actorId action resourceId zone decisionId).run
        (handle env peers) w =
      (.ok (svc.nextToken env w actorId action resourceId zone decisionId),
        w.tick.draw env) := by
  simp [TokenService.issueToken, nextToken]

theorem issueForHold_run (decision : PolicyDecision) :
    (svc.issueForHold decision).run (handle env peers) w =
      match w.kv (.transactions decision.transactionId) with
      | none => (.error (.holdResolution
          ("Transaction '" ++ decision.transactionId ++ "' is no longer on record")), w)
      | some transaction =>
          let token := svc.nextToken env w transaction.actorId transaction.action
            transaction.resourceId transaction.zone decision.decisionId
          (.ok (some token.tokenId), issued env w token) := by
  simp only [issueForHold, Prog.perform_eq, Prog.call_bind, Prog.ret_bind, run_store,
    StoreCall.answer, World.after_getTransaction]
  rcases w.kv (.transactions decision.transactionId) with _ | transaction
  · rfl
  · simp [Prog.run_bind, issued]

/-- The receipt a resolution starts from: the one on record for the transaction, or a new one. -/
def receiptOnRecord (w : World) (decision : PolicyDecision) (now : DateTime) : Receipt :=
  (w.kv.getReceiptByTx decision.transactionId).getD (receiptFor decision now none)

/-- The world once the receipt of a resolution is stored, with the token it carries. -/
def receipted (w : World) (receipt : Receipt) (now : DateTime) (token : Option String) : World :=
  w.after (.saveReceipt { receipt with issuedAt := now, token := token })

theorem transactions_saveDecision (decision : PolicyDecision) (id : String) :
    (w.after (.saveDecision decision)).kv (.transactions id) = w.kv (.transactions id) := rfl

theorem settleHold_run (decision : PolicyDecision) (outcome : DecisionOutcome)
    (resolvedBy note : String) :
    (svc.settleHold decision outcome resolvedBy note).run (handle env peers) w =
      let now := env.clock w.readings
      let resolved := resolve decision outcome resolvedBy note now
      let w₁ := w.tick.after (.saveDecision resolved)
      let receipt := receiptOnRecord w₁ decision now
      match (if outcome = .approve then svc.issueForHold decision else pure receipt.token).run
          (handle env peers) w₁ with
      | (.ok token, w₂) =>
          (.ok (resolved, { receipt with issuedAt := now, token := token }),
            receipted w₂ receipt now token)
      | (.error e, w₂) => (.error e, w₂) := by
  simp only [settleHold, Prog.perform_eq, Prog.call_bind, Prog.ret_bind, run_utcnow, run_store,
    StoreCall.answer, Prog.run_bind, receiptOnRecord, receipted,
    World.after_getReceiptByTransactionId]
  rcases (if outcome = .approve then _ else _ : Service (Option String)).run _ _ with
    ⟨e | token, w₂⟩ <;> rfl

theorem resolveHold_run (decisionId : String) (outcome : DecisionOutcome)
    (resolvedBy note : String) (resolverRole : Option String) [Unicode] :
    (svc.resolveHold decisionId outcome resolvedBy note resolverRole).run (handle env peers) w =
      match w.kv (.decisions decisionId) with
      | none => (.error (.decisionNotFound ("Decision '" ++ decisionId ++ "' not found")), w)
      | some decision =>
          match ineligible decisionId decision outcome resolverRole with
          | some e => (.error e, w)
          | none => (svc.settleHold decision outcome resolvedBy note).run
              (handle env peers) w := by
  simp only [resolveHold, Prog.perform_eq, Prog.call_bind, Prog.ret_bind, run_store,
    StoreCall.answer, World.after_getDecision]
  rcases w.kv (.decisions decisionId) with _ | decision
  · rfl
  · dsimp only
    rcases ineligible decisionId decision outcome resolverRole with _ | e <;> rfl

theorem claimToken_run (tokenIdentifier : String) (expected : Expected) :
    (svc.claimToken tokenIdentifier expected).run (handle env peers) w =
      match w.kv.getToken tokenIdentifier with
      | none => (.ok ⟨false, "REJECTED_NOT_FOUND",
          "Authorization token '" ++ tokenIdentifier ++ "' not found in registry", none⟩, w)
      | some token =>
          match TokenService.verifyToken svc.sign (env.clock w.readings) token expected with
          | .error message => (.error (.type message), w.tick)
          | .ok (false, status, message) => (.ok ⟨false, status, message, some token⟩, w.tick)
          | .ok (true, _, _) =>
              let claimed := TokenService.claimedAtTime token (env.clock w.tick.readings)
              (.ok ⟨true, "CLAIMED", "Token successfully claimed for physical execution",
                some claimed⟩, w.tick.tick.after (.saveToken claimed)) := by
  simp only [claimToken, Prog.perform_eq, Prog.call_bind, Prog.ret_bind, run_store,
    StoreCall.answer, World.after_getToken]
  rcases w.kv.getToken tokenIdentifier with _ | token
  · rfl
  simp only [TokenService.claimToken, Prog.perform_eq, Prog.call_bind, Prog.ret_bind, run_utcnow]
  rcases TokenService.verifyToken svc.sign (env.clock w.readings) token expected with
    message | ⟨_ | _, status, message⟩
  · rfl
  · rfl
  · simp only [Prog.pure_eq, Prog.call_bind, Prog.ret_bind, run_utcnow, run_store, Prog.run_ret]

/-! ## The pipeline -/

section Pipeline

variable [Unicode]

/-- The verdict of the engine on a world. -/
def verdict (env : Env) (w : World) (transaction : TransactionRequest) (actor : Actor)
    (plan : ValidatedEvidencePlan) (evidence : CanonicalEvidence)
    (context : Option ContextEvaluation) : PolicyDecision :=
  PolicyEngine.decide w.config (PolicyEngine.newDecisionId (w.nextHex env))
    (env.clock w.readings) transaction actor evidence context svc.attestable
    (some plan.mandatory.toFinset)

/-- The advice is recorded with the verdict and has no part in it. -/
theorem verdict_context (transaction : TransactionRequest) (actor : Actor)
    (plan : ValidatedEvidencePlan) (evidence : CanonicalEvidence)
    (context context' : Option ContextEvaluation) :
    svc.verdict env w transaction actor plan evidence context' =
      { svc.verdict env w transaction actor plan evidence context with
        contextEvaluation := context' } := by
  obtain ⟨outcome, reasons, authority, shape⟩ := PolicyEngine.decide_shape w.config
    (PolicyEngine.newDecisionId (w.nextHex env)) (env.clock w.readings) transaction actor evidence
    svc.attestable (some plan.mandatory.toFinset)
  rw [verdict, verdict, shape, shape]

theorem evaluate_run (transaction : TransactionRequest) (actor : Actor)
    (plan : ValidatedEvidencePlan) (evidence : CanonicalEvidence)
    (context : Option ContextEvaluation) :
    (PolicyEngine.evaluate transaction actor evidence context svc.attestable
        (some plan.mandatory.toFinset)).run (handle env peers) w =
      (.ok (svc.verdict env w transaction actor plan evidence context),
        (w.draw env).tick) := by
  simp only [PolicyEngine.evaluate, Prog.perform_eq, Prog.call_bind, Prog.ret_bind, run_uuid4,
    run_utcnow, run_engineConfig]
  rfl

theorem decideAndPersist_run (listener : Bool) (transaction : TransactionRequest) (now : DateTime)
    (actor : Actor) (plan : ValidatedEvidencePlan) (evidence : CanonicalEvidence)
    (context : Option ContextEvaluation) :
    (svc.decideAndPersist listener transaction now actor plan evidence context).run
        (handle env peers) w =
      let decision := svc.verdict env w transaction actor plan evidence context
      let w₁ := (w.draw env).tick
      if decision.decision = .approve then
        let token := svc.nextToken env w₁ actor.actorId transaction.action transaction.resourceId
          transaction.zone decision.decisionId
        let receipt := receiptFor decision now (some token.tokenId)
        (.ok (decision, receipt), persist (issued env w₁ token) decision receipt)
      else
        let receipt := receiptFor decision now none
        (.ok (decision, receipt), persist w₁ decision receipt) := by
  rw [decideAndPersist, emit_bind_run, Prog.run_bind, evaluate_run]
  generalize svc.verdict env w transaction actor plan evidence context = decision
  dsimp only
  rw [emit_bind_run, Prog.run_bind, issueIfApproved]
  split_ifs <;> simp [Prog.run_bind, persist, issued]

/-- The world once the plan is stored. -/
def planned (transaction : TransactionRequest) (plan : ValidatedEvidencePlan) (w : World) : World :=
  w.after (.saveEvidencePlan transaction.transactionId plan)

/-- The reason of a request whose evidence could not be collected. -/
def collectionFailure : GatewayError → String
  | .actorDeviceMismatch message => "Device binding validation error: " ++ message
  | .unauthorizedEvidenceRequest message => "Network evidence collection failed: " ++ message
  | .gateway message => "Network evidence collection failed: " ++ message

theorem collectAndDecide_run {listener : Bool} {transaction : TransactionRequest} {now : DateTime}
    {actor : Actor} {binding : DeviceBinding} {plan : ValidatedEvidencePlan} {area : Geofence}
    (harea : areaOf svc.zoneRegistry transaction.zone = some area) :
    (svc.collectAndDecide listener transaction now actor binding plan).run
        (handle env peers) w =
      match collected peers.carrier actor binding area plan with
      | .error e =>
          (refuse listener transaction now .evidence e.message (collectionFailure e)).run
            (handle env peers) (planned transaction plan w)
      | .ok evidenceAt =>
          let evidence := evidenceAt (env.clock w.readings)
          let advice := svc.advice peers transaction evidence
          (svc.decideAndPersist listener transaction now actor plan evidence advice).run
            (handle env peers)
            (advised transaction advice
              ((planned transaction plan w).tick.after
                (.saveEvidence transaction.transactionId evidence))) := by
  simp only [collectAndDecide, Prog.perform_eq, Prog.call_bind, Prog.ret_bind, run_store, emit_run,
    Prog.run_bind]
  rw [collectEvidence_run harea]
  rcases collected peers.carrier actor binding area plan with e | evidence
  · cases e <;> rfl
  · simp only [run_store, Prog.run_bind, emit_run, assessContext_run]
    rfl

theorem collectAndDecide_run_nowhere {listener : Bool} {transaction : TransactionRequest}
    {now : DateTime} {actor : Actor} {binding : DeviceBinding} {plan : ValidatedEvidencePlan}
    (harea : areaOf svc.zoneRegistry transaction.zone = none) :
    (svc.collectAndDecide listener transaction now actor binding plan).run
        (handle env peers) w =
      match (do validateActorDeviceBinding actor binding
                checkCapabilities plan.combined : Except GatewayError Unit) with
      | .error e =>
          (refuse listener transaction now .evidence e.message (collectionFailure e)).run
            (handle env peers) (planned transaction plan w)
      | .ok () => (.error (.key "DEFAULT_ZONE"), planned transaction plan w) := by
  simp only [collectAndDecide, Prog.perform_eq, Prog.call_bind, Prog.ret_bind, run_store, emit_run,
    Prog.run_bind]
  rw [collectEvidence_run_nowhere harea]
  rcases (do validateActorDeviceBinding actor binding
             checkCapabilities plan.combined : Except GatewayError Unit) with e | -
  · cases e <;> rfl
  · rfl

theorem planAndCollect_run (listener : Bool) (transaction : TransactionRequest) (now : DateTime)
    (actor : Actor) (binding : DeviceBinding) :
    (svc.planAndCollect listener transaction now actor binding).run (handle env peers) w =
      match getWorkflowPolicy transaction.action with
      | .error message =>
          (refuse listener transaction now .validate
            ("No evidence policy exists for action '" ++ transaction.action ++ "'")
            ("Action '" ++ transaction.action ++ "' is not supported: " ++ message)).run
              (handle env peers) w
      | .ok policy =>
          match validateWith policy svc.attestable transaction.action
              (svc.proposal peers transaction policy) with
          | .error (.noPolicy message) => (.error (.value message), w)
          | .error (.forbidden message) | .error (.unsupported message) =>
              (refuse listener transaction now .validate message
                ("Evidence plan validation failed: " ++ message)).run (handle env peers) w
          | .ok plan =>
              (svc.collectAndDecide listener transaction now actor binding plan).run
                (handle env peers) w := by
  rw [planAndCollect]
  rcases hpolicy : getWorkflowPolicy transaction.action with message | policy
  · rfl
  · dsimp only
    rw [Prog.run_bind, planEvidence_run]
    dsimp only
    rw [emit_bind_run, validate, hpolicy]
    dsimp only
    rcases validateWith policy svc.attestable transaction.action
      (svc.proposal peers transaction policy) with (m | m | m) | plan <;> rfl

/-- The world once the transaction is stored. -/
def filed (transaction : TransactionRequest) (w : World) : World :=
  w.tick.after (.saveTransaction transaction)

theorem authorizeTransaction_run (listener : Bool) (transaction : TransactionRequest) :
    (svc.authorizeTransaction listener transaction).run (handle env peers) w =
      let now := env.clock w.readings
      match w.kv (.actors transaction.actorId), w.kv (.deviceBindings transaction.actorId) with
      | none, _ =>
          (refuse listener transaction now .identity
            ("'" ++ transaction.actorId ++ "' is not on the enrolled roster")
            ("Actor '" ++ transaction.actorId ++ "' is not enrolled in ZoneGate")).run
              (handle env peers) (filed transaction w)
      | some _, none =>
          (refuse listener transaction now .identity
            ("'" ++ transaction.actorId ++ "' has no active device binding")
            ("No verified device binding found for actor '" ++ transaction.actorId ++ "'")).run
              (handle env peers) (filed transaction w)
      | some actor, some binding =>
          (svc.planAndCollect listener transaction now actor binding).run
            (handle env peers) (filed transaction w) := by
  simp only [authorizeTransaction, Prog.perform_eq, Prog.call_bind, Prog.ret_bind, run_utcnow,
    run_store, emit_bind_run, StoreCall.answer, World.after_getActor]
  rw [show (w.tick.after (.saveTransaction transaction)).kv (.actors transaction.actorId) =
    w.kv (.actors transaction.actorId) from rfl]
  rcases w.kv (.actors transaction.actorId) with _ | actor
  · rfl
  · dsimp only
    rw [run_store, show (StoreCall.getDeviceBinding transaction.actorId).answer
      (w.tick.after (.saveTransaction transaction)).kv =
        w.kv (.deviceBindings transaction.actorId) from rfl]
    rcases w.kv (.deviceBindings transaction.actorId) with _ | binding
    · rfl
    · dsimp only
      rw [emit_bind_run]
      rfl

end Pipeline

end AuthorizationService

/-! ## A small deployment -/

namespace Sample

/-- Case mappings that leave everything beyond ASCII alone. -/
@[reducible] def unicode : Unicode := ⟨fun c => [c], id⟩

/-- Digests that tell messages apart: the message, marked, or its literal if it is not ASCII. -/
def digests : Hmac where
  hexdigest message := if isAscii message then "sig:" ++ message else quote message
  ascii message := by
    split_ifs with ascii
    · simpa [isAscii_iff] using isAscii_iff.1 ascii
    · exact isAscii_quote message

/-- A service without agents. -/
def service : AuthorizationService := { sign := digests }

/-- A carrier that confirms everything, and agents that are never asked. -/
def peers : Peers where
  carrier
    | .verifyNumber _ => .answered true
    | .verifyLocation _ _ => .answered .true
    | .checkSimSwap _ => .answered false
    | .checkDeviceSwap _ => .answered false
    | .getReachability _ => .answered { reachable := some true }
  planner _ _ _ := .returned none
  evaluator _ _ := .returned none

/-- A clock that stands still, and identifiers whose first twelve digits differ. -/
def env : Env where
  clock _ := ⟨0⟩
  uuid n := DateTime.pad 12 n

def operator : Actor where
  actorId := "op"
  role := "CARGO_OPERATOR"
  permissions := ["cargo:release"]
  registeredPhoneNumber := "+1"
  registeredDeviceId := "dev"

def binding : DeviceBinding where
  actorId := "op"
  phoneNumber := "+1"
  deviceId := "dev"
  boundAt := ⟨0⟩

/-- A release of a cargo of the category. -/
def release (resourceId category : String)
    (length : 1 ≤ category.length ∧ category.length ≤ 64) : TransactionRequest where
  transactionId := "tx"
  actorId := "op"
  action := "RELEASE_CARGO"
  resourceId := resourceId
  zone := "PORT_GATE_17"
  timestamp := ⟨0⟩
  category := category
  category_length := length

def general : TransactionRequest := release "r" "GENERAL" (by decide)

def hazardous (resourceId : String) : TransactionRequest :=
  release resourceId "HAZARDOUS" (by decide)

/-- The operator is enrolled. -/
def world : World where
  kv := (StoreCall.saveDeviceBinding binding).exec ((StoreCall.saveActor operator).exec Kv.empty)
  config := PolicyConfig.default

theorem world_stored : world.kv.Stored :=
  .exec (.saveDeviceBinding binding) (.exec (.saveActor operator) .empty)

/-- The operator has asked for a release that is approved. -/
def approved : World :=
  let _ := unicode
  ((service.authorizeTransaction false general).run (handle env peers) world).2

theorem approved_stored : approved.kv.Stored :=
  let _ := unicode
  run_stored (service.authorizeTransaction false general) world_stored

/-- The operator has asked for a release that is held. -/
def held : World :=
  let _ := unicode
  ((service.authorizeTransaction false (hazardous "r")).run (handle env peers) world).2

theorem held_stored : held.kv.Stored :=
  let _ := unicode
  run_stored (service.authorizeTransaction false (hazardous "r")) world_stored

end Sample

end ZoneGate
