import ZoneGate.Authorization.Roles
import ZoneGate.Authorization.Token
import ZoneGate.Evidence.Gateway
import ZoneGate.Policy.Engine

/-!
# The authorization service

The pipeline of a request, the resolution of a HOLD and the claim of a token, as programs over the
effect interface.
-/

namespace ZoneGate

open Py Effects

variable [Unicode]

/-- What the service is built from: the kinds the carrier can attest, the geofences, whether the
agents are attached, and the signing function of the token service. -/
structure AuthorizationService where
  attestable : Option (Finset EvidenceKind) := none
  zoneRegistry : List (String × Geofence) := defaultZoneRegistry
  planner : Bool := false
  evaluator : Bool := false
  sign : Hmac

namespace AuthorizationService

variable (svc : AuthorizationService)

/-! ## Resolving a hold -/

/-- The checks of `resolve_hold`: the exception it raises before anything is written. -/
def ineligible (decisionId : String) (decision : PolicyDecision) (outcome : DecisionOutcome)
    (resolverRole : Option String) : Option ServiceError :=
  if decision.decision ≠ .hold then
    some (.holdResolution ("Decision '" ++ decisionId ++ "' is " ++ decision.decision.value ++
      " and is not open to human " ++ "resolution. Only a HOLD transfers authority to a person."))
  else match decision.resolution with
  | some resolution =>
      some (.holdResolution ("Decision '" ++ decisionId ++ "' was already resolved as " ++
        resolution.outcome.value ++ " by " ++ resolution.resolvedBy))
  | none =>
      match resolverRole.filter fun role => !holdsAuthority (some role) decision.requiredAuthority with
      | some role =>
          some (.holdAuthority ("Decision '" ++ decisionId ++ "' is held for " ++
            decision.requiredAuthority.getD "None" ++ "; " ++ "a " ++ role ++ " cannot resolve it"))
      | none =>
          if outcome = .hold then
            some (.holdResolution "A human resolution must be either APPROVE or DENY")
          else none

/-- A resolution is let through for a pending hold, a role that holds the authority it is held for,
and a verdict that decides. -/
theorem ineligible_eq_none {decisionId : String} {decision : PolicyDecision}
    {outcome : DecisionOutcome} {resolverRole : Option String} :
    ineligible decisionId decision outcome resolverRole = none ↔
      decision.decision = .hold ∧ decision.resolution = none ∧
        (∀ role, resolverRole = some role →
          holdsAuthority (some role) decision.requiredAuthority = true) ∧ outcome ≠ .hold := by
  unfold ineligible
  by_cases hhold : decision.decision = .hold
  swap
  · simp [hhold]
  rw [if_neg (not_not_intro hhold)]
  rcases decision.resolution with _ | resolution
  swap
  · simp
  rcases resolverRole with _ | role
  · simp [hhold]
  · cases hholds : holdsAuthority (some role) decision.requiredAuthority <;>
      simp [Option.filter, hholds, hhold]

/-- The receipt of a decision. -/
def receiptFor (decision : PolicyDecision) (now : DateTime) (token : Option String) : Receipt :=
  { receiptId := "rcpt_" ++ decision.decisionId
    decisionId := decision.decisionId
    transactionId := decision.transactionId
    decision := decision.decision
    issuedAt := now
    token := token }

/-- The decision with the verdict of the person attached. -/
def resolve (decision : PolicyDecision) (outcome : DecisionOutcome) (resolvedBy note : String)
    (now : DateTime) : PolicyDecision :=
  { decision with
    resolution := some
      { outcome := outcome
        resolvedBy := resolvedBy
        authorityRole :=
          (decision.requiredAuthority.filter (· ≠ "")).getD "UNSPECIFIED_AUTHORITY"
        note := note
        resolvedAt := now } }

/-- The token of an approved hold, scoped to the transaction on record. -/
def issueForHold (decision : PolicyDecision) : Service (Option String) := do
  let transaction ← store (.getTransaction decision.transactionId)
  match transaction with
  | none => .raise (.holdResolution
      ("Transaction '" ++ decision.transactionId ++ "' is no longer on record"))
  | some transaction => do
      let scopedToken ← TokenService.issueToken svc.sign transaction.actorId transaction.action
        transaction.resourceId transaction.zone decision.decisionId
      store (.saveToken scopedToken)
      return some scopedToken.tokenId

/-- What `resolve_hold` does once the hold is found to be open to the resolver. -/
def settleHold (decision : PolicyDecision) (outcome : DecisionOutcome) (resolvedBy note : String) :
    Service (PolicyDecision × Receipt) := do
  let now ← utcnow
  let resolved := resolve decision outcome resolvedBy note now
  store (.saveDecision resolved)
  let found ← store (.getReceiptByTransactionId decision.transactionId)
  let receipt := found.getD (receiptFor decision now none)
  let token ← (if outcome = .approve then svc.issueForHold decision else pure receipt.token)
  let updated := { receipt with issuedAt := now, token := token }
  store (.saveReceipt updated)
  return (resolved, updated)

def resolveHold (decisionId : String) (outcome : DecisionOutcome) (resolvedBy note : String)
    (resolverRole : Option String) : Service (PolicyDecision × Receipt) := do
  let decision ← store (.getDecision decisionId)
  match decision with
  | none => .raise (.decisionNotFound ("Decision '" ++ decisionId ++ "' not found"))
  | some decision =>
      match ineligible decisionId decision outcome resolverRole with
      | some e => .raise e
      | none => svc.settleHold decision outcome resolvedBy note

/-! ## Authorizing a transaction -/

/-- Tell the listener, if there is one, where the pipeline is. -/
def emit (listener : Bool) (stage : Stage) (status : StageStatus) (detail : String := "") :
    Service Unit :=
  if listener then notify ⟨stage, status, stage.label, detail⟩ else return ()

/-- The DENY exits before the policy engine: the stage that failed, with what it tells the
listener, and the reason of the decision. -/
def refuse (listener : Bool) (transaction : TransactionRequest) (now : DateTime) (stage : Stage)
    (detail reason : String) : Service (PolicyDecision × Receipt) := do
  emit listener stage .failed detail
  let hex ← uuid4
  let decision : PolicyDecision :=
    { decisionId := PolicyEngine.newDecisionId hex
      transactionId := transaction.transactionId
      decision := .deny
      reasons := [reason]
      requiredAuthority := none
      decidedAt := now }
  let receipt := receiptFor decision now none
  store (.saveDecision decision)
  store (.saveReceipt receipt)
  return (decision, receipt)

def names (kinds : List EvidenceKind) : String := join ", " (kinds.map EvidenceKind.value)

/-- The plan an agent proposes, if one is attached and it returns a plan. -/
def planEvidence (listener : Bool) (transaction : TransactionRequest)
    (policy : WorkflowEvidencePolicy) : Service (Option EvidencePlan) :=
  if svc.planner then do
    emit listener .plan .started
    let reply ← invokePlanner transaction transaction.action policy.optional
    match reply with
    | .returned (some plan) => do
        let asked := names plan.optionalEvidence
        emit listener .plan .done
          (if asked = "" then "Agent asked for nothing extra" else "Agent asked for " ++ asked)
        return some plan
    | .returned none | .raised _ | .failed _ => do
        emit listener .plan .skipped
          "No plan returned; the mandatory baseline is collected regardless"
        return none
  else do
    emit listener .plan .skipped "No planning agent is attached"
    return none

/-- What the context stage makes of the reply of the evaluating agent. -/
def contextOf : AgentReply ContextEvaluation → Option ContextEvaluation
  | .returned evaluation => evaluation
  | .raised _ => none
  | .failed message => some
      { riskFactors := ["AI_EVALUATION_UNAVAILABLE"]
        recommendedControl := .hold
        rationale := "AI context evaluator encountered an internal failure: " ++ message }

/-- Ask the evaluating agent, if one is attached. -/
def askEvaluator (listener : Bool) (transaction : TransactionRequest)
    (evidence : CanonicalEvidence) : Service (Option ContextEvaluation) :=
  if svc.evaluator then do
    emit listener .context .started
    let reply ← invokeEvaluator transaction evidence
    return contextOf reply
  else return none

/-- The advisory evaluation; it is stored when there is one. -/
def assessContext (listener : Bool) (transaction : TransactionRequest)
    (evidence : CanonicalEvidence) : Service (Option ContextEvaluation) := do
  let context ← svc.askEvaluator listener transaction evidence
  match context with
  | some evaluation => do
      store (.saveContextEvaluation transaction.transactionId evaluation)
      emit listener .context .done
        ("Advises " ++ evaluation.recommendedControl.value ++ " — advisory only, never binding")
      return some evaluation
  | none => do
      emit listener .context .skipped "No evaluating agent is attached"
      return none

/-- The token of an approval, and of nothing else. -/
def issueIfApproved (transaction : TransactionRequest) (actor : Actor)
    (decision : PolicyDecision) : Service (Option String) :=
  if decision.decision = .approve then do
    let scopedToken ← TokenService.issueToken svc.sign actor.actorId transaction.action
      transaction.resourceId transaction.zone decision.decisionId
    store (.saveToken scopedToken)
    return some scopedToken.tokenId
  else return none

/-- The verdict of the engine, the token of an approval, and the records of both. -/
def decideAndPersist (listener : Bool) (transaction : TransactionRequest) (now : DateTime)
    (actor : Actor) (plan : ValidatedEvidencePlan) (evidence : CanonicalEvidence)
    (context : Option ContextEvaluation) : Service (PolicyDecision × Receipt) := do
  emit listener .policy .started
  let decision ← PolicyEngine.evaluate transaction actor evidence context svc.attestable
    (some plan.mandatory.toFinset)
  emit listener .policy .done (decision.reasons.head?.getD decision.decision.value)
  let token ← svc.issueIfApproved transaction actor decision
  let receipt := receiptFor decision now token
  store (.saveDecision decision)
  store (.saveReceipt receipt)
  return (decision, receipt)

/-- The pipeline from the validated plan on. -/
def collectAndDecide (listener : Bool) (transaction : TransactionRequest) (now : DateTime)
    (actor : Actor) (binding : DeviceBinding) (plan : ValidatedEvidencePlan) :
    Service (PolicyDecision × Receipt) := do
  store (.saveEvidencePlan transaction.transactionId plan)
  let collecting := names plan.combined
  emit listener .validate .done
    (toString plan.mandatory.length ++ " mandatory enforced, " ++
      toString plan.optional.length ++ " optional accepted")
  emit listener .evidence .started collecting
  let outcome ← (collectEvidence svc.zoneRegistry actor binding transaction plan).run
  match outcome with
  | .error (.actorDeviceMismatch message) =>
      refuse listener transaction now .evidence message
        ("Device binding validation error: " ++ message)
  | .error (.unauthorizedEvidenceRequest message) | .error (.gateway message) =>
      refuse listener transaction now .evidence message
        ("Network evidence collection failed: " ++ message)
  | .ok evidence => do
      store (.saveEvidence transaction.transactionId evidence)
      emit listener .evidence .done
        (if collecting = "" then "Nothing was collected" else "Carrier answered for " ++ collecting)
      let context ← svc.assessContext listener transaction evidence
      svc.decideAndPersist listener transaction now actor plan evidence context

/-- The pipeline from the identified actor and device on. -/
def planAndCollect (listener : Bool) (transaction : TransactionRequest) (now : DateTime)
    (actor : Actor) (binding : DeviceBinding) : Service (PolicyDecision × Receipt) :=
  match getWorkflowPolicy transaction.action with
  | .error message =>
      refuse listener transaction now .validate
        ("No evidence policy exists for action '" ++ transaction.action ++ "'")
        ("Action '" ++ transaction.action ++ "' is not supported: " ++ message)
  | .ok policy => do
      let proposedPlan ← svc.planEvidence listener transaction policy
      emit listener .validate .started
      match validate svc.attestable transaction.action proposedPlan with
      | .error (.noPolicy message) => .raise (.value message)
      | .error (.forbidden message) | .error (.unsupported message) =>
          refuse listener transaction now .validate message
            ("Evidence plan validation failed: " ++ message)
      | .ok plan => svc.collectAndDecide listener transaction now actor binding plan

def authorizeTransaction (listener : Bool) (transaction : TransactionRequest) :
    Service (PolicyDecision × Receipt) := do
  let now ← utcnow
  store (.saveTransaction transaction)
  emit listener .identity .started
  let actor ← store (.getActor transaction.actorId)
  match actor with
  | none =>
      refuse listener transaction now .identity
        ("'" ++ transaction.actorId ++ "' is not on the enrolled roster")
        ("Actor '" ++ transaction.actorId ++ "' is not enrolled in ZoneGate")
  | some actor => do
      let binding ← store (.getDeviceBinding transaction.actorId)
      match binding with
      | none =>
          refuse listener transaction now .identity
            ("'" ++ transaction.actorId ++ "' has no active device binding")
            ("No verified device binding found for actor '" ++ transaction.actorId ++ "'")
      | some binding => do
          emit listener .identity .done
            (actor.actorId ++ " is bound to device " ++ binding.deviceId)
          svc.planAndCollect listener transaction now actor binding

/-! ## Claiming a token -/

def claimToken (tokenIdentifier : String) (expected : Expected) : Service ClaimResult := do
  let token ← store (.getToken tokenIdentifier)
  match token with
  | none => return ⟨false, "REJECTED_NOT_FOUND",
      "Authorization token '" ++ tokenIdentifier ++ "' not found in registry", none⟩
  | some token => do
      let result ← TokenService.claimToken svc.sign token expected
      match result with
      | ⟨true, _, _, some updated⟩ => do
          store (.saveToken updated)
          return result
      | _ => return result

end AuthorizationService

end ZoneGate
