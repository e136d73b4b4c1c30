import ZoneGate.Authorization.Requests
import ZoneGate.Library.Pool

/-!
# The calls of a request

Requests that overlap share the store call by call.  Here are the parts of their programs that save
no decision, whatever they are answered.
-/

namespace ZoneGate

open Py Effects

/-- Requests that run interleaved, with the log of their calls. -/
abbrev Requests (α ι : Type) := Pool Services ServiceError α (Logged World ι Effect) ι

/-- The calls of all requests, each with the peers it meets. -/
abbrev handleAll {ι : Type} (env : Env) (peers : ι → Peers) :
    (i : ι) → Handler Services ServiceError World :=
  fun i => handle env (peers i)

/-- The same, logged. -/
abbrev handleLogged {ι : Type} (env : Env) (peers : ι → Peers) :
    (i : ι) → Handler Services ServiceError (Logged World ι Effect) :=
  logged fun i => handle env (peers i)

/-- A decision is looked up. -/
def IsGetDecision : Effect → Prop
  | .store (.getDecision _) => True
  | _ => False

/-- The calls of a resolution after its verdict is saved. -/
def OfSettlement : Effect → Prop
  | .store (.getTransaction _) | .store (.getReceiptByTransactionId _) | .store (.saveToken _)
  | .store (.saveReceipt _) | .utcnow | .uuid4 => True
  | _ => False

/-- The calls of a resolution. -/
def OfResolution : Effect → Prop
  | .store (.getDecision _) | .store (.saveDecision _) => True
  | e => OfSettlement e

/-- The calls of a claim. -/
def OfClaim : Effect → Prop
  | .store (.getToken _) | .store (.saveToken _) | .utcnow => True
  | _ => False

/-- The calls of the gateway. -/
def OfGateway : Effect → Prop
  | .carrier _ | .utcnow => True
  | _ => False

/-- The calls of an authorization before its verdict: its listener, the records it works on, the
carrier and the agents. -/
def Preliminary : Effect → Prop
  | .store (.saveTransaction _) | .store (.getActor _) | .store (.getDeviceBinding _)
  | .store (.saveEvidencePlan _ _) | .store (.saveEvidence _ _)
  | .store (.saveContextEvaluation _ _)
  | .utcnow | .notify _ | .plan _ _ _ | .evaluateContext _ _ | .carrier _ => True
  | _ => False

/-- The preliminary calls of a stage: it tells the listener nothing about other stages, and no
failure. -/
def AtStage (stage : Stage) : Effect → Prop
  | .notify event => event.stage = stage ∧ event.status ≠ .failed
  | e => Preliminary e

theorem AtStage.preliminary {stage : Stage} {e : Effect} (he : AtStage stage e) :
    Preliminary e := by
  cases e with
  | notify event => trivial
  | _ => exact he

/-- A decision is saved. -/
def IsSaveDecision : Effect → Prop
  | .store (.saveDecision _) => True
  | _ => False

/-- No other call touches a decision. -/
theorem handle_decisions (env : Env) (peers : Peers) {e : Effect} (he : ¬ IsSaveDecision e)
    (w : World) (id : String) :
    (handle env peers e w).2.kv (.decisions id) = w.kv (.decisions id) := by
  cases e with
  | store c =>
    cases c with
    | saveDecision d => exact absurd trivial he
    | _ => rfl
  | _ => rfl

namespace AuthorizationService

variable (svc : AuthorizationService)

/-! ## Resolutions -/

/-- What `settleHold` does after it has saved the resolution. -/
def afterVerdict (decision : PolicyDecision) (outcome : DecisionOutcome) (resolvedBy note : String)
    (now : DateTime) : Service (PolicyDecision × Receipt) := do
  let found ← store (.getReceiptByTransactionId decision.transactionId)
  let receipt := found.getD (receiptFor decision now none)
  let token ← (if outcome = .approve then svc.issueForHold decision else pure receipt.token)
  let updated := { receipt with issuedAt := now, token := token }
  store (.saveReceipt updated)
  return (resolve decision outcome resolvedBy note now, updated)

theorem settleHold_eq (decision : PolicyDecision) (outcome : DecisionOutcome)
    (resolvedBy note : String) :
    svc.settleHold decision outcome resolvedBy note =
      .call Effect.utcnow fun now =>
        .call (Effect.store (.saveDecision (resolve decision outcome resolvedBy note now)))
          fun _ => svc.afterVerdict decision outcome resolvedBy note now := rfl

theorem issueForHold_callsOnly (decision : PolicyDecision) :
    (svc.issueForHold decision).CallsOnly OfSettlement := by
  refine ⟨trivial, fun transaction => ?_⟩
  rcases transaction with _ | transaction
  · trivial
  · exact ⟨trivial, fun _ => ⟨trivial, fun _ => ⟨trivial, fun _ => trivial⟩⟩⟩

theorem afterVerdict_callsOnly (decision : PolicyDecision) (outcome : DecisionOutcome)
    (resolvedBy note : String) (now : DateTime) :
    (svc.afterVerdict decision outcome resolvedBy note now).CallsOnly OfSettlement := by
  simp only [afterVerdict, Prog.perform_eq, Prog.call_bind, Prog.ret_bind]
  refine ⟨trivial, fun found => Prog.CallsOnly.bind ?_ fun token => ⟨trivial, fun _ => trivial⟩⟩
  split_ifs
  · exact svc.issueForHold_callsOnly decision
  · trivial

theorem resolveHold_callsOnly [Unicode] (decisionId : String) (outcome : DecisionOutcome)
    (resolvedBy note : String) (resolverRole : Option String) :
    (svc.resolveHold decisionId outcome resolvedBy note resolverRole).CallsOnly OfResolution := by
  simp only [resolveHold, Prog.perform_eq, Prog.call_bind, Prog.ret_bind]
  refine ⟨trivial, fun found => ?_⟩
  rcases found with _ | decision
  · trivial
  dsimp only
  rcases ineligible decisionId decision outcome resolverRole with _ | e
  · rw [settleHold_eq]
    refine ⟨trivial, fun now => ⟨trivial, fun _ => ?_⟩⟩
    refine (svc.afterVerdict_callsOnly ..).mono fun e he => ?_
    cases e with
    | store c => cases c <;> first | exact he.elim | trivial
    | _ => exact he
  · trivial

theorem afterVerdict_quiet (decision : PolicyDecision) (outcome : DecisionOutcome)
    (resolvedBy note : String) (now : DateTime) :
    (svc.afterVerdict decision outcome resolvedBy note now).CallsOnly (¬ IsSaveDecision ·) := by
  refine (svc.afterVerdict_callsOnly ..).mono fun e he save => ?_
  cases e with
  | store c => cases c <;> first | exact he | exact save
  | _ => exact save

/-! ## Claims -/

theorem claimToken_callsOnly (tokenIdentifier : String) (expected : Expected) :
    (svc.claimToken tokenIdentifier expected).CallsOnly OfClaim := by
  simp only [claimToken, TokenService.claimToken, Prog.perform_eq, Prog.call_bind, Prog.ret_bind]
  refine ⟨trivial, fun token => ?_⟩
  rcases token with _ | token
  · trivial
  refine ⟨trivial, fun now => Prog.CallsOnly.bind ?_ fun result => ?_⟩
  · split
    · trivial
    · trivial
    · exact ⟨trivial, fun _ => trivial⟩
  · split
    · exact ⟨trivial, fun _ => trivial⟩
    · trivial

theorem claimToken_quiet (tokenIdentifier : String) (expected : Expected) :
    (svc.claimToken tokenIdentifier expected).CallsOnly (¬ IsSaveDecision ·) := by
  refine (svc.claimToken_callsOnly ..).mono fun e he save => ?_
  cases e with
  | store c => cases c <;> first | exact he | exact save
  | _ => exact save

/-! ## Authorizations -/

theorem emit_preliminary (listener : Bool) (stage : Stage) (status : StageStatus)
    (detail : String) : (emit listener stage status detail).CallsOnly Preliminary := by
  cases listener
  · trivial
  · exact ⟨trivial, fun _ => trivial⟩

theorem emit_atStage (listener : Bool) (stage : Stage) {status : StageStatus}
    (running : status ≠ .failed) (detail : String) :
    (emit listener stage status detail).CallsOnly (AtStage stage) := by
  cases listener
  · trivial
  · exact ⟨⟨rfl, running⟩, fun _ => trivial⟩

theorem askCarrier_callsOnly (plan : ValidatedEvidencePlan) (c : CarrierCall) :
    Prog.CallsOnly OfGateway (askCarrier plan c).run := by
  rw [askCarrier, ExceptT.run_mk]
  split_ifs
  · exact ⟨trivial, fun _ => trivial⟩
  · trivial

theorem collectEvidence_callsOnly (registry : List (String × Geofence)) (actor : Actor)
    (binding : DeviceBinding) (transaction : TransactionRequest) (plan : ValidatedEvidencePlan) :
    Prog.CallsOnly OfGateway (collectEvidence registry actor binding transaction plan).run := by
  have ask (c : CarrierCall) := askCarrier_callsOnly plan c
  unfold collectEvidence
  refine .except_bind ?_ fun _ => .except_bind ?_ fun _ => ?_
  · cases validateActorDeviceBinding actor binding <;> trivial
  · cases checkCapabilities plan.combined <;> trivial
  · rcases areaOf registry transaction.zone with _ | area
    · trivial
    · refine .except_bind ?_ fun evidence => ⟨trivial, fun _ => trivial⟩
      exact .except_bind (ask _) fun _ => .except_bind (ask _) fun _ => .except_bind (ask _)
        fun _ => .except_bind (ask _) fun _ => .except_bind (ask _) fun _ => trivial

theorem collectEvidence_atStage (registry : List (String × Geofence)) (actor : Actor)
    (binding : DeviceBinding) (transaction : TransactionRequest) (plan : ValidatedEvidencePlan)
    (stage : Stage) :
    Prog.CallsOnly (AtStage stage) (collectEvidence registry actor binding transaction plan).run :=
  (collectEvidence_callsOnly ..).mono fun e he => by
    cases e with
    | carrier => trivial
    | utcnow => trivial
    | _ => exact he.elim

theorem planEvidence_atStage (listener : Bool) (transaction : TransactionRequest)
    (policy : WorkflowEvidencePolicy) :
    (svc.planEvidence listener transaction policy).CallsOnly (AtStage .plan) := by
  have emits {status : StageStatus} (running : status ≠ .failed) (detail : String) :=
    emit_atStage listener .plan running detail
  simp only [planEvidence, Prog.perform_eq, Prog.call_bind, Prog.ret_bind]
  split_ifs
  · refine .bind (emits (by decide) _) fun _ => ⟨trivial, fun reply => ?_⟩
    rcases reply with (_ | plan) | _ | _ <;> exact .bind (emits (by decide) _) fun _ => trivial
  · exact .bind (emits (by decide) _) fun _ => trivial

theorem assessContext_atStage (listener : Bool) (transaction : TransactionRequest)
    (evidence : CanonicalEvidence) :
    (svc.assessContext listener transaction evidence).CallsOnly (AtStage .context) := by
  have emits {status : StageStatus} (running : status ≠ .failed) (detail : String) :=
    emit_atStage listener .context running detail
  simp only [assessContext, Prog.perform_eq, Prog.call_bind, Prog.ret_bind]
  refine .bind ?_ fun context => ?_
  · simp only [askEvaluator, Prog.perform_eq, Prog.call_bind, Prog.ret_bind]
    split_ifs
    · exact .bind (emits (by decide) _) fun _ => ⟨trivial, fun _ => trivial⟩
    · trivial
  · rcases context with _ | evaluation
    · exact .bind (emits (by decide) _) fun _ => trivial
    · exact ⟨trivial, fun _ => .bind (emits (by decide) _) fun _ => trivial⟩

theorem issueIfApproved_quiet (transaction : TransactionRequest) (actor : Actor)
    (decision : PolicyDecision) :
    (svc.issueIfApproved transaction actor decision).CallsOnly (¬ IsSaveDecision ·) := by
  simp only [issueIfApproved, TokenService.issueToken, Prog.perform_eq, Prog.call_bind,
    Prog.ret_bind, Prog.pure_eq]
  split_ifs
  · exact ⟨not_false, fun _ => ⟨not_false, fun _ =>
      ⟨not_false, fun _ => trivial⟩⟩⟩
  · trivial

end AuthorizationService

end ZoneGate
