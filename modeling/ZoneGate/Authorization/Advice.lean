import ZoneGate.Authorization.Outcome

/-!
# The agents advise

Two runs of a request on the same world: with another evaluating agent the verdict is the same, and
with a proposed plan it is at least as strict as without one.
-/

namespace ZoneGate

open Py Effects

/-- The same carrier and planner, and another evaluator. -/
def Peers.withEvaluator (peers : Peers)
    (evaluator : TransactionRequest → CanonicalEvidence → AgentReply ContextEvaluation) : Peers :=
  { peers with evaluator := evaluator }

@[simp] theorem Peers.withEvaluator_carrier (peers : Peers)
    (evaluator : TransactionRequest → CanonicalEvidence → AgentReply ContextEvaluation) :
    (peers.withEvaluator evaluator).carrier = peers.carrier := rfl

/-- The same carrier and evaluator, and another planner. -/
def Peers.withPlanner (peers : Peers)
    (planner : TransactionRequest → String → Finset EvidenceKind → AgentReply EvidencePlan) :
    Peers :=
  { peers with planner := planner }

namespace AuthorizationService

/-- The service with the evaluating agent attached or not. -/
def withEvaluator (svc : AuthorizationService) (evaluator : Bool) : AuthorizationService :=
  { svc with evaluator := evaluator }

@[simp] theorem withEvaluator_attestable (svc : AuthorizationService) (evaluator : Bool) :
    (svc.withEvaluator evaluator).attestable = svc.attestable := rfl

@[simp] theorem withEvaluator_proposal (svc : AuthorizationService) (evaluator : Bool)
    (peers : Peers)
    (asked : TransactionRequest → CanonicalEvidence → AgentReply ContextEvaluation)
    (transaction : TransactionRequest) (policy : WorkflowEvidencePolicy) :
    (svc.withEvaluator evaluator).proposal (peers.withEvaluator asked) transaction policy =
      svc.proposal peers transaction policy := rfl

/-- The service with the planning agent attached or not. -/
def withPlanner (svc : AuthorizationService) (planner : Bool) : AuthorizationService :=
  { svc with planner := planner }

/-! ## The evaluating agent -/

/-- The same outcome, reasons and authority, and a token in both receipts or in neither; or the
same exception. -/
def SameVerdict : Except ServiceError (PolicyDecision × Receipt) →
    Except ServiceError (PolicyDecision × Receipt) → Prop
  | .ok (decision, receipt), .ok (decision', receipt') =>
      decision.decision = decision'.decision ∧ decision.reasons = decision'.reasons ∧
        decision.requiredAuthority = decision'.requiredAuthority ∧
        receipt.token.isSome = receipt'.token.isSome
  | .error e, .error e' => e = e'
  | _, _ => False

theorem SameVerdict.refl (r : Except ServiceError (PolicyDecision × Receipt)) :
    SameVerdict r r := by
  rcases r with e | ⟨decision, receipt⟩
  · exact rfl
  · exact ⟨rfl, rfl, rfl, rfl⟩

section Evaluator

variable (svc : AuthorizationService) {peers : Peers} {env : Env} {listener : Bool}
  {transaction : TransactionRequest} {now : DateTime}
  (evaluator₁ evaluator₂ : TransactionRequest → CanonicalEvidence → AgentReply ContextEvaluation)
  (attached₁ attached₂ : Bool)

theorem refuse_sameVerdict {stage : Stage} {detail reason : String} (w : World) :
    SameVerdict
      ((refuse listener transaction now stage detail reason).run
        (handle env (peers.withEvaluator evaluator₁)) w).1
      ((refuse listener transaction now stage detail reason).run
        (handle env (peers.withEvaluator evaluator₂)) w).1 := by
  rw [refuse_run, refuse_run]
  exact .refl _

variable [Unicode]

/-- The engine sees the same world, up to what the store holds, and two pieces of advice. -/
theorem decideAndPersist_sameVerdict {actor : Actor} {plan : ValidatedEvidencePlan}
    {evidence : CanonicalEvidence} (context₁ context₂ : Option ContextEvaluation) {w₁ w₂ : World}
    (hconfig : w₁.config = w₂.config) (hreadings : w₁.readings = w₂.readings)
    (hdrawn : w₁.drawn = w₂.drawn) :
    SameVerdict
      (((svc.withEvaluator attached₁).decideAndPersist listener transaction now actor plan evidence
        context₁).run (handle env (peers.withEvaluator evaluator₁)) w₁).1
      (((svc.withEvaluator attached₂).decideAndPersist listener transaction now actor plan evidence
        context₂).run (handle env (peers.withEvaluator evaluator₂)) w₂).1 := by
  have same : (svc.withEvaluator attached₂).verdict env w₂ transaction actor plan evidence context₂ =
      { (svc.withEvaluator attached₁).verdict env w₁ transaction actor plan evidence context₁ with
        contextEvaluation := context₂ } := by
    rw [verdict, ← hconfig, ← hreadings, World.nextHex, ← hdrawn]
    exact svc.verdict_context w₁ transaction actor plan evidence context₁ context₂
  rw [decideAndPersist_run, decideAndPersist_run, same]
  dsimp only
  split_ifs <;> exact ⟨rfl, rfl, rfl, rfl⟩

/-- Another evaluating agent, another answer of it or none at all: the verdict stays. -/
theorem authorize_sameVerdict (w : World) :
    SameVerdict
      (((svc.withEvaluator attached₁).authorizeTransaction listener transaction).run
        (handle env (peers.withEvaluator evaluator₁)) w).1
      (((svc.withEvaluator attached₂).authorizeTransaction listener transaction).run
        (handle env (peers.withEvaluator evaluator₂)) w).1 := by
  rw [authorizeTransaction_run, authorizeTransaction_run]
  rcases w.kv (.actors transaction.actorId) with _ | actor
  · exact refuse_sameVerdict _ _ _
  rcases w.kv (.deviceBindings transaction.actorId) with _ | binding
  · exact refuse_sameVerdict _ _ _
  dsimp only
  rw [planAndCollect_run, planAndCollect_run]
  rcases getWorkflowPolicy transaction.action with message | policy
  · exact refuse_sameVerdict _ _ _
  simp only [withEvaluator_attestable, withEvaluator_proposal]
  rcases validateWith policy svc.attestable transaction.action
    (svc.proposal peers transaction policy) with (m | m | m) | plan
  · exact .refl _
  · exact refuse_sameVerdict _ _ _
  · exact refuse_sameVerdict _ _ _
  dsimp only
  rcases harea : areaOf svc.zoneRegistry transaction.zone with _ | area
  · rw [collectAndDecide_run_nowhere (svc.withEvaluator attached₁) _ harea,
      collectAndDecide_run_nowhere (svc.withEvaluator attached₂) _ harea]
    rcases (do validateActorDeviceBinding actor binding
               checkCapabilities plan.combined : Except GatewayError Unit) with e | -
    · exact refuse_sameVerdict _ _ _
    · exact .refl _
  · rw [collectAndDecide_run (svc.withEvaluator attached₁) _ harea,
      collectAndDecide_run (svc.withEvaluator attached₂) _ harea]
    simp only [Peers.withEvaluator_carrier]
    rcases collected peers.carrier actor binding area plan with e | evidence
    · exact refuse_sameVerdict _ _ _
    · refine decideAndPersist_sameVerdict svc _ _ _ _ _ _ ?_ ?_ ?_ <;>
        (unfold advised; split <;> split <;> rfl)

end Evaluator

/-! ## The planning agent -/

section Planner

variable {svc : AuthorizationService} {peers : Peers} {env : Env} {listener : Bool}
  {w : World} {transaction : TransactionRequest} {area : Geofence} {now : DateTime}

/-- A reply that brings a plan to an attached planner. -/
def Proposes (attached : Bool) (reply : AgentReply EvidencePlan) : Prop :=
  attached = true ∧ ∃ plan, reply = .returned (some plan)

/-- Without a proposed plan nothing but the baseline is collected. -/
theorem proposal_eq_none {attached : Bool} {reply : AgentReply EvidencePlan}
    (h : ¬ Proposes attached reply) (policy : WorkflowEvidencePolicy) :
    (svc.withPlanner attached).proposal (peers.withPlanner fun _ _ _ => reply) transaction policy =
      none := by
  cases attached with
  | false => rfl
  | true =>
    rcases reply with (_ | plan) | m | m
    · rfl
    · exact absurd ⟨rfl, plan, rfl⟩ h
    · rfl
    · rfl

variable {attached₀ attached₁ : Bool} {reply₀ reply₁ : AgentReply EvidencePlan}

theorem collects_mono (h : ¬ Proposes attached₀ reply₀) {policy : WorkflowEvidencePolicy}
    {k : EvidenceKind}
    (hk : k ∈ (svc.withPlanner attached₀).collects (peers.withPlanner fun _ _ _ => reply₀)
      transaction policy) :
    k ∈ (svc.withPlanner attached₁).collects (peers.withPlanner fun _ _ _ => reply₁)
      transaction policy := by
  rw [collects, proposal_eq_none h, mem_attested] at hk
  rw [collects, mem_attested, Finset.mem_union]
  exact ⟨.inl (by simpa [proposedKinds] using hk.1), hk.2⟩

theorem SimSwapped.mono (h : ¬ Proposes attached₀ reply₀)
    (hs : SimSwapped (svc.withPlanner attached₀) (peers.withPlanner fun _ _ _ => reply₀) w
      transaction) :
    SimSwapped (svc.withPlanner attached₁) (peers.withPlanner fun _ _ _ => reply₁) w
      transaction := by
  obtain ⟨binding, policy, hb, hp, hk, hs⟩ := hs
  exact ⟨binding, policy, hb, hp, collects_mono h hk, hs⟩

variable [Unicode]

theorem Denied.mono (h : ¬ Proposes attached₀ reply₀)
    (hd : Denied (svc.withPlanner attached₀) (peers.withPlanner fun _ _ _ => reply₀) w
      transaction area) :
    Denied (svc.withPlanner attached₁) (peers.withPlanner fun _ _ _ => reply₁) w
      transaction area := by
  cases hd with
  | noActor ha => exact .noActor ha
  | noBinding hb => exact .noBinding hb
  | noPolicy m hp => exact .noPolicy m hp
  | refused ha hb hp hr =>
    refine .refused ha hb hp ?_
    cases hr with
    | notOffered k proposed hk =>
      rw [proposal_eq_none h] at proposed
      simp [proposedKinds] at proposed
    | mismatched hm => exact .mismatched hm
    | carrierError c hc hk he => exact .carrierError c hc (collects_mono h hk) he
    | noPermission hperm => exact .noPermission hperm
    | numberDenied hk hn => exact .numberDenied (collects_mono h hk) hn
    | unanswered c hc hk m hm => exact .unanswered c hc hk m hm
    | outsideZone hk r hr other => exact .outsideZone (collects_mono h hk) r hr other

/-- A plan can only tighten the outcome. -/
theorem Judged.mono (h : ¬ Proposes attached₀ reply₀) {outcome₀ outcome₁ : DecisionOutcome}
    {authority₀ authority₁ : Option String}
    (h₀ : Judged (svc.withPlanner attached₀) (peers.withPlanner fun _ _ _ => reply₀) w transaction
      area outcome₀ authority₀)
    (h₁ : Judged (svc.withPlanner attached₁) (peers.withPlanner fun _ _ _ => reply₁) w transaction
      area outcome₁ authority₁) : outcome₀ ≤ outcome₁ := by
  cases h₁ with
  | deny _ => cases h₀ <;> decide
  | simSwap notDenied _ =>
    cases h₀ with
    | deny hd => exact absurd (hd.mono h) notDenied
    | simSwap | restricted | approve => decide
  | restricted a notDenied _ _ =>
    cases h₀ with
    | deny hd => exact absurd (hd.mono h) notDenied
    | simSwap | restricted | approve => decide
  | approve notDenied notSwapped category =>
    cases h₀ with
    | deny hd => exact absurd (hd.mono h) notDenied
    | simSwap _ hs => exact absurd (hs.mono h) notSwapped
    | restricted a _ _ hc => simp [hc] at category
    | approve => decide

/-- Without a default zone a request is denied or the lookup raises. -/
def DeniesOrRaises (result : Except ServiceError (PolicyDecision × Receipt)) : Prop :=
  ∀ decision receipt, result = .ok (decision, receipt) →
    decision.decision = .deny ∧ receipt.token = none

omit [Unicode] in
theorem refuse_denies {stage : Stage} {detail reason : String} (w : World) :
    DeniesOrRaises
      ((refuse listener transaction now stage detail reason).run (handle env peers) w).1 := by
  rw [refuse_run]
  rintro decision receipt ⟨⟩
  exact ⟨rfl, rfl⟩

theorem authorize_nowhere (harea : areaOf svc.zoneRegistry transaction.zone = none) :
    DeniesOrRaises
      ((svc.authorizeTransaction listener transaction).run (handle env peers) w).1 := by
  have raises (e : ServiceError) : DeniesOrRaises (.error e) := by
    rintro decision receipt ⟨⟩
  rw [authorizeTransaction_run]
  rcases w.kv (.actors transaction.actorId) with _ | actor
  · exact refuse_denies _
  rcases w.kv (.deviceBindings transaction.actorId) with _ | binding
  · exact refuse_denies _
  dsimp only
  rw [planAndCollect_run]
  rcases getWorkflowPolicy transaction.action with message | policy
  · exact refuse_denies _
  dsimp only
  rcases validateWith policy svc.attestable transaction.action
    (svc.proposal peers transaction policy) with (m | m | m) | plan
  · exact raises _
  · exact refuse_denies _
  · exact refuse_denies _
  dsimp only
  rw [collectAndDecide_run_nowhere svc _ harea]
  rcases (do validateActorDeviceBinding actor binding
             checkCapabilities plan.combined : Except GatewayError Unit) with e | -
  · exact refuse_denies _
  · exact raises _

end Planner

/-- At least as strict, and no token where the other run issues none. -/
def AtLeastAsStrict (result₀ result₁ : Except ServiceError (PolicyDecision × Receipt)) : Prop :=
  (∀ decision₀ receipt₀ decision₁ receipt₁, result₀ = .ok (decision₀, receipt₀) →
    result₁ = .ok (decision₁, receipt₁) → decision₀.decision ≤ decision₁.decision) ∧
  ∀ decision₁ receipt₁, result₁ = .ok (decision₁, receipt₁) → receipt₁.token.isSome →
    ∃ decision₀ receipt₀, result₀ = .ok (decision₀, receipt₀) ∧ receipt₀.token.isSome

/-- The agents can only tighten.  Two runs that differ in the evaluating agent give the same
verdict.  A run with any reply of the planner is at least as strict as a run without a plan. -/
theorem agents_only_tighten [Unicode] (svc : AuthorizationService) (peers : Peers) (env : Env)
    (listener : Bool) (w : World) (transaction : TransactionRequest)
    (evaluator₁ evaluator₂ : TransactionRequest → CanonicalEvidence → AgentReply ContextEvaluation)
    (evaluates₁ evaluates₂ : Bool) (reply₀ reply₁ : AgentReply EvidencePlan)
    (attached₀ attached₁ : Bool) (noPlan : ¬ Proposes attached₀ reply₀) :
    SameVerdict
      (((svc.withEvaluator evaluates₁).authorizeTransaction listener transaction).run
        (handle env (peers.withEvaluator evaluator₁)) w).1
      (((svc.withEvaluator evaluates₂).authorizeTransaction listener transaction).run
        (handle env (peers.withEvaluator evaluator₂)) w).1 ∧
    AtLeastAsStrict
      (((svc.withPlanner attached₀).authorizeTransaction listener transaction).run
        (handle env (peers.withPlanner fun _ _ _ => reply₀)) w).1
      (((svc.withPlanner attached₁).authorizeTransaction listener transaction).run
        (handle env (peers.withPlanner fun _ _ _ => reply₁)) w).1 := by
  refine ⟨authorize_sameVerdict svc _ _ _ _ w, ?_⟩
  rcases harea : areaOf svc.zoneRegistry transaction.zone with _ | area
  · have nowhere₀ := @authorize_nowhere (svc.withPlanner attached₀)
      (peers.withPlanner fun _ _ _ => reply₀) env listener w transaction _ harea
    have nowhere₁ := @authorize_nowhere (svc.withPlanner attached₁)
      (peers.withPlanner fun _ _ _ => reply₁) env listener w transaction _ harea
    refine ⟨fun d₀ r₀ d₁ r₁ h₀ h₁ => ?_, fun d₁ r₁ h₁ token => ?_⟩
    · rw [(nowhere₀ d₀ r₀ h₀).1, (nowhere₁ d₁ r₁ h₁).1]
      decide
    · simp [(nowhere₁ d₁ r₁ h₁).2] at token
  · obtain ⟨d₀, r₀, h₀, judged₀, token₀⟩ := @authorize_judged _ (svc.withPlanner attached₀)
      (peers.withPlanner fun _ _ _ => reply₀) w transaction area env harea listener
    obtain ⟨d₁, r₁, h₁, judged₁, token₁⟩ := @authorize_judged _ (svc.withPlanner attached₁)
      (peers.withPlanner fun _ _ _ => reply₁) w transaction area env harea listener
    have tighter := judged₀.mono noPlan judged₁
    rw [h₀, h₁]
    refine ⟨?_, ?_⟩
    · rintro _ _ _ _ ⟨⟩ ⟨⟩
      exact tighter
    · rintro _ _ ⟨⟩ token
      refine ⟨d₀, r₀, rfl, token₀.2 ?_⟩
      rw [token₁.1 token] at tighter
      revert tighter
      cases d₀.decision <;> decide

end AuthorizationService

open AuthorizationService in
/-- A failed planner against one that proposes a forbidden kind, twice. -/
theorem agents_only_tighten_forbidden :
    let _ := Sample.unicode
    AtLeastAsStrict
      (((Sample.service.withPlanner true).authorizeTransaction false
        Sample.general).run
          (handle Sample.env (Sample.peers.withPlanner fun _ _ _ => .failed "timeout"))
          Sample.world).1
      (((Sample.service.withPlanner true).authorizeTransaction false
        Sample.general).run
          (handle Sample.env (Sample.peers.withPlanner fun _ _ _ =>
            .returned (some { optionalEvidence := [.kycMatch, .kycMatch] }))) Sample.world).1 :=
  (@agents_only_tighten Sample.unicode Sample.service Sample.peers Sample.env false Sample.world
    Sample.general Sample.peers.evaluator Sample.peers.evaluator false true
    (.failed "timeout") (.returned (some { optionalEvidence := [.kycMatch, .kycMatch] })) true true
    (by simp [Proposes])).2

end ZoneGate
