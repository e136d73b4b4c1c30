import ZoneGate.Authorization.Runs

/-!
# The outcome of a request

`Judged` says, in terms of the request, the records and the replies of the carrier and the planner,
when a request is denied, held and approved; `authorize_judged` shows that the pipeline decides so.
-/

namespace ZoneGate

open Py Effects

namespace AuthorizationService

section Evidence

variable (svc : AuthorizationService) (peers : Peers) (transaction : TransactionRequest)

/-! ## The plan and the evidence of a request -/

/-- The mandatory kinds of the workflow that the carrier can attest. -/
def requires (policy : WorkflowEvidencePolicy) : Finset EvidenceKind :=
  attested svc.attestable policy.mandatory

/-- These together with the proposed kinds that the carrier can attest. -/
def collects (policy : WorkflowEvidencePolicy) : Finset EvidenceKind :=
  attested svc.attestable
    (policy.mandatory ∪ (proposedKinds (svc.proposal peers transaction policy)).toFinset)

variable {svc peers transaction} {policy : WorkflowEvidencePolicy} {plan : ValidatedEvidencePlan}

theorem mem_combined_iff
    (h : Planned policy svc.attestable (svc.proposal peers transaction policy) plan)
    (k : EvidenceKind) : k ∈ plan.combined ↔ k ∈ svc.collects peers transaction policy := by
  simp [h.combined k, collects]

theorem mem_mandatory_iff
    (h : Planned policy svc.attestable (svc.proposal peers transaction policy) plan)
    (k : EvidenceKind) : k ∈ plan.mandatory.toFinset ↔ k ∈ svc.requires policy := by
  rw [List.mem_toFinset, h.mandatory, EvidenceKind.mem_sortedByValue, requires]

theorem requires_subset_collects {k : EvidenceKind} (h : k ∈ svc.requires policy) :
    k ∈ svc.collects peers transaction policy := by
  rw [requires, mem_attested] at h
  rw [collects, mem_attested, Finset.mem_union]
  exact ⟨.inl h.1, h.2⟩

/-- A mandatory check is unanswered in the evidence exactly when the carrier declined it. -/
theorem unanswered_iff {area : Geofence} {phoneNumber : String} {evidence : CanonicalEvidence}
    (reads : Reads peers.carrier plan phoneNumber area evidence) {k : EvidenceKind}
    (hk : k ∈ plan.combined) (verdict : k = .numberVerification ∨ k = .locationVerification) :
    PolicyEngine.unanswered evidence k = true ↔
      ∃ c ∈ checks phoneNumber area, c.kind = k ∧ ∃ m, peers.carrier c = .declined m := by
  rcases verdict with rfl | rfl
  · have hnone : PolicyEngine.unanswered evidence .numberVerification = true ↔
        asked peers.carrier plan (.verifyNumber phoneNumber) = .ok none := by
      rw [reads.number]
      simp [PolicyEngine.unanswered, evidenceFields]
    rw [hnone, asked_eq_none hk]
    simp [checks, CarrierCall.kind, CarrierCall.read]
  · have hnone : PolicyEngine.unanswered evidence .locationVerification = true ↔
        asked peers.carrier plan (.verifyLocation phoneNumber area) = .ok none := by
      rw [reads.location]
      simp [PolicyEngine.unanswered, evidenceFields]
    rw [hnone, asked_eq_none hk]
    simp [checks, CarrierCall.kind, CarrierCall.read]

end Evidence

/-! ## When a request is denied, held and approved -/

variable [Unicode] (svc : AuthorizationService) (peers : Peers) (w : World)
  (transaction : TransactionRequest) (area : Geofence)

/-- The reasons to refuse a request of an enrolled actor with a binding and a policy. -/
inductive Refused (actor : Actor) (binding : DeviceBinding) (policy : WorkflowEvidencePolicy) : Prop
  | notOffered (k : EvidenceKind)
      (proposed : k ∈ proposedKinds (svc.proposal peers transaction policy))
      (h : k ∉ policy.optional)
  | mismatched (h : Mismatched actor binding)
  | carrierError (c : CarrierCall) (hc : c ∈ checks binding.phoneNumber area)
      (collected : c.kind ∈ svc.collects peers transaction policy) (h : (peers.carrier c).Errs)
  | noPermission (h : PolicyEngine.requiredPermission transaction.action ∉ actor.permissions)
  | numberDenied (collected : .numberVerification ∈ svc.collects peers transaction policy)
      (h : peers.carrier (.verifyNumber binding.phoneNumber) = .answered false)
  | unanswered (c : CarrierCall) (hc : c ∈ checks binding.phoneNumber area)
      (required : c.kind ∈ svc.requires policy) (message : String)
      (h : peers.carrier c = .declined message)
  | outsideZone (collected : .locationVerification ∈ svc.collects peers transaction policy)
      (result : VerificationResult)
      (h : peers.carrier (.verifyLocation binding.phoneNumber area) = .answered result)
      (other : result ≠ .true)

/-- The reasons to deny a request. -/
inductive Denied : Prop
  | noActor (h : w.kv (.actors transaction.actorId) = none)
  | noBinding (h : w.kv (.deviceBindings transaction.actorId) = none)
  | noPolicy (message : String) (h : getWorkflowPolicy transaction.action = .error message)
  | refused {actor : Actor} {binding : DeviceBinding} {policy : WorkflowEvidencePolicy}
      (ha : w.kv (.actors transaction.actorId) = some actor)
      (hb : w.kv (.deviceBindings transaction.actorId) = some binding)
      (hp : getWorkflowPolicy transaction.action = .ok policy)
      (h : Refused svc peers transaction area actor binding policy)

/-- A collected check found a recent SIM swap. -/
def SimSwapped : Prop :=
  ∃ binding policy, w.kv (.deviceBindings transaction.actorId) = some binding ∧
    getWorkflowPolicy transaction.action = .ok policy ∧
    .simSwap ∈ svc.collects peers transaction policy ∧
    peers.carrier (.checkSimSwap binding.phoneNumber) = .answered true

/-- The outcome of a request and the authority it is held for. -/
inductive Judged : DecisionOutcome → Option String → Prop
  | deny (h : Denied svc peers w transaction area) : Judged .deny none
  | simSwap (h : ¬ Denied svc peers w transaction area)
      (swapped : SimSwapped svc peers w transaction) : Judged .hold (some simSwapAuthority)
  | restricted (authority : String) (h : ¬ Denied svc peers w transaction area)
      (swapped : ¬ SimSwapped svc peers w transaction)
      (category : w.config.authorityFor transaction.category = some authority) :
      Judged .hold (some authority)
  | approve (h : ¬ Denied svc peers w transaction area)
      (swapped : ¬ SimSwapped svc peers w transaction)
      (category : w.config.authorityFor transaction.category = none) : Judged .approve none

variable {svc peers w transaction area} {actor : Actor} {binding : DeviceBinding}
  {policy : WorkflowEvidencePolicy} {plan : ValidatedEvidencePlan}

theorem denied_iff (ha : w.kv (.actors transaction.actorId) = some actor)
    (hb : w.kv (.deviceBindings transaction.actorId) = some binding)
    (hp : getWorkflowPolicy transaction.action = .ok policy) :
    Denied svc peers w transaction area ↔
      Refused svc peers transaction area actor binding policy := by
  refine ⟨fun h => ?_, fun h => .refused ha hb hp h⟩
  cases h with
  | noActor h => simp [ha] at h
  | noBinding h => simp [hb] at h
  | noPolicy m h => simp [hp] at h
  | refused ha' hb' hp' h =>
    obtain rfl := Option.some.inj (ha.symm.trans ha')
    obtain rfl := Option.some.inj (hb.symm.trans hb')
    obtain rfl := Except.ok.inj (hp.symm.trans hp')
    exact h

/-- Once the plan is accepted and the evidence is collected, the engine refuses for the reasons
that are left. -/
theorem refuses_iff (hp : getWorkflowPolicy transaction.action = .ok policy)
    (planned : Planned policy svc.attestable (svc.proposal peers transaction policy) plan)
    (matched : ¬ Mismatched actor binding)
    (answered : ∀ c ∈ checks binding.phoneNumber area, c.kind ∈ plan.combined →
      ¬ (peers.carrier c).Errs) {evidence : CanonicalEvidence}
    (reads : Reads peers.carrier plan binding.phoneNumber area evidence) :
    PolicyEngine.Refuses transaction actor evidence plan.mandatory.toFinset ↔
      Refused svc peers transaction area actor binding policy := by
  have number : evidence.numberVerified = some false ↔
      .numberVerification ∈ svc.collects peers transaction policy ∧
        peers.carrier (.verifyNumber binding.phoneNumber) = .answered false := by
    have h := asked_eq_some peers.carrier plan (.verifyNumber binding.phoneNumber) false
    rw [reads.number, mem_combined_iff planned] at h
    simpa [CarrierCall.read, CarrierCall.kind] using h
  have location : evidence.locationVerified = some false ↔
      .locationVerification ∈ svc.collects peers transaction policy ∧
        ∃ result, peers.carrier (.verifyLocation binding.phoneNumber area) = .answered result ∧
          result ≠ .true := by
    have h := asked_eq_some peers.carrier plan (.verifyLocation binding.phoneNumber area) false
    rw [reads.location, mem_combined_iff planned] at h
    simpa [CarrierCall.read, CarrierCall.kind] using h
  have missing (k : EvidenceKind) (hk : k ∈ svc.requires policy) :=
    unanswered_iff reads ((mem_combined_iff planned k).2 (requires_subset_collects hk))
      (mandatory_of_policy hp (mem_attested.1 hk).1)
  constructor
  · rintro (h | h | ⟨k, hk, h⟩ | h)
    · exact .noPermission h
    · exact .numberDenied (number.1 h).1 (number.1 h).2
    · rw [mem_mandatory_iff planned] at hk
      obtain ⟨c, hc, rfl, m, hm⟩ := (missing k hk).1 h
      exact .unanswered c hc hk m hm
    · obtain ⟨collected, result, hr, other⟩ := location.1 h
      exact .outsideZone collected result hr other
  · intro h
    cases h with
    | notOffered k proposed h => exact absurd (planned.permitted k proposed).2 h
    | mismatched h => exact absurd h matched
    | carrierError c hc collected h =>
      exact absurd h (answered c hc ((mem_combined_iff planned _).2 collected))
    | noPermission h => exact .inl h
    | numberDenied collected h => exact .inr (.inl (number.2 ⟨collected, h⟩))
    | unanswered c hc required m h =>
      exact .inr (.inr (.inl ⟨c.kind, (mem_mandatory_iff planned _).2 required,
        (missing _ required).2 ⟨c, hc, rfl, m, h⟩⟩))
    | outsideZone collected result h other =>
      exact .inr (.inr (.inr (location.2 ⟨collected, result, h, other⟩)))

omit [Unicode] in
theorem simSwapped_iff (hb : w.kv (.deviceBindings transaction.actorId) = some binding)
    (hp : getWorkflowPolicy transaction.action = .ok policy)
    (planned : Planned policy svc.attestable (svc.proposal peers transaction policy) plan)
    {evidence : CanonicalEvidence}
    (reads : Reads peers.carrier plan binding.phoneNumber area evidence) :
    evidence.recentSimSwap = some true ↔ SimSwapped svc peers w transaction := by
  have h := asked_eq_some peers.carrier plan (.checkSimSwap binding.phoneNumber) true
  rw [reads.simSwap, mem_combined_iff planned] at h
  simp only [CarrierCall.read, CarrierCall.kind, Except.ok.injEq, Option.some.injEq,
    exists_eq_right] at h
  rw [h]
  constructor
  · exact fun hs => ⟨binding, policy, hb, hp, hs.1, hs.2⟩
  · rintro ⟨binding', policy', hb', hp', hs⟩
    obtain rfl := Option.some.inj (hb.symm.trans hb')
    obtain rfl := Except.ok.inj (hp.symm.trans hp')
    exact hs

/-! ## The pipeline decides so -/

variable (svc peers w transaction area) in
/-- The result is a decision as judged, with a receipt that carries a token exactly when it is an
approval. -/
def ReturnsJudged (result : Except ServiceError (PolicyDecision × Receipt)) : Prop :=
  ∃ decision receipt, result = .ok (decision, receipt) ∧
    Judged svc peers w transaction area decision.decision decision.requiredAuthority ∧
    (receipt.token.isSome ↔ decision.decision = .approve)

variable {env : Env} {listener : Bool} {now : DateTime}

theorem refuse_judged (h : Denied svc peers w transaction area) {stage : Stage}
    {detail reason : String} (w' : World) :
    ReturnsJudged svc peers w transaction area
      ((refuse listener transaction now stage detail reason).run (handle env peers) w').1 := by
  rw [refuse_run]
  exact ⟨_, _, rfl, .deny h, by simp [receiptFor, denial]⟩

/-- With a plan and evidence, the verdict of the engine is as judged. -/
theorem decideAndPersist_judged (ha : w.kv (.actors transaction.actorId) = some actor)
    (hb : w.kv (.deviceBindings transaction.actorId) = some binding)
    (hp : getWorkflowPolicy transaction.action = .ok policy)
    (planned : Planned policy svc.attestable (svc.proposal peers transaction policy) plan)
    (matched : ¬ Mismatched actor binding)
    (answered : ∀ c ∈ checks binding.phoneNumber area, c.kind ∈ plan.combined →
      ¬ (peers.carrier c).Errs) {evidence : CanonicalEvidence}
    (reads : Reads peers.carrier plan binding.phoneNumber area evidence)
    (context : Option ContextEvaluation) {w' : World} (hconfig : w'.config = w.config) :
    ReturnsJudged svc peers w transaction area
      ((svc.decideAndPersist listener transaction now actor plan evidence context).run
        (handle env peers) w').1 := by
  have rules := PolicyEngine.decide_rules w'.config (PolicyEngine.newDecisionId (w'.nextHex env))
    (env.clock w'.readings) transaction actor evidence context svc.attestable
    plan.mandatory.toFinset
  change PolicyEngine.Rules _ _ _ _ _
    (svc.verdict env w' transaction actor plan evidence context).decision
    (svc.verdict env w' transaction actor plan evidence context).requiredAuthority at rules
  have refuses := (refuses_iff hp planned matched answered reads).trans (denied_iff ha hb hp).symm
  have swapped := simSwapped_iff hb hp planned reads
  rw [decideAndPersist_run]
  generalize svc.verdict env w' transaction actor plan evidence context = decision at rules ⊢
  have judged : Judged svc peers w transaction area decision.decision
      decision.requiredAuthority := by
    rw [hconfig] at rules
    generalize decision.decision = outcome, decision.requiredAuthority = authority at rules ⊢
    cases rules with
    | deny h => exact .deny (refuses.1 h)
    | simSwap h hs => exact .simSwap (fun d => h (refuses.2 d)) (swapped.1 hs)
    | restricted authority h hs hc =>
      exact .restricted authority (fun d => h (refuses.2 d)) (fun s => hs (swapped.2 s)) hc
    | approve h hs hc =>
      exact .approve (fun d => h (refuses.2 d)) (fun s => hs (swapped.2 s)) hc
  dsimp only
  split_ifs with happrove
  · exact ⟨_, _, rfl, judged, by simp [receiptFor, happrove]⟩
  · exact ⟨_, _, rfl, judged, by simp [receiptFor, happrove]⟩

/-- The pipeline decides a request as judged. -/
theorem authorize_judged (harea : areaOf svc.zoneRegistry transaction.zone = some area)
    (listener : Bool) :
    ReturnsJudged svc peers w transaction area
      ((svc.authorizeTransaction listener transaction).run (handle env peers) w).1 := by
  rw [authorizeTransaction_run]
  rcases ha : w.kv (.actors transaction.actorId) with _ | actor
  · exact refuse_judged (.noActor ha) _
  rcases hb : w.kv (.deviceBindings transaction.actorId) with _ | binding
  · exact refuse_judged (.noBinding hb) _
  dsimp only
  rw [planAndCollect_run]
  rcases hp : getWorkflowPolicy transaction.action with message | policy
  · exact refuse_judged (.noPolicy message hp) _
  rcases validateWith_spec policy svc.attestable transaction.action
    (svc.proposal peers transaction policy) with ⟨plan, hplan, planned⟩ | ⟨e, he, hne, k, hk, bad⟩
  swap
  · have notOffered : k ∉ policy.optional := bad.elim
      (fun h hopt => not_forbidden_of_optional hp hopt h) id
    have denied : Denied svc peers w transaction area :=
      .refused ha hb hp (.notOffered k hk notOffered)
    simp only [he]
    rcases e with m | m | m
    · exact absurd rfl (hne m)
    · exact refuse_judged denied _
    · exact refuse_judged denied _
  simp only [hplan]
  rw [collectAndDecide_run svc _ harea]
  rcases collected_cases peers.carrier actor binding area
      (fun k hk => planned.supported hp hk) with
    ⟨evidence, hcollected, matched, answered, reads⟩ | ⟨e, hcollected, bad⟩
  · rw [hcollected]
    refine decideAndPersist_judged ha hb hp planned matched answered (reads _) _ ?_
    unfold advised
    split <;> rfl
  · rw [hcollected]
    refine refuse_judged (.refused ha hb hp ?_) _
    rcases bad with h | ⟨c, hc, hk, h⟩
    · exact .mismatched h
    · exact .carrierError c hc ((mem_combined_iff planned _).1 hk) h

/-- The outcome of a request: DENY exactly for the listed reasons; otherwise HOLD exactly on a
recent SIM swap or a restricted category, for the authority of the first that applies; otherwise
APPROVE.  A token is issued exactly on APPROVE. -/
theorem authorize_outcome (svc : AuthorizationService) (peers : Peers) (env : Env)
    (w : World) (listener : Bool) (transaction : TransactionRequest) {default : Geofence}
    (hzone : svc.zoneRegistry.lookup "DEFAULT_ZONE" = some default) :
    let area := (svc.zoneRegistry.lookup transaction.zone).getD default
    let denied := Denied svc peers w transaction area
    let swapped := SimSwapped svc peers w transaction
    ∃ decision receipt w',
      (svc.authorizeTransaction listener transaction).run (handle env peers) w =
        (.ok (decision, receipt), w') ∧
      (decision.decision = .deny ↔ denied) ∧
      (decision.decision = .hold ↔ ¬ denied ∧
        (swapped ∨ ∃ a, w.config.authorityFor transaction.category = some a)) ∧
      (decision.decision = .approve ↔ ¬ denied ∧ ¬ swapped ∧
        w.config.authorityFor transaction.category = none) ∧
      (¬ denied → swapped → decision.requiredAuthority = some simSwapAuthority) ∧
      (¬ denied → ¬ swapped →
        decision.requiredAuthority = w.config.authorityFor transaction.category) ∧
      (denied → decision.requiredAuthority = none) ∧
      (receipt.token.isSome ↔ decision.decision = .approve) := by
  have harea : areaOf svc.zoneRegistry transaction.zone =
      some ((svc.zoneRegistry.lookup transaction.zone).getD default) := by
    rw [areaOf, hzone]
    rfl
  intro area denied swapped
  have returns : ReturnsJudged svc peers w transaction area
      ((svc.authorizeTransaction listener transaction).run (handle env peers) w).1 :=
    authorize_judged harea listener
  generalize (svc.authorizeTransaction listener transaction).run (handle env peers) w = result
    at returns ⊢
  obtain ⟨r, w'⟩ := result
  obtain ⟨decision, receipt, hr, judged, token⟩ := returns
  dsimp only at hr
  subst hr
  refine ⟨decision, receipt, w', rfl, ?_⟩
  generalize decision.decision = outcome, decision.requiredAuthority = authority at judged token ⊢
  cases judged with
  | deny h =>
    have hd : denied := h
    simpa [hd] using token
  | simSwap h hs =>
    have hd : ¬ denied := h
    have hw : swapped := hs
    simpa [hd, hw] using token
  | restricted a h hs hc =>
    have hd : ¬ denied := h
    have hw : ¬ swapped := hs
    simpa [hd, hw, hc] using token
  | approve h hs hc =>
    have hd : ¬ denied := h
    have hw : ¬ swapped := hs
    simpa [hd, hw, hc] using token

end AuthorizationService

open AuthorizationService in
/-- The outcome of a release of general cargo by the enrolled operator. -/
theorem authorize_outcome_release :
    let _ := Sample.unicode
    ∃ decision receipt w',
      (Sample.service.authorizeTransaction false Sample.general).run
        (handle Sample.env Sample.peers) Sample.world = (.ok (decision, receipt), w') ∧
      (decision.decision = .deny ↔ Denied Sample.service Sample.peers Sample.world
        Sample.general ⟨⟨false, 377955, -4⟩, ⟨true, 1223937, -4⟩, 400⟩) ∧
      (receipt.token.isSome ↔ decision.decision = .approve) := by
  intro _
  obtain ⟨decision, receipt, w', hrun, hdeny, -, -, -, -, -, htoken⟩ :=
    @authorize_outcome Sample.unicode Sample.service Sample.peers Sample.env Sample.world false
      Sample.general ⟨⟨false, 377749, -4⟩, ⟨true, 1224194, -4⟩, 1000⟩ rfl
  exact ⟨decision, receipt, w', hrun, hdeny, htoken⟩

end ZoneGate
