import ZoneGate.Authorization.Outcome

/-!
# What an approval rests on

An approval should rest on an answer of the network.  It does when the carrier can attest a
mandatory check of the workflow, for a mandatory check that is not answered is a refusal; where the
carrier can attest none, the engine asks for nothing and may approve on nothing.
-/

namespace ZoneGate

open Py Effects

namespace AuthorizationService

variable [Unicode]

/-! ## Where a decision comes from -/

/-- What a request is answered with: a denial before the engine is reached, or the verdict of the
engine on the evidence that was read. -/
inductive AnsweredBy (svc : AuthorizationService) (env : Env) (peers : Peers) (w : World)
    (tx : TransactionRequest) : PolicyDecision → Prop
  | refused (now : DateTime) (hex reason : String) :
      AnsweredBy svc env peers w tx (denial tx now hex reason)
  | evaluated {area : Geofence} {actor : Actor} {binding : DeviceBinding}
      {policy : WorkflowEvidencePolicy} {plan : ValidatedEvidencePlan}
      {evidence : CanonicalEvidence} (context : Option ContextEvaluation) {w' : World}
      (harea : areaOf svc.zoneRegistry tx.zone = some area)
      (hb : w.kv (.deviceBindings tx.actorId) = some binding)
      (hp : getWorkflowPolicy tx.action = .ok policy)
      (planned : Planned policy svc.attestable (svc.proposal peers tx policy) plan)
      (reads : Reads peers.carrier plan binding.phoneNumber area evidence)
      (config : w'.config = w.config) :
      AnsweredBy svc env peers w tx (svc.verdict env w' tx actor plan evidence context)

section

variable {svc : AuthorizationService} {env : Env} {peers : Peers} {w : World}
  {tx : TransactionRequest} {listener : Bool}

/-- Every decision that is returned comes from there. -/
theorem authorize_answered {d : PolicyDecision} {r : Receipt}
    (h : ((svc.authorizeTransaction listener tx).run (handle env peers) w).1 = .ok (d, r)) :
    AnsweredBy svc env peers w tx d := by
  have refused {now : DateTime} {stage : Stage} {detail reason : String} (w' : World)
      (h : ((refuse listener tx now stage detail reason).run (handle env peers) w').1 =
        .ok (d, r)) : AnsweredBy svc env peers w tx d := by
    rw [refuse_run] at h
    obtain ⟨rfl, -⟩ := Prod.mk.inj (Except.ok.inj h)
    exact .refused ..
  revert h
  rw [authorizeTransaction_run]
  rcases w.kv (.actors tx.actorId) with _ | actor
  · exact refused _
  rcases hb : w.kv (.deviceBindings tx.actorId) with _ | binding
  · exact refused _
  dsimp only
  rw [planAndCollect_run]
  rcases hp : getWorkflowPolicy tx.action with message | policy
  · exact refused _
  rcases validateWith_spec policy svc.attestable tx.action (svc.proposal peers tx policy) with
    ⟨plan, hplan, planned⟩ | ⟨e, he, hne, -⟩
  swap
  · simp only [he]
    rcases e with m | m | m
    · exact absurd rfl (hne m)
    · exact refused _
    · exact refused _
  simp only [hplan]
  rcases harea : areaOf svc.zoneRegistry tx.zone with _ | area
  · rw [collectAndDecide_run_nowhere svc _ harea]
    split
    · exact refused _
    · intro h
      cases h
  rw [collectAndDecide_run svc _ harea]
  rcases collected_cases peers.carrier actor binding area
      (fun k hk => planned.supported hp hk) with
    ⟨evidence, hcollected, -, -, reads⟩ | ⟨e, hcollected, -⟩
  swap
  · rw [hcollected]
    exact refused _
  rw [hcollected]
  dsimp only
  have config (advice : Option ContextEvaluation) (w' : World) :
      (advised tx advice w').config = w'.config := by
    unfold advised
    split <;> rfl
  rw [decideAndPersist_run]
  dsimp only
  split_ifs
  all_goals
    intro h
    obtain ⟨rfl, -⟩ := Prod.mk.inj (Except.ok.inj h)
    exact .evaluated _ harea hb hp planned (reads _) (config _ _)

end

/-! ## An answer of the network -/

/-- One of the checks was answered in the evidence of the decision. -/
def RestsOnEvidence (d : PolicyDecision) : Prop :=
  ∃ s, d.evidenceSummary = some s ∧
    (s.numberVerified ≠ none ∨ s.locationVerified ≠ none ∨ s.recentSimSwap ≠ none ∨
      s.recentDeviceSwap ≠ none ∨ s.reachable ≠ none)

/-- The carrier can attest a mandatory check of the workflow, or answers a check that is
collected. -/
def Grounded (svc : AuthorizationService) (peers : Peers) (w : World) (tx : TransactionRequest)
    (area : Geofence) : Prop :=
  ∃ binding policy, w.kv (.deviceBindings tx.actorId) = some binding ∧
    getWorkflowPolicy tx.action = .ok policy ∧
    ((svc.requires policy).Nonempty ∨
      ∃ c ∈ checks binding.phoneNumber area, c.kind ∈ svc.collects peers tx policy ∧
        ∃ a, peers.carrier c = .answered a ∧ c.read a ≠ none)

section

variable {svc : AuthorizationService} {env : Env} {peers : Peers} {w : World}
  {tx : TransactionRequest} {area : Geofence}

omit [Unicode] in
/-- A field is filled exactly when its check is of the plan and is answered with a value. -/
theorem field_ne_none {plan : ValidatedEvidencePlan} {c : CarrierCall} {field : Option Bool}
    (h : asked peers.carrier plan c = .ok field) :
    field ≠ none ↔ c.kind ∈ plan.combined ∧
      ∃ a, peers.carrier c = .answered a ∧ c.read a ≠ none := by
  constructor
  · intro filled
    obtain ⟨b, rfl⟩ := Option.ne_none_iff_exists'.1 filled
    obtain ⟨hk, a, ha, hread⟩ := (asked_eq_some peers.carrier plan c b).1 h
    exact ⟨hk, a, ha, by simp [hread]⟩
  · rintro ⟨hk, a, ha, hread⟩
    obtain ⟨b, hb⟩ := Option.ne_none_iff_exists'.1 hread
    have := (asked_eq_some peers.carrier plan c b).2 ⟨hk, a, ha, hb⟩
    obtain rfl := Except.ok.inj (h.symm.trans this)
    simp

omit [Unicode] in
theorem reads_something {plan : ValidatedEvidencePlan} {phoneNumber : String}
    {evidence : CanonicalEvidence} (reads : Reads peers.carrier plan phoneNumber area evidence) :
    (evidence.numberVerified ≠ none ∨ evidence.locationVerified ≠ none ∨
        evidence.recentSimSwap ≠ none ∨ evidence.recentDeviceSwap ≠ none ∨
        evidence.reachable ≠ none) ↔
      ∃ c ∈ checks phoneNumber area, c.kind ∈ plan.combined ∧
        ∃ a, peers.carrier c = .answered a ∧ c.read a ≠ none := by
  rw [field_ne_none reads.number, field_ne_none reads.location, field_ne_none reads.simSwap,
    field_ne_none reads.deviceSwap, field_ne_none reads.reachable]
  simp only [checks, List.mem_cons, List.not_mem_nil, or_false, exists_eq_or_imp, exists_eq_left]

/-- The evidence of a verdict is what was read. -/
theorem restsOnEvidence_verdict {w' : World} {actor : Actor} {binding : DeviceBinding}
    {policy : WorkflowEvidencePolicy} {plan : ValidatedEvidencePlan} {evidence : CanonicalEvidence}
    (context : Option ContextEvaluation)
    (planned : Planned policy svc.attestable (svc.proposal peers tx policy) plan)
    (reads : Reads peers.carrier plan binding.phoneNumber area evidence) :
    RestsOnEvidence (svc.verdict env w' tx actor plan evidence context) ↔
      ∃ c ∈ checks binding.phoneNumber area, c.kind ∈ svc.collects peers tx policy ∧
        ∃ a, peers.carrier c = .answered a ∧ c.read a ≠ none := by
  obtain ⟨outcome, reasons, authority, shape⟩ := PolicyEngine.decide_shape w'.config
    (PolicyEngine.newDecisionId (w'.nextHex env)) (env.clock w'.readings) tx actor evidence
    svc.attestable (some plan.mandatory.toFinset)
  have something := reads_something reads
  simp only [mem_combined_iff planned] at something
  rw [← something, RestsOnEvidence, verdict, shape]
  simp

/-- An approval has an answer to every mandatory check that can be attested. -/
theorem mandatory_answered {w' : World} {actor : Actor} {policy : WorkflowEvidencePolicy}
    {plan : ValidatedEvidencePlan} {evidence : CanonicalEvidence}
    (context : Option ContextEvaluation) (hp : getWorkflowPolicy tx.action = .ok policy)
    (planned : Planned policy svc.attestable (svc.proposal peers tx policy) plan)
    (approve : (svc.verdict env w' tx actor plan evidence context).decision = .approve)
    (attestable : (svc.requires policy).Nonempty) :
    RestsOnEvidence (svc.verdict env w' tx actor plan evidence context) := by
  have rules := PolicyEngine.decide_rules w'.config (PolicyEngine.newDecisionId (w'.nextHex env))
    (env.clock w'.readings) tx actor evidence context svc.attestable plan.mandatory.toFinset
  have passes : ¬ PolicyEngine.Refuses tx actor evidence plan.mandatory.toFinset := by
    rw [← rules.deny_iff]
    change (svc.verdict env w' tx actor plan evidence context).decision ≠ .deny
    simp [approve]
  obtain ⟨k, hk⟩ := attestable
  have answered : PolicyEngine.unanswered evidence k ≠ true := fun h =>
    passes (.inr (.inr (.inl ⟨k, (mem_mandatory_iff planned k).2 hk, h⟩)))
  obtain ⟨outcome, reasons, authority, shape⟩ := PolicyEngine.decide_shape w'.config
    (PolicyEngine.newDecisionId (w'.nextHex env)) (env.clock w'.readings) tx actor evidence
    svc.attestable (some plan.mandatory.toFinset)
  rw [verdict, shape]
  refine ⟨_, rfl, ?_⟩
  rcases mandatory_of_policy hp (mem_attested.1 hk).1 with rfl | rfl
  · exact .inl (by simpa [PolicyEngine.unanswered, evidenceFields] using answered)
  · exact .inr (.inl (by simpa [PolicyEngine.unanswered, evidenceFields] using answered))

end

/-- An approval rests on an answer of the network exactly when the carrier can attest a mandatory
check of the workflow or answers a check that is collected; a request that is denied or is about a
restricted category is not approved in any case. -/
theorem approved_on_evidence_iff (svc : AuthorizationService) (env : Env) (peers : Peers)
    (w : World) (listener : Bool) (tx : TransactionRequest) :
    (∀ d r w', (svc.authorizeTransaction listener tx).run (handle env peers) w = (.ok (d, r), w') →
        d.decision = .approve → RestsOnEvidence d) ↔
      ∀ area, areaOf svc.zoneRegistry tx.zone = some area →
        Denied svc peers w tx area ∨ (∃ a, w.config.authorityFor tx.category = some a) ∨
          Grounded svc peers w tx area := by
  constructor
  · intro good area harea
    by_contra! bad
    obtain ⟨allowed, unrestricted, groundless⟩ := bad
    have returns : ReturnsJudged svc peers w tx area
        ((svc.authorizeTransaction listener tx).run (handle env peers) w).1 :=
      authorize_judged harea listener
    obtain ⟨d, r, hr, judged, -⟩ := returns
    have answered := authorize_answered hr
    have unasked {binding : DeviceBinding} {policy : WorkflowEvidencePolicy}
        (hb : w.kv (.deviceBindings tx.actorId) = some binding)
        (hp : getWorkflowPolicy tx.action = .ok policy) : ¬ ∃ c ∈ checks binding.phoneNumber area,
          c.kind ∈ svc.collects peers tx policy ∧
            ∃ a, peers.carrier c = .answered a ∧ c.read a ≠ none :=
      fun asked => groundless ⟨binding, policy, hb, hp, .inr asked⟩
    have approve : d.decision = .approve := by
      generalize d.decision = outcome, d.requiredAuthority = authority at judged
      cases judged with
      | deny h => exact absurd h allowed
      | simSwap _ swapped =>
        obtain ⟨binding, policy, hb, hp, collects, found⟩ := swapped
        refine absurd ?_ (unasked hb hp)
        exact ⟨.checkSimSwap binding.phoneNumber, by simp [checks], collects, true, found,
          by simp [CarrierCall.read]⟩
      | restricted a _ _ found => exact absurd found (unrestricted a)
      | approve => rfl
    have rests := good d r _ (Prod.ext hr rfl) approve
    cases answered with
    | refused => simp [denial] at approve
    | evaluated context harea' hb hp planned reads config =>
      obtain rfl := Option.some.inj (harea.symm.trans harea')
      exact unasked hb hp ((restsOnEvidence_verdict context planned reads).1 rests)
  · intro cond d r w' hrun approve
    cases authorize_answered (congrArg Prod.fst hrun) with
    | refused => simp [denial] at approve
    | @evaluated area actor binding policy plan evidence context w'' harea hb hp planned reads =>
      have judged : ReturnsJudged svc peers w tx area
          ((svc.authorizeTransaction listener tx).run (handle env peers) w).1 :=
        authorize_judged harea listener
      rw [hrun] at judged
      obtain ⟨_, _, ⟨⟩, judged, -⟩ := judged
      rw [approve] at judged
      generalize (svc.verdict env w'' tx actor plan evidence context).requiredAuthority =
        authority at judged
      cases judged with
      | approve allowed _ unrestricted =>
        rcases cond area harea with denied | ⟨a, restricted⟩ | ⟨binding', policy', hb', hp', ground⟩
        · exact absurd denied allowed
        · simp [restricted] at unrestricted
        · obtain rfl := Option.some.inj (hb.symm.trans hb')
          obtain rfl := Except.ok.inj (hp.symm.trans hp')
          rcases ground with attestable | asked
          · exact mandatory_answered context hp planned approve attestable
          · exact (restsOnEvidence_verdict context planned reads).2 asked

end AuthorizationService

/-- The small deployment with a carrier that can attest nothing. -/
def Sample.blindService : AuthorizationService := { Sample.service with attestable := some ∅ }

/-- Its release of general cargo is approved, and no check was asked. -/
theorem approved_on_nothing :
    let _ := Sample.unicode
    ∃ d r w', (Sample.blindService.authorizeTransaction false Sample.general).run
        (handle Sample.env Sample.peers) Sample.world = (.ok (d, r), w') ∧
      d.decision = .approve ∧ ¬ AuthorizationService.RestsOnEvidence d := by
  intro _
  have verdict : ((Sample.blindService.authorizeTransaction false Sample.general).run
      (handle Sample.env Sample.peers) Sample.world).1.toOption.map
        (fun verdict => (verdict.1.decision, verdict.1.evidenceSummary)) =
          some (.approve, some ⟨none, none, none, none, none⟩) := by decide +kernel
  generalize (Sample.blindService.authorizeTransaction false Sample.general).run
    (handle Sample.env Sample.peers) Sample.world = result at verdict ⊢
  obtain ⟨_ | ⟨d, r⟩, w'⟩ := result
  · simp [Except.toOption] at verdict
  obtain ⟨approve, summary⟩ := Prod.mk.inj (Option.some.inj verdict)
  refine ⟨d, r, w', rfl, approve, ?_⟩
  rintro ⟨s, hs, filled⟩
  obtain rfl := Option.some.inj (summary.symm.trans hs)
  simp at filled

end ZoneGate
