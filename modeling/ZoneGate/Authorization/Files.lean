import ZoneGate.Authorization.Ledger

/-!
# What an authorization leaves on file

What an authorization collects is decided by the roster, the agents and the carrier;
`authorizeTransaction_files` says what it then leaves under the transaction id, and which decision
it adds.
-/

namespace ZoneGate

open Py Effects

/-- The five fields that the engine copies into its decision. -/
def CanonicalEvidence.summary (evidence : CanonicalEvidence) : EvidenceSummary :=
  ⟨evidence.numberVerified, evidence.locationVerified, evidence.recentSimSwap,
    evidence.recentDeviceSwap, evidence.reachable⟩

/-! ## What an authorization collects -/

/-- The outcome of the evidence stage: there is no geofence to check against, the request is refused
without evidence, or the carrier's answers. -/
inductive Collection
  | raises
  | refused
  | collected (summary : EvidenceSummary)
deriving DecidableEq

/-- What the gateway collects for a plan.  The time of collection is not part of it. -/
def collectionOf (svc : AuthorizationService) (peers : Peers) (tx : TransactionRequest)
    (actor : Actor) (binding : DeviceBinding) (plan : ValidatedEvidencePlan) : Collection :=
  match areaOf svc.zoneRegistry tx.zone with
  | some area =>
      match collected peers.carrier actor binding area plan with
      | .ok evidence => .collected (evidence ⟨0⟩).summary
      | .error _ => .refused
  | none =>
      match (do validateActorDeviceBinding actor binding
                checkCapabilities plan.combined : Except GatewayError Unit) with
      | .ok () => .raises
      | .error _ => .refused

/-- What an authorization collects, from the roster, the agents and the carrier. -/
def collectionFor (svc : AuthorizationService) (peers : Peers) (kv : Kv) (tx : TransactionRequest) :
    Collection :=
  match kv (.actors tx.actorId), kv (.deviceBindings tx.actorId) with
  | some actor, some binding =>
      match getWorkflowPolicy tx.action with
      | .error _ => .refused
      | .ok policy =>
          match validateWith policy svc.attestable tx.action (svc.proposal peers tx policy) with
          | .error (.noPolicy _) => .raises
          | .error _ => .refused
          | .ok plan => collectionOf svc peers tx actor binding plan
  | _, _ => .refused

/-- The answers of the carrier do not depend on the time. -/
theorem collected_summary {carrier : (c : CarrierCall) → CarrierReply c.Answer} {actor : Actor}
    {binding : DeviceBinding} {area : Geofence} {plan : ValidatedEvidencePlan}
    {evidence : DateTime → CanonicalEvidence}
    (h : collected carrier actor binding area plan = .ok evidence) (now now' : DateTime) :
    (evidence now).summary = (evidence now').summary := by
  unfold collected at h
  rcases hbinding : validateActorDeviceBinding actor binding with e | ⟨⟩
  · rw [hbinding] at h
    cases h
  rcases hplan : checkCapabilities plan.combined with e | ⟨⟩
  · rw [hbinding, hplan] at h
    cases h
  rw [hbinding, hplan] at h
  change gather (asked carrier plan) binding.phoneNumber area = .ok evidence at h
  rcases gather_cases (asked carrier plan) binding.phoneNumber area with
    ⟨evidence', hgather, -, fields⟩ | ⟨e, hgather, -⟩
  · obtain rfl := Except.ok.inj (hgather.symm.trans h)
    obtain ⟨number, location, simSwap, deviceSwap, reachable, -⟩ := fields now
    obtain ⟨number', location', simSwap', deviceSwap', reachable', -⟩ := fields now'
    simp only [CanonicalEvidence.summary, EvidenceSummary.mk.injEq]
    exact ⟨Except.ok.inj (number.symm.trans number'), Except.ok.inj (location.symm.trans location'),
      Except.ok.inj (simSwap.symm.trans simSwap'),
      Except.ok.inj (deviceSwap.symm.trans deviceSwap'),
      Except.ok.inj (reachable.symm.trans reachable')⟩
  · rw [hgather] at h
    cases h

/-! ## What an authorization files -/

/-- The records of a request so far: its transaction is on file, and no decision is new. -/
structure Begun (tx : TransactionRequest) (w w₀ : World) : Prop where
  transactions : ∀ id, w₀.kv (.transactions id) =
    if id = tx.transactionId then some tx else w.kv (.transactions id)
  decisions : ∀ id, w₀.kv (.decisions id) = w.kv (.decisions id)
  drawn : w₀.drawn = w.drawn

/-- A new decision about the transaction is on record. -/
structure Decides (env : Env) (tx : TransactionRequest) (w w' : World) (d : PolicyDecision) :
    Prop where
  id : d.decisionId = PolicyEngine.newDecisionId (w.nextHex env)
  about : d.transactionId = tx.transactionId
  decisions : ∀ id, w'.kv (.decisions id) =
    if id = d.decisionId then some d else w.kv (.decisions id)

/-- The evidence of the request is on file. -/
def SavesEvidence (tx : TransactionRequest) (w w' : World) (evidence : CanonicalEvidence) : Prop :=
  ∀ id, w'.kv (.evidence id) =
    if id = tx.transactionId then some evidence else w.kv (.evidence id)

def KeepsEvidence (w w' : World) : Prop := ∀ id, w'.kv (.evidence id) = w.kv (.evidence id)

/-- What an authorization files, by what it collects. -/
inductive Files (env : Env) (tx : TransactionRequest) (w w' : World) :
    Collection → Except ServiceError (PolicyDecision × Receipt) → Prop
  | raises (e : ServiceError) (decisions : ∀ id, w'.kv (.decisions id) = w.kv (.decisions id))
      (evidence : KeepsEvidence w w') : Files env tx w w' .raises (.error e)
  | refused (d : PolicyDecision) (r : Receipt) (decides : Decides env tx w w' d)
      (summary : d.evidenceSummary = none) (evidence : KeepsEvidence w w') :
      Files env tx w w' .refused (.ok (d, r))
  | collected (d : PolicyDecision) (r : Receipt) (evidence : CanonicalEvidence)
      (decides : Decides env tx w w' d) (summary : d.evidenceSummary = some evidence.summary)
      (saves : SavesEvidence tx w w' evidence) :
      Files env tx w w' (.collected evidence.summary) (.ok (d, r))

/-- The transaction is on file, and the rest is as collected. -/
def FilesAs (env : Env) (tx : TransactionRequest) (w : World) (collection : Collection)
    (result : Except ServiceError (PolicyDecision × Receipt) × World) : Prop :=
  (∀ id, result.2.kv (.transactions id) =
    if id = tx.transactionId then some tx else w.kv (.transactions id)) ∧
    Files env tx w result.2 collection result.1

section Pipeline

variable {svc : AuthorizationService} {env : Env} {peers : Peers} {w w₀ : World} {listener : Bool}
  {tx : TransactionRequest}

open AuthorizationService

theorem Begun.decides (begun : Begun tx w w₀) {d : PolicyDecision}
    (id : d.decisionId = PolicyEngine.newDecisionId (w₀.nextHex env))
    (about : d.transactionId = tx.transactionId) (w₁ : World) (r : Receipt)
    (same : ∀ id, w₁.kv (.decisions id) = w₀.kv (.decisions id)) :
    Decides env tx w (persist w₁ d r) d where
  id := by rw [id, World.nextHex, World.nextHex, begun.drawn]
  about := about
  decisions id := by
    refine (StoreCall.saveDecision_decisions w₁.kv d id).trans ?_
    rw [same, begun.decisions]

theorem refuse_files (begun : Begun tx w w₀) (keeps : KeepsEvidence w w₀) (now : DateTime)
    (stage : Stage) (detail reason : String) :
    FilesAs env tx w .refused
      ((refuse listener tx now stage detail reason).run (handle env peers) w₀) := by
  rw [refuse_run]
  refine ⟨begun.transactions, ?_⟩
  dsimp only
  exact .refused _ _ (begun.decides rfl rfl _ _ fun _ => rfl) rfl keeps

variable [Unicode]

theorem decideAndPersist_files (begun : Begun tx w w₀) {evidence : CanonicalEvidence}
    (saves : SavesEvidence tx w w₀ evidence) (now : DateTime) (actor : Actor)
    (plan : ValidatedEvidencePlan) (context : Option ContextEvaluation) :
    FilesAs env tx w (.collected evidence.summary)
      ((svc.decideAndPersist listener tx now actor plan evidence context).run
        (handle env peers) w₀) := by
  obtain ⟨id, about, -⟩ := verdict_shape svc env w₀ tx plan actor evidence context
  have summary : (svc.verdict env w₀ tx actor plan evidence context).evidenceSummary =
      some evidence.summary := by
    obtain ⟨outcome, reasons, authority, shape⟩ := PolicyEngine.decide_shape w₀.config
      (PolicyEngine.newDecisionId (w₀.nextHex env)) (env.clock w₀.readings) tx actor evidence
      svc.attestable (some plan.mandatory.toFinset)
    rw [verdict, shape]
    rfl
  rw [decideAndPersist_run]
  generalize svc.verdict env w₀ tx actor plan evidence context = d at id about summary ⊢
  dsimp only
  split_ifs
  · refine ⟨begun.transactions, ?_⟩
    dsimp only
    exact .collected _ _ evidence (begun.decides id about _ _ fun _ => rfl) summary saves
  · refine ⟨begun.transactions, ?_⟩
    dsimp only
    exact .collected _ _ evidence (begun.decides id about _ _ fun _ => rfl) summary saves

theorem collectAndDecide_files (begun : Begun tx w w₀) (keeps : KeepsEvidence w w₀)
    (now : DateTime) (actor : Actor) (binding : DeviceBinding) (plan : ValidatedEvidencePlan) :
    FilesAs env tx w (collectionOf svc peers tx actor binding plan)
      ((svc.collectAndDecide listener tx now actor binding plan).run (handle env peers) w₀) := by
  have begun' : Begun tx w (planned tx plan w₀) := ⟨begun.1, begun.2, begun.3⟩
  have keeps' : KeepsEvidence w (planned tx plan w₀) := keeps
  unfold collectionOf
  rcases harea : areaOf svc.zoneRegistry tx.zone with _ | area
  · rw [collectAndDecide_run_nowhere svc w₀ harea]
    rcases (do validateActorDeviceBinding actor binding
               checkCapabilities plan.combined : Except GatewayError Unit) with e | -
    · exact refuse_files begun' keeps ..
    · exact ⟨begun.transactions, .raises _ begun.decisions keeps⟩
  · rw [collectAndDecide_run svc w₀ harea]
    dsimp only
    rcases hcollected : collected peers.carrier actor binding area plan with e | evidenceAt
    · exact refuse_files begun' keeps ..
    · dsimp only
      rw [collected_summary hcollected ⟨0⟩ (env.clock w₀.readings)]
      set evidence := evidenceAt (env.clock w₀.readings)
      refine decideAndPersist_files ?_ ?_ now actor plan _
      · cases svc.advice peers tx evidence <;> exact ⟨begun.1, begun.2, begun.3⟩
      · intro id
        have saved : (StoreCall.saveEvidence tx.transactionId evidence).exec
            (planned tx plan w₀).kv (.evidence id) =
            if id = tx.transactionId then some evidence else w.kv (.evidence id) := by
          by_cases h : id = tx.transactionId
          · subst h
            simp [StoreCall.exec, StoreCall.writes]
          · simpa [StoreCall.exec, StoreCall.writes, h] using keeps' id
        cases svc.advice peers tx evidence <;> exact saved

theorem authorizeTransaction_files :
    FilesAs env tx w (collectionFor svc peers w.kv tx)
      ((svc.authorizeTransaction listener tx).run (handle env peers) w) := by
  have begun : Begun tx w (filed tx w) :=
    ⟨StoreCall.saveTransaction_transactions w.kv tx, fun _ => rfl, rfl⟩
  have keeps : KeepsEvidence w (filed tx w) := fun _ => rfl
  unfold collectionFor
  rw [authorizeTransaction_run]
  rcases w.kv (.actors tx.actorId) with _ | actor
  · exact refuse_files begun keeps ..
  rcases w.kv (.deviceBindings tx.actorId) with _ | binding
  · exact refuse_files begun keeps ..
  dsimp only
  rw [planAndCollect_run]
  rcases getWorkflowPolicy tx.action with message | policy
  · exact refuse_files begun keeps ..
  dsimp only
  rcases validateWith policy svc.attestable tx.action (svc.proposal peers tx policy) with
    (m | m | m) | plan
  · exact ⟨begun.transactions, .raises _ begun.decisions keeps⟩
  · exact refuse_files begun keeps ..
  · exact refuse_files begun keeps ..
  · exact collectAndDecide_files begun keeps ..

end Pipeline

end ZoneGate
