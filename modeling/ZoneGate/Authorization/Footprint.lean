import ZoneGate.Authorization.Ledger
import ZoneGate.Authorization.Outcome

/-!
# What one request leaves in the store

Whichever exit a request takes, it leaves one decision, the receipt of it and, for an approval, one
token.  `Leaves` lists the cells that may differ afterwards; everything else stays as it was.
-/

namespace ZoneGate

open Py Effects AuthorizationService

/-- The working records of the pipeline, under the transaction id of the request. -/
def Cell.WorksOn (transactionId : String) : Cell → Prop
  | .transactions id | .evidencePlans id | .evidence id | .contextEvaluations id =>
      id = transactionId
  | _ => False

/-- The cells of a decision and of its receipt. -/
def Cell.Records (d : PolicyDecision) : Cell → Prop
  | .decisions id => id = d.decisionId
  | .receipts id => id = "rcpt_" ++ d.decisionId
  | .decisionTxIndex id | .receiptTxIndex id => id = d.transactionId
  | .decisionList => True
  | _ => False

/-- The cells of a token, if one is issued. -/
def Cell.OfToken (token : Option ScopedAuthorizationToken) : Cell → Prop
  | .tokens id => ∃ t ∈ token, id = t.tokenId
  | .tokenSigIndex signature => ∃ t ∈ token, signature = t.signature
  | _ => False

/-- What the store keeps of a request: its transaction, the decision at the head of the list, the
receipt and the token; nothing else has changed but the working records of the transaction. -/
structure Leaves (tx : TransactionRequest) (d : PolicyDecision) (r : Receipt)
    (token : Option ScopedAuthorizationToken) (kv kv' : Kv) : Prop where
  transaction : kv' (.transactions tx.transactionId) = some tx
  decision : kv' (.decisions d.decisionId) = some d
  decisionIndex : kv' (.decisionTxIndex tx.transactionId) = some d.decisionId
  decisionList : kv' .decisionList = some (d.decisionId :: kv.decisionIds.erase d.decisionId)
  receipt : kv' (.receipts r.receiptId) = some r
  receiptIndex : kv' (.receiptTxIndex tx.transactionId) = some r.receiptId
  issued : ∀ t ∈ token, kv' (.tokens t.tokenId) = some t ∧
    kv' (.tokenSigIndex t.signature) = some t.tokenId
  rest : ∀ c : Cell, ¬ c.WorksOn tx.transactionId → ¬ c.Records d → ¬ c.OfToken token →
    kv' c = kv c

/-- Nothing is kept under the identifiers that are drawn next. -/
structure FreshIds (env : Env) (w : World) : Prop where
  decision : w.kv (.decisions (PolicyEngine.newDecisionId (w.nextHex env))) = none
  receipt : w.kv (.receipts ("rcpt_" ++ PolicyEngine.newDecisionId (w.nextHex env))) = none
  token : w.kv (.tokens (TokenService.newTokenId ((w.draw env).nextHex env))) = none

/-! ## The stages -/

/-- So far the request has only worked on the records of its transaction, which is on file. -/
structure Working (tx : TransactionRequest) (w w' : World) : Prop where
  transaction : w'.kv (.transactions tx.transactionId) = some tx
  rest : ∀ c : Cell, ¬ c.WorksOn tx.transactionId → w'.kv c = w.kv c
  drawn : w'.drawn = w.drawn
  config : w'.config = w.config

namespace Working

variable {tx : TransactionRequest} {w w' : World}

theorem filed (tx : TransactionRequest) (w : World) : Working tx w (filed tx w) where
  transaction := (StoreCall.saveTransaction_transactions w.kv tx _).trans (if_pos rfl)
  rest c hc := by
    cases c with
    | transactions id => exact (StoreCall.saveTransaction_transactions w.kv tx id).trans (if_neg hc)
    | _ => rfl
  drawn := rfl
  config := rfl

/-- The identifiers to come are still those that came next at the start. -/
theorem nextHex (h : Working tx w w') (env : Env) : w'.nextHex env = w.nextHex env := by
  rw [World.nextHex, h.drawn, World.nextHex]

theorem nextHex_draw (h : Working tx w w') (env : Env) :
    (w'.draw env).nextHex env = (w.draw env).nextHex env := by
  simp only [World.nextHex, World.drawn_draw, List.length_cons]
  rw [h.drawn]

/-- A save of one of the working records. -/
theorem save (h : Working tx w w') {c : Cell} (doc : c.Doc) (works : c.WorksOn tx.transactionId)
    (kept : ∀ id, c ≠ .transactions id) {call : StoreCall}
    (writes : call.writes w'.kv = [.put c doc]) : Working tx w (w'.after call) where
  transaction := by
    rw [World.kv_after, StoreCall.exec, writes]
    exact (Cells.Store.write_of_ne _ _ (kept _).symm).trans h.transaction
  rest c' hc' := by
    have ne : c' ≠ c := fun same => hc' (same ▸ works)
    rw [World.kv_after, StoreCall.exec, writes]
    exact (Cells.Store.write_of_ne _ _ ne).trans (h.rest c' hc')
  drawn := h.drawn
  config := h.config

theorem tick (h : Working tx w w') : Working tx w w'.tick :=
  ⟨h.transaction, h.rest, h.drawn, h.config⟩

theorem planned (h : Working tx w w') (plan : ValidatedEvidencePlan) :
    Working tx w (planned tx plan w') :=
  h.save (c := .evidencePlans tx.transactionId) plan rfl (fun _ => Cell.noConfusion) rfl

theorem collected (h : Working tx w w') (evidence : CanonicalEvidence) :
    Working tx w (w'.tick.after (.saveEvidence tx.transactionId evidence)) :=
  h.tick.save (c := .evidence tx.transactionId) evidence rfl (fun _ => Cell.noConfusion) rfl

theorem advised (h : Working tx w w') (advice : Option ContextEvaluation) :
    Working tx w (advised tx advice w') := by
  cases advice with
  | none => exact h
  | some evaluation =>
    exact h.save (c := .contextEvaluations tx.transactionId) evaluation rfl
      (fun _ => Cell.noConfusion) rfl

end Working

section Exits

variable {tx : TransactionRequest} {d : PolicyDecision} {env : Env} {w w' : World}

/-- The contents once the token, if there is one, is stored. -/
def Kv.withToken (kv : Kv) : Option ScopedAuthorizationToken → Kv
  | none => kv
  | some t => (StoreCall.saveToken t).exec kv

theorem Kv.withToken_apply (kv : Kv) {token : Option ScopedAuthorizationToken} {c : Cell}
    (hc : ¬ c.OfToken token) : kv.withToken token c = kv c := by
  cases token with
  | none => rfl
  | some t =>
    cases c with
    | tokens id => exact (StoreCall.saveToken_tokens ..).trans (if_neg fun h => hc ⟨t, rfl, h⟩)
    | tokenSigIndex signature =>
      exact (StoreCall.saveToken_tokenSigIndex ..).trans (if_neg fun h => hc ⟨t, rfl, h⟩)
    | _ => rfl

/-- A decision, its receipt and its token, recorded on top of the working records. -/
theorem leaves_persist (h : Working tx w w') (about : d.transactionId = tx.transactionId)
    (now : DateTime) (carried : Option String) {token : Option ScopedAuthorizationToken}
    {w₁ : World} (kv : w₁.kv = w'.kv.withToken token) :
    Leaves tx d (receiptFor d now carried) token w.kv
      (persist w₁ d (receiptFor d now carried)).kv where
  transaction := by
    have untouched : ¬ Cell.OfToken token (.transactions tx.transactionId) := not_false
    change w₁.kv (.transactions tx.transactionId) = some tx
    rw [kv, w'.kv.withToken_apply untouched, h.transaction]
  decision := (StoreCall.saveDecision_decisions ..).trans (if_pos rfl)
  decisionIndex := (StoreCall.saveDecision_decisionTxIndex ..).trans (if_pos about.symm)
  decisionList := by
    have untouched : ¬ Cell.OfToken token .decisionList := not_false
    have same : w₁.kv .decisionList = w.kv .decisionList := by
      rw [kv, w'.kv.withToken_apply untouched, h.rest .decisionList not_false]
    change some (d.decisionId :: (w₁.kv.decisionIds).erase d.decisionId) = _
    rw [Kv.decisionIds, same]
    rfl
  receipt := (StoreCall.saveReceipt_receipts ..).trans (if_pos rfl)
  receiptIndex := (StoreCall.saveReceipt_receiptTxIndex ..).trans (if_pos about.symm)
  issued t ht := by
    obtain rfl := Option.mem_def.1 ht
    constructor
    · refine Eq.trans (congrFun kv _) ?_
      exact (StoreCall.saveToken_tokens ..).trans (if_pos rfl)
    · refine Eq.trans (congrFun kv _) ?_
      exact (StoreCall.saveToken_tokenSigIndex ..).trans (if_pos rfl)
  rest c works records other := by
    have kept : w₁.kv c = w.kv c := by
      rw [kv, w'.kv.withToken_apply other, h.rest c works]
    rw [← kept]
    cases c with
    | decisions id => exact (StoreCall.saveDecision_decisions w₁.kv d id).trans (if_neg records)
    | decisionTxIndex id =>
      exact (StoreCall.saveDecision_decisionTxIndex w₁.kv d id).trans (if_neg records)
    | receipts id => exact (StoreCall.saveReceipt_receipts ..).trans (if_neg records)
    | receiptTxIndex id => exact (StoreCall.saveReceipt_receiptTxIndex ..).trans (if_neg records)
    | decisionList => exact absurd trivial records
    | _ => rfl

end Exits

/-- The request has made one decision, under the identifier drawn next, with its receipt and the
token of an approval, and has recorded nothing else. -/
structure OneDecision (env : Env) (tx : TransactionRequest) (w w' : World) (d : PolicyDecision)
    (r : Receipt) (token : Option ScopedAuthorizationToken) : Prop where
  drawn : d.decisionId = PolicyEngine.newDecisionId (w.nextHex env)
  about : d.transactionId = tx.transactionId
  receipt : ∃ now, r = receiptFor d now (token.map (·.tokenId))
  issued : token.isSome ↔ d.decision = .approve
  unclaimed : ∀ t ∈ token, t.claimed = false ∧ t.decisionId = d.decisionId ∧
    t.tokenId = TokenService.newTokenId ((w.draw env).nextHex env)
  leaves : Leaves tx d r token w.kv w'.kv
  config : w'.config = w.config

/-- The run returns one decision with its receipt, and has recorded nothing else. -/
def DecidesOnce (env : Env) (tx : TransactionRequest) (w : World)
    (result : Except ServiceError (PolicyDecision × Receipt) × World) : Prop :=
  ∃ d r token, result.1 = .ok (d, r) ∧ OneDecision env tx w result.2 d r token

namespace AuthorizationService

variable {svc : AuthorizationService} {env : Env} {peers : Peers} {tx : TransactionRequest}
  {w w' : World} {listener : Bool} {now : DateTime}

theorem refuse_decidesOnce (h : Working tx w w') (stage : Stage) (detail reason : String) :
    DecidesOnce env tx w
      ((refuse listener tx now stage detail reason).run (handle env peers) w') := by
  rw [refuse_run]
  refine ⟨_, _, none, rfl, ?_⟩
  constructor
  · exact congrArg PolicyEngine.newDecisionId (h.nextHex env)
  · rfl
  · exact ⟨now, rfl⟩
  · simp [denial]
  · exact fun t ht => by cases ht
  · exact leaves_persist h rfl now none rfl
  · exact h.config

variable [Unicode] in
theorem decideAndPersist_decidesOnce (h : Working tx w w') (actor : Actor)
    (plan : ValidatedEvidencePlan) (evidence : CanonicalEvidence)
    (context : Option ContextEvaluation) :
    DecidesOnce env tx w ((svc.decideAndPersist listener tx now actor plan evidence context).run
      (handle env peers) w') := by
  obtain ⟨id, about, -⟩ := verdict_shape svc env w' tx plan actor evidence context
  rw [decideAndPersist_run]
  generalize svc.verdict env w' tx actor plan evidence context = d at id about ⊢
  dsimp only
  split_ifs with approve
  · refine ⟨d, _, some (svc.nextToken env (w'.draw env).tick actor.actorId tx.action tx.resourceId
      tx.zone d.decisionId), rfl, ?_⟩
    constructor
    · rw [id, h.nextHex env]
    · exact about
    · exact ⟨now, rfl⟩
    · simp [approve]
    · rintro t ⟨⟩
      exact ⟨rfl, rfl, congrArg TokenService.newTokenId (h.nextHex_draw env)⟩
    · exact leaves_persist h about now _ rfl
    · exact h.config
  · refine ⟨d, _, none, rfl, ?_⟩
    constructor
    · rw [id, h.nextHex env]
    · exact about
    · exact ⟨now, rfl⟩
    · simp [approve]
    · exact fun t ht => by cases ht
    · exact leaves_persist h about now none rfl
    · exact h.config

variable [Unicode]

theorem collectAndDecide_decidesOnce (h : Working tx w w') {area : Geofence}
    (harea : areaOf svc.zoneRegistry tx.zone = some area) (actor : Actor) (binding : DeviceBinding)
    (plan : ValidatedEvidencePlan) :
    DecidesOnce env tx w ((svc.collectAndDecide listener tx now actor binding plan).run
      (handle env peers) w') := by
  rw [collectAndDecide_run svc _ harea]
  rcases collected peers.carrier actor binding area plan with e | evidence
  · exact refuse_decidesOnce (h.planned plan) ..
  · exact decideAndPersist_decidesOnce (((h.planned plan).collected _).advised _) ..

theorem planAndCollect_decidesOnce (h : Working tx w w') {area : Geofence}
    (harea : areaOf svc.zoneRegistry tx.zone = some area) (actor : Actor)
    (binding : DeviceBinding) :
    DecidesOnce env tx w ((svc.planAndCollect listener tx now actor binding).run
      (handle env peers) w') := by
  rw [planAndCollect_run]
  rcases getWorkflowPolicy tx.action with message | policy
  · exact refuse_decidesOnce h ..
  rcases validateWith_spec policy svc.attestable tx.action (svc.proposal peers tx policy) with
    ⟨plan, hplan, -⟩ | ⟨e, he, hne, -⟩
  · simp only [hplan]
    exact collectAndDecide_decidesOnce h harea ..
  · simp only [he]
    rcases e with m | m | m
    · exact absurd rfl (hne m)
    · exact refuse_decidesOnce h ..
    · exact refuse_decidesOnce h ..

theorem authorizeTransaction_decidesOnce {area : Geofence}
    (harea : areaOf svc.zoneRegistry tx.zone = some area) :
    DecidesOnce env tx w ((svc.authorizeTransaction listener tx).run (handle env peers) w) := by
  have h := Working.filed tx w
  rw [authorizeTransaction_run]
  rcases w.kv (.actors tx.actorId) with _ | actor
  · exact refuse_decidesOnce h ..
  rcases w.kv (.deviceBindings tx.actorId) with _ | binding
  · exact refuse_decidesOnce h ..
  · exact planAndCollect_decidesOnce h harea ..

/-- Every request returns one new decision and its receipt, with a new token for an approval, and
leaves everything else in the store as it was. -/
theorem authorize_decides_once (svc : AuthorizationService) (peers : Peers) (env : Env) (w : World)
    (listener : Bool) (tx : TransactionRequest) {default : Geofence}
    (hzone : svc.zoneRegistry.lookup "DEFAULT_ZONE" = some default) (fresh : FreshIds env w) :
    ∃ d r token w', (svc.authorizeTransaction listener tx).run (handle env peers) w =
        (.ok (d, r), w') ∧
      OneDecision env tx w w' d r token ∧
      w.kv (.decisions d.decisionId) = none ∧ w.kv (.receipts r.receiptId) = none ∧
      ∀ t ∈ token, w.kv (.tokens t.tokenId) = none := by
  have harea : areaOf svc.zoneRegistry tx.zone =
      some ((svc.zoneRegistry.lookup tx.zone).getD default) := by
    rw [areaOf, hzone]
    rfl
  have once : DecidesOnce env tx w
      ((svc.authorizeTransaction listener tx).run (handle env peers) w) :=
    authorizeTransaction_decidesOnce harea
  obtain ⟨d, r, token, returned, one⟩ := once
  obtain ⟨now, rfl⟩ := one.receipt
  refine ⟨d, _, token, _, Prod.ext returned rfl, one, ?_, ?_, fun t ht => ?_⟩
  · rw [one.drawn]
    exact fresh.decision
  · change w.kv (.receipts ("rcpt_" ++ d.decisionId)) = none
    rw [one.drawn]
    exact fresh.receipt
  · rw [(one.unclaimed t ht).2.2]
    exact fresh.token

end AuthorizationService

/-- A release of general cargo by the enrolled operator. -/
theorem authorize_decides_once_release :
    FreshIds Sample.env Sample.world ∧
      ∃ d r token w', (@authorizeTransaction Sample.unicode Sample.service true
          Sample.general).run (handle Sample.env Sample.peers) Sample.world = (.ok (d, r), w') ∧
        OneDecision Sample.env Sample.general Sample.world w' d r token := by
  have fresh : FreshIds Sample.env Sample.world := ⟨rfl, rfl, rfl⟩
  obtain ⟨d, r, token, w', run, one, -⟩ := @authorize_decides_once Sample.unicode Sample.service
    Sample.peers Sample.env Sample.world true Sample.general
    ⟨⟨false, 377749, -4⟩, ⟨true, 1224194, -4⟩, 1000⟩ rfl fresh
  exact ⟨fresh, d, r, token, w', run, one⟩

end ZoneGate
