import ZoneGate.Authorization.Requests

/-!
# The ledger of verdicts

What the service is for, without the pipeline: a ledger of the transactions on file, the verdicts
on them, the receipts and the tokens, with the identifiers drawn so far.  `Ledger.Step` says
everything that one request can do to the ledger, and `ledger_step` that the service does nothing
else.
-/

namespace ZoneGate

open Py Effects

@[ext] structure Ledger where
  drawn : List String
  transactions : String → Option TransactionRequest
  decisions : String → Option PolicyDecision
  decisionIndex : String → Option String
  receipts : String → Option Receipt
  receiptIndex : String → Option String
  tokens : String → Option ScopedAuthorizationToken

/-- The ledger in the store. -/
def World.ledger (w : World) : Ledger where
  drawn := w.drawn
  transactions id := w.kv (.transactions id)
  decisions id := w.kv (.decisions id)
  decisionIndex id := w.kv (.decisionTxIndex id)
  receipts id := w.kv (.receipts id)
  receiptIndex id := w.kv (.receiptTxIndex id)
  tokens id := w.kv (.tokens id)

namespace Ledger

variable (l : Ledger)

def draw (hex : String) : Ledger := { l with drawn := hex :: l.drawn }

def withTransaction (tx : TransactionRequest) : Ledger :=
  { l with transactions := Function.update l.transactions tx.transactionId (some tx) }

def withDecision (d : PolicyDecision) : Ledger :=
  { l with
    decisions := Function.update l.decisions d.decisionId (some d)
    decisionIndex := Function.update l.decisionIndex d.transactionId (some d.decisionId) }

def withReceipt (r : Receipt) : Ledger :=
  { l with
    receipts := Function.update l.receipts r.receiptId (some r)
    receiptIndex := Function.update l.receiptIndex r.transactionId (some r.receiptId) }

def withToken (t : ScopedAuthorizationToken) : Ledger :=
  { l with tokens := Function.update l.tokens t.tokenId (some t) }

@[simp] theorem withTransaction_transactions (tx : TransactionRequest) (id : String) :
    (l.withTransaction tx).transactions id =
      if id = tx.transactionId then some tx else l.transactions id := Function.update_apply ..

@[simp] theorem withDecision_decisions (d : PolicyDecision) (id : String) :
    (l.withDecision d).decisions id = if id = d.decisionId then some d else l.decisions id :=
  Function.update_apply ..

@[simp] theorem withDecision_decisionIndex (d : PolicyDecision) (id : String) :
    (l.withDecision d).decisionIndex id =
      if id = d.transactionId then some d.decisionId else l.decisionIndex id :=
  Function.update_apply ..

@[simp] theorem withReceipt_receipts (r : Receipt) (id : String) :
    (l.withReceipt r).receipts id = if id = r.receiptId then some r else l.receipts id :=
  Function.update_apply ..

@[simp] theorem withReceipt_receiptIndex (r : Receipt) (id : String) :
    (l.withReceipt r).receiptIndex id =
      if id = r.transactionId then some r.receiptId else l.receiptIndex id :=
  Function.update_apply ..

@[simp] theorem withToken_tokens (t : ScopedAuthorizationToken) (id : String) :
    (l.withToken t).tokens id = if id = t.tokenId then some t else l.tokens id :=
  Function.update_apply ..

theorem withDecision_self {d : PolicyDecision} {id : String} (h : id = d.decisionId) :
    (l.withDecision d).decisions id = some d := (l.withDecision_decisions d id).trans (if_pos h)

theorem withReceipt_self (r : Receipt) : (l.withReceipt r).receipts r.receiptId = some r :=
  (l.withReceipt_receipts r _).trans (if_pos rfl)

theorem withToken_self (t : ScopedAuthorizationToken) : (l.withToken t).tokens t.tokenId = some t :=
  (l.withToken_tokens t _).trans (if_pos rfl)

/-- The receipt on record for the transaction of a decision, or a new one. -/
def receiptOnRecord (d : PolicyDecision) (now : DateTime) : Receipt :=
  ((l.receiptIndex d.transactionId).bind l.receipts).getD
    (AuthorizationService.receiptFor d now none)

end Ledger

/-! ## The store as a ledger -/

namespace World

variable (w : World)

@[simp] theorem ledger_tick : w.tick.ledger = w.ledger := rfl

@[simp] theorem ledger_draw (env : Env) : (w.draw env).ledger = w.ledger.draw (w.nextHex env) := rfl

theorem eq_update {β : Type} {f g : String → β} {key : String} {b : β}
    (h : ∀ k, g k = if k = key then b else f k) : g = Function.update f key b := by
  funext k
  rw [h, Function.update_apply]

@[simp] theorem ledger_saveTransaction (tx : TransactionRequest) :
    (w.after (.saveTransaction tx)).ledger = w.ledger.withTransaction tx :=
  Ledger.ext rfl (eq_update (StoreCall.saveTransaction_transactions w.kv tx)) rfl rfl rfl rfl rfl

@[simp] theorem ledger_saveDecision (d : PolicyDecision) :
    (w.after (.saveDecision d)).ledger = w.ledger.withDecision d :=
  Ledger.ext rfl rfl (eq_update (StoreCall.saveDecision_decisions w.kv d))
    (eq_update (StoreCall.saveDecision_decisionTxIndex w.kv d)) rfl rfl rfl

@[simp] theorem ledger_saveReceipt (r : Receipt) :
    (w.after (.saveReceipt r)).ledger = w.ledger.withReceipt r :=
  Ledger.ext rfl rfl rfl rfl (eq_update (StoreCall.saveReceipt_receipts w.kv r))
    (eq_update (StoreCall.saveReceipt_receiptTxIndex w.kv r)) rfl

@[simp] theorem ledger_saveToken (t : ScopedAuthorizationToken) :
    (w.after (.saveToken t)).ledger = w.ledger.withToken t :=
  Ledger.ext rfl rfl rfl rfl rfl rfl (eq_update (StoreCall.saveToken_tokens w.kv t))

/-- The working records of the pipeline are not part of the ledger. -/
@[simp] theorem ledger_saveEvidencePlan (id : String) (plan : ValidatedEvidencePlan) :
    (w.after (.saveEvidencePlan id plan)).ledger = w.ledger := rfl

@[simp] theorem ledger_saveEvidence (id : String) (evidence : CanonicalEvidence) :
    (w.after (.saveEvidence id evidence)).ledger = w.ledger := rfl

@[simp] theorem ledger_saveContextEvaluation (id : String) (evaluation : ContextEvaluation) :
    (w.after (.saveContextEvaluation id evaluation)).ledger = w.ledger := rfl

end World

/-! ## What a request can do -/

/-- The token is for the actor, the action, the resource and the zone of the transaction. -/
structure ScopedTo (tx : TransactionRequest) (t : ScopedAuthorizationToken) : Prop where
  actorId : t.actorId = tx.actorId
  action : t.action = tx.action
  resourceId : t.resourceId = tx.resourceId
  zone : t.zone = tx.zone

/-- The decision, on record under the id, is a hold that the role may resolve so. -/
structure Open [Unicode] (l : Ledger) (decisionId : String) (outcome : DecisionOutcome)
    (role : Option String) (d : PolicyDecision) : Prop where
  stored : l.decisions decisionId = some d
  eligible : AuthorizationService.ineligible decisionId d outcome role = none

/-- What the request does is a change of the roster or the configuration, a claim that is rejected or
raises over its signature, or the resolution of a hold that is not open to it. -/
def Idle [Unicode] (l : Ledger) : Request → Except ServiceError Answer → Prop
  | .authorize _ _, _ => False
  | .resolve decisionId outcome _ _ role, answer =>
      (∀ d, ¬ Open l decisionId outcome role d) ∧ ∃ e, answer = .error e
  | .claim _ _, answer => (∃ message, answer = .error (.type message)) ∨
      ∃ result, answer = .ok (.claimed result) ∧ result.claimed = false
  | .enroll _, answer | .bindDevice _, answer | .configure _, answer => answer = .ok .done

open AuthorizationService in
/-- One request on the ledger, with its answer. -/
inductive Ledger.Step [Unicode] : Ledger → Request → Except ServiceError Answer → Ledger → Prop
  /-- A verdict that is not an approval. -/
  | withheld {l : Ledger} {listener : Bool} {tx : TransactionRequest} {d : PolicyDecision}
      {hex : String} {now : DateTime} (id : d.decisionId = PolicyEngine.newDecisionId hex)
      (about : d.transactionId = tx.transactionId) (unresolved : d.resolution = none)
      (refused : d.decision ≠ .approve) :
      Step l (.authorize listener tx) (.ok (.judged d (receiptFor d now none)))
        ((((l.withTransaction tx).draw hex).withDecision d).withReceipt (receiptFor d now none))
  /-- An approval and its token. -/
  | approved {l : Ledger} {listener : Bool} {tx : TransactionRequest} {d : PolicyDecision}
      {t : ScopedAuthorizationToken} {hex hex' : String} {now : DateTime}
      (id : d.decisionId = PolicyEngine.newDecisionId hex)
      (about : d.transactionId = tx.transactionId) (unresolved : d.resolution = none)
      (approve : d.decision = .approve) (tokenId : t.tokenId = TokenService.newTokenId hex')
      (names : t.decisionId = d.decisionId) (scope : ScopedTo tx t) :
      Step l (.authorize listener tx) (.ok (.judged d (receiptFor d now (some t.tokenId))))
        ((((((l.withTransaction tx).draw hex).draw hex').withToken t).withDecision d).withReceipt
          (receiptFor d now (some t.tokenId)))
  /-- An authorization that raises. -/
  | unfinished {l : Ledger} {listener : Bool} {tx : TransactionRequest} {e : ServiceError} :
      Step l (.authorize listener tx) (.error e) (l.withTransaction tx)
  /-- A hold that a person denies. -/
  | denied {l : Ledger} {decisionId : String} {outcome : DecisionOutcome} {by' note : String}
      {role : Option String} {d : PolicyDecision} {now : DateTime}
      (isOpen : Open l decisionId outcome role d) (deny : outcome ≠ .approve) :
      Step l (.resolve decisionId outcome by' note role)
        (.ok (.judged (resolve d outcome by' note now)
          { l.receiptOnRecord d now with issuedAt := now }))
        ((l.withDecision (resolve d outcome by' note now)).withReceipt
          { l.receiptOnRecord d now with issuedAt := now })
  /-- A hold that a person approves, and its token. -/
  | released {l : Ledger} {decisionId : String} {by' note : String} {role : Option String}
      {d : PolicyDecision} {tx : TransactionRequest} {t : ScopedAuthorizationToken} {hex : String}
      {now : DateTime} (isOpen : Open l decisionId .approve role d)
      (onFile : l.transactions d.transactionId = some tx)
      (tokenId : t.tokenId = TokenService.newTokenId hex) (names : t.decisionId = d.decisionId)
      (scope : ScopedTo tx t) :
      Step l (.resolve decisionId .approve by' note role)
        (.ok (.judged (resolve d .approve by' note now)
          { l.receiptOnRecord d now with issuedAt := now, token := some t.tokenId }))
        ((((l.withDecision (resolve d .approve by' note now)).draw hex).withToken t).withReceipt
          { l.receiptOnRecord d now with issuedAt := now, token := some t.tokenId })
  /-- A hold that a person approves when its transaction is not on file. -/
  | stranded {l : Ledger} {decisionId : String} {by' note : String} {role : Option String}
      {d : PolicyDecision} {e : ServiceError} {now : DateTime}
      (isOpen : Open l decisionId .approve role d)
      (gone : l.transactions d.transactionId = none) :
      Step l (.resolve decisionId .approve by' note role) (.error e)
        (l.withDecision (resolve d .approve by' note now))
  /-- A token that is claimed. -/
  | claimed {l : Ledger} {identifier key : String} {expected : Expected} {result : ClaimResult}
      {t : ScopedAuthorizationToken} {now : DateTime} (stored : l.tokens key = some t)
      (unclaimed : t.claimed = false) (success : result.claimed = true) :
      Step l (.claim identifier expected) (.ok (.claimed result))
        (l.withToken (TokenService.claimedAtTime t now))
  | idle {l : Ledger} {request : Request} {answer : Except ServiceError Answer}
      (h : Idle l request answer) : Step l request answer l

/-! ## The service keeps to the ledger -/

namespace AuthorizationService

variable [Unicode] {svc : AuthorizationService} {env : Env} {peers : Peers} {w w₀ : World}
  {listener : Bool} {tx : TransactionRequest}

theorem refuse_step (filed : w₀.ledger = w.ledger.withTransaction tx) (now : DateTime)
    (stage : Stage) (detail reason : String) :
    let result := (refuse listener tx now stage detail reason).run (handle env peers) w₀
    Ledger.Step w.ledger (.authorize listener tx) (judgedAnswer result.1) result.2.ledger := by
  rw [refuse_run]
  simp only [persist, World.ledger_saveReceipt, World.ledger_saveDecision, World.ledger_draw, filed]
  exact .withheld rfl rfl rfl fun h => by cases h

variable (svc env w₀ tx) in
theorem verdict_shape (plan : ValidatedEvidencePlan) (actor : Actor) (evidence : CanonicalEvidence)
    (context : Option ContextEvaluation) :
    let d := svc.verdict env w₀ tx actor plan evidence context
    d.decisionId = PolicyEngine.newDecisionId (w₀.nextHex env) ∧
      d.transactionId = tx.transactionId ∧ d.resolution = none := by
  obtain ⟨outcome, reasons, authority, shape⟩ := PolicyEngine.decide_shape w₀.config
    (PolicyEngine.newDecisionId (w₀.nextHex env)) (env.clock w₀.readings) tx actor evidence
    svc.attestable (some plan.mandatory.toFinset)
  rw [verdict, shape]
  exact ⟨rfl, rfl, rfl⟩

theorem decideAndPersist_step (filed : w₀.ledger = w.ledger.withTransaction tx) {actor : Actor}
    (named : actor.actorId = tx.actorId) (now : DateTime) (plan : ValidatedEvidencePlan)
    (evidence : CanonicalEvidence) (context : Option ContextEvaluation) :
    let result := (svc.decideAndPersist listener tx now actor plan evidence context).run
      (handle env peers) w₀
    Ledger.Step w.ledger (.authorize listener tx) (judgedAnswer result.1) result.2.ledger := by
  obtain ⟨id, about, unresolved⟩ :=
    verdict_shape svc env w₀ tx plan actor evidence context
  rw [decideAndPersist_run]
  generalize svc.verdict env w₀ tx actor plan evidence context = d at id about unresolved ⊢
  dsimp only
  split_ifs with approve
  · simp only [persist, issued, World.ledger_saveReceipt, World.ledger_saveDecision,
      World.ledger_saveToken, World.ledger_draw, World.ledger_tick, filed]
    exact .approved id about unresolved approve rfl rfl ⟨named, rfl, rfl, rfl⟩
  · simp only [persist, World.ledger_saveReceipt, World.ledger_saveDecision, World.ledger_draw,
      World.ledger_tick, filed]
    exact .withheld id about unresolved approve

omit [Unicode] in
theorem ledger_advised (advice : Option ContextEvaluation) :
    (advised tx advice w₀).ledger = w₀.ledger := by
  cases advice <;> rfl

theorem collectAndDecide_step (filed : w₀.ledger = w.ledger.withTransaction tx) {actor : Actor}
    (named : actor.actorId = tx.actorId) (now : DateTime) (binding : DeviceBinding)
    (plan : ValidatedEvidencePlan) :
    let result := (svc.collectAndDecide listener tx now actor binding plan).run
      (handle env peers) w₀
    Ledger.Step w.ledger (.authorize listener tx) (judgedAnswer result.1) result.2.ledger := by
  have planned : (planned tx plan w₀).ledger = w.ledger.withTransaction tx := filed
  rcases harea : areaOf svc.zoneRegistry tx.zone with _ | area
  · rw [collectAndDecide_run_nowhere svc w₀ harea]
    rcases (do validateActorDeviceBinding actor binding
               checkCapabilities plan.combined : Except GatewayError Unit) with e | -
    · exact refuse_step planned ..
    · dsimp only
      rw [planned]
      exact .unfinished
  · rw [collectAndDecide_run svc w₀ harea]
    rcases collected peers.carrier actor binding area plan with e | evidence
    · exact refuse_step planned ..
    · refine decideAndPersist_step ?_ named ..
      exact (ledger_advised _).trans planned

theorem planAndCollect_step (filed : w₀.ledger = w.ledger.withTransaction tx) {actor : Actor}
    (named : actor.actorId = tx.actorId) (now : DateTime) (binding : DeviceBinding) :
    let result := (svc.planAndCollect listener tx now actor binding).run (handle env peers) w₀
    Ledger.Step w.ledger (.authorize listener tx) (judgedAnswer result.1) result.2.ledger := by
  rw [planAndCollect_run]
  rcases getWorkflowPolicy tx.action with message | policy
  · exact refuse_step filed ..
  dsimp only
  rcases validateWith policy svc.attestable tx.action (svc.proposal peers tx policy) with
    (m | m | m) | plan
  · dsimp only
    rw [filed]
    exact .unfinished
  · exact refuse_step filed ..
  · exact refuse_step filed ..
  · exact collectAndDecide_step filed named ..

theorem authorizeTransaction_step (keyed : w.kv.Keyed) :
    let result := (svc.authorizeTransaction listener tx).run (handle env peers) w
    Ledger.Step w.ledger (.authorize listener tx) (judgedAnswer result.1) result.2.ledger := by
  have filed : (filed tx w).ledger = w.ledger.withTransaction tx :=
    World.ledger_saveTransaction w.tick tx
  rw [authorizeTransaction_run]
  rcases ha : w.kv (.actors tx.actorId) with _ | actor
  · exact refuse_step filed ..
  rcases w.kv (.deviceBindings tx.actorId) with _ | binding
  · exact refuse_step filed ..
  · exact planAndCollect_step filed (keyed (.actors tx.actorId) actor ha) ..

theorem resolveHold_step (decisionId : String) (outcome : DecisionOutcome)
    (resolvedBy note : String) (role : Option String) :
    let result := (svc.resolveHold decisionId outcome resolvedBy note role).run
      (handle env peers) w
    Ledger.Step w.ledger (.resolve decisionId outcome resolvedBy note role)
      (judgedAnswer result.1) result.2.ledger := by
  rw [resolveHold_run]
  rcases hd : w.kv (.decisions decisionId) with _ | d
  · refine .idle ⟨fun d h => ?_, _, rfl⟩
    exact absurd (hd.symm.trans h.stored) nofun
  dsimp only
  rcases he : ineligible decisionId d outcome role with _ | e
  swap
  · refine .idle ⟨fun d' h => ?_, _, rfl⟩
    obtain rfl := Option.some.inj (hd.symm.trans h.stored)
    exact absurd (he.symm.trans h.eligible) nofun
  have isOpen : Open w.ledger decisionId outcome role d := ⟨hd, he⟩
  dsimp only
  rw [settleHold_run]
  by_cases approve : outcome = .approve
  swap
  · simp only [if_neg approve, Prog.pure_eq, Prog.run_ret, receipted, World.ledger_saveReceipt,
      World.ledger_saveDecision, World.ledger_tick]
    exact .denied isOpen approve
  subst approve
  simp only [if_true, issueForHold_run, transactions_saveDecision, World.kv_tick]
  rcases htx : w.kv (.transactions d.transactionId) with _ | tx
  · dsimp only
    rw [World.ledger_saveDecision]
    exact .stranded isOpen htx
  · simp only [receipted, issued, World.ledger_saveReceipt, World.ledger_saveToken,
      World.ledger_draw, World.ledger_tick, World.ledger_saveDecision]
    exact .released isOpen htx rfl rfl ⟨rfl, rfl, rfl, rfl⟩

theorem claimToken_step (keyed : w.kv.Keyed) (tokenIdentifier : String) (expected : Expected) :
    let result := (svc.claimToken tokenIdentifier expected).run (handle env peers) w
    Ledger.Step w.ledger (.claim tokenIdentifier expected) (result.1.map .claimed)
      result.2.ledger := by
  rw [claimToken_run]
  rcases htoken : w.kv.getToken tokenIdentifier with _ | token
  · exact .idle (.inr ⟨_, rfl, rfl⟩)
  have stored := Kv.tokens_of_getToken keyed htoken
  dsimp only
  rcases hverify : TokenService.verifyToken svc.sign (env.clock w.readings) token expected with
    message | ⟨_ | _, answer⟩
  · exact .idle (.inl ⟨message, rfl⟩)
  · exact .idle (.inr ⟨_, rfl, rfl⟩)
  · dsimp only
    rw [World.ledger_saveToken]
    exact .claimed stored (TokenService.of_verifyToken svc.sign hverify).1 rfl

end AuthorizationService

open AuthorizationService in
/-- Every request takes one step on the ledger. -/
theorem Request.ledger_step [Unicode] (svc : AuthorizationService) (env : Env) (peers : Peers)
    {w : World} (keyed : w.kv.Keyed) (request : Request) :
    let result := (request.program svc).run (handle env peers) w
    Ledger.Step w.ledger request result.1 result.2.ledger := by
  cases request with
  | authorize listener tx =>
    rw [Request.program, run_judged]
    exact authorizeTransaction_step keyed
  | resolve decisionId outcome resolvedBy note role =>
    rw [Request.program, run_judged]
    exact resolveHold_step ..
  | claim tokenIdentifier expected =>
    rw [Request.program, run_claimed]
    exact claimToken_step keyed ..
  | enroll actor => exact .idle rfl
  | bindDevice binding => exact .idle rfl
  | configure config => exact .idle rfl

end ZoneGate
