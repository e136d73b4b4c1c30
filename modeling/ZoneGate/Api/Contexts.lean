import ZoneGate.Api.Authorization
import ZoneGate.Authorization.Calls
import ZoneGate.Authorization.Files
import ZoneGate.Authorization.Scope

/-!
# The context of a decision

The context is put together from records under the client's transaction id, which later requests
with that id overwrite.  `contexts_right_iff` says when a decision is still shown with the
transaction it was made on and the evidence it rests on.
-/

namespace ZoneGate

open Py Effects

/-! ## Contexts -/

/-- The context of a decision in the store. -/
def contextIn (kv : Kv) (item : PolicyDecision) : DecisionContext :=
  ⟨item, kv (.transactions item.transactionId), kv (.evidence item.transactionId),
    kv (.evidencePlans item.transactionId), kv.getReceiptByTx item.transactionId⟩

/-- The context shows the transaction on which the decision, the newest with its id, was made.  Its
evidence agrees with the summary the engine has left, and a decision that never got to the engine
has neither. -/
structure RightContext (history : List Exchange) (context : DecisionContext) : Prop where
  transaction : ∃ tx, (judgedOn history context.decision.decisionId).head? = some tx ∧
    context.transaction = some tx
  evidence : context.evidence.map CanonicalEvidence.summary = context.decision.evidenceSummary

namespace AuthorizationController

variable {env : Env} {peers : Peers} (w : World)

theorem contextFor_run (item : PolicyDecision) :
    (contextFor item).run (handle env peers) w = (.ok (contextIn w.kv item), w) := rfl

theorem contextsFor_run (items : List PolicyDecision) :
    (contextsFor items).run (handle env peers) w = (.ok (items.map (contextIn w.kv)), w) := by
  induction items with
  | nil => rfl
  | cons item items ih =>
    rw [contextsFor, Prog.run_bind, contextFor_run]
    dsimp only
    rw [Prog.run_bind, ih]
    rfl

theorem getDecisionContext_run {decisionId : String} {d : PolicyDecision}
    (stored : w.kv (.decisions decisionId) = some d) :
    Prog.run (handle env peers) (getDecisionContext decisionId).run w =
      (.ok (.ok (contextIn w.kv d)), w) := by
  simp only [getDecisionContext, Prog.run_lift_bind, Prog.perform_eq, Prog.call_bind,
    Prog.ret_bind, run_store, StoreCall.answer, stored, World.after_getDecision]
  rfl

theorem listDecisionContexts_run (decision : Option DecisionOutcome) (pending : Bool) (limit : ℤ) :
    (listDecisionContexts decision pending limit).run (handle env peers) w =
      (.ok ((narrow pending (w.kv.listDecisions (decision.map DecisionOutcome.value)
        (clamp limit 100))).map (contextIn w.kv)), w) := by
  simp only [listDecisionContexts, Prog.perform_eq, Prog.call_bind, Prog.ret_bind]
  exact contextsFor_run w _

/-- Every decision that is listed is stored. -/
theorem stored_of_listed {kv : Kv} {outcome : Option String} {pending : Bool} {limit : ℤ}
    {d : PolicyDecision} (h : d ∈ narrow pending (kv.listDecisions outcome limit)) :
    ∃ id, kv (.decisions id) = some d := by
  have listed : d ∈ kv.listDecisions outcome limit := by
    unfold narrow at h
    split_ifs at h
    · exact (List.mem_filter.1 h).1
    · exact h
  have zero : (([] : List PolicyDecision).length : ℤ) ≤ max limit 0 := by simp
  rw [Kv.listDecisions, Kv.listLoop_eq _ _ _ _ _ zero, List.nil_append] at listed
  obtain ⟨id, -, stored⟩ := List.mem_filterMap.1 (List.mem_filter.1 (List.mem_of_mem_take listed)).1
  exact ⟨id, stored⟩

/-- Both endpoints show every decision in its right context. -/
structure ContextsRight (env : Env) (peers : Peers) (s : Served) : Prop where
  shown : ∀ decisionId d, s.world.kv (.decisions decisionId) = some d → ∃ context,
    Prog.run (handle env peers) (getDecisionContext decisionId).run s.world =
        (.ok (.ok context), s.world) ∧
      context.decision = d ∧ RightContext s.history context
  listed : ∀ decision pending limit, ∃ contexts,
    (listDecisionContexts decision pending limit).run (handle env peers) s.world =
        (.ok contexts, s.world) ∧
      ∀ context ∈ contexts, RightContext s.history context

end AuthorizationController

/-- Every stored decision is in its right context. -/
def RightIn (kv : Kv) (history : List Exchange) : Prop :=
  ∀ d, kv (.decisions d.decisionId) = some d → RightContext history (contextIn kv d)

open AuthorizationController in
theorem contextsRight_iff {env : Env} {peers : Peers} {s : Served} (stored : s.world.kv.Stored) :
    ContextsRight env peers s ↔ RightIn s.world.kv s.history := by
  constructor
  · intro right d hd
    obtain ⟨context, shown, -, rightContext⟩ := right.shown _ d hd
    rw [getDecisionContext_run _ hd] at shown
    cases shown
    exact rightContext
  · intro right
    have shown {id : String} {d : PolicyDecision} (hd : s.world.kv (.decisions id) = some d) :
        RightContext s.history (contextIn s.world.kv d) := by
      refine right d ?_
      rw [stored.keyed (.decisions id) d hd]
      exact hd
    refine ⟨fun id d hd => ⟨_, getDecisionContext_run _ hd, rfl, shown hd⟩,
      fun decision pending limit => ⟨_, listDecisionContexts_run _ decision pending limit, ?_⟩⟩
    intro context mem
    obtain ⟨d, listed, rfl⟩ := List.mem_map.1 mem
    obtain ⟨id, hd⟩ := stored_of_listed listed
    exact shown hd

/-! ## Request by request -/

/-- The decision is stored, and it is about the transaction id. -/
def StoredAbout (kv : Kv) (transactionId : String) (d : PolicyDecision) : Prop :=
  kv (.decisions d.decisionId) = some d ∧ d.transactionId = transactionId

/-- A request with the transaction id of a stored decision, if the decision it makes does not take
the place of that one, is the transaction on file sent again, and what it collects is what is on
file. -/
def SameAgain (svc : AuthorizationService) (env : Env) (peers : Peers) (w : World) :
    Request → Prop
  | .authorize _ tx =>
      let newId := PolicyEngine.newDecisionId (w.nextHex env)
      match collectionFor svc peers w.kv tx with
      | .raises => ∀ d, StoredAbout w.kv tx.transactionId d →
          w.kv (.transactions tx.transactionId) = some tx
      | .refused => w.kv (.evidence tx.transactionId) = none ∧
          ∀ d, StoredAbout w.kv tx.transactionId d → d.decisionId ≠ newId →
            w.kv (.transactions tx.transactionId) = some tx
      | .collected summary => ∀ d, StoredAbout w.kv tx.transactionId d → d.decisionId ≠ newId →
          w.kv (.transactions tx.transactionId) = some tx ∧
            (w.kv (.evidence tx.transactionId)).map CanonicalEvidence.summary = some summary
  | _ => True

/-- What becomes of the context of an older decision when a transaction is filed. -/
theorem RightContext.filed_iff {kv kv' : Kv} {history history' : List Exchange}
    {tx : TransactionRequest} {d : PolicyDecision} (right : RightContext history (contextIn kv d))
    (same : judgedOn history' d.decisionId = judgedOn history d.decisionId)
    (transactions : ∀ id, kv' (.transactions id) =
      if id = tx.transactionId then some tx else kv (.transactions id))
    (evidence : ∀ id, id ≠ tx.transactionId → kv' (.evidence id) = kv (.evidence id)) :
    RightContext history' (contextIn kv' d) ↔ (d.transactionId = tx.transactionId →
      kv (.transactions tx.transactionId) = some tx ∧
        (kv' (.evidence tx.transactionId)).map CanonicalEvidence.summary =
          (kv (.evidence tx.transactionId)).map CanonicalEvidence.summary) := by
  obtain ⟨⟨made, newest, onFile⟩, summary⟩ := right
  change kv (.transactions d.transactionId) = some made at onFile
  change (kv (.evidence d.transactionId)).map CanonicalEvidence.summary = d.evidenceSummary
    at summary
  constructor
  · rintro ⟨⟨made', newest', onFile'⟩, summary'⟩ about
    change kv' (.transactions d.transactionId) = some made' at onFile'
    change (kv' (.evidence d.transactionId)).map CanonicalEvidence.summary = d.evidenceSummary
      at summary'
    rw [about] at onFile onFile' summary summary'
    rw [transactions, if_pos rfl] at onFile'
    obtain rfl : made' = made := by
      refine Option.some.inj (newest'.symm.trans (Eq.trans ?_ newest))
      exact congrArg List.head? same
    exact ⟨onFile.trans onFile'.symm, summary'.trans summary.symm⟩
  · intro again
    refine ⟨⟨made, (congrArg List.head? same).trans newest, ?_⟩, ?_⟩
    · change kv' (.transactions d.transactionId) = some made
      rw [transactions]
      split_ifs with about
      · rw [about, (again about).1] at onFile
        exact onFile
      · exact onFile
    · change (kv' (.evidence d.transactionId)).map CanonicalEvidence.summary = d.evidenceSummary
      by_cases about : d.transactionId = tx.transactionId
      · rw [about] at summary ⊢
        exact (again about).2.trans summary
      · rw [evidence _ about]
        exact summary

section Steps

variable {env : Env} {w w' : World} {tx : TransactionRequest} {history : List Exchange}

/-- After a new decision everything is right if its own context is, and the contexts of the older
decisions about the transaction id are. -/
theorem rightIn_decided_iff (right : RightIn w.kv history) {d : PolicyDecision}
    (decides : Decides env tx w w' d)
    (transactions : ∀ id, w'.kv (.transactions id) =
      if id = tx.transactionId then some tx else w.kv (.transactions id))
    (evidence : ∀ id, id ≠ tx.transactionId → w'.kv (.evidence id) = w.kv (.evidence id))
    (listener : Bool) (r : Receipt) :
    RightIn w'.kv ((.authorize listener tx, .ok (.judged d r)) :: history) ↔
      (w'.kv (.evidence tx.transactionId)).map CanonicalEvidence.summary = d.evidenceSummary ∧
        ∀ d₀, StoredAbout w.kv tx.transactionId d₀ →
          d₀.decisionId ≠ PolicyEngine.newDecisionId (w.nextHex env) →
          w.kv (.transactions tx.transactionId) = some tx ∧
            (w'.kv (.evidence tx.transactionId)).map CanonicalEvidence.summary =
              (w.kv (.evidence tx.transactionId)).map CanonicalEvidence.summary := by
  have new : w'.kv (.decisions d.decisionId) = some d := by rw [decides.decisions, if_pos rfl]
  have old {d₀ : PolicyDecision} (hd : d₀.decisionId ≠ d.decisionId) :
      w'.kv (.decisions d₀.decisionId) = w.kv (.decisions d₀.decisionId) := by
    rw [decides.decisions, if_neg hd]
  have judged {d₀ : PolicyDecision} (hd : d₀.decisionId ≠ d.decisionId) :
      judgedOn ((.authorize listener tx, .ok (.judged d r)) :: history) d₀.decisionId =
        judgedOn history d₀.decisionId := by
    rw [judgedOn_judged, if_neg hd.symm]
  rw [← decides.id]
  constructor
  · intro right'
    refine ⟨?_, fun d₀ stored hd => ?_⟩
    · have summary := (right' d new).evidence
      change (w'.kv (.evidence d.transactionId)).map CanonicalEvidence.summary =
        d.evidenceSummary at summary
      rwa [decides.about] at summary
    · refine ((right d₀ stored.1).filed_iff (judged hd) transactions evidence).1 ?_ stored.2
      exact right' d₀ ((old hd).trans stored.1)
  · rintro ⟨summary, again⟩ d₀ stored
    by_cases hd : d₀.decisionId = d.decisionId
    · obtain rfl : d₀ = d := by
        rw [hd, new] at stored
        exact (Option.some.inj stored).symm
      refine ⟨⟨tx, ?_, ?_⟩, ?_⟩
      · change (judgedOn _ d₀.decisionId).head? = some tx
        rw [judgedOn_judged, if_pos rfl]
        rfl
      · change w'.kv (.transactions d₀.transactionId) = some tx
        rw [decides.about, transactions, if_pos rfl]
      · change (w'.kv (.evidence d₀.transactionId)).map CanonicalEvidence.summary =
          d₀.evidenceSummary
        rwa [decides.about]
    · have stored' := (old hd).symm.trans stored
      refine ((right d₀ stored').filed_iff (judged hd) transactions evidence).2 fun about => ?_
      exact again d₀ ⟨stored', about⟩ hd

variable [Unicode] {svc : AuthorizationService} {peers : Peers}

theorem rightIn_authorize_iff (right : RightIn w.kv history) (listener : Bool) :
    let result := (svc.authorizeTransaction listener tx).run (handle env peers) w
    RightIn result.2.kv ((.authorize listener tx, judgedAnswer result.1) :: history) ↔
      SameAgain svc env peers w (.authorize listener tx) := by
  intro result
  obtain ⟨transactions, files⟩ : FilesAs env tx w (collectionFor svc peers w.kv tx) result :=
    authorizeTransaction_files
  generalize hcollects : collectionFor svc peers w.kv tx = collection at files
  obtain ⟨r, w'⟩ := result
  dsimp only at files transactions ⊢
  cases files with
  | raises e decisions evidence =>
    have judged (d : PolicyDecision) :
        judgedOn ((.authorize listener tx, judgedAnswer (.error e)) :: history) d.decisionId =
          judgedOn history d.decisionId := rfl
    have filed {d : PolicyDecision} (stored : w.kv (.decisions d.decisionId) = some d) :=
      (right d stored).filed_iff (judged d) transactions fun id _ => evidence id
    simp only [SameAgain, hcollects]
    constructor
    · intro right' d stored
      exact ((filed stored.1).1 (right' d ((decisions _).trans stored.1)) stored.2).1
    · intro again d stored
      have stored' := (decisions _).symm.trans stored
      exact (filed stored').2 fun about => ⟨again d ⟨stored', about⟩, by rw [evidence]⟩
  | refused d r decides summary evidence =>
    refine (rightIn_decided_iff right decides transactions (fun id _ => evidence id) listener
      r).trans ?_
    rw [evidence, summary, Option.map_eq_none_iff]
    simp [SameAgain, hcollects]
  | collected d r evidence decides summary saves =>
    have saved : w'.kv (.evidence tx.transactionId) = some evidence := by rw [saves, if_pos rfl]
    have others (id : String) (hid : id ≠ tx.transactionId) :
        w'.kv (.evidence id) = w.kv (.evidence id) := by rw [saves, if_neg hid]
    refine (rightIn_decided_iff right decides transactions others listener r).trans ?_
    rw [saved, summary, Option.map_some, eq_self_iff_true, true_and]
    simp only [SameAgain, hcollects]
    exact forall_congr' fun d₀ => forall_congr' fun _ => forall_congr' fun _ =>
      and_congr_right' eq_comm

/-- Evidence is saved. -/
def IsSaveEvidence : Effect → Prop
  | .store (.saveEvidence _ _) => True
  | _ => False

omit [Unicode] in
theorem evidence_of_not_saves {e : Effect} (he : ¬ IsSaveEvidence e) (w : World) (id : String) :
    (handle env peers e w).2.kv (.evidence id) = w.kv (.evidence id) := by
  cases e with
  | store c =>
    cases c with
    | saveEvidence => exact absurd trivial he
    | _ => rfl
  | _ => rfl

/-- Only authorizations save evidence. -/
theorem Request.program_savesNone (svc : AuthorizationService) {request : Request}
    (other : ∀ listener tx, request ≠ .authorize listener tx) :
    (request.program svc).CallsOnly (¬ IsSaveEvidence ·) := by
  cases request with
  | authorize listener tx => exact absurd rfl (other listener tx)
  | resolve decisionId outcome resolvedBy note role =>
    refine .bind ((svc.resolveHold_callsOnly ..).mono fun e he saves => ?_) fun _ => trivial
    cases e with
    | store c => cases c <;> first | exact he | exact saves
    | _ => exact saves
  | claim tokenIdentifier expected =>
    refine .bind ((svc.claimToken_callsOnly ..).mono fun e he saves => ?_) fun _ => trivial
    cases e with
    | store c => cases c <;> first | exact he | exact saves
    | _ => exact saves
  | enroll => exact ⟨not_false, fun _ => trivial⟩
  | bindDevice => exact ⟨not_false, fun _ => trivial⟩
  | configure => exact ⟨not_false, fun _ => ⟨not_false, fun _ => trivial⟩⟩

/-- A request that judges nothing new leaves the transactions, and of every decision what its
context rests on. -/
theorem Ledger.Step.keeps_decisions {l l' : Ledger} {request : Request}
    {answer : Except ServiceError Answer} (step : l.Step request answer l')
    (named : ∀ id d, l.decisions id = some d → d.decisionId = id)
    (other : ∀ listener tx, request ≠ .authorize listener tx) :
    l'.transactions = l.transactions ∧ ∀ id d', l'.decisions id = some d' →
      ∃ d, l.decisions id = some d ∧ d'.transactionId = d.transactionId ∧
        d'.evidenceSummary = d.evidenceSummary := by
  have resolved {decisionId : String} {outcome verdict : DecisionOutcome} {role : Option String}
      {d : PolicyDecision} (isOpen : Open l decisionId outcome role d) (resolvedBy note : String)
      (now : DateTime) (id : String) (d' : PolicyDecision)
      (h : (l.withDecision (AuthorizationService.resolve d verdict resolvedBy note now)).decisions
        id = some d') :
      ∃ d, l.decisions id = some d ∧ d'.transactionId = d.transactionId ∧
        d'.evidenceSummary = d.evidenceSummary := by
    rw [Ledger.withDecision_decisions] at h
    split_ifs at h with hid
    · cases h
      have same : id = decisionId :=
        Eq.trans (b := d.decisionId) hid (named decisionId d isOpen.stored)
      exact ⟨d, same ▸ isOpen.stored, rfl, rfl⟩
    · exact ⟨d', h, rfl, rfl⟩
  cases step with
  | withheld => exact absurd rfl (other _ _)
  | approved => exact absurd rfl (other _ _)
  | unfinished => exact absurd rfl (other _ _)
  | denied isOpen => exact ⟨rfl, resolved isOpen _ _ _⟩
  | released isOpen => exact ⟨rfl, resolved isOpen _ _ _⟩
  | stranded isOpen => exact ⟨rfl, resolved isOpen _ _ _⟩
  | claimed => exact ⟨rfl, fun id d h => ⟨d, h, rfl, rfl⟩⟩
  | idle => exact ⟨rfl, fun id d h => ⟨d, h, rfl, rfl⟩⟩

theorem rightIn_other (right : RightIn w.kv history) (keyed : w.kv.Keyed) {request : Request}
    (other : ∀ listener tx, request ≠ .authorize listener tx) :
    let result := (request.program svc).run (handle env peers) w
    RightIn result.2.kv ((request, result.1) :: history) := by
  intro result d' stored'
  obtain ⟨transactions, decisions⟩ :=
    (request.ledger_step svc env peers keyed).keeps_decisions
      (fun id d h => keyed (.decisions id) d h) other
  have evidence (id : String) : result.2.kv (.evidence id) = w.kv (.evidence id) :=
    (Request.program_savesNone svc other).run_keeps
      (P := fun w' : World => w'.kv (.evidence id) = w.kv (.evidence id))
      (fun e w' he kept => (evidence_of_not_saves he w' id).trans kept) rfl
  have judged : judgedOn ((request, result.1) :: history) d'.decisionId =
      judgedOn history d'.decisionId := by
    refine judgedOn_undecided ?_ _
    cases request with
    | authorize listener tx => exact absurd rfl (other listener tx)
    | _ => trivial
  obtain ⟨d, stored, about, summary⟩ := decisions _ _ stored'
  have named : d.decisionId = d'.decisionId := keyed (.decisions d'.decisionId) d stored
  obtain ⟨⟨tx, newest, onFile⟩, agrees⟩ := right d (named ▸ stored)
  refine ⟨⟨tx, ?_, ?_⟩, ?_⟩
  · change (judgedOn _ d'.decisionId).head? = some tx
    rw [judged, ← named]
    exact newest
  · change result.2.ledger.transactions d'.transactionId = some tx
    rw [transactions, about]
    exact onFile
  · change (result.2.kv (.evidence d'.transactionId)).map CanonicalEvidence.summary =
      d'.evidenceSummary
    rw [evidence, about, summary]
    exact agrees

theorem rightIn_step_iff {s : Served} (right : RightIn s.world.kv s.history)
    (stored : s.world.kv.Stored) (peers : ℕ → Peers) (request : Request) :
    RightIn (s.step svc env peers request).world.kv (s.step svc env peers request).history ↔
      SameAgain svc env (peers s.history.length) s.world request := by
  cases request with
  | authorize listener tx =>
    simp only [Served.step, Request.program, run_judged]
    exact rightIn_authorize_iff right listener
  | _ => exact iff_of_true (rightIn_other right stored.keyed (fun _ _ h => by cases h)) trivial

end Steps

/-! ## Runs -/

open AuthorizationController in
/-- In every run, the contexts are right in all states exactly when no request with the transaction
id of a stored decision brings another transaction or other evidence. -/
theorem contexts_right_iff [Unicode] (svc : AuthorizationService) (env : Env) (peers : ℕ → Peers)
    (config : PolicyConfig) (requests : List Request) :
    (∀ before after, requests = before ++ after →
        let s := (Served.start config).serve svc env peers before
        ContextsRight env (peers s.history.length) s) ↔
      ∀ before request after, requests = before ++ request :: after →
        let s := (Served.start config).serve svc env peers before
        SameAgain svc env (peers s.history.length) s.world request := by
  have stored (before : List Request) :=
    Served.serve_stored svc env peers (s := Served.start config) .empty before
  refine Served.always_iff svc env peers
    (G := fun s => ContextsRight env (peers s.history.length) s)
    (C := fun s request => SameAgain svc env (peers s.history.length) s.world request)
    ((contextsRight_iff .empty).2 fun d h => by cases h) fun before request after _ good => ?_
  have right := (contextsRight_iff (stored before)).1 good
  refine (contextsRight_iff ?_).trans (rightIn_step_iff right (stored before) peers request)
  rw [← Served.serve_snoc]
  exact stored _

/-- A release is held, and its transaction id is sent again for another resource. -/
def resentRequests : List Request :=
  [.enroll Sample.operator, .bindDevice Sample.binding,
    .authorize false (Sample.hazardous "r1"), .authorize false (Sample.hazardous "r2")]

/-- The first hold is shown with the second resource. -/
theorem resent_not_right :
    ¬ AuthorizationController.ContextsRight Sample.env Sample.peers
      (Sample.served resentRequests) := by
  intro right
  have held : ((Sample.served resentRequests).world.kv (.decisions "dec_000000000000")).map
      (fun d => (d.decisionId, d.transactionId)) = some ("dec_000000000000", "tx") := by
    decide +kernel
  obtain ⟨d, stored, ids⟩ := Option.map_eq_some_iff.1 held
  obtain ⟨id, about⟩ := Prod.mk.inj ids
  obtain ⟨context, shown, -, ⟨tx, made, onFile⟩, -⟩ := right.shown _ d stored
  rw [AuthorizationController.getDecisionContext_run _ stored] at shown
  cases shown
  change (judgedOn _ d.decisionId).head? = some tx at made
  change (Sample.served resentRequests).world.kv (.transactions d.transactionId) = some tx at onFile
  rw [id] at made
  rw [about] at onFile
  have first : (judgedOn (Sample.served resentRequests).history "dec_000000000000").head? =
      some (Sample.hazardous "r1") := by
    decide +kernel
  have second : (Sample.served resentRequests).world.kv (.transactions "tx") =
      some (Sample.hazardous "r2") := by
    decide +kernel
  have same : Sample.hazardous "r1" = Sample.hazardous "r2" :=
    Option.some.inj (first.symm.trans (made.trans (onFile.symm.trans second)))
  exact absurd (congrArg TransactionRequest.resourceId same) (by decide)

end ZoneGate
