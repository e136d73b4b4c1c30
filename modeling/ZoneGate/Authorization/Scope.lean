import ZoneGate.Authorization.Provenance

/-!
# What tokens are scoped to

A token should be good for the transaction that was judged.  The token of an approval is; the token
of a hold is scoped to the transaction on file under the hold's transaction id when a person
approves it, which a later request may have replaced.  `tokens_scoped_iff` says that nothing else
goes wrong.
-/

namespace ZoneGate

open Py Effects

/-- The transactions on which decisions with the id were made. -/
def judgedOn (history : List Exchange) (decisionId : String) : List TransactionRequest :=
  history.filterMap fun
    | (.authorize _ tx, .ok (.judged d _)) => if d.decisionId = decisionId then some tx else none
    | _ => none

/-- Every token is for the transaction on which the decision it names was made. -/
def Scoped (l : Ledger) (history : List Exchange) : Prop :=
  ∀ id t, l.tokens id = some t →
    judgedOn history t.decisionId ≠ [] ∧ ∀ tx ∈ judgedOn history t.decisionId, ScopedTo tx t

/-- The transactions agree in what a token is scoped to. -/
structure SameScope (tx tx' : TransactionRequest) : Prop where
  actorId : tx.actorId = tx'.actorId
  action : tx.action = tx'.action
  resourceId : tx.resourceId = tx'.resourceId
  zone : tx.zone = tx'.zone

/-- If the request is the approval of an open hold, then the transaction on file agrees with the
one the hold was judged on. -/
def Unreplaced [Unicode] (l : Ledger) (history : List Exchange) : Request → Prop
  | .resolve decisionId .approve _ _ role => ∀ d onFile, Open l decisionId .approve role d →
      l.transactions d.transactionId = some onFile →
      ∀ tx ∈ judgedOn history decisionId, SameScope onFile tx
  | _ => True

theorem ScopedTo.sameScope {tx tx' : TransactionRequest} {t : ScopedAuthorizationToken}
    (h : ScopedTo tx t) (h' : ScopedTo tx' t) : SameScope tx tx' :=
  ⟨h.actorId.symm.trans h'.actorId, h.action.symm.trans h'.action,
    h.resourceId.symm.trans h'.resourceId, h.zone.symm.trans h'.zone⟩

theorem ScopedTo.of_sameScope {tx tx' : TransactionRequest} {t : ScopedAuthorizationToken}
    (h : ScopedTo tx t) (same : SameScope tx tx') : ScopedTo tx' t :=
  ⟨h.actorId.trans same.actorId, h.action.trans same.action,
    h.resourceId.trans same.resourceId, h.zone.trans same.zone⟩

/-! ## The history and the ledger -/

variable {history : List Exchange}

theorem judgedOn_judged (listener : Bool) (tx : TransactionRequest) (d : PolicyDecision)
    (r : Receipt) (id : String) :
    judgedOn ((.authorize listener tx, .ok (.judged d r)) :: history) id =
      if d.decisionId = id then tx :: judgedOn history id else judgedOn history id := by
  by_cases h : d.decisionId = id <;> simp [judgedOn, h]

/-- The exchange made no decision. -/
def Undecided : Exchange → Prop
  | (.authorize _ _, .ok _) => False
  | _ => True

theorem judgedOn_undecided {exchange : Exchange} (h : Undecided exchange) (id : String) :
    judgedOn (exchange :: history) id = judgedOn history id := by
  obtain ⟨request, answer⟩ := exchange
  cases request with
  | authorize listener tx =>
    rcases answer with e | answer
    · rfl
    · exact h.elim
  | _ => rfl

/-- The decisions on record are those that were made. -/
def Recorded (l : Ledger) (history : List Exchange) : Prop :=
  ∀ id, l.decisions id = none ↔ judgedOn history id = []

theorem Recorded.of_eq {l l' : Ledger} {exchange : Exchange} (h : Recorded l history)
    (undecided : Undecided exchange) (same : ∀ id, l'.decisions id = none ↔ l.decisions id = none) :
    Recorded l' (exchange :: history) := by
  intro id
  rw [judgedOn_undecided undecided, same, h]

theorem Recorded.judged {l l' : Ledger} {listener : Bool} {tx : TransactionRequest}
    {d : PolicyDecision} {r : Receipt} (h : Recorded l history)
    (same : l'.decisions = (l.withDecision d).decisions) :
    Recorded l' ((.authorize listener tx, .ok (.judged d r)) :: history) := by
  intro id
  rw [judgedOn_judged, same, Ledger.withDecision_decisions]
  by_cases hid : d.decisionId = id
  · simp [hid]
  · simp [hid, Ne.symm hid, h id]

theorem Recorded.step [Unicode] {l l' : Ledger} {request : Request}
    {answer : Except ServiceError Answer} (h : Recorded l history) (sound : Sound l)
    (step : l.Step request answer l') : Recorded l' ((request, answer) :: history) := by
  -- a resolution is recorded in the place of a decision
  have resolved {decisionId : String} {outcome verdict : DecisionOutcome} {role : Option String}
      {d : PolicyDecision} (isOpen : Open l decisionId outcome role d) (resolvedBy note : String)
      (now : DateTime) (id : String) :
      (l.withDecision (AuthorizationService.resolve d verdict resolvedBy note now)).decisions id =
        none ↔ l.decisions id = none := by
    rw [Ledger.withDecision_decisions]
    split_ifs with hid
    · have named : id = decisionId :=
        Eq.trans (b := d.decisionId) hid (sound.decisions_named decisionId d isOpen.stored)
      simp [named, isOpen.stored]
    · rfl
  cases step with
  | withheld => exact h.judged rfl
  | approved => exact h.judged rfl
  | unfinished => exact h.of_eq trivial fun _ => Iff.rfl
  | denied isOpen => exact h.of_eq trivial fun id => resolved isOpen _ _ _ id
  | released isOpen => exact h.of_eq trivial fun id => resolved isOpen _ _ _ id
  | stranded isOpen => exact h.of_eq trivial fun id => resolved isOpen _ _ _ id
  | claimed => exact h.of_eq trivial fun _ => Iff.rfl
  | idle hidle =>
    cases request with
    | authorize => exact hidle.elim
    | _ => exact h.of_eq trivial fun _ => Iff.rfl

/-! ## Scopes -/

namespace Scoped

variable {l : Ledger}

theorem of_eq {l' : Ledger} {history' : List Exchange} (h : Scoped l history)
    (tokens : l'.tokens = l.tokens)
    (judged : ∀ id t, l.tokens id = some t →
      judgedOn history' t.decisionId = judgedOn history t.decisionId) : Scoped l' history' := by
  intro id t ht
  rw [tokens] at ht
  rw [judged id t ht]
  exact h id t ht

theorem undecided {l' : Ledger} {exchange : Exchange} (h : Scoped l history)
    (undecided : Undecided exchange) (tokens : l'.tokens = l.tokens) :
    Scoped l' (exchange :: history) :=
  h.of_eq tokens fun _ t _ => judgedOn_undecided undecided t.decisionId

/-- A new decision is named by no token. -/
theorem judged {l' : Ledger} {listener : Bool} {tx : TransactionRequest} {d : PolicyDecision}
    {r : Receipt} (h : Scoped l history) (tokens : l'.tokens = l.tokens)
    (free : ∀ id t, l.tokens id = some t → t.decisionId ≠ d.decisionId) :
    Scoped l' ((.authorize listener tx, .ok (.judged d r)) :: history) :=
  h.of_eq tokens fun id t ht => by rw [judgedOn_judged, if_neg (free id t ht).symm]

theorem withToken (h : Scoped l history) {t : ScopedAuthorizationToken}
    (made : judgedOn history t.decisionId ≠ [])
    (scope : ∀ tx ∈ judgedOn history t.decisionId, ScopedTo tx t) :
    Scoped (l.withToken t) history := by
  intro id t' ht
  rw [Ledger.withToken_tokens] at ht
  split_ifs at ht
  · cases ht
    exact ⟨made, scope⟩
  · exact h id t' ht

/-- A request keeps the scopes right exactly when it approves no hold whose transaction was
replaced. -/
theorem step_iff [Unicode] {l' : Ledger} {request : Request} {answer : Except ServiceError Answer}
    (h : Scoped l history) (sound : Sound l) (recorded : Recorded l history)
    (step : l.Step request answer l') (fresh : Fresh l'.drawn) :
    Scoped l' ((request, answer) :: history) ↔ Unreplaced l history request := by
  cases step with
  | withheld id =>
    have free := sound.free_of_unused (id ▸ sound.decision_unused fresh)
    exact iff_of_true (h.judged rfl free) trivial
  | @approved listener tx d t hex hex' now id _ _ _ _ names scope =>
    have unused := id ▸ sound.decision_unused (fresh.of_suffix (List.suffix_cons hex' _))
    have free := sound.free_of_unused unused
    have made : judgedOn ((.authorize listener tx, .ok (.judged d
        (AuthorizationService.receiptFor d now (some t.tokenId)))) :: history) t.decisionId =
          [tx] := by
      rw [judgedOn_judged, if_pos names.symm, names, (recorded _).1 unused]
    have h' : Scoped l ((.authorize listener tx, .ok (.judged d
        (AuthorizationService.receiptFor d now (some t.tokenId)))) :: history) := h.judged rfl free
    refine iff_of_true ((h'.withToken (t := t) (by simp [made]) ?_).of_eq rfl fun _ _ _ => rfl)
      trivial
    intro tx' htx'
    rw [made, List.mem_singleton] at htx'
    rwa [htx']
  | unfinished => exact iff_of_true (h.undecided trivial rfl) trivial
  | @denied decisionId outcome by' note role d now isOpen deny =>
    refine iff_of_true (h.undecided trivial rfl) ?_
    cases outcome with
    | approve => exact absurd rfl deny
    | _ => trivial
  | @released decisionId by' note role d tx t hex now isOpen onFile tokenId names scope =>
    have named := names.trans (sound.decisions_named _ _ isOpen.stored)
    have made : judgedOn history t.decisionId ≠ [] := by
      rw [named, Ne, ← recorded, isOpen.stored]
      exact nofun
    have h' (answer : Except ServiceError Answer) :
        Scoped l ((.resolve decisionId .approve by' note role, answer) :: history) :=
      h.undecided trivial rfl
    constructor
    · intro good d' onFile' isOpen' hfile tx' htx'
      obtain rfl := Option.some.inj (isOpen.stored.symm.trans isOpen'.stored)
      obtain rfl := Option.some.inj (onFile.symm.trans hfile)
      refine scope.sameScope ((good t.tokenId t ?_).2 tx' ?_)
      · exact Ledger.withToken_self ..
      · change tx' ∈ judgedOn history t.decisionId
        rwa [named]
    · intro unreplaced
      refine ((h' _).withToken (t := t) made fun tx' htx' => ?_).of_eq rfl fun _ _ _ => rfl
      change tx' ∈ judgedOn history t.decisionId at htx'
      rw [named] at htx'
      exact scope.of_sameScope (unreplaced d tx isOpen onFile tx' htx')
  | @stranded decisionId by' note role d e now isOpen gone =>
    refine iff_of_true (h.undecided trivial rfl) fun d' onFile isOpen' hfile => ?_
    obtain rfl := Option.some.inj (isOpen.stored.symm.trans isOpen'.stored)
    rw [gone] at hfile
    cases hfile
  | @claimed identifier key expected result t now stored =>
    obtain ⟨made, scope⟩ := h key t stored
    have h' (answer : Except ServiceError Answer) :
        Scoped l ((.claim identifier expected, answer) :: history) := h.undecided trivial rfl
    refine iff_of_true ((h' _).withToken (t := TokenService.claimedAtTime t now) made ?_) trivial
    exact fun tx htx => ⟨(scope tx htx).1, (scope tx htx).2, (scope tx htx).3, (scope tx htx).4⟩
  | idle hidle =>
    cases request with
    | authorize => exact hidle.elim
    | resolve decisionId outcome by' note role =>
      refine iff_of_true (h.undecided trivial rfl) ?_
      cases outcome with
      | approve => exact fun d _ isOpen => absurd isOpen (hidle.1 d)
      | _ => trivial
    | _ => exact iff_of_true (h.undecided trivial rfl) trivial

end Scoped

/-! ## Runs -/

section Runs

variable [Unicode] (svc : AuthorizationService) (env : Env) (peers : ℕ → Peers)

theorem Served.serve_recorded (config : PolicyConfig) (requests : List Request)
    (fresh : Fresh ((Served.start config).serve svc env peers requests).world.drawn) :
    let s := (Served.start config).serve svc env peers requests
    Recorded s.world.ledger s.history :=
  serve_induct svc env peers (Q := Recorded) (fun _ => iff_of_true rfl rfl)
    (fun _ _ _ _ _ sound recorded step _ => recorded.step sound step) requests fresh

/-- In every run, the tokens are scoped to what was judged in all states exactly when every hold is
approved while the transaction on file agrees with the one it was judged on. -/
theorem tokens_scoped_iff (config : PolicyConfig) (requests : List Request)
    (fresh : Fresh ((Served.start config).serve svc env peers requests).world.drawn) :
    (∀ before after, requests = before ++ after →
        let s := (Served.start config).serve svc env peers before
        Scoped s.world.ledger s.history) ↔
      ∀ before request after, requests = before ++ request :: after →
        let s := (Served.start config).serve svc env peers before
        Unreplaced s.world.ledger s.history request := by
  refine Served.ledger_always_iff svc env peers (G := Scoped) (C := Unreplaced)
    (fun _ _ h => by cases h) requests fresh ?_
  intro before request answer l' _ fresh sound good step fresh'
  exact good.step_iff sound (Served.serve_recorded svc env peers config before fresh) step fresh'

end Runs

/-- A release is held, the transaction id is sent again for another resource, and an officer
approves the first hold. -/
def replacedRequests : List Request :=
  [.enroll Sample.operator, .bindDevice Sample.binding,
    .authorize false (Sample.hazardous "r1"),
    .authorize false (Sample.hazardous "r2"),
    .resolve "dec_000000000000" .approve "Officer" "" (some "SAFETY_OFFICER")]

theorem tokens_scoped_iff_replaced :
    let _ := Sample.unicode
    (∀ before after, replacedRequests = before ++ after →
        Scoped (Sample.served before).world.ledger (Sample.served before).history) ↔
      ∀ before request after, replacedRequests = before ++ request :: after →
        Unreplaced (Sample.served before).world.ledger (Sample.served before).history request :=
  @tokens_scoped_iff Sample.unicode Sample.service Sample.env (fun _ => Sample.peers)
    PolicyConfig.default replacedRequests (by unfold Fresh; decide +kernel)

/-- The token of the first hold is for the second resource. -/
theorem replaced_not_scoped :
    Fresh (Sample.served replacedRequests).world.drawn ∧
      ¬ Scoped (Sample.served replacedRequests).world.ledger (Sample.served replacedRequests).history := by
  refine ⟨by unfold Fresh; decide +kernel, fun good => ?_⟩
  have issued : ((Sample.served replacedRequests).world.ledger.tokens "tok_000000000002").map
      (fun t => (t.decisionId, t.resourceId)) = some ("dec_000000000000", "r2") := by
    decide +kernel
  obtain ⟨t, ht, ids⟩ := Option.map_eq_some_iff.1 issued
  have judged : Sample.hazardous "r1" ∈
      judgedOn (Sample.served replacedRequests).history t.decisionId := by
    rw [(Prod.mk.inj ids).1]
    decide +kernel
  have scope := ((good _ t ht).2 _ judged).resourceId
  rw [(Prod.mk.inj ids).2] at scope
  exact absurd scope (by decide)

end ZoneGate
