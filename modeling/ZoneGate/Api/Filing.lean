import ZoneGate.Api.Gate
import ZoneGate.Authorization.Attested
import ZoneGate.Authorization.Ledger
import ZoneGate.Authorization.Settlement
import ZoneGate.Storage.Consistent

/-!
# What a request files

A request saves a new decision, or a hold that it has read with a resolution attached; a receipt of
a decision that it has saved or of a receipt that it has read; a new token, or one that it has read.
A new decision is about a transaction that the request has saved, a hold goes to whom the
configuration names, and an approval rests on what the carrier has replied.  So does a new token,
unless the request has put an approval on a hold.
-/

namespace ZoneGate

open Py Effects

/-! ## What a request saves -/

/-- A hold goes to whom the configuration escalates it to, if the engine found a reason for it. -/
def Escalates (config : PolicyConfig) (authority : Option String) : Prop :=
  authority = some simSwapAuthority ∨
    ∃ category a, config.authorityFor category = some a ∧ authority = some a

/-- The decision is new, on the transaction that the request has filed; a hold is one by the
configuration that the request has read, an approval by what the carrier has replied to it. -/
structure NewlyMade (svc : AuthorizationService) (asked : TransactionRequest → Prop)
    (past : List (Handled Services)) (d : PolicyDecision) : Prop where
  open_ : d.resolution = none
  filed : ∃ tx, (⟨Effect.store (.saveTransaction tx), ()⟩ : Handled Services) ∈ past ∧
    d.transactionId = tx.transactionId
  escalates : d.decision = .hold → ∃ config,
    (⟨Effect.engineConfig, config⟩ : Handled Services) ∈ past ∧ Escalates config d.requiredAuthority
  attested : d.decision = .approve → Attested svc asked past d

theorem NewlyMade.mono {svc : AuthorizationService} {asked : TransactionRequest → Prop}
    {past past' : List (Handled Services)} {d : PolicyDecision} (h : NewlyMade svc asked past d)
    (longer : past <+: past') : NewlyMade svc asked past' d :=
  ⟨h.open_, h.filed.imp fun _ saved => ⟨longer.subset saved.1, saved.2⟩,
    fun held => (h.escalates held).imp fun _ found => ⟨longer.subset found.1, found.2⟩,
    fun approved => (h.attested approved).mono longer⟩

/-- A token is for a transaction that has passed what an approval rests on, or for the transaction of
a hold that the request has approved. -/
inductive Earned (svc : AuthorizationService) (asked : TransactionRequest → Prop)
    (past : List (Handled Services)) (t : ScopedAuthorizationToken) : Prop
  | approved {transaction : TransactionRequest} {actor : Actor} {binding : DeviceBinding}
      {area : Geofence} (asks : asked transaction)
      (attested : AttestedFor svc past transaction actor binding area)
      (scope : actor.actorId = transaction.actorId → ScopedTo transaction t)
  | released {d : PolicyDecision} {r : HoldResolution} {transaction : TransactionRequest}
      (saved : (⟨Effect.store (.saveDecision d), ()⟩ : Handled Services) ∈ past)
      (resolved : d.resolution = some r) (approves : r.outcome = .approve)
      (names : t.decisionId = d.decisionId)
      (read : (⟨Effect.store (.getTransaction d.transactionId), some transaction⟩ :
        Handled Services) ∈ past)
      (scope : ScopedTo transaction t)

/-- What the call saves is new, or rests on what the request has been answered; `asked` are the
transactions that the request asks for. -/
def Justified (svc : AuthorizationService) (asked : TransactionRequest → Prop)
    (past : List (Handled Services)) : Effect → Prop
  | .store (.saveDecision d) => NewlyMade svc asked past d ∨ d.decision = .hold ∧ ∃ id held,
      (⟨Effect.store (.getDecision id), some held⟩ : Handled Services) ∈ past ∧ held.core = d.core
  | .store (.saveReceipt r) =>
      (∃ d, (⟨Effect.store (.saveDecision d), ()⟩ : Handled Services) ∈ past ∧ r.Matches d) ∨
      ∃ tx found, (⟨Effect.store (.getReceiptByTransactionId tx), some found⟩ :
        Handled Services) ∈ past ∧ ∀ d, found.Matches d → r.Matches d
  | .store (.saveToken t) => t.claimed = false ∧ Earned svc asked past t ∨
      ∃ identifier found now,
        (⟨Effect.store (.getToken identifier), some found⟩ : Handled Services) ∈ past ∧
          t = TokenService.claimedAtTime found now
  | _ => True

/-- A decision, a receipt or a token is saved. -/
def Effect.Files : Effect → Prop
  | .store (.saveDecision _) | .store (.saveReceipt _) | .store (.saveToken _) => True
  | _ => False

section Harmless

variable {svc : AuthorizationService} {asked : TransactionRequest → Prop}
  {past : List (Handled Services)}

theorem justified_of_not_files {c : Effect} (hc : ¬ c.Files) : Justified svc asked past c := by
  cases c with
  | store c => cases c <;> first | exact absurd trivial hc | trivial
  | _ => trivial

/-- A handler that files nothing. -/
theorem justified_of_callsOnly {α : Type} {χ : Effect → Prop} (h : ∀ c, χ c → ¬ c.Files)
    {p : Service α} (hp : p.CallsOnly χ) : p.Upholds (Justified svc asked) (fun _ _ => True) past :=
  upholds_of_callsOnly (fun _ c hc => justified_of_not_files (h c hc)) hp

end Harmless

theorem not_files_of_session {c : Effect} (hc : ConsoleAuthService.OfSession c) : ¬ c.Files := by
  cases c with
  | store c => cases c <;> first | exact hc.elim | exact not_false
  | utcnow => exact not_false
  | _ => exact hc.elim

theorem not_files_of_reads {c : Effect} (hc : c.Reads) : ¬ c.Files := by
  cases c with
  | store c => cases c <;> first | exact hc.elim | exact not_false
  | _ => exact not_false

theorem not_files_of_preliminary {c : Effect} (hc : Preliminary c) : ¬ c.Files := by
  cases c with
  | store c => cases c <;> first | exact hc.elim | exact not_false
  | _ => exact not_false

section Programs

variable [Unicode] (svc : AuthorizationService)

namespace AuthorizationService

/-! ### An authorization -/

section Deciding

variable {svc} {asked : TransactionRequest → Prop} {listener : Bool}
  {transaction : TransactionRequest} {now : DateTime} {actor : Actor} {binding : DeviceBinding}
  {plan : ValidatedEvidencePlan} {evidence : CanonicalEvidence} {past : List (Handled Services)}

omit [Unicode] in
/-- A part that files nothing, before what comes after it. -/
theorem preliminary_bind {α β : Type} {p : Service β} {f : β → Service α}
    (hp : p.CallsOnly Preliminary)
    (rest : ∀ past' b, past <+: past' →
      (f b).Upholds (Justified svc asked) (fun _ _ => True) past') :
    (p >>= f).Upholds (Justified svc asked) (fun _ _ => True) past :=
  (justified_of_callsOnly (fun _ => not_files_of_preliminary) hp).extends_past.bind
    (fun past' b longer => rest past' b longer.2) fun _ _ _ => trivial

omit [Unicode] in
/-- A new decision, and then its receipt. -/
theorem persist_justified {α : Type} {d : PolicyDecision} (new : NewlyMade svc asked past d)
    {receipt : Receipt} (fits : receipt.Matches d) (a : α) :
    (.call (Effect.store (.saveDecision d)) fun _ =>
      .call (Effect.store (.saveReceipt receipt)) fun _ => .ret a : Service α).Upholds
        (Justified svc asked) (fun _ _ => True) past :=
  ⟨.inl new, fun _ => trivial, fun _ => ⟨.inl ⟨d, by simp, fits⟩, fun _ => trivial,
    fun _ => trivial⟩⟩

omit [Unicode] in
theorem matches_receiptFor (d : PolicyDecision) (now : DateTime) (token : Option String) :
    (receiptFor d now token).Matches d := ⟨rfl, rfl, rfl, rfl⟩

/-- The request has filed the transaction. -/
def Filed (transaction : TransactionRequest) (past : List (Handled Services)) : Prop :=
  (⟨Effect.store (.saveTransaction transaction), ()⟩ : Handled Services) ∈ past

omit [Unicode] in
theorem refuse_justified {stage : Stage} {detail reason : String} (filed : Filed transaction past) :
    (refuse listener transaction now stage detail reason).Upholds (Justified svc asked)
      (fun _ _ => True) past := by
  simp only [refuse, Prog.perform_eq, Prog.call_bind, Prog.ret_bind]
  refine preliminary_bind (emit_preliminary ..) fun past _ longer =>
    ⟨trivial, fun _ => trivial, fun hex => ?_⟩
  refine persist_justified ⟨rfl, ⟨transaction, ?_, rfl⟩, fun held => (by cases held),
    fun approved => by cases approved⟩ (matches_receiptFor ..) _
  exact List.mem_append_left _ (longer.subset filed)

omit [Unicode] in
theorem issueIfApproved_justified {d : PolicyDecision} {area : Geofence}
    (asks : asked transaction) (attested : d.decision = .approve →
      AttestedFor svc past transaction actor binding area) :
    (svc.issueIfApproved transaction actor d).Upholds (Justified svc asked) (fun _ _ => True)
      past := by
  simp only [issueIfApproved, TokenService.issueToken, Prog.perform_eq, Prog.call_bind,
    Prog.ret_bind, Prog.pure_eq]
  split_ifs with approved
  · refine ⟨trivial, fun _ => trivial, fun now => ⟨trivial, fun _ => trivial, fun hex => ⟨?_,
      fun _ => trivial, fun _ => trivial⟩⟩⟩
    refine .inl ⟨rfl, .approved asks ((attested approved).mono ?_) fun same => ⟨same, rfl, rfl, rfl⟩⟩
    exact (List.prefix_append ..).trans (List.prefix_append ..)
  · trivial

/-- A hold of the engine escalates as the configuration says. -/
theorem decide_escalates (config : PolicyConfig) (decisionId : String) (now : DateTime)
    (transaction : TransactionRequest) (actor : Actor) (evidence : CanonicalEvidence)
    (context : Option ContextEvaluation) (attestable : Option (Finset EvidenceKind))
    (required : Finset EvidenceKind)
    (held : (PolicyEngine.decide config decisionId now transaction actor evidence context
      attestable (some required)).decision = .hold) :
    Escalates config (PolicyEngine.decide config decisionId now transaction actor evidence context
      attestable (some required)).requiredAuthority := by
  have rules := PolicyEngine.decide_rules config decisionId now transaction actor evidence context
    attestable required
  rw [held] at rules
  generalize (PolicyEngine.decide config decisionId now transaction actor evidence context
    attestable (some required)).requiredAuthority = authority at rules ⊢
  cases rules with
  | simSwap => exact .inl rfl
  | restricted a _ _ found => exact .inr ⟨_, a, found, rfl⟩

/-- The verdict on what the carrier has replied to the request. -/
theorem decideAndPersist_justified {context : Option ContextEvaluation}
    (asks : asked transaction) (filed : Filed transaction past)
    (ready : Evidenced svc past transaction actor binding plan evidence) :
    (svc.decideAndPersist listener transaction now actor plan evidence context).Upholds
      (Justified svc asked) (fun _ _ => True) past := by
  simp only [decideAndPersist, PolicyEngine.evaluate, Prog.perform_eq, Prog.call_bind,
    Prog.ret_bind, Prog.pure_eq]
  refine preliminary_bind (emit_preliminary ..) fun past₁ _ longer₁ => ⟨trivial, fun _ => trivial,
    fun hex => ⟨trivial, fun _ => trivial, fun time => ⟨trivial, fun _ => trivial,
      fun config => ?_⟩⟩⟩
  refine preliminary_bind (emit_preliminary ..) fun past₂ _ longer₂ => ?_
  have longer : past <+: past₂ := by
    refine longer₁.trans (List.IsPrefix.trans ?_ longer₂)
    simp only [List.append_assoc]
    exact List.prefix_append ..
  have about : (PolicyEngine.decide config (PolicyEngine.newDecisionId hex) time transaction actor
      evidence context svc.attestable (some plan.mandatory.toFinset)).transactionId =
        transaction.transactionId := by
    obtain ⟨outcome, reasons, authority, shape⟩ := PolicyEngine.decide_shape config
      (PolicyEngine.newDecisionId hex) time transaction actor evidence svc.attestable
      (some plan.mandatory.toFinset)
    rw [shape]
  have made : NewlyMade svc asked past₂ (PolicyEngine.decide config
      (PolicyEngine.newDecisionId hex) time transaction actor evidence context svc.attestable
      (some plan.mandatory.toFinset)) :=
    { open_ := PolicyEngine.resolution_decide ..
      filed := ⟨transaction, longer.subset filed, about⟩
      escalates := fun held =>
        ⟨config, longer₂.subset (by simp), decide_escalates _ _ _ _ _ _ _ _ _ held⟩
      attested := fun approved =>
        ⟨transaction, actor, binding, _, asks, about, (ready.mono longer).attested approved⟩ }
  refine (issueIfApproved_justified asks fun approved =>
    (ready.mono longer).attested approved).extends_past.bind (fun past _ longer => ?_)
    fun _ _ _ => trivial
  exact persist_justified (made.mono longer.2) (matches_receiptFor ..) _

/-- The validated plan, what is collected for it, and the verdict. -/
theorem collectAndDecide_justified {proposed : Option EvidencePlan}
    (planned : Planned releaseCargoPolicy svc.attestable proposed plan)
    (asks : asked transaction) (filed : Filed transaction past)
    (read : HasRead transaction actor binding past) :
    (svc.collectAndDecide listener transaction now actor binding plan).Upholds (Justified svc asked)
      (fun _ _ => True) past := by
  simp only [collectAndDecide, Prog.perform_eq, Prog.call_bind, Prog.ret_bind]
  refine ⟨trivial, fun _ => trivial, fun _ => ?_⟩
  refine preliminary_bind (emit_preliminary ..) fun past₁ _ longer₁ => ?_
  refine preliminary_bind (emit_preliminary ..) fun past₂ _ longer₂ => ?_
  have longer : past <+: past₂ := (List.prefix_append ..).trans (longer₁.trans longer₂)
  refine (collectEvidence_filled (φ := Justified svc asked) (fun _ _ => trivial)
    (read.mono longer.subset) (fun _ => trivial) svc.zoneRegistry).extends_past.bind
      (fun past₃ outcome longer₃ => ?_) fun _ _ _ => trivial
  have sub : past ⊆ past₃ := (longer.trans longer₃.2).subset
  rcases outcome with (m | m | m) | evidence
  · exact refuse_justified (sub filed)
  · exact refuse_justified (sub filed)
  · exact refuse_justified (sub filed)
  obtain ⟨bound, located⟩ := longer₃.1 evidence rfl
  have ready : Evidenced svc past₃ transaction actor binding plan evidence :=
    ⟨read.mono sub, bound, ⟨proposed, planned⟩, located⟩
  refine ⟨trivial, fun _ => trivial, fun _ => ?_⟩
  refine preliminary_bind (emit_preliminary ..) fun past₄ _ longer₄ => ?_
  refine preliminary_bind ((svc.assessContext_atStage ..).mono fun _ => AtStage.preliminary)
    fun past₅ _ longer₅ => ?_
  have longer : past₃ <+: past₅ := (List.prefix_append ..).trans (longer₄.trans longer₅)
  exact decideAndPersist_justified asks (longer.subset (sub filed)) (ready.mono longer)

theorem planAndCollect_justified (asks : asked transaction) (filed : Filed transaction past)
    (read : HasRead transaction actor binding past) :
    (svc.planAndCollect listener transaction now actor binding).Upholds (Justified svc asked)
      (fun _ _ => True) past := by
  unfold planAndCollect
  rcases found : getWorkflowPolicy transaction.action with message | policy
  · exact refuse_justified filed
  obtain rfl := eq_releaseCargoPolicy found
  refine preliminary_bind ((svc.planEvidence_atStage ..).mono fun _ => AtStage.preliminary)
    fun past₁ proposed longer₁ => ?_
  refine preliminary_bind (emit_preliminary ..) fun past₂ _ longer₂ => ?_
  have sub : past ⊆ past₂ := (longer₁.trans longer₂).subset
  rcases accepted : validate svc.attestable transaction.action proposed with (m | m | m) | plan
  · trivial
  · exact refuse_justified (sub filed)
  · exact refuse_justified (sub filed)
  have planned : Planned releaseCargoPolicy svc.attestable proposed plan := by
    rw [(validate_total releaseCargoPolicy svc.attestable transaction.action proposed).1 found]
      at accepted
    rcases validateWith_spec releaseCargoPolicy svc.attestable transaction.action proposed with
      ⟨plan', given, planned⟩ | ⟨e, given, -⟩ <;> rw [given] at accepted <;> cases accepted
    exact planned
  exact collectAndDecide_justified planned asks (sub filed) (read.mono sub)

end Deciding

/-- Nothing is decided before the transaction is filed and the actor and the binding are read. -/
theorem authorizeTransaction_justified {asked : TransactionRequest → Prop} (listener : Bool)
    {transaction : TransactionRequest} (asks : asked transaction) :
    (svc.authorizeTransaction listener transaction).Upholds (Justified svc asked) (fun _ _ => True)
      [] := by
  simp only [authorizeTransaction, Prog.perform_eq, Prog.call_bind, Prog.ret_bind]
  refine ⟨trivial, fun _ => trivial, fun now => ⟨trivial, fun _ => trivial, fun saved => ?_⟩⟩
  refine preliminary_bind (emit_preliminary ..) fun past₁ _ longer₁ => ?_
  have filed : Filed transaction past₁ := longer₁.subset (by simp)
  refine ⟨trivial, fun _ => trivial, fun found => ?_⟩
  rcases found with _ | actor
  · exact refuse_justified (List.mem_append_left _ filed)
  refine ⟨trivial, fun _ => trivial, fun found => ?_⟩
  rcases found with _ | binding
  · exact refuse_justified (List.mem_append_left _ (List.mem_append_left _ filed))
  refine preliminary_bind (emit_preliminary ..) fun past₂ _ longer₂ => ?_
  exact planAndCollect_justified asks (longer₂.subset (by simp [show _ ∈ past₁ from filed]))
    ⟨longer₂.subset (by simp), longer₂.subset (by simp)⟩

/-! ### A resolution and a claim -/

section Settling

variable {asked : TransactionRequest → Prop}

omit [Unicode] in
/-- The token of a hold that the request has approved. -/
theorem issueForHold_justified (held : PolicyDecision) {d : PolicyDecision} {r : HoldResolution}
    {past : List (Handled Services)}
    (saved : (⟨Effect.store (.saveDecision d), ()⟩ : Handled Services) ∈ past)
    (same : held.core = d.core) (resolved : d.resolution = some r) (approves : r.outcome = .approve) :
    (svc.issueForHold held).Upholds (Justified svc asked) (fun _ _ => True) past := by
  obtain ⟨ids, transactions, -⟩ := PolicyDecision.eq_of_core same.symm
  refine ⟨trivial, fun _ => trivial, fun transaction => ?_⟩
  rcases transaction with _ | transaction
  · trivial
  · refine ⟨trivial, fun _ => trivial, fun now => ⟨trivial, fun _ => trivial, fun hex => ⟨?_,
      fun _ => trivial, fun _ => trivial⟩⟩⟩
    have scope : ScopedTo transaction (TokenService.newToken svc.sign (TokenService.newTokenId hex)
        transaction.actorId transaction.action transaction.resourceId transaction.zone
        held.decisionId now 300) := ⟨rfl, rfl, rfl, rfl⟩
    exact .inl ⟨rfl, .released (d := d) (by simp [saved]) resolved approves ids.symm
      (by simp [transactions]) scope⟩

/-- A resolution files the decision that it has read, a new token, and the receipt that it has
found or the one of the decision. -/
theorem resolveHold_justified (decisionId : String) (outcome : DecisionOutcome)
    (resolvedBy note : String) (role : Option String) (past : List (Handled Services)) :
    (svc.resolveHold decisionId outcome resolvedBy note role).Upholds (Justified svc asked)
      (fun _ _ => True) past := by
  simp only [resolveHold, Prog.perform_eq, Prog.call_bind, Prog.ret_bind]
  refine ⟨trivial, fun _ => trivial, fun found => ?_⟩
  rcases found with _ | held
  · trivial
  dsimp only
  rcases eligible : ineligible decisionId held outcome role with _ | e
  swap
  · trivial
  have isHold := (ineligible_eq_none.1 eligible).1
  dsimp only
  rw [settleHold_eq]
  refine ⟨trivial, fun _ => trivial, fun now => ⟨?_, fun _ => trivial, fun _ => ?_⟩⟩
  · exact .inr ⟨isHold, decisionId, held, by simp, rfl⟩
  simp only [afterVerdict, Prog.perform_eq, Prog.call_bind, Prog.ret_bind]
  refine ⟨trivial, fun _ => trivial, fun found => ?_⟩
  set past' := past ++ [⟨Effect.store (.getDecision decisionId), some held⟩] ++
    [⟨Effect.utcnow, now⟩] ++
    [⟨Effect.store (.saveDecision (resolve held outcome resolvedBy note now)), ()⟩] ++
    [⟨Effect.store (.getReceiptByTransactionId held.transactionId), found⟩] with hpast
  refine Prog.Upholds.bind (ρ := fun past _ => past' <+: past) ?_
    (fun past token longer => ⟨?_, fun _ => trivial, fun _ => trivial⟩) fun _ _ _ => trivial
  · split_ifs with approves
    · have saved : (⟨Effect.store (.saveDecision (resolve held outcome resolvedBy note now)), ()⟩ :
          Handled Services) ∈ past' := by simp [hpast]
      exact (svc.issueForHold_justified held saved rfl rfl approves).extends_past.mono
        (fun _ _ h => h) fun _ _ h => h.2
    · exact List.prefix_rfl
  · rcases found with _ | receipt
    · refine .inl ⟨resolve held outcome resolvedBy note now, longer.subset (by simp [hpast]), ?_⟩
      exact ⟨rfl, rfl, rfl, rfl⟩
    · refine .inr ⟨held.transactionId, receipt, longer.subset (by simp [hpast]), fun d fits => ?_⟩
      exact ⟨fits.receiptId, fits.decisionId, fits.transactionId, fits.decision⟩

omit [Unicode] in
/-- A claim saves the token that it has read. -/
theorem claimToken_justified (tokenIdentifier : String) (expected : Expected) :
    (svc.claimToken tokenIdentifier expected).Upholds (Justified svc asked) (fun _ _ => True)
      [] := by
  simp only [claimToken, TokenService.claimToken, Prog.perform_eq, Prog.call_bind, Prog.ret_bind]
  refine ⟨trivial, fun _ => trivial, fun found => ?_⟩
  rcases found with _ | token
  · trivial
  refine ⟨trivial, fun _ => trivial, fun now => ?_⟩
  dsimp only
  rcases TokenService.verifyToken svc.sign now token expected with message | ⟨_ | _, answer⟩
  · trivial
  · trivial
  · refine ⟨trivial, fun _ => trivial, fun claimedAt => ⟨?_, fun _ => trivial, fun _ => trivial⟩⟩
    exact .inr ⟨tokenIdentifier, token, claimedAt, by simp, rfl⟩

end Settling

end AuthorizationService

/-! ## The endpoints -/

/-- The calls of the console endpoints, resolutions apart. -/
def OfConsole : Effect → Prop
  | .store (.saveActor _) | .store (.saveDeviceBinding _) | .store (.saveCredential _)
  | .store (.savePolicyConfig _) | .setEngineConfig _ => True
  | c => ConsoleAuthService.OfSession c ∨ OfSignIn c

omit [Unicode] in
theorem not_files_of_console {c : Effect} (hc : OfConsole c) : ¬ c.Files := by
  cases c with
  | store c =>
    cases c with
    | saveDecision d => exact hc.elim False.elim False.elim
    | saveReceipt r => exact hc.elim False.elim False.elim
    | saveToken t => exact hc.elim False.elim False.elim
    | _ => exact not_false
  | _ => exact not_false

omit [Unicode] in
theorem ofConsole_of_session {c : Effect} (hc : ConsoleAuthService.OfSession c) : OfConsole c := by
  cases c with
  | store c => cases c <;> first | trivial | exact .inl hc
  | _ => first | trivial | exact .inl hc

variable (console : ConsoleAuthService)

omit [Unicode] in
theorem initialPassword_ofConsole (salt : Bytes) (actorId password : String) :
    Prog.CallsOnly OfConsole
      (ActorsController.initialPassword console salt actorId password).run :=
  (initialPassword_callsOnly console salt actorId password).mono fun c hc => by
    rcases hc with rfl | ⟨hash, now, rfl⟩
    · exact .inl trivial
    · trivial

theorem required_ofConsole {α : Type} (cookie : Option String) {f : Actor → Api α}
    (hf : ∀ who, Prog.CallsOnly OfConsole (f who).run) :
    Prog.CallsOnly OfConsole (requireConsoleActor cookie >>= f).run :=
  .except_bind ((requireConsoleActor_callsOnly cookie).mono fun _ => ofConsole_of_session) hf

theorem enrollActor_ofConsole (salt : Bytes) (cookie : Option String) (data : EnrollmentRequest) :
    Prog.CallsOnly OfConsole (ActorsController.enrollActor console salt cookie data).run := by
  refine required_ofConsole cookie fun who => ⟨.inl trivial, fun now => ⟨trivial, fun _ =>
    ⟨trivial, fun _ => ?_⟩⟩⟩
  rcases data.password.filter (· ≠ "") with _ | password
  · trivial
  · exact .except_bind (initialPassword_ofConsole console ..) fun _ => trivial

theorem updatePermissions_ofConsole (cookie : Option String) (actorId : String)
    (data : PermissionUpdateRequest) :
    Prog.CallsOnly OfConsole (ActorsController.updatePermissions cookie actorId data).run := by
  refine required_ofConsole cookie fun who => ⟨.inl trivial, fun found => ?_⟩
  rcases found with _ | old
  · trivial
  change Prog.CallsOnly OfConsole (ite _ _ _ : Api Actor).run
  split_ifs
  · trivial
  · exact ⟨trivial, fun _ => trivial⟩

variable [UnicodeDigits] (settings : Settings)

/-- The request asks for the transaction to be authorized. -/
def HttpRequest.AsksFor : HttpRequest → TransactionRequest → Prop
  | .streamAuthorization data | .requestAuthorization data => (data = ·)
  | _ => fun _ => False

/-- Every endpoint files what is new, or what rests on what it has been answered. -/
theorem HttpRequest.program_justified (request : HttpRequest) :
    (request.program svc console settings).Upholds (Justified svc request.AsksFor)
      (fun _ _ => True) [] := by
  by_cases get : request.IsGet
  · exact justified_of_callsOnly (fun _ hc => hc.elim not_files_of_reads not_files_of_session)
      (program_asks console svc settings get)
  have atConsole {p : Service HttpAnswer} {asked : TransactionRequest → Prop}
      (hp : p.CallsOnly OfConsole) : p.Upholds (Justified svc asked) (fun _ _ => True) [] :=
    justified_of_callsOnly (fun _ => not_files_of_console) hp
  cases request with
  | login sessionId data =>
    exact atConsole (.bind ((login_callsOnly console settings sessionId data).mono fun c hc => by
      cases c with
      | store c => cases c <;> first | trivial | exact .inr hc
      | _ => first | trivial | exact .inr hc) fun _ => trivial)
  | logout cookie =>
    exact atConsole (.bind ((logout_callsOnly settings cookie).mono fun _ => ofConsole_of_session)
      fun _ => trivial)
  | changePassword salt cookie data =>
    exact atConsole (.bind (.except_bind ((authSignedIn_callsOnly cookie).mono fun _ =>
      ofConsole_of_session) fun _ => initialPassword_ofConsole console ..) fun _ => trivial)
  | enrollActor salt cookie data =>
    exact atConsole (.bind (enrollActor_ofConsole console salt cookie data) fun _ => trivial)
  | updatePermissions cookie actorId data =>
    exact atConsole (.bind (updatePermissions_ofConsole cookie actorId data) fun _ => trivial)
  | updateConfig cookie data =>
    exact atConsole (.bind (required_ofConsole cookie fun _ => ⟨trivial, fun _ =>
      ⟨trivial, fun _ => trivial⟩⟩) fun _ => trivial)
  | streamAuthorization data =>
    exact (upholds_catching some (svc.authorizeTransaction_justified true rfl)).bind
      (fun _ _ _ => trivial) fun _ _ _ => trivial
  | requestAuthorization data =>
    exact upholds_map ((svc.authorizeTransaction_justified false rfl).bind (fun _ _ _ => trivial)
      fun _ _ _ => trivial)
  | resolveHold cookie decisionId data =>
    refine upholds_answering (.except_bind (ρ := fun _ _ => True) (justified_of_callsOnly
      (fun _ => not_files_of_session) (requireConsoleActor_callsOnly cookie)) (fun past who _ => ?_)
      (fun _ _ _ => trivial) fun _ _ _ => trivial)
    exact .except_bind (ρ := fun _ _ => True)
      (upholds_catching _ (svc.resolveHold_justified ..)) (fun _ _ _ => trivial)
      (fun _ _ _ => trivial) fun _ _ _ => trivial
  | claimToken data =>
    exact upholds_map ((svc.claimToken_justified ..).bind (fun _ _ _ => trivial)
      fun _ _ _ => trivial)
  | _ => exact absurd trivial get

end Programs

/-! ## What the carrier was asked -/

section Asked

variable {σ ι : Type} (view : σ → Kv)

/-- Request `i` asks for the transaction; it has looked up who is to make it, and found this actor,
and the device that the actor is bound to, and found this one. -/
structure Identified (requests : ι → HttpRequest)
    (before : List (Event Services ServiceError σ ι)) (i : ι) (transaction : TransactionRequest)
    (actor : Actor) (binding : DeviceBinding) : Prop where
  asks : (requests i).AsksFor transaction
  enrolled : ∃ e ∈ before, e.thread = i ∧ e.call = .store (.getActor transaction.actorId) ∧
    view e.state (.actors transaction.actorId) = some actor
  device : ∃ e ∈ before, e.thread = i ∧ e.call = .store (.getDeviceBinding transaction.actorId) ∧
    view e.state (.deviceBindings transaction.actorId) = some binding
  bound : ¬ Mismatched actor binding

/-- Once it had identified them, request `i` has put the check to the carrier, and it went as `P`
says. -/
def Asked (requests : ι → HttpRequest) (before : List (Event Services ServiceError σ ι)) (i : ι)
    (transaction : TransactionRequest) (actor : Actor) (binding : DeviceBinding) (c : CarrierCall)
    (P : Event Services ServiceError σ ι → Prop) : Prop :=
  ∃ first e rest, before = first ++ e :: rest ∧
    Identified view requests first i transaction actor binding ∧
    e.thread = i ∧ e.call = .carrier c ∧ P e

variable {view} {requests : ι → HttpRequest} {before : List (Event Services ServiceError σ ι)}
  {i : ι} {transaction : TransactionRequest} {actor : Actor} {binding : DeviceBinding}

theorem Asked.mono {c : CarrierCall} {P Q : Event Services ServiceError σ ι → Prop}
    (h : Asked view requests before i transaction actor binding c P) (sub : ∀ e, P e → Q e) :
    Asked view requests before i transaction actor binding c Q := by
  obtain ⟨first, e, rest, split, identified, mine, asks, holds⟩ := h
  exact ⟨first, e, rest, split, identified, mine, asks, sub e holds⟩

variable [DecidableEq ι] {h : ι → Handler Services ServiceError σ}
  (answers : ∀ i c s, (h i (.store c) s).1 = .ok (c.answer (view s)))
  (handled : ∀ e ∈ before, e.reply = (h e.thread e.call e.state).1)
  (asks : (requests i).AsksFor transaction) (bound : ¬ Mismatched actor binding)

include answers handled asks bound in
/-- What is read in the history of a request was read by its calls. -/
theorem Identified.of_read (read : HasRead transaction actor binding (history i before)) :
    Identified view requests before i transaction actor binding := by
  have found {c : StoreCall} {r : c.Reply}
      (there : (⟨Effect.store c, r⟩ : Handled Services) ∈ history i before) :
      ∃ e ∈ before, e.thread = i ∧ e.call = .store c ∧ c.answer (view e.state) = r := by
    obtain ⟨e, mem, mine, answered⟩ := mem_history.1 there
    have reply := Event.reply_of_answered (handled e mem) answered
    exact ⟨e, mem, mine, Event.call_of_answered answered,
      Except.ok.inj ((answers e.thread c e.state).symm.trans reply)⟩
  exact ⟨asks, found read.actor, found read.binding, bound⟩

include answers handled asks bound in
/-- A check that the carrier has replied to was put to it by a call. -/
theorem Asked.of_replied {c : CarrierCall} {reply : CarrierReply c.Answer}
    (replied : Replied transaction actor binding (history i before) c reply) :
    Asked view requests before i transaction actor binding c fun e =>
      e ∈ before ∧ e.answered = some ⟨Effect.carrier c, reply⟩ := by
  obtain ⟨past, later, split, read⟩ := replied
  obtain ⟨first, e, rest, rfl, mine, answered, rfl⟩ := history_eq_append_cons split
  refine ⟨first, e, rest, rfl, ?_, mine, Event.call_of_answered answered, by simp, answered⟩
  exact .of_read answers (fun e' earlier => handled e' (List.mem_append_left _ earlier)) asks bound
    read

end Asked

end ZoneGate
