import ZoneGate.Api.Requests
import ZoneGate.Authorization.Pipeline

/-!
# Revocations during an authorization

An authorization reads the actor and the binding when it starts, and the engine judges on what was
read then.  `revocation_takes_effect` says that no other edit of the roster gets past the engine
than one that lands in between.
-/

namespace ZoneGate

open Py Effects

section Permissions

variable [Unicode]

/-- The actor may perform the action, and it and its device are in force. -/
def InForce (action : String) (actor : Actor) (binding : DeviceBinding) : Prop :=
  PolicyEngine.requiredPermission action ∈ actor.permissions ∧ ¬ Mismatched actor binding

/-- The stored actor may perform the action of the request from the stored device. -/
def InForceIn (kv : Kv) (transaction : TransactionRequest) : Prop :=
  ∃ actor binding, kv (.actors transaction.actorId) = some actor ∧
    kv (.deviceBindings transaction.actorId) = some binding ∧
    InForce transaction.action actor binding

/-- The request has read an actor that may perform its action from a device it has read. -/
def Permits (past : List (Handled Services)) (transaction : TransactionRequest) : Prop :=
  ∃ actor binding, HasRead transaction actor binding past ∧
    InForce transaction.action actor binding

theorem Permits.append {past : List (Handled Services)} {transaction : TransactionRequest}
    (h : Permits past transaction) (more : List (Handled Services)) :
    Permits (past ++ more) transaction := by
  obtain ⟨actor, binding, read, inForce⟩ := h
  exact ⟨actor, binding, read.append more, inForce⟩

/-- Neither a token nor an approval is saved unless what was read permits it. -/
def SavesPermitted (transaction : TransactionRequest) (past : List (Handled Services)) :
    Effect → Prop
  | .store (.saveToken _) => Permits past transaction
  | .store (.saveDecision d) => d.decision = .approve → Permits past transaction
  | _ => True

/-- No approval is returned unless what was read permits it. -/
def ReturnsPermitted (transaction : TransactionRequest) (past : List (Handled Services)) :
    Except ServiceError (PolicyDecision × Receipt) → Prop
  | .ok (decision, _) => decision.decision = .approve → Permits past transaction
  | .error _ => True

theorem savesPermitted_of_permits {transaction : TransactionRequest}
    {past : List (Handled Services)} (h : Permits past transaction) (c : Effect) :
    SavesPermitted transaction past c := by
  unfold SavesPermitted
  split
  · exact h
  · exact fun _ => h
  · trivial

theorem savesPermitted_of_preliminary {transaction : TransactionRequest}
    (past : List (Handled Services)) {c : Effect} (hc : Preliminary c) :
    SavesPermitted transaction past c := by
  unfold SavesPermitted
  split
  · exact hc.elim
  · exact hc.elim
  · trivial

/-! ## What an authorization approves -/

/-- The engine approves nothing the actor lacks the permission for. -/
theorem PolicyEngine.permitted_of_approve {config : PolicyConfig} {decisionId : String}
    {now : DateTime} {transaction : TransactionRequest} {actor : Actor}
    {evidence : CanonicalEvidence} {context : Option ContextEvaluation}
    {attestable : Option (Finset EvidenceKind)} {required : Finset EvidenceKind}
    (approved : (decide config decisionId now transaction actor evidence context attestable
      (some required)).decision = .approve) :
    requiredPermission transaction.action ∈ actor.permissions := by
  by_contra lacks
  have rules := decide_rules config decisionId now transaction actor evidence context attestable
    required
  have denied := rules.deny_iff.2 (.inl lacks)
  rw [approved] at denied
  cases denied

namespace AuthorizationService

variable (svc : AuthorizationService) (listener : Bool) (transaction : TransactionRequest)

theorem refuse_permitted (past : List (Handled Services)) (now : DateTime) (stage : Stage)
    (detail reason : String) :
    (refuse listener transaction now stage detail reason).Upholds (SavesPermitted transaction)
      (ReturnsPermitted transaction) past := by
  simp only [refuse, Prog.perform_eq, Prog.call_bind, Prog.ret_bind]
  refine .bind_callsOnly (P := fun _ => True) (emit_preliminary ..)
    (fun past c hc _ => ⟨savesPermitted_of_preliminary past hc, fun _ => trivial⟩)
    (fun _ _ _ => trivial) trivial fun past _ _ => ?_
  refine ⟨trivial, fun _ => trivial, fun hex => ⟨fun approve => ?_, fun _ => trivial, fun _ =>
    ⟨trivial, fun _ => trivial, fun _ approve => ?_⟩⟩⟩
  · cases approve
  · cases approve

theorem decideAndPersist_permitted {past : List (Handled Services)} {actor : Actor}
    {binding : DeviceBinding} (read : HasRead transaction actor binding past)
    (matched : ¬ Mismatched actor binding) (now : DateTime) (plan : ValidatedEvidencePlan)
    (evidence : CanonicalEvidence) (context : Option ContextEvaluation) :
    (svc.decideAndPersist listener transaction now actor plan evidence context).Upholds
      (SavesPermitted transaction) (ReturnsPermitted transaction) past := by
  have keeps (past : List (Handled Services)) (c : Effect) (hc : Preliminary c)
      (read : HasRead transaction actor binding past) : SavesPermitted transaction past c ∧
        ∀ r, HasRead transaction actor binding (past ++ [⟨c, r⟩]) :=
    ⟨savesPermitted_of_preliminary past hc, fun _ => read.append _⟩
  simp only [decideAndPersist, PolicyEngine.evaluate, Prog.perform_eq, Prog.call_bind,
    Prog.ret_bind, Prog.pure_eq]
  refine .bind_callsOnly (emit_preliminary ..) keeps (fun _ _ _ => trivial) read
    fun _ _ read => ?_
  refine ⟨trivial, fun _ => trivial, fun hex => ⟨trivial, fun _ => trivial, fun time =>
    ⟨trivial, fun _ => trivial, fun config => ?_⟩⟩⟩
  refine .bind_callsOnly (emit_preliminary ..) keeps (fun _ _ _ => trivial)
    (((read.append _).append _).append _) fun past _ read => ?_
  set decision := PolicyEngine.decide config (PolicyEngine.newDecisionId hex) time transaction
    actor evidence context svc.attestable (some plan.mandatory.toFinset) with hdecision
  by_cases approved : decision.decision = .approve
  · -- all that follows an approval is permitted by what was read
    have permits : Permits past transaction :=
      ⟨actor, binding, read, PolicyEngine.permitted_of_approve (hdecision ▸ approved), matched⟩
    refine (Prog.Upholds.of_callsOnly (P := (Permits · transaction)) (Prog.callsOnly_true _)
      (fun past c _ permits => ⟨savesPermitted_of_permits permits c, fun _ => permits.append _⟩)
      permits).mono (fun _ _ h => h) fun past result permits => ?_
    rcases result with e | ⟨d, r⟩
    · trivial
    · exact fun _ => permits
  · rw [issueIfApproved, if_neg approved]
    refine ⟨fun h => absurd h approved, fun _ => trivial, fun _ => ⟨trivial, fun _ => trivial,
      fun _ h => absurd h approved⟩⟩

/-- An authorization saves no token, and neither saves nor returns an approval, unless the actor
and the binding it has read permit it. -/
theorem authorizeTransaction_permitted :
    (svc.authorizeTransaction listener transaction).Upholds (SavesPermitted transaction)
      (ReturnsPermitted transaction) [] := by
  refine Steps.authorizeTransaction (P := fun _ _ => True) ?_ trivial
  exact {
    call := fun _ past _ hc _ =>
      ⟨savesPermitted_of_preliminary past hc.preliminary, fun _ => trivial⟩
    advance := fun _ _ _ _ _ => trivial
    raise := fun _ _ _ _ => trivial
    refuse := fun stage past now detail reason _ =>
      refuse_permitted listener transaction past now stage detail reason
    decide := fun past now actor binding plan evidence context _ read matched =>
      svc.decideAndPersist_permitted listener transaction read matched now plan evidence context }

end AuthorizationService

/-- What an authorization among the requests saves and answers. -/
theorem ApiRequest.program_permitted (svc : AuthorizationService) (console : ConsoleAuthService)
    (request : ApiRequest) :
    (request.program svc console).Upholds
      (fun past c => ∀ listener transaction, request = .authorize listener transaction →
        SavesPermitted transaction past c)
      (fun past result => ∀ listener transaction, request = .authorize listener transaction →
        ∀ d r, result = .ok (.judged d r) → d.decision = .approve → Permits past transaction)
      [] := by
  cases request with
  | authorize listener transaction =>
    have permitted := svc.authorizeTransaction_permitted listener transaction
    refine Prog.Upholds.bind (permitted.mono ?_ fun _ _ h => h) (fun past verdict h => ?_)
      fun _ _ _ _ _ _ _ _ raised => by cases raised
    · rintro past c saves _ _ ⟨⟩
      exact saves
    · rintro _ _ ⟨⟩ _ _ ⟨⟩
      exact h
  | enroll =>
    refine Prog.upholds_of_forall (fun _ _ _ _ h => ?_) (fun _ _ _ _ h => ?_) _ _ <;> cases h
  | updatePermissions =>
    refine Prog.upholds_of_forall (fun _ _ _ _ h => ?_) (fun _ _ _ _ h => ?_) _ _ <;> cases h

end Permissions

/-! ## Runs -/

section Runs

variable {ι : Type} [DecidableEq ι] {requests : ι → ApiRequest} {trace : ApiTrace ι}

/-- The engine evaluates the request of a thread: it reads its configuration, and from there on
computes. -/
structure Evaluation (requests : ι → ApiRequest) (trace : ApiTrace ι)
    (e : Event Services ServiceError World ι) (transaction : TransactionRequest) : Prop where
  mem : e ∈ trace
  request : ∃ listener, requests e.thread = .authorize listener transaction
  call : e.call = .engineConfig

/-- The request of the thread is not approved, in its answer or in the store, and no token is
issued for it. -/
structure NotApproved (c : ApiRequests ι) (trace : ApiTrace ι) (i : ι) : Prop where
  answer : ∀ d r, c.threads i = .ret (.judged d r) → d.decision ≠ .approve
  decision : ∀ e ∈ trace, e.thread = i → ∀ d, e.call = .store (.saveDecision d) →
    d.decision ≠ .approve
  token : ∀ e ∈ trace, e.thread = i → ∀ t, e.call ≠ .store (.saveToken t)

variable [Unicode]

/-- No revocation lands between the reads of a request and its evaluation: if what it has read
permits the action, so does what is stored when it is evaluated. -/
def NoRevocationBetween (requests : ι → ApiRequest) (trace : ApiTrace ι) : Prop :=
  ∀ e transaction, Evaluation requests trace e transaction →
    Permits (history e.thread trace) transaction → InForceIn e.state.kv transaction

/-- A revocation takes effect on every request that is evaluated after it, as long as none lands
between the reads of a request and its evaluation. -/
theorem revocation_takes_effect (svc : AuthorizationService) (console : ConsoleAuthService)
    (env : Env) (peers : ι → Peers) (w : World) (requests : ι → ApiRequest) (schedule : List ι) :
    let start := concurrent svc console requests w
    let trace := start.trace (handleAll env peers) schedule
    NoRevocationBetween requests trace → ∀ e transaction,
      Evaluation requests trace e transaction → ¬ InForceIn e.state.kv transaction →
        NotApproved (start.run (handleAll env peers) schedule) trace e.thread := by
  intro start trace between e transaction evaluation revoked
  have programs (i : ι) := (requests i).program_permitted svc console
  obtain ⟨listener, request⟩ := evaluation.request
  have refused : ¬ Permits (history e.thread trace) transaction :=
    fun permits => revoked (between e transaction evaluation permits)
  have saves {e' : Event Services ServiceError World ι} (mem : e' ∈ trace)
      (mine : e'.thread = e.thread) :
      ∃ past, SavesPermitted transaction past e'.call ∧ ¬ Permits past transaction := by
    obtain ⟨before, after, split⟩ := List.append_of_mem mem
    refine ⟨history e'.thread before, ?_, fun permits => refused ?_⟩
    · exact Pool.upholds_event (h := handleAll env peers) programs split listener transaction
        (mine ▸ request)
    · rw [split, history_append, ← mine]
      exact permits.append _
  refine ⟨fun d r answer approved => ?_, fun e' mem mine d save approved => ?_,
    fun e' mem mine t save => ?_⟩
  · exact refused ((Pool.upholds_run (h := handleAll env peers) programs schedule).of_ret answer
      listener transaction request d r rfl approved)
  · obtain ⟨past, permitted, denied⟩ := saves mem mine
    rw [save] at permitted
    exact denied (permitted approved)
  · obtain ⟨past, permitted, denied⟩ := saves mem mine
    rw [save] at permitted
    exact denied permitted

end Runs

/-! ## A revocation that comes too late -/

/-- The operator asks for a release while the supervisor takes away the permission for it. -/
def releaseAndRevoke (revoke : Bool) : ApiRequest :=
  if revoke then
    .updatePermissions (some "session") "op" ⟨["cargo:weigh"], ["cargo:release"], by simp⟩
  else .authorize false Sample.general

/-- The two requests, run as the schedule says. -/
def revocationRun (schedule : List Bool) : ApiRequests Bool :=
  (Sample.overlap releaseAndRevoke).run (handleAll Sample.env fun _ => Sample.peers) schedule

def revocationTrace (schedule : List Bool) : ApiTrace Bool :=
  (Sample.overlap releaseAndRevoke).trace (handleAll Sample.env fun _ => Sample.peers) schedule

/-- The permission is taken away before the release is asked for. -/
def revokedBefore : List Bool := List.replicate 5 true ++ List.replicate 20 false

/-- The permission is taken away when the operator and its device have just been read. -/
def revokedBetween : List Bool :=
  List.replicate 4 false ++ List.replicate 5 true ++ List.replicate 16 false

/-- The permissions that the operator has when the engine evaluates a request. -/
def permissionsAtEvaluation (e : Event Services ServiceError World Bool) : Option (List String) :=
  match e.call with
  | .engineConfig => (e.state.kv (.actors "op")).map (·.permissions)
  | _ => none

/-- The permissions of an actor that is read. -/
def permissionsRead : Handled Services → Option (List String)
  | ⟨.store (.getActor _), some actor⟩ => some actor.permissions
  | _ => none

/-- The outcome of an authorization, and whether a token was issued for it. -/
def judgedAs : ApiAnswer → Option (DecisionOutcome × Bool)
  | .judged d r => some (d.decision, r.token.isSome)
  | _ => none

theorem weigher_lacks :
    @PolicyEngine.requiredPermission Sample.unicode Sample.general.action ∉ ["cargo:weigh"] := by
  decide +kernel

/-- Whoever lacks the permission for a release is not permitted it. -/
theorem revoked_of_evaluation {e : Event Services ServiceError World Bool}
    (h : permissionsAtEvaluation e = some ["cargo:weigh"]) :
    e.call = .engineConfig ∧ ¬ @InForceIn Sample.unicode e.state.kv Sample.general := by
  unfold permissionsAtEvaluation at h
  split at h
  · rename_i call
    refine ⟨call, ?_⟩
    rintro ⟨actor, binding, found, -, permitted, -⟩
    obtain ⟨stored, found', permissions⟩ := Option.map_eq_some_iff.1 h
    obtain rfl := Option.some.inj (found.symm.trans found')
    rw [permissions] at permitted
    exact weigher_lacks permitted
  · cases h

theorem revocation_takes_effect_before :
    ∃ e, Evaluation releaseAndRevoke (revocationTrace revokedBefore) e Sample.general ∧
      ¬ @InForceIn Sample.unicode e.state.kv Sample.general ∧
      NotApproved (revocationRun revokedBefore) (revocationTrace revokedBefore) e.thread := by
  have evaluated : (false, some ["cargo:weigh"]) ∈ (revocationTrace revokedBefore).map fun e =>
      (e.thread, permissionsAtEvaluation e) := by
    decide +kernel
  obtain ⟨e, mem, seen⟩ := List.mem_map.1 evaluated
  obtain ⟨mine, permissions⟩ := Prod.mk.inj seen
  obtain ⟨call, revoked⟩ := revoked_of_evaluation permissions
  have evaluation : Evaluation releaseAndRevoke (revocationTrace revokedBefore) e Sample.general :=
    ⟨mem, ⟨false, by rw [mine]; rfl⟩, call⟩
  refine ⟨e, evaluation, revoked, ?_⟩
  unfold revocationRun revocationTrace
  refine @revocation_takes_effect Bool _ Sample.unicode Sample.service Sample.console Sample.env
    (fun _ => Sample.peers) Sample.signedIn releaseAndRevoke revokedBefore ?_ e Sample.general
    evaluation revoked
  rintro e' transaction ⟨-, ⟨listener, request⟩, -⟩ ⟨actor, binding, read, permitted, -⟩
  have reads : ((history false (revocationTrace revokedBefore)).filterMap permissionsRead) =
      [["cargo:weigh"]] := by
    decide +kernel
  cases revoke : e'.thread with
  | true =>
    rw [revoke] at request
    cases request
  | false =>
    rw [revoke] at request read
    cases request
    have permissions : actor.permissions ∈ [["cargo:weigh"]] := by
      rw [← reads]
      exact List.mem_filterMap.2 ⟨_, read.actor, rfl⟩
    rw [List.mem_singleton.1 permissions] at permitted
    exact absurd permitted weigher_lacks

/-- The release is approved, with a token, although the operator has lost the permission for it
before it is evaluated. -/
theorem revoked_and_approved :
    ∃ e, Evaluation releaseAndRevoke (revocationTrace revokedBetween) e Sample.general ∧
      ¬ @InForceIn Sample.unicode e.state.kv Sample.general ∧
      ∃ d r, (revocationRun revokedBetween).threads e.thread = .ret (.judged d r) ∧
        d.decision = .approve ∧ r.token ≠ none := by
  have evaluated : (false, some ["cargo:weigh"]) ∈ (revocationTrace revokedBetween).map fun e =>
      (e.thread, permissionsAtEvaluation e) := by
    decide +kernel
  obtain ⟨e, mem, seen⟩ := List.mem_map.1 evaluated
  obtain ⟨mine, permissions⟩ := Prod.mk.inj seen
  obtain ⟨call, revoked⟩ := revoked_of_evaluation permissions
  refine ⟨e, ⟨mem, ⟨false, by rw [mine]; rfl⟩, call⟩, revoked, ?_⟩
  rw [mine]
  have approved : ((revocationRun revokedBetween).threads false).returned.bind judgedAs =
      some (.approve, true) := by
    decide +kernel
  obtain ⟨answer, returned, judged⟩ := Option.bind_eq_some_iff.1 approved
  cases answer with
  | judged d r =>
    obtain ⟨outcome, issued⟩ := Prod.mk.inj (Option.some.inj judged)
    exact ⟨d, r, Prog.eq_ret_of_returned returned, outcome, Option.isSome_iff_ne_none.1 issued⟩
  | _ => cases judged

end ZoneGate
