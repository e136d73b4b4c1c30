import ZoneGate.Authorization.Outcome
import ZoneGate.Authorization.Pipeline

/-!
# What the listener is told

The stages are reported in the order of the pipeline.  The first failure ends it, with a DENY; a
run without failure reports the first reason of its decision last.
-/

namespace ZoneGate

open Py Effects

/-- The events of a history. -/
def told (past : List (Handled Services)) : List StageEvent :=
  past.filterMap fun x => match x.1 with
    | .notify event => some event
    | _ => none

theorem told_append (first last : List (Handled Services)) :
    told (first ++ last) = told first ++ told last := List.filterMap_append ..

/-- The stages come in the order of the pipeline. -/
def InOrder (events : List StageEvent) : Prop :=
  events.Pairwise fun e e' => e.stage.position ≤ e'.stage.position

/-- The events agree with the decision and the receipt. -/
structure Agrees (events : List StageEvent) (decision : PolicyDecision) (receipt : Receipt) :
    Prop where
  ordered : InOrder events
  once : (events.filter fun e => e.status = .failed).length ≤ 1
  failed : ∀ before e after, events = before ++ e :: after → e.status = .failed →
    after = [] ∧ decision.decision = .deny ∧ receipt.token = none
  decided : (∀ e ∈ events, e.status ≠ .failed) → ∃ e, events.getLast? = some e ∧
    e.stage = .policy ∧ e.status = .done ∧ decision.reasons.head? = some e.detail

/-! ## Event by event -/

/-- The pipeline has come to the stage, and nothing has failed. -/
structure Running (stage : Stage) (events : List StageEvent) : Prop where
  ordered : InOrder events
  reached : ∀ e ∈ events, e.stage.position ≤ stage.position
  running : ∀ e ∈ events, e.status ≠ .failed

section Running

variable {stage : Stage} {events : List StageEvent} {e : StageEvent}

theorem Running.advance (h : Running stage events) {stage' : Stage}
    (later : stage.position ≤ stage'.position) : Running stage' events where
  ordered := h.ordered
  reached e he := (h.reached e he).trans later
  running := h.running

theorem Running.inOrder_snoc (h : Running stage events) (here : e.stage = stage) :
    InOrder (events ++ [e]) := by
  refine List.pairwise_append.2 ⟨h.ordered, List.pairwise_singleton .., fun e' he' last mem => ?_⟩
  rw [List.mem_singleton.1 mem, here]
  exact h.reached e' he'

theorem Running.snoc (h : Running stage events) (here : e.stage = stage)
    (running : e.status ≠ .failed) : Running stage (events ++ [e]) where
  ordered := h.inOrder_snoc here
  reached e' he' := by
    rcases List.mem_append.1 he' with mem | mem
    · exact h.reached e' mem
    · rw [List.mem_singleton.1 mem, here]
  running e' he' := by
    rcases List.mem_append.1 he' with mem | mem
    · exact h.running e' mem
    · rwa [List.mem_singleton.1 mem]

theorem Running.filter_failed (h : Running stage events) :
    (events.filter fun e => e.status = .failed) = [] :=
  List.filter_eq_nil_iff.2 fun e he => by simpa using h.running e he

/-- A failure ends the pipeline with a DENY. -/
theorem Running.refused (h : Running stage events) (here : e.stage = stage)
    (failed : e.status = .failed) {decision : PolicyDecision} {receipt : Receipt}
    (deny : decision.decision = .deny) (none : receipt.token = none) :
    Agrees (events ++ [e]) decision receipt where
  ordered := h.inOrder_snoc here
  once := by
    rw [List.filter_append, h.filter_failed, List.nil_append]
    exact List.length_filter_le ..
  failed before e' after split hfailed := by
    refine ⟨?_, deny, none⟩
    rcases List.eq_nil_or_concat after with rfl | ⟨after, last, rfl⟩
    · rfl
    · -- a failure before the last event would have been reported by the running pipeline
      rw [List.concat_eq_append, ← List.cons_append, ← List.append_assoc] at split
      obtain ⟨rfl, -⟩ := List.append_inj' split rfl
      exact absurd hfailed (h.running e' (by simp))
  decided running := absurd failed (running e (by simp))

/-- The verdict is reported last. -/
theorem Running.decided (h : Running .policy events) (here : e.stage = .policy)
    (done : e.status = .done) {decision : PolicyDecision} (receipt : Receipt)
    (reason : decision.reasons.head? = some e.detail) :
    Agrees (events ++ [e]) decision receipt := by
  have running := h.snoc here (by rw [done]; decide)
  exact {
    ordered := running.ordered
    once := by rw [running.filter_failed]; exact Nat.zero_le 1
    failed := fun before e' after split failed =>
      absurd failed (running.running e' (by rw [split]; simp))
    decided := fun _ => ⟨e, List.getLast?_concat, here, done, reason⟩ }

end Running

/-! ## The events of an authorization -/

variable [Unicode]

/-- What an authorization that returns has told its listener. -/
def ToldAgrees (past : List (Handled Services)) :
    Except ServiceError (PolicyDecision × Receipt) → Prop
  | .ok (decision, receipt) => Agrees (told past) decision receipt
  | .error _ => True

namespace AuthorizationService

variable (svc : AuthorizationService) (transaction : TransactionRequest)
  {past : List (Handled Services)}

omit [Unicode] in
theorem running_atStage (stage : Stage) (past : List (Handled Services)) (c : Effect)
    (hc : AtStage stage c) (h : Running stage (told past)) :
    True ∧ ∀ r, Running stage (told (past ++ [⟨c, r⟩])) := by
  refine ⟨trivial, fun r => ?_⟩
  rw [told_append]
  cases c with
  | notify event => exact h.snoc hc.1 hc.2
  | _ => rwa [show told [⟨_, r⟩] = [] from rfl, List.append_nil]

omit [Unicode] in
theorem refuse_told (stage : Stage) (h : Running stage (told past)) (now : DateTime)
    (detail reason : String) :
    (refuse true transaction now stage detail reason).Upholds (fun _ _ => True) ToldAgrees
      past := by
  simp only [refuse, emit, if_true, Prog.perform_eq, Prog.call_bind, Prog.ret_bind]
  refine ⟨trivial, fun _ => trivial, fun _ => ⟨trivial, fun _ => trivial, fun hex =>
    ⟨trivial, fun _ => trivial, fun _ => ⟨trivial, fun _ => trivial, fun _ => ?_⟩⟩⟩⟩
  have last : Agrees (told past ++ [⟨stage, .failed, stage.label, detail⟩])
      (denial transaction now hex reason)
      (receiptFor (denial transaction now hex reason) now none) := h.refused rfl rfl rfl rfl
  change Agrees _ (denial transaction now hex reason)
    (receiptFor (denial transaction now hex reason) now none)
  simpa [told] using last

theorem decideAndPersist_told (h : Running .policy (told past)) (now : DateTime) (actor : Actor)
    (plan : ValidatedEvidencePlan) (evidence : CanonicalEvidence)
    (context : Option ContextEvaluation) :
    (svc.decideAndPersist true transaction now actor plan evidence context).Upholds
      (fun _ _ => True) ToldAgrees past := by
  simp only [decideAndPersist, PolicyEngine.evaluate, emit, if_true, Prog.perform_eq,
    Prog.call_bind, Prog.ret_bind, Prog.pure_eq]
  refine ⟨trivial, fun _ => trivial, fun _ => ⟨trivial, fun _ => trivial, fun hex =>
    ⟨trivial, fun _ => trivial, fun time => ⟨trivial, fun _ => trivial, fun config =>
      ⟨trivial, fun _ => trivial, fun _ => ?_⟩⟩⟩⟩⟩
  set decision := PolicyEngine.decide config (PolicyEngine.newDecisionId hex) time transaction
    actor evidence context svc.attestable (some plan.mandatory.toFinset) with hdecision
  obtain ⟨reason, first⟩ : ∃ reason, decision.reasons.head? = some reason := by
    obtain ⟨reason, -, ⟨-, reasons⟩ | reasons⟩ := PolicyEngine.decide_reasons ..
    · exact ⟨reason, congrArg List.head? reasons⟩
    · exact ⟨reason, congrArg List.head? reasons⟩
  have started := h.snoc (e := ⟨.policy, .started, Stage.policy.label, ""⟩) rfl (by decide)
  have agrees (receipt : Receipt) := started.decided
    (e := ⟨.policy, .done, Stage.policy.label, reason⟩) rfl rfl receipt first
  simp only [issueIfApproved, TokenService.issueToken, Prog.perform_eq, Prog.call_bind,
    Prog.ret_bind, Prog.pure_eq]
  split_ifs
  · refine ⟨trivial, fun _ => trivial, fun _ => ⟨trivial, fun _ => trivial, fun _ =>
      ⟨trivial, fun _ => trivial, fun _ => ⟨trivial, fun _ => trivial, fun _ =>
        ⟨trivial, fun _ => trivial, fun _ => ?_⟩⟩⟩⟩⟩
    rw [Prog.upholds_ret, ToldAgrees]
    simpa [told, first] using agrees _
  · refine ⟨trivial, fun _ => trivial, fun _ => ⟨trivial, fun _ => trivial, fun _ => ?_⟩⟩
    rw [Prog.upholds_ret, ToldAgrees]
    simpa [told, first] using agrees _

/-- The events agree with the decision, whatever the store, the carrier and the agents answer. -/
theorem authorizeTransaction_told :
    (svc.authorizeTransaction true transaction).Upholds (fun _ _ => True) ToldAgrees [] := by
  refine Steps.authorizeTransaction (P := fun stage past => Running stage (told past)) ?_
    ⟨List.Pairwise.nil, by simp [told], by simp [told]⟩
  exact {
    call := running_atStage
    advance := fun _ _ _ later h => h.advance later
    raise := fun _ _ _ _ => trivial
    refuse := fun stage _ now detail reason h => refuse_told transaction stage h now detail reason
    decide := fun _ now actor _ plan evidence context h _ _ =>
      svc.decideAndPersist_told transaction h now actor plan evidence context }

/-! ## The listener changes nothing -/

section Listener

variable {env : Env} {peers : Peers} (w : World) (listener listener' : Bool)

omit [Unicode] in
theorem refuse_listener (now : DateTime) (stage : Stage) (detail reason : String) :
    (refuse listener transaction now stage detail reason).run (handle env peers) w =
      (refuse listener' transaction now stage detail reason).run (handle env peers) w := by
  rw [refuse_run, refuse_run]

theorem collectAndDecide_listener (now : DateTime) (actor : Actor) (binding : DeviceBinding)
    (plan : ValidatedEvidencePlan) :
    (svc.collectAndDecide listener transaction now actor binding plan).run (handle env peers) w =
      (svc.collectAndDecide listener' transaction now actor binding plan).run
        (handle env peers) w := by
  rcases harea : areaOf svc.zoneRegistry transaction.zone with _ | area
  · rw [collectAndDecide_run_nowhere svc _ harea, collectAndDecide_run_nowhere svc _ harea]
    split
    · exact refuse_listener ..
    · rfl
  · rw [collectAndDecide_run svc _ harea, collectAndDecide_run svc _ harea]
    split
    · exact refuse_listener ..
    · exact (decideAndPersist_run ..).trans (decideAndPersist_run ..).symm

/-- With a listener and without one a run comes to the same result and leaves the same world. -/
theorem authorizeTransaction_listener :
    (svc.authorizeTransaction listener transaction).run (handle env peers) w =
      (svc.authorizeTransaction listener' transaction).run (handle env peers) w := by
  rw [authorizeTransaction_run, authorizeTransaction_run]
  dsimp only
  split
  · exact refuse_listener ..
  · exact refuse_listener ..
  rw [planAndCollect_run, planAndCollect_run]
  split
  · exact refuse_listener ..
  split
  · rfl
  · exact refuse_listener ..
  · exact refuse_listener ..
  · exact svc.collectAndDecide_listener ..

end Listener

end AuthorizationService

end ZoneGate
