import ZoneGate.Agent.ContextEvaluator
import ZoneGate.Authorization.Turns

/-!
# An evaluation that fails

The context stage falls back on an advice to hold when the graph around the evaluating agent
raises.  The graph does not: its node handles every exception of the agent and returns without an
evaluation.  So a failed evaluation leaves no record, and the listener is told that no agent is
attached.
-/

namespace ZoneGate

open Py Effects

/-- The advice to hold for want of an evaluation. -/
def ContextEvaluation.IsFallback (evaluation : ContextEvaluation) : Prop :=
  evaluation.recommendedControl = .hold ∧ "AI_EVALUATION_UNAVAILABLE" ∈ evaluation.riskFactors

/-- The evidence that was put before the evaluating agent. -/
def assessed (past : List (Handled Services)) : List (TransactionRequest × CanonicalEvidence) :=
  past.filterMap fun x => match x.1 with
    | .evaluateContext transaction evidence => some (transaction, evidence)
    | _ => none

theorem mem_assessed {past : List (Handled Services)} {transaction : TransactionRequest}
    {evidence : CanonicalEvidence} : (transaction, evidence) ∈ assessed past ↔
      ∃ reply, (⟨.evaluateContext transaction evidence, reply⟩ : Handled Services) ∈ past := by
  refine ⟨fun asked => ?_, fun ⟨reply, mem⟩ => List.mem_filterMap.2 ⟨_, mem, rfl⟩⟩
  obtain ⟨⟨c, reply⟩, mem, asked⟩ := List.mem_filterMap.1 asked
  cases c with
  | evaluateContext transaction' evidence' =>
    obtain ⟨rfl, rfl⟩ := Prod.mk.inj (Option.some.inj asked)
    exact ⟨reply, mem⟩
  | _ => cases asked

/-- The evaluations that were stored, each with the transaction it is for. -/
def evaluations (past : List (Handled Services)) : List (String × ContextEvaluation) :=
  past.filterMap fun x => match x.1 with
    | .store (.saveContextEvaluation transactionId evaluation) => some (transactionId, evaluation)
    | _ => none

theorem evaluations_append (first last : List (Handled Services)) :
    evaluations (first ++ last) = evaluations first ++ evaluations last := List.filterMap_append ..

/-- The event tells of an agent that is not there. -/
def StageEvent.Unattached (event : StageEvent) : Prop :=
  event.stage = .context ∧ event.status = .skipped ∧
    event.detail = "No evaluating agent is attached"

instance : DecidablePred StageEvent.Unattached :=
  fun event => inferInstanceAs (Decidable (event.stage = .context ∧ event.status = .skipped ∧
    event.detail = "No evaluating agent is attached"))

/-- The fallback is stored for the transaction and attached to its decision, and the stage is not
reported as skipped for want of an agent. -/
structure FailureRecorded (transactionId : String) (past : List (Handled Services))
    (result : Except ServiceError (PolicyDecision × Receipt)) : Prop where
  stored : ∃ evaluation, (transactionId, evaluation) ∈ evaluations past ∧ evaluation.IsFallback
  attached : ∀ d r, result = .ok (d, r) →
    ∃ evaluation, d.contextEvaluation = some evaluation ∧ evaluation.IsFallback
  unskipped : ∀ event ∈ told past, ¬ event.Unattached

/-! ## What becomes of an evaluation -/

/-- The calls that are about the evaluation. -/
def AboutContext : Effect → Prop
  | .evaluateContext _ _ | .store (.saveContextEvaluation _ _) => True
  | _ => False

theorem not_aboutContext {c : Effect} (hc : Unheard c) : ¬ AboutContext c := by
  cases c with
  | store c =>
    cases c with
    | saveContextEvaluation => exact hc.elim
    | _ => exact id
  | evaluateContext => exact hc.elim
  | _ => exact id

/-- Every evaluation that was asked for has come to `context`, and no other was stored. -/
structure Weighed (context : Option ContextEvaluation) (past : List (Handled Services)) :
    Prop where
  replied : ∀ transaction evidence reply,
    (⟨.evaluateContext transaction evidence, reply⟩ : Handled Services) ∈ past →
      AuthorizationService.contextOf reply = context
  stored : ∀ x ∈ evaluations past, context = some x.2

/-- The decision carries the evaluation and nothing else. -/
def Follows (past : List (Handled Services))
    (result : Except ServiceError (PolicyDecision × Receipt)) : Prop :=
  ∃ context, Weighed context past ∧ ∀ d r, result = .ok (d, r) → d.contextEvaluation = context

section

variable {context : Option ContextEvaluation} {past : List (Handled Services)}

theorem Weighed.other (h : Weighed context past) {c : Effect} (hc : ¬ AboutContext c)
    (r : c.Reply) : Weighed context (past ++ [⟨c, r⟩]) where
  replied transaction evidence reply mem := by
    rcases List.mem_append.1 mem with mem | mem
    · exact h.replied transaction evidence reply mem
    · obtain ⟨rfl, -⟩ := Sigma.mk.inj (List.mem_singleton.1 mem)
      exact (hc trivial).elim
  stored := by
    have same : evaluations [(⟨c, r⟩ : Handled Services)] = [] := by
      cases c with
      | store c =>
        cases c with
        | saveContextEvaluation id evaluation => exact (hc trivial).elim
        | _ => rfl
      | _ => rfl
    rw [evaluations_append, same, List.append_nil]
    exact h.stored

theorem Weighed.start : Weighed context [] := ⟨by simp, by simp [evaluations]⟩

/-- A history without a word on an evaluation, to which one is added. -/
theorem Weighed.replied_snoc (h : ∀ context, Weighed context past)
    (transaction : TransactionRequest) (evidence : CanonicalEvidence)
    (reply : AgentReply ContextEvaluation) :
    Weighed (AuthorizationService.contextOf reply)
      (past ++ [⟨Effect.evaluateContext transaction evidence, reply⟩]) where
  replied transaction' evidence' reply' mem := by
    rcases List.mem_append.1 mem with mem | mem
    · exact (h _).replied transaction' evidence' reply' mem
    · obtain ⟨-, rfl⟩ := Sigma.mk.inj (List.mem_singleton.1 mem)
      rfl
  stored x mem := by
    rw [evaluations_append] at mem
    exact (h _).stored x (by simpa [evaluations] using mem)

/-- The evaluation is stored. -/
theorem Weighed.stored_snoc {evaluation : ContextEvaluation} (h : Weighed (some evaluation) past)
    (transactionId : String) (r : Unit) :
    Weighed (some evaluation)
      (past ++ [⟨Effect.store (.saveContextEvaluation transactionId evaluation), r⟩]) where
  replied transaction evidence reply mem := by
    rcases List.mem_append.1 mem with mem | mem
    · exact h.replied transaction evidence reply mem
    · cases (Sigma.mk.inj (List.mem_singleton.1 mem)).1
  stored x mem := by
    rw [evaluations_append] at mem
    rcases List.mem_append.1 mem with mem | mem
    · exact h.stored x mem
    · obtain rfl : x = (transactionId, evaluation) := by simpa [evaluations] using mem
      rfl

end

namespace AuthorizationService

variable [Unicode] (svc : AuthorizationService) (listener : Bool) (tx : TransactionRequest)

omit [Unicode] in
theorem keeps_weighed (context : Option ContextEvaluation) :
    Keeps listener (fun _ _ => True) Follows fun _ past => Weighed context past where
  unheard _ _ _ hc h := ⟨trivial, h.other (not_aboutContext hc)⟩
  tell _ _ _ _ event _ h := ⟨trivial, h.other (c := .notify event) id⟩
  silent _ _ _ _ h := h
  raise _ _ _ h := ⟨context, h, by simp⟩

omit [Unicode] in
theorem finish_weighed : Finish listener tx (fun _ _ => True) Follows
    fun context _ past => Weighed context past where
  keeps := keeps_weighed listener
  ask _ _ evidence h := ⟨trivial, Weighed.replied_snoc h tx evidence⟩
  save _ _ _ h := ⟨trivial, h.stored_snoc tx.transactionId⟩
  decided _ _ d r h := ⟨d.contextEvaluation, h, by rintro _ _ ⟨⟩; rfl⟩

/-- The decision of a request carries what its evaluation has come to, and nothing else is
stored. -/
theorem authorizeTransaction_follows :
    (svc.authorizeTransaction listener tx).Upholds (fun _ _ => True) Follows [] := by
  have finish := finish_weighed listener tx
  refine Walk.authorizeTransaction (finish.walk ?_) fun _ => .start
  -- what is asserted does not depend on the progress, so any refusal will do
  intro past now detail reason _ h
  have keeps := keeps_weighed listener none
  exact keeps.refuse (p := { finished := 2, phase := .begun }) (h none) rfl rfl detail
    fun past hex receipt h => finish.decided {} past _ receipt h

omit [Unicode] in
/-- What reaches the service of an evaluation: its result, and nothing of its failure. -/
theorem contextOf_contextGraph
    (evaluator : TransactionRequest → CanonicalEvidence → Except String ContextEvaluation)
    (evidence : CanonicalEvidence) :
    contextOf (contextGraph evaluator tx evidence) = (evaluator tx evidence).toOption := by
  rcases h : evaluator tx evidence with message | evaluation
  · rw [contextGraph_of_error h]
    rfl
  · simp [contextGraph, evaluateNode, h, contextOf, Except.toOption]

omit [Unicode] in
/-- The agent of a run answers as the peers have it. -/
theorem replied_of_mem_answers {α : Type} {p : Service α} {env : Env} {peers : Peers}
    {fails : ℕ → Option String} {s : World × ℕ} {evidence : CanonicalEvidence}
    {reply : AgentReply ContextEvaluation}
    (mem : (⟨.evaluateContext tx evidence, reply⟩ : Handled Services) ∈
      p.answers (handleFailing fails env peers) s) : reply = peers.evaluator tx evidence := by
  refine Prog.handled_of_mem_answers (R := fun (c : Effect) (r : c.Reply) => match c, r with
    | .evaluateContext tx evidence, reply => reply = peers.evaluator tx evidence
    | _, _ => True) (fun c s r s' handled => ?_) mem
  cases c with
  | evaluateContext tx evidence =>
    obtain ⟨same, -⟩ := Prod.mk.inj handled
    exact (Except.ok.inj same).symm
  | _ => trivial

/-- The fallback is never recorded, whatever goes wrong in the LLM, the MCP client or the agent:
only the LLM itself can have given such an evaluation. -/
theorem failure_unrecorded {Value : Type} (llm : LLMClient Value)
    (mcpClient : Option (NokiaMCPClient Value)) (env : Env) (peers : Peers)
    (agent : peers.evaluator = contextGraph (ContextEvaluator.evaluate llm mcpClient))
    (fails : ℕ → Option String) (w : World) (n : ℕ) (evidence : CanonicalEvidence)
    (reached : (tx, evidence) ∈ assessed
      ((svc.authorizeTransaction listener tx).answers (handleFailing fails env peers) (w, n)))
    (unwritten : ∀ evaluation, llm.evaluate tx evidence
      (ContextEvaluator.mcpFindings llm mcpClient tx evidence) = .ok evaluation →
        ¬ evaluation.IsFallback) :
    ¬ FailureRecorded tx.transactionId
      ((svc.authorizeTransaction listener tx).answers (handleFailing fails env peers) (w, n))
      ((svc.authorizeTransaction listener tx).run (handleFailing fails env peers) (w, n)).1 := by
  rintro ⟨⟨evaluation, stored, fallback⟩, -, -⟩
  have follows := (svc.authorizeTransaction_follows listener tx).run
    (h := handleFailing fails env peers) (w, n)
  rw [List.nil_append] at follows
  obtain ⟨context, weighed, -⟩ := follows
  obtain ⟨reply, mem⟩ := mem_assessed.1 reached
  have came : contextOf reply = context := weighed.replied tx evidence reply mem
  rw [replied_of_mem_answers tx mem, agent, contextOf_contextGraph,
    weighed.stored _ stored] at came
  rcases h : ContextEvaluator.evaluate llm mcpClient tx evidence with message | written
  · rw [h] at came
    cases came
  · rw [h] at came
    obtain rfl : written = evaluation := Option.some.inj came
    exact unwritten written (ContextEvaluator.evaluate_eq_ok.1 h) fallback

end AuthorizationService

/-! ## An LLM that is down -/

namespace Sample

/-- Every question times out. -/
def downLLM : LLMClient String where
  selectTool _ _ _ := .error (.other "timeout")
  evaluate _ _ _ := .error (.other "timeout")

/-- A client with one tool. -/
def mcp : NokiaMCPClient String where
  listTools := .ok [[("name", "check-sim-swap")]]
  callTool _ _ := .ok "false"

def assessedService : AuthorizationService := { service with evaluator := true }

def downPeers (mcpClient : Option (NokiaMCPClient String)) : Peers :=
  { peers with evaluator := contextGraph (ContextEvaluator.evaluate downLLM mcpClient) }

/-- What the carrier says on a release. -/
def cleared : CanonicalEvidence where
  numberVerified := some true
  locationVerified := some true
  collectedAt := ⟨0⟩

end Sample

theorem failure_unrecorded_timeout :
    let _ := Sample.unicode
    let h := handleFailing (fun _ => none) Sample.env (Sample.downPeers (some Sample.mcp))
    let program := Sample.assessedService.authorizeTransaction true Sample.general
    ¬ FailureRecorded "tx" (program.answers h (Sample.world, 0))
      (program.run h (Sample.world, 0)).1 :=
  let _ := Sample.unicode
  Sample.assessedService.failure_unrecorded true Sample.general Sample.downLLM (some Sample.mcp)
    Sample.env (Sample.downPeers (some Sample.mcp)) rfl (fun _ => none) Sample.world 0
    Sample.cleared (by decide +kernel) (by simp [Sample.downLLM])

/-- The evaluation of a release times out: the agent was asked, nothing is stored, and the listener
hears that no agent is attached. -/
theorem timeout_unrecorded :
    let _ := Sample.unicode
    let h := handleFailing (fun _ => none) Sample.env (Sample.downPeers none)
    let program := Sample.assessedService.authorizeTransaction true Sample.general
    (Sample.general, Sample.cleared) ∈ assessed (program.answers h (Sample.world, 0)) ∧
      ContextEvaluator.evaluate Sample.downLLM none Sample.general Sample.cleared =
        .error "AI context evaluation failed: timeout" ∧
      (∃ event ∈ told (program.answers h (Sample.world, 0)), event.Unattached) ∧
      ¬ FailureRecorded "tx" (program.answers h (Sample.world, 0))
        (program.run h (Sample.world, 0)).1 := by
  intro _ h program
  have unstored : evaluations (program.answers h (Sample.world, 0)) = [] := by decide +kernel
  refine ⟨by decide +kernel, by decide +kernel, by decide +kernel, fun recorded => ?_⟩
  obtain ⟨evaluation, stored, -⟩ := recorded.stored
  rw [unstored] at stored
  cases stored

end ZoneGate
