import ZoneGate.Agent.Tools

/-!
# The agents of the service

The planner with the graph around it, and both agents with the LLM behind them.  The LLM gets to see
the transaction and the evidence, as data; its prompts are rendered from these.
-/

namespace ZoneGate

open Py

/-! ## The evidence planner -/

/-- The LLM of both agents. -/
structure AgentLLM extends LLMClient Json where
  plan : TransactionRequest → String → Finset EvidenceKind → Except ClientError EvidencePlan

/-- `EvidencePlanner.plan`, or the text of the `EvidencePlanningError`. -/
def EvidencePlanner.plan (llm : AgentLLM) (transaction : TransactionRequest) (workflowName : String)
    (allowedOptional : Finset EvidenceKind) : Except String EvidencePlan :=
  match llm.plan transaction workflowName allowedOptional with
  | .ok plan => .ok plan
  | .error exc => .error ("AI evidence planning failed: " ++ exc.message)

/-- What the node of the planning graph puts into the state. -/
structure PlanUpdate where
  error : Option String := none
  evidencePlan : Option EvidencePlan

/-- The only node of `build_evidence_planning_graph`. -/
def planNode
    (planner : TransactionRequest → String → Finset EvidenceKind → Except String EvidencePlan)
    (transaction : TransactionRequest) (workflowName : String)
    (allowedOptional : Finset EvidenceKind) : PlanUpdate :=
  match planner transaction workflowName allowedOptional with
  | .ok plan => { evidencePlan := some plan }
  | .error exc => { error := some exc, evidencePlan := none }

/-- The reply of the graph, which runs its node and returns the result. -/
def planningGraph
    (planner : TransactionRequest → String → Finset EvidenceKind → Except String EvidencePlan)
    (transaction : TransactionRequest) (workflowName : String)
    (allowedOptional : Finset EvidenceKind) : AgentReply EvidencePlan :=
  match planNode planner transaction workflowName allowedOptional with
  | { error := some message, .. } => .raised message
  | { error := none, evidencePlan := plan } => .returned plan

/-! ## Both agents -/

/-- The carrier and the agents that a request meets. -/
def Peers.ofAgents (carrier : (c : CarrierCall) → CarrierReply c.Answer) (llm : AgentLLM)
    (mcpClient : Option (NokiaMCPClient Json)) : Peers where
  carrier := carrier
  planner := planningGraph (EvidencePlanner.plan llm)
  evaluator := contextGraph (ContextEvaluator.evaluate llm.toLLMClient mcpClient)

/-- The LLM neither plans nor evaluates.  It may still select tools. -/
structure AgentLLM.Down (llm : AgentLLM) : Prop where
  plan : ∀ transaction workflowName allowed plan,
    llm.plan transaction workflowName allowed ≠ .ok plan
  evaluate : ∀ transaction evidence findings evaluation,
    llm.evaluate transaction evidence findings ≠ .ok evaluation

namespace AgentLLM.Down

variable {llm : AgentLLM} (down : llm.Down)
  (carrier : (c : CarrierCall) → CarrierReply c.Answer)
  (mcpClient : Option (NokiaMCPClient Json))

include down

/-- The node swallows the exception of the planner. -/
theorem planner (transaction : TransactionRequest) (workflowName : String)
    (allowed : Finset EvidenceKind) : ∃ message,
      (Peers.ofAgents carrier llm mcpClient).planner transaction workflowName allowed =
        .raised message := by
  rcases planned : llm.plan transaction workflowName allowed with exc | plan
  · refine ⟨"AI evidence planning failed: " ++ exc.message, ?_⟩
    simp only [Peers.ofAgents, planningGraph, planNode, EvidencePlanner.plan, planned]
  · exact absurd planned (down.plan _ _ _ plan)

theorem evaluator (transaction : TransactionRequest) (evidence : CanonicalEvidence) : ∃ message,
    (Peers.ofAgents carrier llm mcpClient).evaluator transaction evidence = .raised message := by
  rcases evaluated : ContextEvaluator.evaluate llm.toLLMClient mcpClient transaction evidence
    with exc | evaluation
  · exact ⟨exc, contextGraph_of_error evaluated⟩
  · exact absurd (ContextEvaluator.evaluate_eq_ok.1 evaluated) (down.evaluate _ _ _ evaluation)

end AgentLLM.Down

end ZoneGate
