import ZoneGate.Authorization.Effects

/-!
# The context evaluator

The agent that assesses the evidence of a request, and the graph around it.  It may ask the LLM
which carrier tool to query first; nothing that goes wrong there stops it.  When the evaluation
itself fails the agent raises, and the node of the graph turns that into no evaluation.

The LLM and the MCP client are parameters; `Value` is the type of the JSON values that the tools
exchange.
-/

namespace ZoneGate

/-- The exceptions of the clients: `UnauthorizedMCPToolError`, and all others. -/
inductive ClientError
  | unauthorizedTool (message : String)
  | other (message : String)
deriving DecidableEq, Repr

/-- `str(exc)` -/
def ClientError.message : ClientError → String
  | unauthorizedTool message => message
  | other message => message

structure ToolSelection (Value : Type) where
  callTool : Bool := false
  toolName : Option String := none
  arguments : List (String × Value) := []
  rationale : Option String := none

/-- What the query of a tool found. -/
inductive McpFindings (Value : Type)
  | result (tool : String) (arguments : List (String × Value)) (result : Value)
  /-- Status `REJECTED_BY_ALLOWLIST`. -/
  | rejected (tool : String) (error : String)
  /-- Status `FAILED`. -/
  | failed (error : String)

/-- The two questions the evaluator puts to the LLM; its prompts are rendered from these data. -/
structure LLMClient (Value : Type) where
  selectTool : TransactionRequest → CanonicalEvidence → List (Value × Option Value) →
    Except ClientError (ToolSelection Value)
  evaluate : TransactionRequest → CanonicalEvidence → Option (McpFindings Value) →
    Except ClientError ContextEvaluation

structure NokiaMCPClient (Value : Type) where
  listTools : Except ClientError (List (List (String × Value)))
  callTool : String → List (String × Value) → Except ClientError Value

namespace ContextEvaluator

variable {Value : Type} (llm : LLMClient Value) (mcpClient : Option (NokiaMCPClient Value))

/-- The names and descriptions of the tools; a tool without a name is a `KeyError`. -/
def toolsSummary (allowedTools : List (List (String × Value))) :
    Except ClientError (List (Value × Option Value)) :=
  allowedTools.mapM fun t =>
    match t.lookup "name" with
    | none => .error (.other "'name'")
    | some name => .ok (name, t.lookup "description")

def queryMcpTools (mcp : NokiaMCPClient Value) (transaction : TransactionRequest)
    (evidence : CanonicalEvidence) (allowedTools : List (List (String × Value))) :
    Except ClientError (Option (McpFindings Value)) := do
  let summary ← toolsSummary allowedTools
  match llm.selectTool transaction evidence summary with
  -- the handler of this exception reads a selection that was never made
  | .error (.unauthorizedTool _) => .error (.other
      "cannot access local variable 'selection' where it is not associated with a value")
  | .error (.other message) => return some (.failed message)
  | .ok selection =>
      match selection.callTool, selection.toolName.filter (· ≠ "") with
      | true, some tool =>
          match mcp.callTool tool selection.arguments with
          | .ok output => return some (.result tool selection.arguments output)
          | .error (.unauthorizedTool message) => return some (.rejected tool message)
          | .error (.other message) => return some (.failed message)
      | _, _ => return none

/-- The findings of the optional query; no failure of it gets further. -/
def mcpFindings (transaction : TransactionRequest) (evidence : CanonicalEvidence) :
    Option (McpFindings Value) := do
  let mcp ← mcpClient
  match mcp.listTools with
  | .error _ => none
  | .ok [] => none
  | .ok allowedTools =>
      match queryMcpTools llm mcp transaction evidence allowedTools with
      | .error _ => none
      | .ok findings => findings

/-- `ContextEvaluator.evaluate`, or the text of the `ContextEvaluationError`. -/
def evaluate (transaction : TransactionRequest) (evidence : CanonicalEvidence) :
    Except String ContextEvaluation :=
  match llm.evaluate transaction evidence (mcpFindings llm mcpClient transaction evidence) with
  | .ok evaluation => .ok evaluation
  | .error exc => .error ("AI context evaluation failed: " ++ exc.message)

end ContextEvaluator

/-! ## The graph -/

/-- What the node puts into the state of the graph. -/
structure NodeUpdate where
  error : Option String := none
  contextEvaluation : Option ContextEvaluation
deriving DecidableEq, Repr

/-- The only node of `build_context_evaluation_graph`. -/
def evaluateNode (evaluator : TransactionRequest → CanonicalEvidence → Except String ContextEvaluation)
    (transaction : TransactionRequest) (canonicalEvidence : Option CanonicalEvidence) : NodeUpdate :=
  match canonicalEvidence with
  | none =>
      { error := some "Cannot evaluate context without canonical evidence"
        contextEvaluation := none }
  | some evidence =>
      match evaluator transaction evidence with
      | .ok evaluation => { contextEvaluation := some evaluation }
      | .error exc => { error := some exc, contextEvaluation := none }

/-- The reply of the graph, which runs its node and returns the result. -/
def contextGraph (evaluator : TransactionRequest → CanonicalEvidence → Except String ContextEvaluation)
    (transaction : TransactionRequest) (evidence : CanonicalEvidence) :
    AgentReply ContextEvaluation :=
  match evaluateNode evaluator transaction (some evidence) with
  | { error := some message, .. } => .raised message
  | { error := none, contextEvaluation := evaluation } => .returned evaluation

/-- The node swallows the exception of the evaluator. -/
theorem contextGraph_of_error
    {evaluator : TransactionRequest → CanonicalEvidence → Except String ContextEvaluation}
    {transaction : TransactionRequest} {evidence : CanonicalEvidence} {message : String}
    (raises : evaluator transaction evidence = .error message) :
    contextGraph evaluator transaction evidence = .raised message := by
  simp [contextGraph, evaluateNode, raises]

/-- The evaluator returns what the LLM answers, and raises when it raises. -/
theorem ContextEvaluator.evaluate_eq_ok {Value : Type} {llm : LLMClient Value}
    {mcpClient : Option (NokiaMCPClient Value)} {transaction : TransactionRequest}
    {evidence : CanonicalEvidence} {evaluation : ContextEvaluation} :
    evaluate llm mcpClient transaction evidence = .ok evaluation ↔
      llm.evaluate transaction evidence (mcpFindings llm mcpClient transaction evidence) =
        .ok evaluation := by
  unfold evaluate
  cases llm.evaluate transaction evidence (mcpFindings llm mcpClient transaction evidence) <;> simp

end ZoneGate
