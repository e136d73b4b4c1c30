import ZoneGate.Agent.ContextEvaluator
import ZoneGate.Library.Trace
import ZoneGate.Py.Value

/-!
# The tools of the context evaluator

The evaluator as a program: it lists the tools of the MCP server, lets the LLM select one, calls it,
and has the LLM evaluate what was found.  The client in between passes on the tools of its allowlist
only.  The LLM and the server are not trusted: what they reply is arbitrary.
-/

namespace ZoneGate

open Py Effects

/-! ## Calls to the LLM and to the MCP server -/

/-- A tool, as the server describes it. -/
structure McpTool where
  name : String
  description : Option String
  inputSchema : List (String × Json)

/-- A block of the result of a tool, with its `text`, or with its `str` if it has none. -/
inductive McpContent
  | text (text : String)
  | other (str : String)

def McpContent.part : McpContent → String
  | text s => s
  | other s => s

inductive AgentCall
  | listTools
  | callTool (name : String) (arguments : List (String × Json))
  | selectTool (transaction : TransactionRequest) (evidence : CanonicalEvidence)
      (toolsSummary : List (Json × Option Json))
  | evaluate (transaction : TransactionRequest) (evidence : CanonicalEvidence)
      (mcpFindings : Option (McpFindings Json))

/-- A session with the server may raise at any point; its exceptions are given by their texts. -/
def AgentCall.Reply : AgentCall → Type
  | listTools => Except String (List McpTool)
  | callTool .. => Except String (List McpContent)
  | selectTool .. => Except ClientError (ToolSelection Json)
  | evaluate .. => Except ClientError ContextEvaluation

def AgentServices : Interface := ⟨AgentCall, AgentCall.Reply⟩

abbrev AgentProg (α : Type) := Prog AgentServices Empty α

def AgentCall.ask (c : AgentCall) : AgentProg c.Reply := Prog.perform (I := AgentServices) c

/-! ## The MCP client -/

/-- The configuration of the client; an empty allowlist lets every tool through. -/
structure McpConfig where
  staticAllowlist : List String
  args : List String

namespace McpConfig

variable (config : McpConfig)

def isToolAllowed (toolName : String) : Bool :=
  config.staticAllowlist = [] ∨ toolName ∈ config.staticAllowlist

/-- The dictionary of a tool. -/
def entry (t : McpTool) : List (String × Json) :=
  [("name", .str t.name), ("description", .str (t.description.getD "")),
    ("input_schema", .obj t.inputSchema)]

def listTools : AgentProg (Except ClientError (List (List (String × Json)))) :=
  if config.args = [] then return .ok []
  else do
    match ← AgentCall.listTools.ask with
    | .error exc => return .error (.other ("Failed to list tools from Nokia MCP server: " ++ exc))
    | .ok tools => return .ok ((tools.filter (config.isToolAllowed ·.name)).map entry)

/-- The text for a tool that is not allowed. -/
def unauthorizedMessage (name : String) : String :=
  "Tool '" ++ name ++ "' is not in the Nokia MCP static allowlist and cannot be executed"

/-- The text for a call during which the session has raised. -/
def failureMessage (name exc : String) : String :=
  "Failed to execute tool '" ++ name ++ "' on Nokia MCP server: " ++ exc

def callTool (name : String) (arguments : List (String × Json)) :
    AgentProg (Except ClientError Json) :=
  if config.isToolAllowed name then
    if config.args = [] then
      return .error (.other "Nokia MCP client has no command arguments configured")
    else do
      match ← (AgentCall.callTool name arguments).ask with
      | .error exc => return .error (.other (failureMessage name exc))
      | .ok content => return .ok (.str ("\n".intercalate (content.map McpContent.part)))
  else return .error (.unauthorizedTool (unauthorizedMessage name))

end McpConfig

/-! ## The evaluator -/

namespace ContextEvaluator

section Program

variable (config : McpConfig) (mcpClient : Option McpConfig) (transaction : TransactionRequest)
  (evidence : CanonicalEvidence)

/-- The part of the query that follows the selection. -/
def callSelected (selection : ToolSelection Json) :
    AgentProg (Except ClientError (Option (McpFindings Json))) :=
  match selection.callTool, selection.toolName.filter (· ≠ "") with
  | true, some tool => do
      match ← config.callTool tool selection.arguments with
      | .ok output => return .ok (some (.result tool selection.arguments output))
      | .error (.unauthorizedTool message) => return .ok (some (.rejected tool message))
      | .error (.other message) => return .ok (some (.failed message))
  | _, _ => return .ok none

/-- `_query_mcp_tools` -/
def queryServer (allowedTools : List (List (String × Json))) :
    AgentProg (Except ClientError (Option (McpFindings Json))) :=
  match toolsSummary allowedTools with
  | .error exc => return .error exc
  | .ok summary => do
      match ← (AgentCall.selectTool transaction evidence summary).ask with
      | .error (.unauthorizedTool _) => return .error (.other
          "cannot access local variable 'selection' where it is not associated with a value")
      | .error (.other message) => return .ok (some (.failed message))
      | .ok selection => callSelected config selection

/-- Step 1 of `evaluate`. -/
def exploreTools : AgentProg (Option (McpFindings Json)) :=
  match mcpClient with
  | none => return none
  | some config => do
      match ← config.listTools with
      | .error _ => return none
      | .ok [] => return none
      | .ok allowedTools =>
          match ← queryServer config transaction evidence allowedTools with
          | .error _ => return none
          | .ok findings => return findings

/-- `evaluate` -/
def evaluateWithTools : AgentProg (Except String ContextEvaluation) := do
  let mcpFindings ← exploreTools mcpClient transaction evidence
  match ← (AgentCall.evaluate transaction evidence mcpFindings).ask with
  | .ok evaluation => return .ok evaluation
  | .error exc => return .error ("AI context evaluation failed: " ++ exc.message)

end Program

end ContextEvaluator

/-! ## What an evaluation does with tools -/

/-- The tools that the LLM gets to see: the allowed ones, with their descriptions. -/
def McpConfig.shown (config : McpConfig) (tools : List McpTool) : List (Json × Option Json) :=
  (tools.filter (config.isToolAllowed ·.name)).map fun t =>
    (.str t.name, some (.str (t.description.getD "")))

/-- The tool that a selection asks for. -/
def ToolSelection.Asks {Value : Type} (selection : ToolSelection Value) (name : String) : Prop :=
  selection.callTool = true ∧ selection.toolName = some name ∧ name ≠ ""

theorem ToolSelection.asks_iff {Value : Type} {selection : ToolSelection Value} {name : String} :
    selection.Asks name ↔
      selection.callTool = true ∧ selection.toolName.filter (· ≠ "") = some name := by
  rw [Asks, Option.filter_eq_some_iff]
  simp

section Gate

variable (mcpClient : Option McpConfig) (transaction : TransactionRequest)
  (evidence : CanonicalEvidence)

/-- The history of an evaluation for which the LLM has made a selection among the allowed tools. -/
def Selected (config : McpConfig) (tools : List McpTool) (selection : ToolSelection Json) :
    List (Handled AgentServices) :=
  [⟨AgentCall.listTools, .ok tools⟩,
    ⟨AgentCall.selectTool transaction evidence (config.shown tools), .ok selection⟩]

/-- The call was none of a tool, and the LLM has not asked for one in its reply or failed to. -/
def Declined : Handled AgentServices → Prop
  | ⟨.callTool .., _⟩ => False
  | ⟨.selectTool .., .ok selection⟩ => ∀ name, ¬ ToolSelection.Asks selection name
  | ⟨.selectTool .., .error (.other _)⟩ => False
  | _ => True

/-- What the LLM is told of the tools is what happened. -/
inductive Truthful : Option (McpFindings Json) → List (Handled AgentServices) → Prop
  /-- No findings: no tool has been called or asked for. -/
  | nothing {past : List (Handled AgentServices)} (declined : ∀ x ∈ past, Declined x) :
      Truthful none past
  /-- A result: the tool that the LLM had selected, which is allowed, has returned it. -/
  | result {config : McpConfig} {tools : List McpTool} {selection : ToolSelection Json}
      {name : String} {content : List McpContent} (attached : mcpClient = some config)
      (allowed : config.isToolAllowed name) (asks : selection.Asks name) :
      Truthful
        (some (.result name selection.arguments
          (.str ("\n".intercalate (content.map McpContent.part)))))
        (Selected transaction evidence config tools selection ++
          [⟨AgentCall.callTool name selection.arguments, .ok content⟩])
  /-- A rejection: the selected tool is not allowed and was not called. -/
  | rejected {config : McpConfig} {tools : List McpTool} {selection : ToolSelection Json}
      {name : String} (attached : mcpClient = some config)
      (forbidden : ¬ config.isToolAllowed name) (asks : selection.Asks name) :
      Truthful (some (.rejected name (McpConfig.unauthorizedMessage name)))
        (Selected transaction evidence config tools selection)
  /-- A failure of the selected tool, which is allowed: its call has raised. -/
  | failed {config : McpConfig} {tools : List McpTool} {selection : ToolSelection Json}
      {name exc : String} (attached : mcpClient = some config)
      (allowed : config.isToolAllowed name) (asks : selection.Asks name) :
      Truthful (some (.failed (McpConfig.failureMessage name exc)))
        (Selected transaction evidence config tools selection ++
          [⟨AgentCall.callTool name selection.arguments, .error exc⟩])
  /-- A failure before any call: the LLM has raised on the selection. -/
  | unselected {config : McpConfig} {tools : List McpTool} {message : String}
      (attached : mcpClient = some config) :
      Truthful (some (.failed message)) [⟨AgentCall.listTools, .ok tools⟩,
        ⟨AgentCall.selectTool transaction evidence (config.shown tools), .error (.other message)⟩]

/-- What an evaluation may ask for, given its history. -/
def Gated (past : List (Handled AgentServices)) : AgentCall → Prop
  | .listTools => past = [] ∧ mcpClient.isSome
  | .selectTool tx ev summary => tx = transaction ∧ ev = evidence ∧ summary ≠ [] ∧
      ∃ config tools, mcpClient = some config ∧ summary = config.shown tools ∧
        past = [⟨AgentCall.listTools, .ok tools⟩]
  | .callTool name arguments => ∃ config tools selection, mcpClient = some config ∧
      config.isToolAllowed name ∧ ToolSelection.Asks selection name ∧
      arguments = selection.arguments ∧
      past = Selected transaction evidence config tools selection
  | .evaluate tx ev findings => tx = transaction ∧ ev = evidence ∧
      Truthful mcpClient transaction evidence findings past

/-- What the evaluation has found once it is done with the tools. -/
def Found (past : List (Handled AgentServices))
    (result : Except Empty (Except ClientError (Option (McpFindings Json)))) : Prop :=
  ∃ findings, result = .ok findings ∧
    Truthful mcpClient transaction evidence (findings.toOption.getD none) past

/-- An evaluation ends with what the LLM has replied to its last question. -/
def Evaluated (past : List (Handled AgentServices))
    (result : Except Empty (Except String ContextEvaluation)) : Prop :=
  ∃ findings reply before, Truthful mcpClient transaction evidence findings before ∧
    past = before ++ [⟨AgentCall.evaluate transaction evidence findings, reply⟩] ∧
    result = .ok (Except.mapError
      (fun exc : ClientError => "AI context evaluation failed: " ++ exc.message) reply)

variable {mcpClient transaction evidence}

namespace ContextEvaluator

theorem toolsSummary_entries (config : McpConfig) (tools : List McpTool) :
    toolsSummary ((tools.filter (config.isToolAllowed ·.name)).map McpConfig.entry) =
      .ok (config.shown tools) := by
  rw [McpConfig.shown, toolsSummary]
  induction tools.filter (config.isToolAllowed ·.name) with
  | nil => rfl
  | cons t tools ih =>
    rw [List.map_cons, List.mapM_cons, ih]
    rfl

/-- The client calls the selected tool, if it is allowed. -/
theorem callSelected_upholds {config : McpConfig} {tools : List McpTool}
    (attached : mcpClient = some config) (reachable : config.args ≠ [])
    (selection : ToolSelection Json) :
    (callSelected config selection).Upholds (Gated mcpClient transaction evidence)
      (Found mcpClient transaction evidence)
      (Selected transaction evidence config tools selection) := by
  rw [callSelected]
  split
  case h_2 _ _ unasked =>
    refine ⟨_, rfl, .nothing ?_⟩
    rintro x mem
    rcases List.mem_pair.1 mem with rfl | rfl
    · exact trivial
    · intro name asks
      obtain ⟨calls, names⟩ := ToolSelection.asks_iff.1 asks
      exact unasked name calls names
  case h_1 _ _ name calls names =>
    have asks : selection.Asks name := ToolSelection.asks_iff.2 ⟨calls, names⟩
    rw [McpConfig.callTool, if_neg reachable]
    split_ifs with allowed
    · refine ⟨⟨config, tools, selection, attached, allowed, asks, rfl, rfl⟩, nofun, fun reply => ?_⟩
      rcases reply with exc | content
      · exact ⟨_, rfl, .failed attached allowed asks⟩
      · exact ⟨_, rfl, .result attached allowed asks⟩
    · exact ⟨_, rfl, .rejected attached allowed asks⟩

/-- The LLM selects among the allowed tools. -/
theorem queryServer_upholds {config : McpConfig} {tools : List McpTool}
    (attached : mcpClient = some config) (reachable : config.args ≠ [])
    (nonempty : tools.filter (config.isToolAllowed ·.name) ≠ []) :
    (queryServer config transaction evidence
      ((tools.filter (config.isToolAllowed ·.name)).map McpConfig.entry)).Upholds
      (Gated mcpClient transaction evidence)
      (Found mcpClient transaction evidence)
      [⟨AgentCall.listTools, .ok tools⟩] := by
  rw [queryServer, toolsSummary_entries]
  refine ⟨⟨rfl, rfl, by simpa [McpConfig.shown] using nonempty, config, tools, attached, rfl, rfl⟩,
    nofun, fun reply => ?_⟩
  rcases reply with (message | message) | selection
  · refine ⟨_, rfl, .nothing ?_⟩
    rintro x mem
    rcases List.mem_pair.1 mem with rfl | rfl <;> exact trivial
  · exact ⟨_, rfl, .unselected attached⟩
  · exact callSelected_upholds attached reachable selection

/-- What the client makes of the tools of the server, after it has asked for them or not. -/
def Shown (config : McpConfig) (past : List (Handled AgentServices))
    (result : Except Empty (Except ClientError (List (List (String × Json))))) : Prop :=
  ((∀ x ∈ past, Declined x) ∧
    ∃ listed, result = .ok listed ∧ ∀ allowedTools, listed = .ok allowedTools →
      allowedTools = [] ∨ config.args ≠ [] ∧
        ∃ tools : List McpTool, past = [⟨AgentCall.listTools, .ok tools⟩] ∧
          allowedTools = (tools.filter (config.isToolAllowed ·.name)).map McpConfig.entry)

theorem listTools_upholds {config : McpConfig} (attached : mcpClient = some config) :
    config.listTools.Upholds (Gated mcpClient transaction evidence) (Shown config) [] := by
  rw [McpConfig.listTools]
  split_ifs with unset
  · exact ⟨fun _ mem => absurd mem List.not_mem_nil, _, rfl,
      fun _ same => .inl (Except.ok.inj same).symm⟩
  refine ⟨⟨rfl, by simp [attached]⟩, nofun, fun reply => ?_⟩
  have declined : ∀ x ∈ ([⟨AgentCall.listTools, reply⟩] : List (Handled AgentServices)),
      Declined x := by
    rintro x mem
    obtain rfl := List.mem_singleton.1 mem
    exact trivial
  rcases reply with message | tools
  · exact ⟨declined, _, rfl, nofun⟩
  · refine ⟨declined, _, rfl, fun _ same => .inr ⟨unset, tools, rfl, ?_⟩⟩
    exact (Except.ok.inj same).symm

/-- The findings are there before the evaluation, and they are true. -/
theorem exploreTools_upholds :
    (exploreTools mcpClient transaction evidence).Upholds (Gated mcpClient transaction evidence)
      (fun past r => ∃ findings, r = .ok findings ∧
        Truthful mcpClient transaction evidence findings past) [] := by
  rcases mcpClient with _ | config
  · exact ⟨_, rfl, .nothing fun _ mem => absurd mem List.not_mem_nil⟩
  rw [exploreTools]
  refine (listTools_upholds rfl).bind (fun past listed shown => ?_) fun _ e => e.elim
  obtain ⟨declined, _, same, lists⟩ := shown
  obtain rfl := Except.ok.inj same
  rcases listed with exc | _ | ⟨t, allowedTools⟩
  · exact ⟨_, rfl, .nothing declined⟩
  · exact ⟨_, rfl, .nothing declined⟩
  obtain ⟨reachable, tools, rfl, eq⟩ := (lists _ rfl).resolve_left (List.cons_ne_nil _ _)
  dsimp only
  rw [eq]
  have nonempty : tools.filter (config.isToolAllowed ·.name) ≠ [] := by
    rintro none
    simp [none] at eq
  refine (queryServer_upholds rfl reachable nonempty).bind (fun past result found => ?_)
    fun _ e => e.elim
  obtain ⟨findings, same, truthful⟩ := found
  obtain rfl := Except.ok.inj same
  rcases result with exc | findings
  · exact ⟨_, rfl, truthful⟩
  · exact ⟨_, rfl, truthful⟩

theorem evaluateWithTools_upholds :
    (evaluateWithTools mcpClient transaction evidence).Upholds
      (Gated mcpClient transaction evidence) (Evaluated mcpClient transaction evidence) [] := by
  refine exploreTools_upholds.bind (fun past findings explored => ?_) fun _ e => e.elim
  obtain ⟨_, same, truthful⟩ := explored
  obtain rfl := Except.ok.inj same
  refine ⟨⟨rfl, rfl, truthful⟩, nofun, fun reply => ?_⟩
  rcases reply with exc | evaluation
  · exact ⟨_, _, _, truthful, rfl, rfl⟩
  · exact ⟨_, _, _, truthful, rfl, rfl⟩

end ContextEvaluator

end Gate

/-! ## An evaluation on its own -/

/-- An LLM and a server that answer the same to the same question. -/
structure AgentPeers where
  llm : LLMClient Json
  tools : Except String (List McpTool)
  toolResult : String → List (String × Json) → Except String (List McpContent)

namespace AgentPeers

variable (peers : AgentPeers)

def answer : (c : AgentCall) → c.Reply
  | .listTools => peers.tools
  | .callTool name arguments => peers.toolResult name arguments
  | .selectTool transaction evidence toolsSummary =>
      peers.llm.selectTool transaction evidence toolsSummary
  | .evaluate transaction evidence mcpFindings => peers.llm.evaluate transaction evidence mcpFindings

/-- The value of a program that these peers answer. -/
def value {α : Type} : AgentProg α → α
  | .ret a => a
  | .raise e => e.elim
  | .call c next => value (next (peers.answer c))

@[simp] theorem value_ret {α : Type} (a : α) : peers.value (.ret a) = a := rfl

@[simp] theorem value_ask (c : AgentCall) : peers.value c.ask = peers.answer c := rfl

@[simp] theorem value_bind {α β : Type} (p : AgentProg α) (f : α → AgentProg β) :
    peers.value (p >>= f) = peers.value (f (peers.value p)) := by
  induction p with
  | ret a => rfl
  | raise e => exact e.elim
  | call c next ih => exact ih _

/-- A run with a handler that answers so. -/
theorem run_eq_value {σ α : Type} {h : Handler AgentServices Empty σ}
    (answers : ∀ c s, h c s = (.ok (peers.answer c), s)) (p : AgentProg α) (s : σ) :
    p.run h s = (.ok (peers.value p), s) := by
  induction p with
  | ret a => rfl
  | raise e => exact e.elim
  | call c next ih =>
    rw [Prog.run_call, answers]
    exact ih _

/-- What the evaluator gets from the client and the server behind it. -/
def client (config : McpConfig) : NokiaMCPClient Json where
  listTools := peers.value config.listTools
  callTool name arguments := peers.value (config.callTool name arguments)

@[simp] theorem client_listTools (config : McpConfig) :
    (peers.client config).listTools = peers.value config.listTools := rfl

end AgentPeers

namespace ContextEvaluator

variable (peers : AgentPeers) (transaction : TransactionRequest) (evidence : CanonicalEvidence)

theorem value_callSelected (config : McpConfig) (selection : ToolSelection Json) :
    peers.value (callSelected config selection) =
      match selection.callTool, selection.toolName.filter (· ≠ "") with
      | true, some tool =>
          match (peers.client config).callTool tool selection.arguments with
          | .ok output => .ok (some (.result tool selection.arguments output))
          | .error (.unauthorizedTool message) => .ok (some (.rejected tool message))
          | .error (.other message) => .ok (some (.failed message))
      | _, _ => .ok none := by
  rw [callSelected]
  split
  · rw [AgentPeers.value_bind, AgentPeers.client]
    dsimp only
    split <;> rfl
  · rfl

theorem value_queryServer (config : McpConfig) (allowedTools : List (List (String × Json))) :
    peers.value (queryServer config transaction evidence allowedTools) =
      queryMcpTools peers.llm (peers.client config) transaction evidence allowedTools := by
  rw [queryServer, queryMcpTools]
  rcases toolsSummary allowedTools with exc | summary
  · rfl
  dsimp only
  rw [AgentPeers.value_bind, AgentPeers.value_ask, AgentPeers.answer]
  dsimp only [bind, Except.bind]
  rcases peers.llm.selectTool transaction evidence summary with (message | message) | selection
  · rfl
  · rfl
  · dsimp only
    rw [value_callSelected]
    rcases selection.callTool with - | -
    · rfl
    rcases selection.toolName.filter (· ≠ "") with - | tool
    · rfl
    dsimp only
    rcases (peers.client config).callTool tool selection.arguments with (message | message) | output
    · rfl
    · rfl
    · rfl

theorem value_exploreTools (mcpClient : Option McpConfig) :
    peers.value (exploreTools mcpClient transaction evidence) =
      mcpFindings peers.llm (mcpClient.map peers.client) transaction evidence := by
  rcases mcpClient with _ | config
  · rfl
  simp only [exploreTools, mcpFindings, AgentPeers.value_bind, Option.map_some,
    Option.bind_eq_bind, Option.bind_some, AgentPeers.client_listTools]
  rcases peers.value config.listTools with exc | _ | ⟨t, allowedTools⟩
  · rfl
  · rfl
  · simp only [AgentPeers.value_bind, value_queryServer]
    rcases queryMcpTools peers.llm (peers.client config) transaction evidence
      (t :: allowedTools) with exc | findings
    · rfl
    · rfl

/-- With an LLM and a server that answer the same to the same question, the program is the
evaluator. -/
theorem value_evaluateWithTools (mcpClient : Option McpConfig) :
    peers.value (evaluateWithTools mcpClient transaction evidence) =
      evaluate peers.llm (mcpClient.map peers.client) transaction evidence := by
  rw [evaluateWithTools, evaluate, AgentPeers.value_bind, value_exploreTools]
  rw [AgentPeers.value_bind, AgentPeers.value_ask, AgentPeers.answer]
  rcases peers.llm.evaluate transaction evidence
    (mcpFindings peers.llm (mcpClient.map peers.client) transaction evidence) with exc | evaluation
  · rfl
  · rfl

end ContextEvaluator

/-! ## Overlapping evaluations -/

section Runs

variable {ι σ : Type} [DecidableEq ι]

/-- Evaluations that share the LLM and the server, of which `s` is the state. -/
def evaluating (mcpClient : Option McpConfig)
    (requests : ι → TransactionRequest × CanonicalEvidence) (s : σ) :
    Pool AgentServices Empty (Except String ContextEvaluation) σ ι :=
  ⟨fun i => ContextEvaluator.evaluateWithTools mcpClient (requests i).1 (requests i).2, s⟩

/-- However evaluations overlap, and whatever the LLM and the server reply, an evaluation asks for
what its history allows it to ask for: it calls one tool at most, an allowed one, as the LLM has
selected it among the allowed ones that were listed to this evaluation, and it tells the LLM no
other findings than what came of that.  It ends with what the LLM replies to them. -/
theorem tools_gated (mcpClient : Option McpConfig)
    (requests : ι → TransactionRequest × CanonicalEvidence)
    (h : ι → Handler AgentServices Empty σ) (s : σ) (schedule : List ι) :
    let trace := (evaluating mcpClient requests s).trace h schedule
    (∀ before e after, trace = before ++ e :: after →
      Gated mcpClient (requests e.thread).1 (requests e.thread).2 (history e.thread before)
        e.call) ∧
    ∀ i result, ((evaluating mcpClient requests s).run h schedule).threads i = .ret result →
      Evaluated mcpClient (requests i).1 (requests i).2 (history i trace) (.ok result) := by
  have upholds (i : ι) : (ContextEvaluator.evaluateWithTools mcpClient (requests i).1
      (requests i).2).Upholds (Gated mcpClient (requests i).1 (requests i).2)
        (Evaluated mcpClient (requests i).1 (requests i).2) [] :=
    ContextEvaluator.evaluateWithTools_upholds
  refine ⟨fun before e after split => ?_, fun i result ended => ?_⟩
  · exact Pool.upholds_event (φ := fun i => Gated mcpClient (requests i).1 (requests i).2) upholds
      split
  · exact (Pool.upholds_run upholds schedule).of_ret ended

end Runs

end ZoneGate
