import ZoneGate.Agent.Planning
import ZoneGate.Api.Endpoints
import ZoneGate.Authorization.Unheard

/-!
# Requests while the LLM is down

A service whose agents cannot reach their LLM serves the same requests as one without agents, and a
stream decides as a plain request does.
-/

namespace ZoneGate

open Py Effects AuthorizationService

/-- The request without a stream. -/
def HttpRequest.plain : HttpRequest → HttpRequest
  | streamAuthorization data => requestAuthorization data
  | request => request

/-- The same answer, whether it is the last message of a stream or the body of a response. -/
inductive SameAnswer : Except ServiceError HttpAnswer → Except ServiceError HttpAnswer → Prop
  | same (r : Except ServiceError HttpAnswer) : SameAnswer r r
  | result (decision : PolicyDecision) (receipt : Receipt) :
      SameAnswer (.ok (.streamed (.result decision receipt)))
        (.ok (.authorized ⟨decision, receipt⟩))
  | error (e : ServiceError) : SameAnswer (.ok (.streamed (.error e))) (.error e)

section Runs

variable {ι : Type} [DecidableEq ι] [Unicode] [UnicodeDigits] (svc : AuthorizationService)
  (console : ConsoleAuthService) (settings : Settings)

/-- A plain request ends as the pipeline does. -/
theorem requestAuthorization_eq (data : TransactionRequest) :
    (HttpRequest.requestAuthorization data).program svc console settings =
      (svc.authorizeTransaction false data).andThen
        (.onValue fun verdict => .ret (.authorized ⟨verdict.1, verdict.2⟩)) := by
  rw [← Prog.bind_eq_andThen, HttpRequest.program, AuthorizationController.requestAuthorization,
    ← bind_pure_comp, bind_assoc]
  rfl

/-- A request is served alike by the service without agents, up to the calls of the listener and of
agents that have nothing to say. -/
theorem program_alike (request : HttpRequest) :
    Prog.Alike unheard SameAnswer (request.program svc console settings)
      (request.plain.program (svc.withAgents false false) console settings) := by
  cases request with
  | streamAuthorization data =>
    rw [HttpRequest.plain, requestAuthorization_eq, HttpRequest.program, streamed,
      Prog.catching_bind_eq_andThen]
    refine authorizeTransaction_alike.andThen ?_ fun _ => .same _
    rintro (e | ⟨decision, receipt⟩) _ rfl
    · exact .done rfl rfl (.error e)
    · exact .done rfl rfl (.result decision receipt)
  | requestAuthorization data =>
    change Prog.Alike unheard SameAnswer _ ((HttpRequest.requestAuthorization data).program ..)
    rw [requestAuthorization_eq, requestAuthorization_eq]
    refine authorizeTransaction_alike.andThen ?_ fun _ => .same _
    rintro r _ rfl
    exact .refl .same _
  | _ => exact .refl .same _

omit [DecidableEq ι] [Unicode] [UnicodeDigits] in
/-- The listener and agents without an LLM change no state. -/
theorem hushed (env : Env) {peers : ι → Peers} {llm : ι → AgentLLM}
    {carrier : ι → (c : CarrierCall) → CarrierReply c.Answer}
    {mcpClient : ι → Option (NokiaMCPClient Json)} (down : ∀ i, (llm i).Down)
    (agents : ∀ i, peers i = .ofAgents (carrier i) (llm i) (mcpClient i)) :
    Pool.Hushed unheard (handleAll env peers) := by
  intro i c w silent
  cases c with
  | notify event => exact ⟨(), rfl, trivial⟩
  | plan transaction workflowName allowed =>
    obtain ⟨message, raised⟩ := (down i).planner (carrier i) (mcpClient i) transaction workflowName
      allowed
    rw [← agents i] at raised
    exact ⟨_, rfl, fun plan => by simp [raised]⟩
  | evaluateContext transaction evidence =>
    obtain ⟨message, raised⟩ := (down i).evaluator (carrier i) (mcpClient i) transaction evidence
    rw [← agents i] at raised
    refine ⟨_, rfl, ?_⟩
    change contextOf ((peers i).evaluator transaction evidence) = none
    rw [raised]
    rfl
  | _ => exact silent.elim

/-- Requests overlap while the LLM is down.  Whatever they do, the same requests without agents and
without streams can do, and the other way round: the world is the same, and the requests that have
been answered are answered the same. -/
theorem outage_changes_nothing (env : Env) {llm : ι → AgentLLM}
    (carrier : ι → (c : CarrierCall) → CarrierReply c.Answer)
    (mcpClient : ι → Option (NokiaMCPClient Json)) (down : ∀ i, (llm i).Down)
    (requests : ι → HttpRequest) (w : World) (schedule : List ι) :
    let peers i := Peers.ofAgents (carrier i) (llm i) (mcpClient i)
    let withAgents := serving svc console settings requests w
    let without := serving (svc.withAgents false false) console settings
      (fun i => (requests i).plain) w
    (∃ schedule', (without.run (handleAll env peers) schedule').state =
        (withAgents.run (handleAll env peers) schedule).state ∧
      ∀ i ∈ schedule, ∀ r,
        ((withAgents.run (handleAll env peers) schedule).threads i).ended = some r →
        ∃ r', ((without.run (handleAll env peers) schedule').threads i).ended = some r' ∧
          SameAnswer r r') ∧
    ∃ schedule', (withAgents.run (handleAll env peers) schedule').state =
        (without.run (handleAll env peers) schedule).state ∧
      ∀ i ∈ schedule, ∀ r',
        ((without.run (handleAll env peers) schedule).threads i).ended = some r' →
        ∃ r, ((withAgents.run (handleAll env peers) schedule').threads i).ended = some r ∧
          SameAnswer r r' := by
  intro peers withAgents without
  have quiet : Pool.Hushed unheard (handleAll env peers) := hushed env down fun _ => rfl
  have same : Pool.SameSoFar unheard (fun _ => SameAnswer) withAgents without :=
    ⟨rfl, fun i => program_alike svc console settings (requests i)⟩
  exact ⟨Pool.run_alike quiet same schedule, Pool.run_alike quiet same.symm schedule⟩

end Runs

/-! ## A stream while the LLM is down -/

namespace Sample

def deadLlm : AgentLLM where
  plan _ _ _ := .error (.other "connection refused")
  selectTool _ _ _ := .error (.other "connection refused")
  evaluate _ _ _ := .error (.other "connection refused")

theorem deadLlm_down : deadLlm.Down where
  plan := by simp [deadLlm]
  evaluate := by simp [deadLlm]

def unadvised : Peers := .ofAgents peers.carrier deadLlm none

def agentService : AuthorizationService := service.withAgents true true

def streaming : HttpRequests Unit :=
  @serving unicode unicodeDigits Unit agentService console {} (fun _ => .streamAuthorization general)
    world

end Sample

theorem outage_changes_nothing_stream : ∃ schedule,
    (((@serving Sample.unicode Sample.unicodeDigits Unit
        (Sample.agentService.withAgents false false) Sample.console {}
        (fun _ => .requestAuthorization Sample.general) Sample.world).run
      (handleAll Sample.env fun _ => Sample.unadvised) schedule).state.kv
        (.decisions "dec_000000000000")).map (·.decision) = some .approve := by
  have approved : ((Sample.streaming.run (handleAll Sample.env fun _ => Sample.unadvised)
      (List.replicate 40 ())).state.kv (.decisions "dec_000000000000")).map (·.decision) =
        some .approve := by
    decide +kernel
  obtain ⟨⟨schedule, same, -⟩, -⟩ := @outage_changes_nothing Unit _ Sample.unicode
    Sample.unicodeDigits Sample.agentService Sample.console {} Sample.env
    (fun _ => Sample.deadLlm) (fun _ => Sample.peers.carrier) (fun _ => none)
    (fun _ => Sample.deadLlm_down) (fun _ => .streamAuthorization Sample.general) Sample.world
    (List.replicate 40 ())
  refine ⟨schedule, ?_⟩
  rw [← approved]
  exact congrArg (fun w : World => (w.kv (.decisions "dec_000000000000")).map (·.decision)) same

end ZoneGate
