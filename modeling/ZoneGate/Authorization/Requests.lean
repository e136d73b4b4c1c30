import ZoneGate.Authorization.Runs
import ZoneGate.Library.Monitor

/-!
# Requests one after the other

A deployment serves authorizations, resolutions and claims; between them the roster and the
configuration may change.  `serve` makes requests that do not overlap, each completed before the
next begins, and keeps every request with its answer.
-/

namespace ZoneGate

open Py Effects

/-- A call of the service, or a change of the roster or of the configuration. -/
inductive Request
  | authorize (listener : Bool) (transaction : TransactionRequest)
  | resolve (decisionId : String) (outcome : DecisionOutcome) (resolvedBy note : String)
      (resolverRole : Option String)
  | claim (tokenIdentifier : String) (expected : Expected)
  | enroll (actor : Actor)
  | bindDevice (binding : DeviceBinding)
  | configure (config : PolicyConfig)

inductive Answer
  | judged (decision : PolicyDecision) (receipt : Receipt)
  | claimed (result : ClaimResult)
  | done

def Request.program [Unicode] (svc : AuthorizationService) : Request → Service Answer
  | authorize listener transaction => do
      let verdict ← svc.authorizeTransaction listener transaction
      return .judged verdict.1 verdict.2
  | resolve decisionId outcome resolvedBy note resolverRole => do
      let verdict ← svc.resolveHold decisionId outcome resolvedBy note resolverRole
      return .judged verdict.1 verdict.2
  | claim tokenIdentifier expected => do
      let result ← svc.claimToken tokenIdentifier expected
      return .claimed result
  | enroll actor => do
      store (.saveActor actor)
      return .done
  | bindDevice binding => do
      store (.saveDeviceBinding binding)
      return .done
  | configure config => do
      store (.savePolicyConfig config)
      Prog.perform (I := Services) (Effect.setEngineConfig config)
      return .done

/-- A request with its answer. -/
abbrev Exchange := Request × Except ServiceError Answer

/-- The world after a run, and what was asked and answered, newest first. -/
structure Served where
  world : World
  history : List Exchange := []

namespace Served

/-- An empty store under a configuration. -/
def start (config : PolicyConfig) : Served := { world := { kv := Kv.empty, config := config } }

variable [Unicode] (svc : AuthorizationService) (env : Env) (peers : ℕ → Peers)

/-- Make one request; the peers it meets are those of its number. -/
def step (s : Served) (request : Request) : Served :=
  let result := (request.program svc).run (handle env (peers s.history.length)) s.world
  { world := result.2, history := (request, result.1) :: s.history }

/-- Make requests in order. -/
def serve (s : Served) (requests : List Request) : Served := requests.foldl (step svc env peers) s

@[simp] theorem serve_nil (s : Served) : s.serve svc env peers [] = s := rfl

theorem serve_append (s : Served) (first last : List Request) :
    s.serve svc env peers (first ++ last) =
      (s.serve svc env peers first).serve svc env peers last := List.foldl_append ..

theorem serve_snoc (s : Served) (requests : List Request) (request : Request) :
    s.serve svc env peers (requests ++ [request]) =
      (s.serve svc env peers requests).step svc env peers request := serve_append ..

/-- What holds at the start and is kept by every request holds after every run. -/
theorem serve_keeps {P : Served → Prop} (step : ∀ s request, P s → P (s.step svc env peers request))
    {s : Served} (hs : P s) (requests : List Request) : P (s.serve svc env peers requests) := by
  induction requests generalizing s with
  | nil => exact hs
  | cons request requests ih => exact ih (step s request hs)

theorem serve_stored {s : Served} (hs : s.world.kv.Stored) (requests : List Request) :
    (s.serve svc env peers requests).world.kv.Stored :=
  serve_keeps svc env peers (P := fun s => s.world.kv.Stored)
    (fun _ request h => run_stored (request.program svc) h) hs requests

/-- A property of all states of a run, against a condition on each of its requests. -/
theorem always_iff {s : Served} {requests : List Request} {G : Served → Prop}
    {C : Served → Request → Prop} (start : G s)
    (step : ∀ before request after, requests = before ++ request :: after →
      G (s.serve svc env peers before) →
        (G ((s.serve svc env peers before).step svc env peers request) ↔
          C (s.serve svc env peers before) request)) :
    (∀ before after, requests = before ++ after → G (s.serve svc env peers before)) ↔
      ∀ before request after, requests = before ++ request :: after →
        C (s.serve svc env peers before) request :=
  List.foldl_always_iff start step

end Served

/-! ## The run of one request -/

/-- The answer that reports a verdict. -/
def judgedAnswer : Except ServiceError (PolicyDecision × Receipt) → Except ServiceError Answer :=
  Except.map fun verdict => .judged verdict.1 verdict.2

section

variable {svc : AuthorizationService} {env : Env} {peers : Peers} {w : World}

theorem run_judged (p : Service (PolicyDecision × Receipt)) :
    (do let verdict ← p; return .judged verdict.1 verdict.2 : Service Answer).run
        (handle env peers) w =
      (judgedAnswer (p.run (handle env peers) w).1, (p.run (handle env peers) w).2) := by
  rw [Prog.run_bind]
  rcases p.run (handle env peers) w with ⟨e | verdict, w'⟩ <;> rfl

theorem run_claimed (p : Service ClaimResult) :
    (do let result ← p; return .claimed result : Service Answer).run (handle env peers) w =
      ((p.run (handle env peers) w).1.map .claimed, (p.run (handle env peers) w).2) := by
  rw [Prog.run_bind]
  rcases p.run (handle env peers) w with ⟨e | result, w'⟩ <;> rfl

end

/-- The small deployment after a run from an empty store. -/
def Sample.served (requests : List Request) : Served :=
  @Served.serve Sample.unicode Sample.service Sample.env (fun _ => Sample.peers)
    (Served.start PolicyConfig.default) requests

end ZoneGate
