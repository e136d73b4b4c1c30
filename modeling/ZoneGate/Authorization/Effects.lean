import ZoneGate.Library.Prog
import ZoneGate.Storage.Keyed
import ZoneGate.Authorization.Progress

/-!
# What the service calls

The service awaits the store, the carrier, the planning and evaluating agents and the listener,
and it reads the clock, the random identifiers and the configuration of the running engine.  Each
is a call of one effect interface.  `handle` answers the calls of one request on a `World`, with
the clock and the identifiers from an `Env` and the carrier and the agents from its `Peers`.
-/

namespace ZoneGate

open Py Effects

/-! ## The carrier -/

/-- `verificationResult` of a location answer. -/
inductive VerificationResult
  | true | false | partialMatch | unknown
deriving DecidableEq, Repr

inductive ReachabilityStatus
  | connectedData | connectedSms | notConnected | unknown
deriving DecidableEq, Repr

structure ReachabilityResponse where
  reachabilityStatus : Option ReachabilityStatus := none
  reachable : Option Bool := none
deriving DecidableEq, Repr

/-- `None` when neither surface said anything usable. -/
def ReachabilityResponse.isReachable (r : ReachabilityResponse) : Option Bool :=
  match r.reachable with
  | some b => some b
  | none => r.reachabilityStatus.map fun s => s = .connectedData ∨ s = .connectedSms

/-- Latitude, longitude and radius in meters. -/
structure Geofence where
  latitude : Decimal
  longitude : Decimal
  radius : ℤ
deriving DecidableEq, Repr

/-- A method of the carrier client with its arguments. -/
inductive CarrierCall
  | verifyNumber (phoneNumber : String)
  | verifyLocation (phoneNumber : String) (area : Geofence)
  | checkSimSwap (phoneNumber : String)
  | checkDeviceSwap (phoneNumber : String)
  | getReachability (phoneNumber : String)
deriving DecidableEq, Repr

namespace CarrierCall

@[reducible] def Answer : CarrierCall → Type
  | verifyNumber _ => Bool
  | verifyLocation _ _ => VerificationResult
  | checkSimSwap _ => Bool
  | checkDeviceSwap _ => Bool
  | getReachability _ => ReachabilityResponse

/-- The check the method performs. -/
def kind : CarrierCall → EvidenceKind
  | verifyNumber _ => .numberVerification
  | verifyLocation _ _ => .locationVerification
  | checkSimSwap _ => .simSwap
  | checkDeviceSwap _ => .deviceSwap
  | getReachability _ => .reachability

/-- The value of the evidence field that the answer is read into. -/
def read : (c : CarrierCall) → c.Answer → Option Bool
  | verifyNumber _, verified => some verified
  | verifyLocation _ _, result => some (result = .true)
  | checkSimSwap _, swapped => some swapped
  | checkDeviceSwap _, swapped => some swapped
  | getReachability _, response => response.isReachable

end CarrierCall

/-- `EvidenceGatewayError` and its subclasses. -/
inductive GatewayError
  | actorDeviceMismatch (message : String)
  | unauthorizedEvidenceRequest (message : String)
  | gateway (message : String)
deriving DecidableEq, Repr

def GatewayError.message : GatewayError → String
  | actorDeviceMismatch message => message
  | unauthorizedEvidenceRequest message => message
  | gateway message => message

/-- A carrier answers a check, declines it (`CarrierCapabilityUnavailableError`), or raises. -/
inductive CarrierReply (α : Type)
  | answered (a : α)
  | declined (message : String)
  | gatewayError (e : GatewayError)
  | raised (message : String)
deriving DecidableEq, Repr

/-! ## The agents -/

/-- What the graph around an agent returns: the agent's own result, nothing because the agent
raised inside its node, or the graph itself raised. -/
inductive AgentReply (α : Type)
  | returned (a : Option α)
  | raised (message : String)
  | failed (message : String)
deriving DecidableEq, Repr

/-! ## The interface -/

inductive Effect
  | store (c : StoreCall)
  | utcnow
  | uuid4
  | engineConfig
  | setEngineConfig (config : PolicyConfig)
  | notify (event : StageEvent)
  | plan (transaction : TransactionRequest) (workflowName : String)
      (allowedOptional : Finset EvidenceKind)
  | evaluateContext (transaction : TransactionRequest) (evidence : CanonicalEvidence)
  | carrier (c : CarrierCall)

/-- The reply; `uuid4` is the hexadecimal form. -/
@[reducible] def Effect.Reply : Effect → Type
  | store c => c.Reply
  | utcnow => DateTime
  | uuid4 => String
  | engineConfig => PolicyConfig
  | setEngineConfig _ => Unit
  | notify _ => Unit
  | plan _ _ _ => AgentReply EvidencePlan
  | evaluateContext _ _ => AgentReply ContextEvaluation
  | carrier c => CarrierReply c.Answer

@[reducible] def Services : Interface := ⟨Effect, Effect.Reply⟩

/-- The exceptions that leave the service. -/
inductive ServiceError
  | decisionNotFound (message : String)
  | holdAuthority (message : String)
  | holdResolution (message : String)
  | value (message : String)
  | type (message : String)
  | key (key : String)
  | store (message : String)
deriving DecidableEq, Repr

/-- A coroutine of the service. -/
abbrev Service := Prog Services ServiceError

/-- Await a store method. -/
abbrev store (c : StoreCall) : Service c.Reply := Prog.perform (I := Services) (Effect.store c)

abbrev utcnow : Service DateTime := Prog.perform (I := Services) Effect.utcnow

abbrev uuid4 : Service String := Prog.perform (I := Services) Effect.uuid4

abbrev engineConfig : Service PolicyConfig := Prog.perform (I := Services) Effect.engineConfig

/-- Tell the listener. -/
abbrev notify (event : StageEvent) : Service Unit :=
  Prog.perform (I := Services) (Effect.notify event)

/-- Run the planning graph. -/
abbrev invokePlanner (transaction : TransactionRequest) (workflowName : String)
    (allowedOptional : Finset EvidenceKind) : Service (AgentReply EvidencePlan) :=
  Prog.perform (I := Services) (Effect.plan transaction workflowName allowedOptional)

/-- Run the context graph. -/
abbrev invokeEvaluator (transaction : TransactionRequest) (evidence : CanonicalEvidence) :
    Service (AgentReply ContextEvaluation) :=
  Prog.perform (I := Services) (Effect.evaluateContext transaction evidence)

/-- Await a method of the carrier client. -/
abbrev carrier (c : CarrierCall) : Service (CarrierReply c.Answer) :=
  Prog.perform (I := Services) (Effect.carrier c)

/-! ## The world of a request -/

/-- The clock and the random identifiers, each by the number of earlier readings. -/
structure Env where
  clock : ℕ → DateTime
  uuid : ℕ → String

/-- The carrier and the agents a request meets. -/
structure Peers where
  carrier : (c : CarrierCall) → CarrierReply c.Answer
  planner : TransactionRequest → String → Finset EvidenceKind → AgentReply EvidencePlan
  evaluator : TransactionRequest → CanonicalEvidence → AgentReply ContextEvaluation

/-- The store, the configuration of the running engine, the clock readings so far, and the
identifiers drawn so far, newest first. -/
structure World where
  kv : Kv
  config : PolicyConfig
  readings : ℕ := 0
  drawn : List String := []

/-- Answer the calls of a request that meets the peers; every store call completes. -/
def handle (env : Env) (peers : Peers) : Handler Services ServiceError World
  | .store c, w => (.ok (c.answer w.kv), { w with kv := c.exec w.kv })
  | .utcnow, w => (.ok (env.clock w.readings), { w with readings := w.readings + 1 })
  | .uuid4, w =>
      (.ok (env.uuid w.drawn.length), { w with drawn := env.uuid w.drawn.length :: w.drawn })
  | .engineConfig, w => (.ok w.config, w)
  | .setEngineConfig config, w => (.ok (), { w with config := config })
  | .notify _, w => (.ok (), w)
  | .plan transaction workflowName allowed, w =>
      (.ok (peers.planner transaction workflowName allowed), w)
  | .evaluateContext transaction evidence, w => (.ok (peers.evaluator transaction evidence), w)
  | .carrier c, w => (.ok (peers.carrier c), w)

/-- No call of a request raises. -/
theorem handle_ok (env : Env) (peers : Peers) (e : Effect) (w : World) :
    ∃ r w', handle env peers e w = (.ok r, w') := by
  cases e <;> exact ⟨_, _, rfl⟩

theorem handle_keyed {env : Env} {peers : Peers} (e : Effect) (w : World) (h : w.kv.Keyed) :
    (handle env peers e w).2.kv.Keyed := by
  cases e with
  | store c => exact c.exec_keyed h
  | _ => exact h

theorem handle_readings {env : Env} {peers : Peers} (e : Effect) (w : World) :
    w.readings ≤ (handle env peers e w).2.readings := by
  cases e with
  | utcnow => exact Nat.le_succ _
  | _ => exact Nat.le_refl _

theorem handle_stored {env : Env} {peers : Peers} (e : Effect) (w : World) (h : w.kv.Stored) :
    (handle env peers e w).2.kv.Stored := by
  cases e with
  | store c => exact h.exec c
  | _ => exact h

/-- A run leaves contents that store calls can produce. -/
theorem run_stored {env : Env} {peers : Peers} {α : Type} (p : Service α) {w : World}
    (h : w.kv.Stored) : (p.run (handle env peers) w).2.kv.Stored :=
  p.run_keeps (P := fun s : World => s.kv.Stored) handle_stored h

/-- The same, with store calls that may raise.  `fails` says which, by their number in the run; a
call that raises leaves the store as it was. -/
def handleFailing (fails : ℕ → Option String) (env : Env) (peers : Peers) :
    Handler Services ServiceError (World × ℕ)
  | .store c, (w, n) =>
      match fails n with
      | some message => (.error (.store message), (w, n + 1))
      | none => ((handle env peers (.store c) w).1,
          ((handle env peers (.store c) w).2, n + 1))
  | e, (w, n) => ((handle env peers e w).1, ((handle env peers e w).2, n))

/-- A store call is handled as its job runs on a database without faults. -/
theorem handle_job {env : Env} {peers : Peers} {faults : ℕ → Bool} (quiet : ∀ k, faults k = false)
    (c : StoreCall) (w : World) (n : ℕ) :
    ∃ r m, handle env peers (.store c) w = (.ok r, { w with kv := c.exec w.kv }) ∧
      (c.job faults).on ⟨w.kv, none, n⟩ = (.ok r, ⟨c.exec w.kv, none, m⟩) := by
  obtain ⟨m, completes⟩ := c.job_on_quiet quiet w.kv n
  exact ⟨_, m, rfl, completes⟩

/-- On a database with faults the job completes or raises, and `handleFailing` can do either. -/
theorem handleFailing_job {env : Env} {peers : Peers} (faults : ℕ → Bool) (c : StoreCall)
    (w : World) (n : ℕ) :
    ∃ fails, ((c.job faults).on ⟨w.kv, none, n⟩).2.committed =
        (handleFailing fails env peers (.store c) (w, 0)).2.1.kv ∧
      (((c.job faults).on ⟨w.kv, none, n⟩).1.isOk ↔
        (handleFailing fails env peers (.store c) (w, 0)).1.isOk) := by
  rcases StoreCall.job_on faults c w.kv n with ⟨m, completes⟩ | ⟨e, m, -, -, -, raises⟩
  · rw [completes]
    exact ⟨fun _ => none, rfl, Iff.rfl⟩
  · rw [raises]
    exact ⟨fun _ => some "", rfl, Iff.rfl⟩

/-! ## Running on a world -/

namespace World

variable (env : Env)

/-- The world after a completed store call. -/
def after (w : World) (c : StoreCall) : World := { w with kv := c.exec w.kv }

/-- The world after the clock was read. -/
def tick (w : World) : World := { w with readings := w.readings + 1 }

/-- The identifier that is drawn next. -/
def nextHex (w : World) : String := env.uuid w.drawn.length

/-- The world after an identifier was drawn. -/
def draw (w : World) : World := { w with drawn := w.nextHex env :: w.drawn }

@[simp] theorem kv_after (w : World) (c : StoreCall) : (w.after c).kv = c.exec w.kv := rfl

@[simp] theorem config_after (w : World) (c : StoreCall) : (w.after c).config = w.config := rfl

@[simp] theorem readings_after (w : World) (c : StoreCall) :
    (w.after c).readings = w.readings := rfl

@[simp] theorem drawn_after (w : World) (c : StoreCall) : (w.after c).drawn = w.drawn := rfl

@[simp] theorem kv_tick (w : World) : w.tick.kv = w.kv := rfl

@[simp] theorem config_tick (w : World) : w.tick.config = w.config := rfl

@[simp] theorem drawn_tick (w : World) : w.tick.drawn = w.drawn := rfl

@[simp] theorem nextHex_tick (w : World) : w.tick.nextHex env = w.nextHex env := rfl

@[simp] theorem kv_draw (w : World) : (w.draw env).kv = w.kv := rfl

@[simp] theorem config_draw (w : World) : (w.draw env).config = w.config := rfl

@[simp] theorem drawn_draw (w : World) :
    (w.draw env).drawn = w.nextHex env :: w.drawn := rfl

@[simp] theorem after_getActor (w : World) (id : String) : w.after (.getActor id) = w := rfl

@[simp] theorem after_getDeviceBinding (w : World) (id : String) :
    w.after (.getDeviceBinding id) = w := rfl

@[simp] theorem after_getCredential (w : World) (id : String) :
    w.after (.getCredential id) = w := rfl

@[simp] theorem after_getConsoleSession (w : World) (id : String) :
    w.after (.getConsoleSession id) = w := rfl

@[simp] theorem after_getTransaction (w : World) (id : String) :
    w.after (.getTransaction id) = w := rfl

@[simp] theorem after_getDecision (w : World) (id : String) : w.after (.getDecision id) = w := rfl

@[simp] theorem after_getReceiptByTransactionId (w : World) (id : String) :
    w.after (.getReceiptByTransactionId id) = w := rfl

@[simp] theorem after_getToken (w : World) (id : String) : w.after (.getToken id) = w := rfl

end World

section Runs

variable {env : Env} {peers : Peers} {α : Type} {w : World}

@[simp] theorem run_store (c : StoreCall) (next : c.Reply → Service α) :
    Prog.run (handle env peers) (.call (Effect.store c) next) w =
      (next (c.answer w.kv)).run (handle env peers) (w.after c) := by
  rw [Prog.run_call]
  rfl

@[simp] theorem run_utcnow (next : DateTime → Service α) :
    Prog.run (handle env peers) (.call Effect.utcnow next) w =
      (next (env.clock w.readings)).run (handle env peers) w.tick := by
  rw [Prog.run_call]
  rfl

@[simp] theorem run_uuid4 (next : String → Service α) :
    Prog.run (handle env peers) (.call Effect.uuid4 next) w =
      (next (w.nextHex env)).run (handle env peers) (w.draw env) := by
  rw [Prog.run_call]
  rfl

@[simp] theorem run_engineConfig (next : PolicyConfig → Service α) :
    Prog.run (handle env peers) (.call Effect.engineConfig next) w =
      (next w.config).run (handle env peers) w := by
  rw [Prog.run_call]
  rfl

@[simp] theorem run_notify (event : StageEvent) (next : Unit → Service α) :
    Prog.run (handle env peers) (.call (Effect.notify event) next) w =
      (next ()).run (handle env peers) w := by
  rw [Prog.run_call]
  rfl

@[simp] theorem run_plan (transaction : TransactionRequest) (workflowName : String)
    (allowed : Finset EvidenceKind) (next : AgentReply EvidencePlan → Service α) :
    Prog.run (handle env peers) (.call (Effect.plan transaction workflowName allowed) next) w =
      (next (peers.planner transaction workflowName allowed)).run (handle env peers) w := by
  rw [Prog.run_call]
  rfl

@[simp] theorem run_evaluateContext (transaction : TransactionRequest)
    (evidence : CanonicalEvidence) (next : AgentReply ContextEvaluation → Service α) :
    Prog.run (handle env peers) (.call (Effect.evaluateContext transaction evidence) next) w =
      (next (peers.evaluator transaction evidence)).run (handle env peers) w := by
  rw [Prog.run_call]
  rfl

/-! ### With store calls that raise -/

variable {fails : ℕ → Option String} {n : ℕ}

theorem run_store_failing_ok (hn : fails n = none) (c : StoreCall) (next : c.Reply → Service α) :
    Prog.run (handleFailing fails env peers) (.call (Effect.store c) next) (w, n) =
      (next (c.answer w.kv)).run (handleFailing fails env peers) (w.after c, n + 1) := by
  rw [Prog.run_call]
  simp only [handleFailing, hn]
  rfl

theorem run_store_failing_error {message : String} (hn : fails n = some message) (c : StoreCall)
    (next : c.Reply → Service α) :
    Prog.run (handleFailing fails env peers) (.call (Effect.store c) next) (w, n) =
      (.error (.store message), (w, n + 1)) := by
  rw [Prog.run_call]
  simp only [handleFailing, hn]

theorem run_utcnow_failing (next : DateTime → Service α) :
    Prog.run (handleFailing fails env peers) (.call Effect.utcnow next) (w, n) =
      (next (env.clock w.readings)).run (handleFailing fails env peers) (w.tick, n) := by
  rw [Prog.run_call]
  rfl

theorem run_uuid4_failing (next : String → Service α) :
    Prog.run (handleFailing fails env peers) (.call Effect.uuid4 next) (w, n) =
      (next (w.nextHex env)).run (handleFailing fails env peers) (w.draw env, n) := by
  rw [Prog.run_call]
  rfl

end Runs

end ZoneGate
