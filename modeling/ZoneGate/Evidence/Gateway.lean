import ZoneGate.Authorization.Effects
import ZoneGate.Evidence.PlanValidator

/-!
# The evidence gateway

The only caller of the carrier.  It checks the binding of the actor to the device, asks the checks
of the validated plan in a fixed order and normalises the answers; a check the carrier declines
stays unanswered.
-/

namespace ZoneGate

open Py Effects

def defaultZoneRegistry : List (String × Geofence) :=
  [("ZONE_CARGO_BAY_1", ⟨⟨false, 377749, -4⟩, ⟨true, 1224194, -4⟩, 500⟩),
    ("ZONE_PORT_TERMINAL_A", ⟨⟨false, 377899, -4⟩, ⟨true, 1224014, -4⟩, 1000⟩),
    ("PORT_GATE_17", ⟨⟨false, 377955, -4⟩, ⟨true, 1223937, -4⟩, 400⟩),
    ("DEFAULT_ZONE", ⟨⟨false, 377749, -4⟩, ⟨true, 1224194, -4⟩, 1000⟩)]

def supportedCapabilities : Finset EvidenceKind :=
  {.numberVerification, .locationVerification, .simSwap, .deviceSwap, .reachability}

/-- The binding between the actor and the device. -/
def validateActorDeviceBinding (actor : Actor) (binding : DeviceBinding) :
    Except GatewayError Unit :=
  if actor.actorId ≠ binding.actorId then
    .error (.actorDeviceMismatch ("Actor ID '" ++ actor.actorId ++
      "' does not match binding actor ID '" ++ binding.actorId ++ "'"))
  else if actor.registeredPhoneNumber ≠ binding.phoneNumber then
    .error (.actorDeviceMismatch "Registered phone number does not match device binding")
  else if actor.registeredDeviceId ≠ binding.deviceId then
    .error (.actorDeviceMismatch "Registered device ID does not match device binding")
  else if !binding.isActive then
    .error (.actorDeviceMismatch ("Device binding for actor '" ++ actor.actorId ++ "' is inactive"))
  else if actor.enrollmentStatus ≠ "ACTIVE" then
    .error (.actorDeviceMismatch ("Actor '" ++ actor.actorId ++ "' status is '" ++
      actor.enrollmentStatus ++ "', expected 'ACTIVE'"))
  else .ok ()

/-- The first kind of the plan that the gateway does not support is an error. -/
def checkCapabilities (combined : List EvidenceKind) : Except GatewayError Unit :=
  match combined.find? (· ∉ supportedCapabilities) with
  | some kind => .error (.unauthorizedEvidenceRequest ("Evidence kind '" ++ kind.value ++
      "' is not supported or authorized by the gateway"))
  | none => .ok ()

/-- `registry.get(zone, registry["DEFAULT_ZONE"])`; without a default zone the lookup raises. -/
def areaOf (registry : List (String × Geofence)) (zone : String) : Option Geofence :=
  (registry.lookup "DEFAULT_ZONE").map fun default => (registry.lookup zone).getD default

/-- What one reply means for its evidence field, or the exception it raises in the gateway. -/
def readReply (c : CarrierCall) : CarrierReply c.Answer → Except GatewayError (Option Bool)
  | .answered a => .ok (c.read a)
  | .declined _ => .ok none
  | .gatewayError e => .error e
  | .raised message => .error (.gateway ("Nokia carrier gateway communication error: " ++ message))

/-- The five checks in the order of the gateway. -/
def gather {m : Type → Type} [Monad m] (ask : CarrierCall → m (Option Bool)) (phoneNumber : String)
    (area : Geofence) : m (DateTime → CanonicalEvidence) := do
  let numberVerified ← ask (.verifyNumber phoneNumber)
  let locationVerified ← ask (.verifyLocation phoneNumber area)
  let recentSimSwap ← ask (.checkSimSwap phoneNumber)
  let recentDeviceSwap ← ask (.checkDeviceSwap phoneNumber)
  let reachable ← ask (.getReachability phoneNumber)
  return fun now =>
    { numberVerified := numberVerified
      locationVerified := locationVerified
      recentSimSwap := recentSimSwap
      recentDeviceSwap := recentDeviceSwap
      reachable := reachable
      kycMatch := none
      collectedAt := now }

/-- Ask the carrier for a check of the plan; a check that is not planned is not asked. -/
def askCarrier (plan : ValidatedEvidencePlan) (c : CarrierCall) :
    ExceptT GatewayError Service (Option Bool) :=
  ExceptT.mk <|
    if c.kind ∈ plan.combined then do
      let reply ← carrier c
      return readReply c reply
    else return .ok none

/-- `collect_evidence`; its `EvidenceGatewayError`s are caught by the caller. -/
def collectEvidence (registry : List (String × Geofence)) (actor : Actor) (binding : DeviceBinding)
    (transaction : TransactionRequest) (plan : ValidatedEvidencePlan) :
    ExceptT GatewayError Service CanonicalEvidence := do
  validateActorDeviceBinding actor binding
  checkCapabilities plan.combined
  match areaOf registry transaction.zone with
  | none => (Prog.raise (.key "DEFAULT_ZONE") : Service CanonicalEvidence)
  | some area => do
      let evidence ← gather (askCarrier plan) binding.phoneNumber area
      let now ← (utcnow : Service DateTime)
      return evidence now

/-! ## What the gateway collects -/

/-- What asking a check of the plan gives when the carrier replies as `carrier` says. -/
def asked (carrier : (c : CarrierCall) → CarrierReply c.Answer) (plan : ValidatedEvidencePlan)
    (c : CarrierCall) : Except GatewayError (Option Bool) :=
  if c.kind ∈ plan.combined then readReply c (carrier c) else .ok none

section Runs

variable {env : Env} {peers : Peers}

theorem askCarrier_run (plan : ValidatedEvidencePlan) (c : CarrierCall) (w : World) :
    Prog.run (handle env peers) (askCarrier plan c).run w =
      (.ok (asked peers.carrier plan c), w) := by
  simp only [askCarrier, asked, ExceptT.run_mk]
  split_ifs with hkind
  · rfl
  · rfl

/-- The gateway's checks, run, give what the replies say. -/
theorem gather_run {ask : CarrierCall → ExceptT GatewayError Service (Option Bool)}
    {reply : CarrierCall → Except GatewayError (Option Bool)} {w : World}
    (hask : ∀ c, Prog.run (handle env peers) (ask c).run w = (.ok (reply c), w))
    (phoneNumber : String) (area : Geofence) :
    Prog.run (handle env peers) (gather ask phoneNumber area).run w =
      (.ok (gather reply phoneNumber area), w) := by
  have step {β : Type} {f : Option Bool → ExceptT GatewayError Service β}
      {g : Option Bool → Except GatewayError β} (c : CarrierCall)
      (hf : ∀ a, Prog.run (handle env peers) (f a).run w = (.ok (g a), w)) :
      Prog.run (handle env peers) (ask c >>= f).run w = (.ok (reply c >>= g), w) := by
    rw [Prog.run_except_bind, hask]
    rcases reply c with e | a
    · rfl
    · exact hf a
  unfold gather
  exact step _ fun _ => step _ fun _ => step _ fun _ => step _ fun _ => step _ fun _ => rfl

/-- What `collect_evidence` collects, up to the time of collection. -/
def collected (carrier : (c : CarrierCall) → CarrierReply c.Answer) (actor : Actor)
    (binding : DeviceBinding) (area : Geofence) (plan : ValidatedEvidencePlan) :
    Except GatewayError (DateTime → CanonicalEvidence) := do
  validateActorDeviceBinding actor binding
  checkCapabilities plan.combined
  gather (asked carrier plan) binding.phoneNumber area

theorem collectEvidence_run {registry : List (String × Geofence)} {transaction : TransactionRequest}
    {area : Geofence} (harea : areaOf registry transaction.zone = some area) (actor : Actor)
    (binding : DeviceBinding) (plan : ValidatedEvidencePlan) (w : World) :
    Prog.run (handle env peers)
        (collectEvidence registry actor binding transaction plan).run w =
      match collected peers.carrier actor binding area plan with
      | .error e => (.ok (.error e), w)
      | .ok evidence =>
          (.ok (.ok (evidence (env.clock w.readings))), { w with readings := w.readings + 1 }) := by
  simp only [collectEvidence, collected, harea]
  rcases validateActorDeviceBinding actor binding with e | -
  · rfl
  rcases checkCapabilities plan.combined with e | -
  · rfl
  change Prog.run _ (gather (askCarrier plan) binding.phoneNumber area >>= _).run w = _
  rw [Prog.run_except_bind, gather_run fun c => askCarrier_run plan c w]
  rcases gather (asked peers.carrier plan) binding.phoneNumber area with e | evidence <;> rfl

/-- Without a default zone nothing is collected, whatever the carrier. -/
theorem collectEvidence_run_nowhere {registry : List (String × Geofence)}
    {transaction : TransactionRequest} (harea : areaOf registry transaction.zone = none)
    (actor : Actor) (binding : DeviceBinding) (plan : ValidatedEvidencePlan) (w : World) :
    Prog.run (handle env peers)
        (collectEvidence registry actor binding transaction plan).run w =
      match (do validateActorDeviceBinding actor binding
                checkCapabilities plan.combined : Except GatewayError Unit) with
      | .error e => (.ok (.error e), w)
      | .ok () => (.error (.key "DEFAULT_ZONE"), w) := by
  simp only [collectEvidence, harea]
  rcases validateActorDeviceBinding actor binding with e | -
  · rfl
  rcases checkCapabilities plan.combined with e | - <;> rfl

end Runs

/-- The actor and the binding disagree, or one of them is not in force. -/
def Mismatched (actor : Actor) (binding : DeviceBinding) : Prop :=
  actor.actorId ≠ binding.actorId ∨ actor.registeredPhoneNumber ≠ binding.phoneNumber ∨
    actor.registeredDeviceId ≠ binding.deviceId ∨ binding.isActive = false ∨
      actor.enrollmentStatus ≠ "ACTIVE"

/-- The carrier raises on the check instead of answering or declining it. -/
def CarrierReply.Errs {α : Type} (reply : CarrierReply α) : Prop :=
  match reply with
  | .answered _ | .declined _ => False
  | .gatewayError _ | .raised _ => True

/-- The calls the gateway can make for a request. -/
def checks (phoneNumber : String) (area : Geofence) : List CarrierCall :=
  [.verifyNumber phoneNumber, .verifyLocation phoneNumber area, .checkSimSwap phoneNumber,
    .checkDeviceSwap phoneNumber, .getReachability phoneNumber]

theorem validateActorDeviceBinding_eq_ok {actor : Actor} {binding : DeviceBinding} :
    validateActorDeviceBinding actor binding = .ok () ↔ ¬ Mismatched actor binding := by
  unfold validateActorDeviceBinding Mismatched
  split_ifs <;> simp_all

theorem checkCapabilities_eq_ok {combined : List EvidenceKind} :
    checkCapabilities combined = .ok () ↔ ∀ k ∈ combined, k ∈ supportedCapabilities := by
  unfold checkCapabilities
  rcases hk : combined.find? (· ∉ supportedCapabilities) with _ | k
  · simpa using List.find?_eq_none.1 hk
  · have hbad := List.find?_some hk
    simp only [reduceCtorEq, false_iff, not_forall]
    exact ⟨k, List.mem_of_find?_eq_some hk, by simpa using hbad⟩

theorem readReply_eq_error {c : CarrierCall} {reply : CarrierReply c.Answer} :
    (∃ e, readReply c reply = .error e) ↔ reply.Errs := by
  cases reply <;> simp [readReply, CarrierReply.Errs]

theorem asked_eq_error {carrier : (c : CarrierCall) → CarrierReply c.Answer}
    {plan : ValidatedEvidencePlan} {c : CarrierCall} :
    (∃ e, asked carrier plan c = .error e) ↔ c.kind ∈ plan.combined ∧ (carrier c).Errs := by
  unfold asked
  split_ifs with hk
  · simp [hk, readReply_eq_error]
  · simp [hk]

/-- A field is filled when the check is of the plan and its answer says something. -/
theorem asked_eq_some (carrier : (c : CarrierCall) → CarrierReply c.Answer)
    (plan : ValidatedEvidencePlan) (c : CarrierCall) (b : Bool) :
    asked carrier plan c = .ok (some b) ↔
      c.kind ∈ plan.combined ∧ ∃ a, carrier c = .answered a ∧ c.read a = some b := by
  unfold asked
  split_ifs with hk
  · rcases carrier c with a | m | e | m <;> simp [readReply, hk]
  · simp [hk]

/-- A field of a planned check stays empty when the carrier declines or says nothing usable. -/
theorem asked_eq_none {carrier : (c : CarrierCall) → CarrierReply c.Answer}
    {plan : ValidatedEvidencePlan} {c : CarrierCall} (hk : c.kind ∈ plan.combined) :
    asked carrier plan c = .ok none ↔
      (∃ m, carrier c = .declined m) ∨ ∃ a, carrier c = .answered a ∧ c.read a = none := by
  unfold asked
  rw [if_pos hk]
  rcases carrier c with a | m | e | m <;> simp [readReply]

/-- Every kind a validated plan collects is one the gateway supports. -/
theorem Planned.supported {workflowName : String} {policy : WorkflowEvidencePolicy}
    {attestable : Option (Finset EvidenceKind)} {proposedPlan : Option EvidencePlan}
    {plan : ValidatedEvidencePlan} (h : Planned policy attestable proposedPlan plan)
    (hpolicy : getWorkflowPolicy workflowName = .ok policy) {k : EvidenceKind}
    (hk : k ∈ plan.combined) : k ∈ supportedCapabilities := by
  have offered : k ∈ policy.mandatory ∨ k ∈ policy.optional :=
    ((h.combined k).1 hk).1.imp id fun hp => (h.permitted k hp).2
  rw [eq_releaseCargoPolicy hpolicy] at offered
  clear hk
  revert k
  decide

/-- The checks are answered or declined, all of them, and the evidence holds what they said; or
one of them raises. -/
theorem gather_cases (reply : CarrierCall → Except GatewayError (Option Bool))
    (phoneNumber : String) (area : Geofence) :
    (∃ evidence, gather reply phoneNumber area = .ok evidence ∧
        (∀ c ∈ checks phoneNumber area, ∃ a, reply c = .ok a) ∧ ∀ now,
          reply (.verifyNumber phoneNumber) = .ok (evidence now).numberVerified ∧
          reply (.verifyLocation phoneNumber area) = .ok (evidence now).locationVerified ∧
          reply (.checkSimSwap phoneNumber) = .ok (evidence now).recentSimSwap ∧
          reply (.checkDeviceSwap phoneNumber) = .ok (evidence now).recentDeviceSwap ∧
          reply (.getReachability phoneNumber) = .ok (evidence now).reachable ∧
          (evidence now).collectedAt = now ∧ (evidence now).kycMatch = none) ∨
      ∃ e, gather reply phoneNumber area = .error e ∧
        ∃ c ∈ checks phoneNumber area, reply c = .error e := by
  simp only [checks, List.mem_cons, List.not_mem_nil, or_false, forall_eq_or_imp, forall_eq,
    exists_eq_or_imp, exists_eq_left, gather]
  rcases reply (.verifyNumber phoneNumber) with e | number
  · exact .inr ⟨e, rfl, .inl rfl⟩
  rcases reply (.verifyLocation phoneNumber area) with e | location
  · exact .inr ⟨e, rfl, .inr (.inl rfl)⟩
  rcases reply (.checkSimSwap phoneNumber) with e | simSwap
  · exact .inr ⟨e, rfl, .inr (.inr (.inl rfl))⟩
  rcases reply (.checkDeviceSwap phoneNumber) with e | deviceSwap
  · exact .inr ⟨e, rfl, .inr (.inr (.inr (.inl rfl)))⟩
  rcases reply (.getReachability phoneNumber) with e | reachable
  · exact .inr ⟨e, rfl, .inr (.inr (.inr (.inr rfl)))⟩
  exact .inl ⟨_, rfl, ⟨⟨number, rfl⟩, ⟨location, rfl⟩, ⟨simSwap, rfl⟩, ⟨deviceSwap, rfl⟩,
    ⟨reachable, rfl⟩⟩, fun now => ⟨rfl, rfl, rfl, rfl, rfl, rfl, rfl⟩⟩

/-- The evidence fields hold what the carrier said to the checks of the plan. -/
structure Reads (carrier : (c : CarrierCall) → CarrierReply c.Answer) (plan : ValidatedEvidencePlan)
    (phoneNumber : String) (area : Geofence) (evidence : CanonicalEvidence) : Prop where
  number : asked carrier plan (.verifyNumber phoneNumber) = .ok evidence.numberVerified
  location : asked carrier plan (.verifyLocation phoneNumber area) = .ok evidence.locationVerified
  simSwap : asked carrier plan (.checkSimSwap phoneNumber) = .ok evidence.recentSimSwap
  deviceSwap : asked carrier plan (.checkDeviceSwap phoneNumber) = .ok evidence.recentDeviceSwap
  reachable : asked carrier plan (.getReachability phoneNumber) = .ok evidence.reachable

/-- A supported plan is collected unless the binding is at odds or a check of it raises. -/
theorem collected_cases (carrier : (c : CarrierCall) → CarrierReply c.Answer) (actor : Actor)
    (binding : DeviceBinding) (area : Geofence) {plan : ValidatedEvidencePlan}
    (supported : ∀ k ∈ plan.combined, k ∈ supportedCapabilities) :
    (∃ evidence, collected carrier actor binding area plan = .ok evidence ∧
        ¬ Mismatched actor binding ∧
        (∀ c ∈ checks binding.phoneNumber area, c.kind ∈ plan.combined → ¬ (carrier c).Errs) ∧
        ∀ now, Reads carrier plan binding.phoneNumber area (evidence now)) ∨
      ∃ e, collected carrier actor binding area plan = .error e ∧
        (Mismatched actor binding ∨
          ∃ c ∈ checks binding.phoneNumber area, c.kind ∈ plan.combined ∧ (carrier c).Errs) := by
  unfold collected
  rcases hbinding : validateActorDeviceBinding actor binding with e | ⟨⟩
  · refine .inr ⟨e, rfl, .inl ?_⟩
    by_contra h
    simp [validateActorDeviceBinding_eq_ok.2 h] at hbinding
  rw [checkCapabilities_eq_ok.2 supported]
  rcases gather_cases (asked carrier plan) binding.phoneNumber area with
    ⟨evidence, hgather, hreply, hfields⟩ | ⟨e, hgather, c, hc, herr⟩
  · refine .inl ⟨evidence, hgather, validateActorDeviceBinding_eq_ok.1 hbinding,
      fun c hc hk herrs => ?_, fun now => ?_⟩
    · obtain ⟨e, he⟩ := asked_eq_error.2 ⟨hk, herrs⟩
      obtain ⟨a, ha⟩ := hreply c hc
      simp [ha] at he
    · obtain ⟨h1, h2, h3, h4, h5, -⟩ := hfields now
      exact ⟨h1, h2, h3, h4, h5⟩
  · exact .inr ⟨e, hgather, .inr ⟨c, hc, asked_eq_error.1 ⟨e, herr⟩⟩⟩

end ZoneGate
