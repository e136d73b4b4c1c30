import ZoneGate.Api.Enrolment

/-!
# The binding of an enrolment

An enrolment builds the binding of the actor, and the gateway compares the two field by field.
They agree unless the enrolment names a device that is not the registered one: such an actor is
enrolled, with an active binding, and refused for the device on every request.
-/

namespace ZoneGate

open Py Effects

/-! ## Refusals for the device -/

/-- The decision is a refusal because the binding does not match the actor. -/
def RefusedForDevice (decision : PolicyDecision) : Prop :=
  ∃ message, decision.reasons = ["Device binding validation error: " ++ message]

/-- The carrier does not compare the actor with the device. -/
def Peers.LeavesMismatch (peers : Peers) : Prop :=
  ∀ c message, peers.carrier c ≠ .gatewayError (.actorDeviceMismatch message)

/-- The actor and the binding on record pass the gateway. -/
def PassesBinding (kv : Kv) (actorId : String) : Prop :=
  ∃ actor binding, kv (.actors actorId) = some actor ∧
    kv (.deviceBindings actorId) = some binding ∧ validateActorDeviceBinding actor binding = .ok ()

/-- As long as the actor and the binding stay on record, no request of the actor is refused for the
device, whatever else changes. -/
def NeverRefused [Unicode] (kv : Kv) (actorId : String) : Prop :=
  ∀ (svc : AuthorizationService) (env : Env) (peers : Peers) (w : World), peers.LeavesMismatch →
    w.kv (.actors actorId) = kv (.actors actorId) →
    w.kv (.deviceBindings actorId) = kv (.deviceBindings actorId) →
    ∀ (listener : Bool) (transaction : TransactionRequest), transaction.actorId = actorId →
      ∀ result, (Prog.run (handle env peers)
        (svc.authorizeTransaction listener transaction) w).1 = .ok result →
          ¬ RefusedForDevice result.1

/-- The texts of the other refusals begin otherwise. -/
theorem not_device_append {letters : List Char} (rest message : String)
    (h : letters.take 2 ≠ ['D', 'e']) (long : 2 ≤ letters.length) :
    String.ofList letters ++ rest ≠ "Device binding validation error: " ++ message := by
  intro same
  have first := congrArg (fun s : String => s.toList.take 2) same
  simp only [String.toList_append, String.toList_ofList, List.take_append_of_le_length long] at first
  exact h (first.trans (by simp))

section Requests

variable {env : Env} {peers : Peers}

/-- The request is answered with a refusal for the device, exactly if its reason says so. -/
theorem refuse_refusedForDevice {listener : Bool} {transaction : TransactionRequest}
    {now : DateTime} {stage : Stage} {detail reason : String} {w : World}
    (h : ∀ message, reason ≠ "Device binding validation error: " ++ message)
    {result : PolicyDecision × Receipt}
    (returned : (Prog.run (handle env peers) (AuthorizationService.refuse listener transaction now
      stage detail reason) w).1 = .ok result) : ¬ RefusedForDevice result.1 := by
  rw [AuthorizationService.refuse_run] at returned
  obtain rfl := Except.ok.inj returned
  rintro ⟨message, reasons⟩
  exact h message (List.cons.inj reasons).1

/-- The gateway finds a mismatch itself, or not at all. -/
theorem collected_ne_mismatch {actor : Actor} {binding : DeviceBinding} {area : Geofence}
    {plan : ValidatedEvidencePlan} (leaves : peers.LeavesMismatch)
    (valid : validateActorDeviceBinding actor binding = .ok ()) (message : String) :
    collected peers.carrier actor binding area plan ≠ .error (.actorDeviceMismatch message) := by
  intro raised
  rw [collected, valid] at raised
  rcases supported : checkCapabilities plan.combined with e | ⟨⟩
  · rw [supported] at raised
    obtain rfl : e = .actorDeviceMismatch message := Except.error.inj raised
    unfold checkCapabilities at supported
    split at supported <;> cases supported
  rw [supported] at raised
  rcases gather_cases (asked peers.carrier plan) binding.phoneNumber area with
    ⟨evidence, gathers, -⟩ | ⟨e, gathers, c, -, fails⟩
  · cases gathers.symm.trans raised
  · obtain rfl : e = .actorDeviceMismatch message := Except.error.inj (gathers.symm.trans raised)
    unfold asked at fails
    split_ifs at fails
    · rcases reply : peers.carrier c with a | m | e | m <;> rw [reply] at fails
      · cases fails
      · cases fails
      · obtain rfl : e = .actorDeviceMismatch message := Except.error.inj fails
        exact leaves c message reply
      · cases fails

variable [Unicode]

/-- The verdict of the engine is no refusal for the device. -/
theorem verdict_not_refusedForDevice (svc : AuthorizationService) (w : World)
    (transaction : TransactionRequest) (actor : Actor) (plan : ValidatedEvidencePlan)
    (evidence : CanonicalEvidence) (context : Option ContextEvaluation) :
    ¬ RefusedForDevice (svc.verdict env w transaction actor plan evidence context) := by
  rintro ⟨message, only⟩
  obtain ⟨reason, opens, reasons⟩ := PolicyEngine.decide_reasons w.config
    (PolicyEngine.newDecisionId (w.nextHex env)) (env.clock w.readings) transaction actor evidence
    context svc.attestable (some plan.mandatory.toFinset)
  have first : reason = "Device binding validation error: " ++ message := by
    rcases reasons with ⟨-, reasons⟩ | reasons
    · exact (List.cons.inj (reasons.symm.trans only)).1
    · exact (List.cons.inj (reasons.symm.trans only)).1
  have apart : ¬ "Device binding".toList <+: reason.toList := opens.not_prefix (by decide)
  apply apart
  rw [first, String.toList_append]
  exact List.IsPrefix.trans (by decide) (List.prefix_append _ _)

/-- What the pipeline answers once the plan is accepted. -/
theorem collectAndDecide_not_refused {svc : AuthorizationService} {listener : Bool}
    {transaction : TransactionRequest} {now : DateTime} {w : World} {actor : Actor}
    {binding : DeviceBinding} {plan : ValidatedEvidencePlan} (leaves : peers.LeavesMismatch)
    (valid : validateActorDeviceBinding actor binding = .ok ())
    {result : PolicyDecision × Receipt}
    (returned : (Prog.run (handle env peers)
      (svc.collectAndDecide listener transaction now actor binding plan) w).1 = .ok result) :
    ¬ RefusedForDevice result.1 := by
  rcases harea : areaOf svc.zoneRegistry transaction.zone with _ | area
  · rw [svc.collectAndDecide_run_nowhere _ harea, valid] at returned
    rcases supported : checkCapabilities plan.combined with e | ⟨⟩
    · rw [supported] at returned
      refine refuse_refusedForDevice (fun message => ?_) returned
      unfold checkCapabilities at supported
      split at supported
      · obtain rfl := Except.error.inj supported
        exact not_device_append _ message (by decide) (by decide)
      · cases supported
    · rw [supported] at returned
      cases returned
  rw [svc.collectAndDecide_run _ harea] at returned
  rcases collects : collected peers.carrier actor binding area plan with e | evidence
  · rw [collects] at returned
    refine refuse_refusedForDevice (fun message => ?_) returned
    cases e with
    | actorDeviceMismatch m => exact absurd collects (collected_ne_mismatch leaves valid m)
    | unauthorizedEvidenceRequest m => exact not_device_append _ message (by decide) (by decide)
    | gateway m => exact not_device_append _ message (by decide) (by decide)
  · rw [collects] at returned
    dsimp only at returned
    rw [svc.decideAndPersist_run] at returned
    dsimp only at returned
    split_ifs at returned
    · obtain rfl := Except.ok.inj returned
      exact verdict_not_refusedForDevice _ _ _ _ _ _ _
    · obtain rfl := Except.ok.inj returned
      exact verdict_not_refusedForDevice _ _ _ _ _ _ _

/-- A request of an actor whose binding passes is not refused for the device. -/
theorem authorizeTransaction_not_refused {svc : AuthorizationService} {listener : Bool}
    {transaction : TransactionRequest} {w : World} {actor : Actor} {binding : DeviceBinding}
    (leaves : peers.LeavesMismatch) (enrolled : w.kv (.actors transaction.actorId) = some actor)
    (bound : w.kv (.deviceBindings transaction.actorId) = some binding)
    (valid : validateActorDeviceBinding actor binding = .ok ())
    {result : PolicyDecision × Receipt}
    (returned : (Prog.run (handle env peers)
      (svc.authorizeTransaction listener transaction) w).1 = .ok result) :
    ¬ RefusedForDevice result.1 := by
  rw [svc.authorizeTransaction_run, enrolled, bound] at returned
  dsimp only at returned
  rw [svc.planAndCollect_run] at returned
  rcases policies : getWorkflowPolicy transaction.action with message | policy
  · rw [policies] at returned
    refine refuse_refusedForDevice (fun message => ?_) returned
    rw [String.append_assoc, String.append_assoc]
    exact not_device_append _ message (by decide) (by decide)
  rw [policies] at returned
  dsimp only at returned
  rcases validates : validateWith policy svc.attestable transaction.action
    (svc.proposal peers transaction policy) with (m | m | m) | plan
  all_goals rw [validates] at returned
  · cases returned
  · exact refuse_refusedForDevice
      (fun message => not_device_append _ message (by decide) (by decide)) returned
  · exact refuse_refusedForDevice
      (fun message => not_device_append _ message (by decide) (by decide)) returned
  · exact collectAndDecide_not_refused leaves valid returned

end Requests

/-! ## What an enrolment binds -/

namespace ActorsController

section Enrolment

variable [Unicode] {env : Env} {peers : Peers} {console : ConsoleAuthService} {salt : Bytes}
  {cookie : Option String} {data : EnrollmentRequest} {w : World} {response : EnrollmentResponse}

/-- An enrolment that is answered was asked for by an authority. -/
theorem signedIn_of_accepted
    (accepted : (Prog.run (handle env peers) (enrollActor console salt cookie data).run w).1 =
      .ok (.ok response)) : ∃ authority, SignedIn env w cookie authority := by
  by_contra nobody
  obtain ⟨w', refused, -⟩ := requireConsoleActor_run_refused peers (not_exists.1 nobody)
  rw [enrollActor, Prog.run_except_bind, refused] at accepted
  cases accepted

/-- An enrolment that is answered leaves the actor and the binding on record. -/
theorem enrollActor_accepted
    (accepted : (Prog.run (handle env peers) (enrollActor console salt cookie data).run w).1 =
      .ok (.ok response)) :
    let w' := (Prog.run (handle env peers) (enrollActor console salt cookie data).run w).2
    w'.kv (.actors data.actor.actorId) = some data.actor ∧
      w'.kv (.deviceBindings data.actor.actorId) = some (bindingAt env w data) := by
  obtain ⟨authority, signedIn⟩ := signedIn_of_accepted accepted
  have stored : (enrolled w.tick.tick data.actor (bindingAt env w data)).kv
        (.actors data.actor.actorId) = some data.actor ∧
      (enrolled w.tick.tick data.actor (bindingAt env w data)).kv
        (.deviceBindings data.actor.actorId) = some (bindingAt env w data) := by
    constructor
    · exact (StoreCall.saveActor_actors w.kv data.actor _).trans (if_pos rfl)
    · exact (StoreCall.saveDeviceBinding_deviceBindings _ (bindingAt env w data) _).trans
        (if_pos rfl)
  rw [enrollActor_run signedIn] at accepted ⊢
  rcases data.password.filter (· ≠ "") with _ | password
  · exact stored
  have keeps := @initialPassword_keeps env peers console salt data.actor.actorId password
    (enrolled w.tick.tick data.actor (bindingAt env w data))
  dsimp only
  generalize Prog.run (handle env peers)
    (initialPassword console salt data.actor.actorId password).run _ = result at keeps ⊢
  -- a credential is none of the two records
  have both : result.2.kv (.actors data.actor.actorId) = some data.actor ∧
      result.2.kv (.deviceBindings data.actor.actorId) = some (bindingAt env w data) := by
    rcases keeps with same | ⟨credential, same⟩
    · rwa [same]
    · rw [same]
      exact stored
  obtain ⟨e | (e | ⟨⟩), w''⟩ := result <;> exact both

omit [Unicode] in
/-- The actor and the binding of an enrolment pass the gateway exactly when the registered device is
bound and the enrolment is in force. -/
theorem validate_bindingFor (data : EnrollmentRequest) (now : DateTime)
    (active : data.actor.enrollmentStatus = "ACTIVE") :
    validateActorDeviceBinding data.actor (bindingFor data now) = .ok () ↔
      ∀ d ∈ data.deviceId, d ≠ "" → d = data.actor.registeredDeviceId := by
  rw [validateActorDeviceBinding_eq_ok]
  have device : ¬ Mismatched data.actor (bindingFor data now) ↔
      data.actor.registeredDeviceId = (bindingFor data now).deviceId := by
    simp [Mismatched, bindingFor, active]
  rw [device, bindingFor]
  rcases data.deviceId with _ | d
  · simp
  by_cases given : d = ""
  · subst given
    exact iff_of_true rfl (by simp)
  · simp [Option.filter, given, eq_comm]

/-- The actor and the binding that an enrolment leaves pass the gateway, and no request of the actor
is refused for the device while they stand, exactly when the enrolment names no device but the
registered one. -/
theorem enrolled_passes_iff (env : Env) (peers : Peers) (console : ConsoleAuthService)
    (salt : Bytes) (w : World) (cookie : Option String) (data : EnrollmentRequest)
    (response : EnrollmentResponse)
    (accepted : (Prog.run (handle env peers) (enrollActor console salt cookie data).run w).1 =
      .ok (.ok response)) (active : data.actor.enrollmentStatus = "ACTIVE") :
    let kv := (Prog.run (handle env peers) (enrollActor console salt cookie data).run w).2.kv
    PassesBinding kv data.actor.actorId ∧ NeverRefused kv data.actor.actorId ↔
      ∀ d ∈ data.deviceId, d ≠ "" → d = data.actor.registeredDeviceId := by
  intro kv
  obtain ⟨stored, bound⟩ : kv (.actors data.actor.actorId) = some data.actor ∧
      kv (.deviceBindings data.actor.actorId) = some (bindingAt env w data) :=
    enrollActor_accepted accepted
  rw [← validate_bindingFor data (env.clock w.tick.readings) active]
  constructor
  · rintro ⟨⟨actor, binding, hactor, hbinding, valid⟩, -⟩
    obtain rfl := Option.some.inj (stored.symm.trans hactor)
    obtain rfl := Option.some.inj (bound.symm.trans hbinding)
    exact valid
  · intro valid
    refine ⟨⟨data.actor, _, stored, bound, valid⟩, ?_⟩
    rintro svc env' peers' w' leaves sameActor sameBinding listener transaction hid result returned
    rw [← hid] at sameActor sameBinding stored bound
    exact authorizeTransaction_not_refused leaves (sameActor.trans stored)
      (sameBinding.trans bound) valid returned

end Enrolment

end ActorsController

/-! ## A replaced device -/

namespace Sample

/-- An operator with one device registered and another one to be bound. -/
def swapped : EnrollmentRequest where
  actor :=
    { actorId := "usr_swap"
      role := "ROLE_CARGO_OPERATOR"
      permissions := ["cargo:release"]
      registeredPhoneNumber := "+14155550199"
      registeredDeviceId := "dev_original" }
  deviceId := some "dev_replacement"
  password_length := EnrollmentRequest.length_none

/-- The binding of the other device. -/
def swappedBinding : DeviceBinding where
  actorId := "usr_swap"
  phoneNumber := "+14155550199"
  deviceId := "dev_replacement"
  boundAt := ⟨0⟩

/-- The enrolment of the operator by the supervisor. -/
def swapEnrolled : Except ServiceError (Except ApiError EnrollmentResponse) × World :=
  Prog.run (handle env peers)
    (@ActorsController.enrollActor unicode console [] (some "session") swapped).run signedIn

theorem swapEnrolled_accepted :
    swapEnrolled.1 = .ok (.ok ⟨swapped.actor, swappedBinding⟩) := by decide +kernel

end Sample

open ActorsController in
theorem enrolled_passes_iff_swapped :
    PassesBinding Sample.swapEnrolled.2.kv Sample.swapped.actor.actorId ∧
        @NeverRefused Sample.unicode Sample.swapEnrolled.2.kv Sample.swapped.actor.actorId ↔
      ∀ d ∈ Sample.swapped.deviceId, d ≠ "" → d = Sample.swapped.actor.registeredDeviceId :=
  @enrolled_passes_iff Sample.unicode Sample.env Sample.peers Sample.console [] Sample.signedIn
    (some "session") Sample.swapped _ Sample.swapEnrolled_accepted rfl

/-- The enrolment is answered with an active binding of the other device, and the gateway refuses
the pair. -/
theorem swapped_device_refused :
    Sample.swapEnrolled.1 = .ok (.ok ⟨Sample.swapped.actor, Sample.swappedBinding⟩) ∧
      Sample.swapped.actor.enrollmentStatus = "ACTIVE" ∧
      ¬ PassesBinding Sample.swapEnrolled.2.kv Sample.swapped.actor.actorId := by
  refine ⟨Sample.swapEnrolled_accepted, rfl, ?_⟩
  rintro ⟨actor, binding, stored, bound, valid⟩
  have enrolled : Sample.swapEnrolled.2.kv (.actors "usr_swap") = some Sample.swapped.actor := by
    decide +kernel
  have binds : Sample.swapEnrolled.2.kv (.deviceBindings "usr_swap") =
      some Sample.swappedBinding := by
    decide +kernel
  obtain rfl := Option.some.inj (enrolled.symm.trans stored)
  obtain rfl := Option.some.inj (binds.symm.trans bound)
  revert valid
  decide

end ZoneGate
