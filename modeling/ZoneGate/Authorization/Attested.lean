import ZoneGate.Authorization.Grounds
import ZoneGate.Authorization.Pipeline
import ZoneGate.Evidence.Collected

/-!
# What an approval rests on

A request puts the planned checks to the carrier and decides on the replies.  Whoever answers, and
whatever other requests do in between, an approval has behind it the permission of the actor, a
binding in force, and for every mandatory check that the carrier can attest a reply that passes.
-/

namespace ZoneGate

open Py Effects

section Replies

variable (transaction : TransactionRequest) (actor : Actor) (binding : DeviceBinding)

/-- The carrier has replied so to the check, and the actor and the binding had been read before. -/
def Replied (past : List (Handled Services)) (c : CarrierCall) (reply : CarrierReply c.Answer) :
    Prop :=
  ∃ first rest, past = first ++ ⟨Effect.carrier c, reply⟩ :: rest ∧
    HasRead transaction actor binding first

/-- The field of a check says what the carrier has replied to it, or is empty where the check was
not planned. -/
def Filled (past : List (Handled Services)) (plan : ValidatedEvidencePlan) (c : CarrierCall)
    (field : Option Bool) : Prop :=
  if c.kind ∈ plan.combined then
    ∃ reply, Replied transaction actor binding past c reply ∧ readReply c reply = .ok field
  else field = none

/-- All fields of the evidence do. -/
def FilledFrom (past : List (Handled Services)) (plan : ValidatedEvidencePlan)
    (phoneNumber : String) (area : Geofence) (evidence : CanonicalEvidence) : Prop :=
  ∀ x ∈ evidence.fields phoneNumber area, Filled transaction actor binding past plan x.1 x.2

variable {transaction actor binding} {past past' : List (Handled Services)}
  {plan : ValidatedEvidencePlan}

theorem Replied.mono {c : CarrierCall} {reply : CarrierReply c.Answer}
    (h : Replied transaction actor binding past c reply) (longer : past <+: past') :
    Replied transaction actor binding past' c reply := by
  obtain ⟨first, rest, rfl, read⟩ := h
  obtain ⟨more, rfl⟩ := longer
  exact ⟨first, rest ++ more, by rw [List.append_assoc, List.cons_append], read⟩

theorem Filled.mono {c : CarrierCall} {field : Option Bool}
    (h : Filled transaction actor binding past plan c field) (longer : past <+: past') :
    Filled transaction actor binding past' plan c field := by
  unfold Filled at h ⊢
  split_ifs at h ⊢
  · exact h.imp fun _ found => ⟨found.1.mono longer, found.2⟩
  · exact h

theorem FilledFrom.mono {phoneNumber : String} {area : Geofence} {evidence : CanonicalEvidence}
    (h : FilledFrom transaction actor binding past plan phoneNumber area evidence)
    (longer : past <+: past') :
    FilledFrom transaction actor binding past' plan phoneNumber area evidence :=
  fun x mem => (h x mem).mono longer

end Replies

/-- The answers that let a release through. -/
def Passes (c : CarrierCall) (a : c.Answer) : Prop := c.read a = some true

/-- What an approval of the transaction rests on. -/
structure AttestedFor (svc : AuthorizationService) (past : List (Handled Services))
    (transaction : TransactionRequest) (actor : Actor) (binding : DeviceBinding) (area : Geofence) :
    Prop where
  read : HasRead transaction actor binding past
  bound : ¬ Mismatched actor binding
  located : areaOf svc.zoneRegistry transaction.zone = some area
  passed : ∀ c ∈ checks binding.phoneNumber area, c.kind ∈ svc.requires releaseCargoPolicy →
    ∃ a, Replied transaction actor binding past c (.answered a) ∧ Passes c a

/-- The decision is about a transaction that was asked for, and that the request has been through
all of this for. -/
def Attested (svc : AuthorizationService) (asked : TransactionRequest → Prop)
    (past : List (Handled Services)) (d : PolicyDecision) : Prop :=
  ∃ transaction actor binding area, asked transaction ∧
    d.transactionId = transaction.transactionId ∧
      AttestedFor svc past transaction actor binding area

theorem AttestedFor.mono {svc : AuthorizationService} {past past' : List (Handled Services)}
    {transaction : TransactionRequest} {actor : Actor} {binding : DeviceBinding} {area : Geofence}
    (h : AttestedFor svc past transaction actor binding area) (longer : past <+: past') :
    AttestedFor svc past' transaction actor binding area :=
  ⟨h.read.mono longer.subset, h.bound, h.located, fun c mem required =>
    (h.passed c mem required).imp fun _ found => ⟨found.1.mono longer, found.2⟩⟩

theorem Attested.mono {svc : AuthorizationService} {asked : TransactionRequest → Prop}
    {past past' : List (Handled Services)} {d : PolicyDecision} (h : Attested svc asked past d)
    (longer : past <+: past') : Attested svc asked past' d := by
  obtain ⟨transaction, actor, binding, area, asks, about, attested⟩ := h
  exact ⟨transaction, actor, binding, area, asks, about, attested.mono longer⟩

/-! ## Collecting -/

section Collecting

variable {φ : List (Handled Services) → Effect → Prop} (asks : ∀ past c, φ past (.carrier c))
  {transaction : TransactionRequest} {actor : Actor} {binding : DeviceBinding}
  {plan : ValidatedEvidencePlan} {past : List (Handled Services)}
  (read : HasRead transaction actor binding past)

include asks read in
theorem askCarrier_filled (c : CarrierCall) :
    Prog.Upholds φ (fun past' result => ∀ field, result = .ok (.ok field) →
      Filled transaction actor binding past' plan c field) (askCarrier plan c).run past := by
  simp only [askCarrier, ExceptT.run_mk]
  split_ifs with planned
  · refine ⟨asks .., fun _ => (by rintro _ ⟨⟩), fun reply field given => ?_⟩
    rw [Filled, if_pos planned]
    exact ⟨reply, ⟨past, [], rfl, read⟩, Except.ok.inj given⟩
  · intro field given
    rw [Filled, if_neg planned]
    cases given
    rfl

include asks read in
/-- One check, before the ones that come after it. -/
theorem ask_bind_filled {β : Type} {c : CarrierCall}
    {f : Option Bool → ExceptT GatewayError Service β} {Q : List (Handled Services) → β → Prop}
    (rest : ∀ past' field, past <+: past' → HasRead transaction actor binding past' →
      Filled transaction actor binding past' plan c field →
        Prog.Upholds φ (fun past' result => ∀ b, result = .ok (.ok b) → Q past' b) (f field).run
          past') :
    Prog.Upholds φ (fun past' result => ∀ b, result = .ok (.ok b) → Q past' b)
      (askCarrier plan c >>= f).run past :=
  (askCarrier_filled asks read c).extends_past.except_bind
    (fun past' field h => rest past' field h.2 (read.mono h.2.subset) (h.1 field rfl))
    (fun _ _ _ => by rintro _ ⟨⟩) fun _ _ _ => by rintro _ ⟨⟩

include asks read in
/-- Once all checks are done, the fields say what was replied. -/
theorem gather_filled (phoneNumber : String) (area : Geofence) :
    Prog.Upholds φ (fun past' result => ∀ evidence, result = .ok (.ok evidence) →
      ∀ now, FilledFrom transaction actor binding past' plan phoneNumber area (evidence now))
      (gather (askCarrier plan) phoneNumber area).run past := by
  unfold gather
  refine ask_bind_filled asks read fun past₁ number _ read₁ h₁ => ?_
  refine ask_bind_filled asks read₁ fun past₂ location longer₂ read₂ h₂ => ?_
  refine ask_bind_filled asks read₂ fun past₃ simSwap longer₃ read₃ h₃ => ?_
  refine ask_bind_filled asks read₃ fun past₄ deviceSwap longer₄ read₄ h₄ => ?_
  refine ask_bind_filled asks read₄ fun past₅ reachable longer₅ _ h₅ => ?_
  rintro evidence ⟨⟩ now
  simp only [FilledFrom, CanonicalEvidence.fields, List.forall_mem_cons, List.not_mem_nil,
    false_imp_iff, implies_true, and_true]
  have h₄ := h₄.mono longer₅
  have h₃ := (h₃.mono longer₄).mono longer₅
  have h₂ := ((h₂.mono longer₃).mono longer₄).mono longer₅
  exact ⟨(((h₁.mono longer₂).mono longer₃).mono longer₄).mono longer₅, h₂, h₃, h₄, h₅⟩

include asks read in
/-- The evidence that is collected says what was replied about the device of the binding. -/
theorem collectEvidence_filled (clock : ∀ past, φ past .utcnow)
    (registry : List (String × Geofence)) :
    Prog.Upholds φ (fun past' result => ∀ evidence, result = .ok (.ok evidence) →
      ¬ Mismatched actor binding ∧ ∃ area, areaOf registry transaction.zone = some area ∧
        FilledFrom transaction actor binding past' plan binding.phoneNumber area evidence)
      (collectEvidence registry actor binding transaction plan).run past := by
  rcases hbinding : validateActorDeviceBinding actor binding with e | ⟨⟩
  · simp only [collectEvidence, hbinding]
    rintro _ ⟨⟩
  rcases hplan : checkCapabilities plan.combined with e | ⟨⟩
  · simp only [collectEvidence, hbinding, hplan]
    rintro _ ⟨⟩
  have bound := validateActorDeviceBinding_eq_ok.1 hbinding
  rcases located : areaOf registry transaction.zone with _ | area
  · simp only [collectEvidence, hbinding, hplan, located]
    rintro _ ⟨⟩
  simp only [collectEvidence, hbinding, hplan, located]
  refine (gather_filled asks read binding.phoneNumber area).except_bind
    (fun past' evidence filled => ?_) (fun _ _ _ => by rintro _ ⟨⟩) fun _ _ _ => by rintro _ ⟨⟩
  refine ⟨clock _, fun _ => (by rintro _ ⟨⟩), fun now => ?_⟩
  rintro _ ⟨⟩
  refine ⟨bound, area, rfl, ?_⟩
  exact (filled evidence rfl now).mono (List.prefix_append ..)

end Collecting

/-! ## Approving -/

section Approving

variable [Unicode] {svc : AuthorizationService} {past : List (Handled Services)}
  {transaction : TransactionRequest} {actor : Actor} {binding : DeviceBinding}
  {plan : ValidatedEvidencePlan} {proposed : Option EvidencePlan} {phoneNumber : String}
  {area : Geofence} {evidence : CanonicalEvidence}

omit [Unicode] in
/-- A required check whose field says yes was answered by the carrier. -/
theorem Filled.passes (planned : Planned releaseCargoPolicy svc.attestable proposed plan)
    {c : CarrierCall} {field : Option Bool}
    (filled : Filled transaction actor binding past plan c field)
    (required : c.kind ∈ svc.requires releaseCargoPolicy) (yes : field = some true) :
    ∃ a, Replied transaction actor binding past c (.answered a) ∧ Passes c a := by
  have collected : c.kind ∈ plan.combined := by
    obtain ⟨mandatory, attestable⟩ := mem_attested.1 required
    exact (planned.combined _).2 ⟨.inl mandatory, attestable⟩
  rw [Filled, if_pos collected, yes] at filled
  obtain ⟨reply, replied, said⟩ := filled
  cases reply with
  | answered a => exact ⟨a, replied, Except.ok.inj said⟩
  | declined m => cases said
  | gatewayError e => cases said
  | raised m => cases said

/-- A release that the engine approves on the evidence has passed every required check. -/
theorem approved_passes (planned : Planned releaseCargoPolicy svc.attestable proposed plan)
    (filled : FilledFrom transaction actor binding past plan phoneNumber area evidence)
    {config : PolicyConfig} {decisionId : String} {now : DateTime}
    {context : Option ContextEvaluation}
    (approved : (PolicyEngine.decide config decisionId now transaction actor evidence context
      svc.attestable (some plan.mandatory.toFinset)).decision = .approve) :
    ∀ c ∈ checks phoneNumber area, c.kind ∈ svc.requires releaseCargoPolicy →
      ∃ a, Replied transaction actor binding past c (.answered a) ∧ Passes c a := by
  have rules := PolicyEngine.decide_rules config decisionId now transaction actor evidence context
    svc.attestable plan.mandatory.toFinset
  have passes : ¬ PolicyEngine.Refuses transaction actor evidence plan.mandatory.toFinset := by
    rw [← rules.deny_iff, approved]
    nofun
  simp only [PolicyEngine.Refuses, not_or, not_exists, not_and] at passes
  obtain ⟨-, number, answered, location⟩ := passes
  have there (k : EvidenceKind) (required : k ∈ svc.requires releaseCargoPolicy) :
      PolicyEngine.unanswered evidence k = false := by
    refine Bool.eq_false_iff.2 (answered k ?_)
    rw [planned.mandatory, List.mem_toFinset, EvidenceKind.mem_sortedByValue]
    exact required
  simp only [FilledFrom, CanonicalEvidence.fields, List.forall_mem_cons] at filled
  obtain ⟨filledNumber, filledLocation, -⟩ := filled
  simp only [checks, List.forall_mem_cons, List.not_mem_nil, false_imp_iff, implies_true, and_true]
  refine ⟨fun required => filledNumber.passes planned required ?_,
    fun required => filledLocation.passes planned required ?_, ?_⟩
  · have given := there .numberVerification required
    simp only [PolicyEngine.unanswered, evidenceFields, decide_eq_false_iff_not] at given
    rcases field : evidence.numberVerified with _ | _ | _
    · exact absurd field given
    · exact absurd field number
    · rfl
  · have given := there .locationVerification required
    simp only [PolicyEngine.unanswered, evidenceFields, decide_eq_false_iff_not] at given
    rcases field : evidence.locationVerified with _ | _ | _
    · exact absurd field given
    · exact absurd field location
    · rfl
  · -- nothing else is mandatory
    have other (k : EvidenceKind) (optional : k ∉ releaseCargoPolicy.mandatory) :
        k ∉ svc.requires releaseCargoPolicy := fun required => optional (mem_attested.1 required).1
    exact ⟨fun required => absurd required (other .simSwap (by decide)),
      fun required => absurd required (other .deviceSwap (by decide)),
      fun required => absurd required (other .reachability (by decide))⟩

variable (svc) in
/-- The request is ready for its verdict: the plan is one of the validator, and the evidence is what
was replied about the device of the actor. -/
structure Evidenced (past : List (Handled Services)) (transaction : TransactionRequest)
    (actor : Actor) (binding : DeviceBinding) (plan : ValidatedEvidencePlan)
    (evidence : CanonicalEvidence) : Prop where
  read : HasRead transaction actor binding past
  bound : ¬ Mismatched actor binding
  planned : ∃ proposed, Planned releaseCargoPolicy svc.attestable proposed plan
  located : ∃ area, areaOf svc.zoneRegistry transaction.zone = some area ∧
    FilledFrom transaction actor binding past plan binding.phoneNumber area evidence

omit [Unicode] in
theorem Evidenced.mono {past' : List (Handled Services)}
    (h : Evidenced svc past transaction actor binding plan evidence) (longer : past <+: past') :
    Evidenced svc past' transaction actor binding plan evidence :=
  ⟨h.read.mono longer.subset, h.bound, h.planned,
    h.located.imp fun _ found => ⟨found.1, found.2.mono longer⟩⟩

/-- An approval of such a request is attested. -/
theorem Evidenced.attested (h : Evidenced svc past transaction actor binding plan evidence)
    {config : PolicyConfig} {decisionId : String} {now : DateTime}
    {context : Option ContextEvaluation}
    (approved : (PolicyEngine.decide config decisionId now transaction actor evidence context
      svc.attestable (some plan.mandatory.toFinset)).decision = .approve) :
    AttestedFor svc past transaction actor binding (h.located.choose) := by
  obtain ⟨proposed, planned⟩ := h.planned
  exact ⟨h.read, h.bound, h.located.choose_spec.1,
    approved_passes planned h.located.choose_spec.2 approved⟩

end Approving

end ZoneGate
