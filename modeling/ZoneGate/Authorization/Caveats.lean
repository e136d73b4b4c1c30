import ZoneGate.Authorization.Restricted

/-!
# What a decision admits

A mandatory check that the carrier cannot attest is dropped from the plan, and every decision that
rests on evidence should say so in a caveat.  The engine knows the caveat for the number only; a
location check is dropped without a word.
-/

namespace ZoneGate

open Py

/-- `reason.startswith("Caveat:")` -/
def IsCaveat (reason : String) : Prop := "Caveat:".toList <+: reason.toList

instance (reason : String) : Decidable (IsCaveat reason) := by unfold IsCaveat; infer_instance

/-- A word that a text about the check cannot do without. -/
def subject : EvidenceKind → String
  | .numberVerification => "number"
  | .locationVerification => "location"
  | .simSwap => "SIM"
  | .deviceSwap => "device"
  | .reachability => "reach"
  | .kycMatch => "KYC"

/-- A caveat after the first reason is about the kind. -/
def Confesses (d : PolicyDecision) (kind : EvidenceKind) : Prop :=
  ∃ reason ∈ d.reasons.tail, IsCaveat reason ∧ (subject kind).toList <:+: reason.toList

namespace PolicyEngine

variable [Unicode] (config : PolicyConfig) (decisionId : String) (now : DateTime)
  (transaction : TransactionRequest) (actor : Actor) (evidence : CanonicalEvidence)
  (context : Option ContextEvaluation) (attestable required : Option (Finset EvidenceKind))

/-- The first reason is no caveat; a denial of permission has no other, and every other decision has
the caveats of the deployment. -/
theorem decide_caveats :
    let d := decide config decisionId now transaction actor evidence context attestable required
    ∃ reason, ¬ IsCaveat reason ∧
      (d.decision = .deny ∧ d.reasons = [reason] ∨
        d.reasons = reason :: caveats (attestable.getD Finset.univ)) := by
  intro d
  obtain ⟨reason, opens, reasons⟩ := decide_reasons config decisionId now transaction actor evidence
    context attestable required
  exact ⟨reason, opens.not_prefix (by decide), reasons⟩

omit [Unicode] in
/-- The only caveat there is. -/
theorem confesses_iff {d : PolicyDecision} {reason : String} {supported : Finset EvidenceKind}
    (h : d.reasons = reason :: caveats supported) {kind : EvidenceKind}
    (verdict : kind = .numberVerification ∨ kind = .locationVerification) :
    Confesses d kind ↔ kind = .numberVerification ∧ .numberVerification ∉ supported := by
  unfold Confesses caveats at *
  rw [h, List.tail_cons]
  by_cases known : .numberVerification ∈ supported
  · simp [known]
  rw [if_neg known]
  simp only [List.mem_singleton, exists_eq_left, known, not_false_iff, and_true]
  unfold IsCaveat
  rw [String.toList_append, String.toList_append]
  rcases verdict with rfl | rfl
  all_goals
    dsimp only [subject]
    repeat rw [String.toList_ofList]
    decide +kernel

omit [Unicode] in
theorem mem_supported {attestable : Option (Finset EvidenceKind)} {k : EvidenceKind} :
    k ∈ attestable.getD Finset.univ ↔ ∀ kinds ∈ attestable, k ∈ kinds := by
  cases attestable <;> simp

/-- A hold or an approval confesses every mandatory kind that is not in the plan; a decision has no
caveat when all of them are. -/
structure Admits (policy : WorkflowEvidencePolicy) (plan : ValidatedEvidencePlan)
    (d : PolicyDecision) : Prop where
  confesses : d.decision ≠ .deny → ∀ k ∈ policy.mandatory, k ∉ plan.mandatory → Confesses d k
  clean : (∀ k ∈ policy.mandatory, k ∈ plan.mandatory) → ∀ reason ∈ d.reasons, ¬ IsCaveat reason

/-- The dropped checks are confessed exactly when the location check can be attested, or the request
is refused in any case. -/
theorem dropped_confessed_iff (workflowName : String) (policy : WorkflowEvidencePolicy)
    (hp : getWorkflowPolicy workflowName = .ok policy) (attestable : Option (Finset EvidenceKind))
    (proposedPlan : Option EvidencePlan) (plan : ValidatedEvidencePlan)
    (hplan : validate attestable workflowName proposedPlan = .ok plan) (config : PolicyConfig)
    (decisionId : String) (now : DateTime) (transaction : TransactionRequest) (actor : Actor)
    (evidence : CanonicalEvidence) (context : Option ContextEvaluation) :
    Admits policy plan (decide config decisionId now transaction actor evidence context attestable
        (some plan.mandatory.toFinset)) ↔
      Refuses transaction actor evidence plan.mandatory.toFinset ∨
        ∀ kinds ∈ attestable, .locationVerification ∈ kinds := by
  have planned : ∀ k, k ∈ plan.mandatory ↔
      k ∈ policy.mandatory ∧ k ∈ attestable.getD Finset.univ := by
    rw [validate, hp] at hplan
    dsimp only at hplan
    rcases validateWith_spec policy attestable workflowName proposedPlan with
      ⟨plan', hplan', planned⟩ | ⟨e, he, -⟩
    · obtain rfl := Except.ok.inj (hplan.symm.trans hplan')
      intro k
      rw [planned.mandatory, EvidenceKind.mem_sortedByValue, mem_attested, mem_supported]
    · rw [he] at hplan
      cases hplan
  have mandatory (k : EvidenceKind) : k ∈ policy.mandatory ↔
      k = .numberVerification ∨ k = .locationVerification := by
    rw [eq_releaseCargoPolicy hp]
    revert k
    decide
  have denied := (decide_rules config decisionId now transaction actor evidence context attestable
    plan.mandatory.toFinset).deny_iff
  obtain ⟨reason, plain, reasons⟩ := decide_caveats config decisionId now transaction actor evidence
    context attestable (some plan.mandatory.toFinset)
  generalize decide config decisionId now transaction actor evidence context attestable
    (some plan.mandatory.toFinset) = d at denied reasons ⊢
  rw [← mem_supported]
  constructor
  · intro admits
    by_contra! bad
    obtain ⟨passes, dropped⟩ := bad
    rcases reasons with ⟨deny, -⟩ | reasons
    · exact passes (denied.1 deny)
    have confessed := admits.confesses (fun deny => passes (denied.1 deny)) .locationVerification
      ((mandatory _).2 (.inr rfl)) (fun h => dropped ((planned _).1 h).2)
    exact absurd ((confesses_iff reasons (.inr rfl)).1 confessed).1 (by decide)
  · intro cond
    refine ⟨fun undenied k hk dropped => ?_, fun all => ?_⟩
    · have location := cond.resolve_left fun refused => undenied (denied.2 refused)
      rcases reasons with ⟨deny, -⟩ | reasons
      · exact absurd deny undenied
      have missing : k ∉ attestable.getD Finset.univ := fun h => dropped ((planned k).2 ⟨hk, h⟩)
      rcases (mandatory k).1 hk with rfl | rfl
      · exact (confesses_iff reasons (.inl rfl)).2 ⟨rfl, missing⟩
      · exact absurd location missing
    · have number := ((planned _).1 (all _ ((mandatory .numberVerification).2 (.inl rfl)))).2
      have only : d.reasons = [reason] := by
        rcases reasons with ⟨-, reasons⟩ | reasons
        · exact reasons
        · rw [reasons, caveats, if_pos number]
      rw [only]
      simpa using plain

end PolicyEngine

/-! ## A location check that is dropped -/

namespace Sample

def numberOnly : Option (Finset EvidenceKind) := some {.numberVerification}

/-- The plan of a deployment whose carrier can attest the number only. -/
def numberOnlyPlan : ValidatedEvidencePlan :=
  { mandatory := [.numberVerification], optional := [], combined := [.numberVerification],
    rationale := [], plannerConsulted := false,
    offeredOptional := EvidenceKind.sortedByValue releaseCargoPolicy.optional,
    proposedOptional := [] }

theorem numberOnlyPlan_validated :
    validate numberOnly "RELEASE_CARGO" none = .ok numberOnlyPlan := by
  decide +kernel

/-- The verdict on a release of general cargo whose number was verified. -/
def numberOnlyVerdict : PolicyDecision :=
  let _ := unicode
  PolicyEngine.decide PolicyConfig.default "dec" ⟨0⟩ general operator
    { numberVerified := some true, collectedAt := ⟨0⟩ } none numberOnly
    (some numberOnlyPlan.mandatory.toFinset)

end Sample

theorem dropped_confessed_iff_number :
    PolicyEngine.Admits releaseCargoPolicy Sample.numberOnlyPlan Sample.numberOnlyVerdict ↔
      @PolicyEngine.Refuses Sample.unicode Sample.general Sample.operator
          { numberVerified := some true, collectedAt := ⟨0⟩ }
          Sample.numberOnlyPlan.mandatory.toFinset ∨
        ∀ kinds ∈ Sample.numberOnly, .locationVerification ∈ kinds := by
  have offered : getWorkflowPolicy "RELEASE_CARGO" = .ok releaseCargoPolicy := by decide +kernel
  unfold Sample.numberOnlyVerdict
  exact @PolicyEngine.dropped_confessed_iff Sample.unicode "RELEASE_CARGO" releaseCargoPolicy
    offered Sample.numberOnly none Sample.numberOnlyPlan
    Sample.numberOnlyPlan_validated PolicyConfig.default "dec" ⟨0⟩ Sample.general Sample.operator
    { numberVerified := some true, collectedAt := ⟨0⟩ } none

/-- The location check is dropped from the plan, and the approval has one reason and no caveat. -/
theorem location_unconfessed :
    validate Sample.numberOnly "RELEASE_CARGO" none = .ok Sample.numberOnlyPlan ∧
      .locationVerification ∈ releaseCargoPolicy.mandatory ∧
      .locationVerification ∉ Sample.numberOnlyPlan.mandatory ∧
      Sample.numberOnlyVerdict.decision = .approve ∧ Sample.numberOnlyVerdict.reasons.tail = [] ∧
      ¬ Confesses Sample.numberOnlyVerdict .locationVerification := by
  have alone : Sample.numberOnlyVerdict.reasons.tail = [] := by decide +kernel
  refine ⟨Sample.numberOnlyPlan_validated, by decide, by decide, by decide +kernel, alone, ?_⟩
  rintro ⟨reason, mem, -⟩
  rw [alone] at mem
  cases mem

end ZoneGate
