import ZoneGate.Domain.Records
import ZoneGate.Library.FirstOccurrences
import Mathlib.Data.Finset.Lattice.Basic
import Mathlib.Data.Finset.SDiff

/-!
# Workflow policies and plan validation

An agent may only add evidence of the workflow's optional set to the mandatory baseline.  The plan
is narrowed to what the carrier of this deployment can attest (`none` means every kind).
-/

namespace ZoneGate

open FirstOccurrences

structure WorkflowEvidencePolicy where
  workflowName : String
  mandatory : Finset EvidenceKind
  optional : Finset EvidenceKind
  forbidden : Finset EvidenceKind
deriving DecidableEq

def releaseCargoPolicy : WorkflowEvidencePolicy where
  workflowName := "RELEASE_CARGO"
  mandatory := {.numberVerification, .locationVerification}
  optional := {.simSwap, .deviceSwap, .reachability}
  forbidden := {.kycMatch}

def workflowPolicies : List (String × WorkflowEvidencePolicy) :=
  [("RELEASE_CARGO", releaseCargoPolicy)]

/-- The policy of the workflow, or the text of the `ValueError`. -/
def getWorkflowPolicy (workflowName : String) : Except String WorkflowEvidencePolicy :=
  match workflowPolicies.lookup workflowName with
  | none => .error ("No evidence policy configured for workflow: " ++ workflowName)
  | some policy => .ok policy

/-- The exceptions of `validate`; the first is the `ValueError` of the policy lookup. -/
inductive PlanError
  | noPolicy (message : String)
  | forbidden (message : String)
  | unsupported (message : String)
deriving DecidableEq, Repr

def PlanError.message : PlanError → String
  | noPolicy message => message
  | forbidden message => message
  | unsupported message => message

/-- The loop over the proposed kinds; `validated` holds those accepted so far. -/
def checkProposed (policy : WorkflowEvidencePolicy) (workflowName : String) :
    List EvidenceKind → List EvidenceKind → Except PlanError (List EvidenceKind)
  | [], validated => .ok validated
  | evidence :: rest, validated =>
      if evidence ∈ policy.forbidden then
        .error (.forbidden ("Evidence kind '" ++ evidence.value ++
          "' is strictly forbidden for workflow '" ++ workflowName ++ "'"))
      else if evidence ∉ policy.optional then
        .error (.unsupported ("Evidence kind '" ++ evidence.value ++
          "' is not permitted as optional evidence for workflow '" ++ workflowName ++ "'"))
      else checkProposed policy workflowName rest
        (if evidence ∈ validated then validated else validated ++ [evidence])

/-- The kinds of the set that the carrier can attest. -/
def attested (attestable : Option (Finset EvidenceKind)) (kinds : Finset EvidenceKind) :
    Finset EvidenceKind :=
  match attestable with
  | none => kinds
  | some kindsAttestable => kinds \ (kinds \ kindsAttestable)

/-- The accepted kinds that the carrier can attest. -/
def attestedList (attestable : Option (Finset EvidenceKind)) (kinds : List EvidenceKind) :
    List EvidenceKind :=
  match attestable with
  | none => kinds
  | some kindsAttestable => kinds.filter (· ∈ kindsAttestable)

/-- The validated plan under a policy, from the proposed kinds that were accepted. -/
def validatedPlan (policy : WorkflowEvidencePolicy) (attestable : Option (Finset EvidenceKind))
    (proposedPlan : Option EvidencePlan) (validated : List EvidenceKind) :
    ValidatedEvidencePlan :=
  let mandatory := EvidenceKind.sortedByValue (attested attestable policy.mandatory)
  let optional := attestedList attestable validated
  { mandatory := mandatory
    optional := optional
    combined := (mandatory ++ optional).eraseDups
    rationale := (proposedPlan.map EvidencePlan.rationale).getD []
    plannerConsulted := proposedPlan.isSome
    offeredOptional := EvidenceKind.sortedByValue policy.optional
    proposedOptional := (proposedPlan.map EvidencePlan.optionalEvidence).getD [] }

/-- `validate` once the policy is found. -/
def validateWith (policy : WorkflowEvidencePolicy) (attestable : Option (Finset EvidenceKind))
    (workflowName : String) (proposedPlan : Option EvidencePlan) :
    Except PlanError ValidatedEvidencePlan := do
  let validated ←
    match proposedPlan with
    | none => .ok []
    | some plan => checkProposed policy workflowName plan.optionalEvidence []
  return validatedPlan policy attestable proposedPlan validated

/-- `EvidencePlanValidator.validate`. -/
def validate (attestable : Option (Finset EvidenceKind)) (workflowName : String)
    (proposedPlan : Option EvidencePlan) : Except PlanError ValidatedEvidencePlan :=
  match getWorkflowPolicy workflowName with
  | .error message => .error (.noPolicy message)
  | .ok policy => validateWith policy attestable workflowName proposedPlan

/-! ## What the validator accepts -/

/-- The kinds a plan proposes. -/
def proposedKinds (proposedPlan : Option EvidencePlan) : List EvidenceKind :=
  (proposedPlan.map EvidencePlan.optionalEvidence).getD []

@[simp] theorem mem_attested {attestable : Option (Finset EvidenceKind)}
    {kinds : Finset EvidenceKind} {k : EvidenceKind} :
    k ∈ attested attestable kinds ↔ k ∈ kinds ∧ ∀ s ∈ attestable, k ∈ s := by
  rcases attestable with _ | s
  · simp [attested]
  · simp only [attested, Finset.mem_sdiff, Option.mem_some_iff]
    grind

@[simp] theorem mem_attestedList {attestable : Option (Finset EvidenceKind)}
    {kinds : List EvidenceKind} {k : EvidenceKind} :
    k ∈ attestedList attestable kinds ↔ k ∈ kinds ∧ ∀ s ∈ attestable, k ∈ s := by
  rcases attestable with _ | s <;> simp [attestedList]

/-- An agent may propose the kind. -/
def Permitted (policy : WorkflowEvidencePolicy) (k : EvidenceKind) : Prop :=
  k ∉ policy.forbidden ∧ k ∈ policy.optional

/-- The class of the error says what is wrong with the kind. -/
inductive RefusedFor (policy : WorkflowEvidencePolicy) (k : EvidenceKind) : PlanError → Prop
  | forbidden (message : String) : k ∈ policy.forbidden → RefusedFor policy k (.forbidden message)
  | unsupported (message : String) : k ∉ policy.forbidden → k ∉ policy.optional →
      RefusedFor policy k (.unsupported message)

theorem RefusedFor.not_permitted {policy : WorkflowEvidencePolicy} {k : EvidenceKind}
    {e : PlanError} (h : RefusedFor policy k e) : ¬ Permitted policy k := by
  rintro ⟨allowed, offered⟩
  cases h with
  | forbidden _ bad => exact allowed bad
  | unsupported _ _ bad => exact bad offered

/-- The loop accepts a list of permitted kinds and keeps their first occurrences; it refuses any
other list for the first kind that is not permitted. -/
theorem checkProposed_cases (policy : WorkflowEvidencePolicy) (workflowName : String)
    (kinds validated : List EvidenceKind) :
    ((∀ k ∈ kinds, Permitted policy k) ∧
        checkProposed policy workflowName kinds validated = .ok (kinds.foldl addNew validated)) ∨
      ∃ before k after e, kinds = before ++ k :: after ∧ (∀ k' ∈ before, Permitted policy k') ∧
        RefusedFor policy k e ∧ checkProposed policy workflowName kinds validated = .error e := by
  induction kinds generalizing validated with
  | nil => exact .inl ⟨by simp, rfl⟩
  | cons evidence rest ih =>
    rw [checkProposed]
    by_cases hforbidden : evidence ∈ policy.forbidden
    · rw [if_pos hforbidden]
      exact .inr ⟨[], evidence, rest, _, rfl, by simp, .forbidden _ hforbidden, rfl⟩
    by_cases hoptional : evidence ∈ policy.optional
    swap
    · rw [if_neg hforbidden, if_pos hoptional]
      exact .inr ⟨[], evidence, rest, _, rfl, by simp, .unsupported _ hforbidden hoptional, rfl⟩
    rw [if_neg hforbidden, if_neg (not_not.2 hoptional)]
    have here : Permitted policy evidence := ⟨hforbidden, hoptional⟩
    rcases ih (addNew validated evidence) with
      ⟨permitted, hrun⟩ | ⟨before, k, after, e, split, permitted, refused, hrun⟩
    · exact .inl ⟨List.forall_mem_cons.2 ⟨here, permitted⟩, hrun⟩
    · refine .inr ⟨evidence :: before, k, after, e, by rw [split, List.cons_append], ?_, refused,
        hrun⟩
      exact List.forall_mem_cons.2 ⟨here, permitted⟩

/-- The validator, from what the loop does to the proposal. -/
theorem validateWith_cases (policy : WorkflowEvidencePolicy)
    (attestable : Option (Finset EvidenceKind)) (workflowName : String)
    (proposedPlan : Option EvidencePlan) :
    ((∀ k ∈ proposedKinds proposedPlan, Permitted policy k) ∧
        validateWith policy attestable workflowName proposedPlan =
          .ok (validatedPlan policy attestable proposedPlan
            (proposedKinds proposedPlan).eraseDups)) ∨
      ∃ before k after e, proposedKinds proposedPlan = before ++ k :: after ∧
        (∀ k' ∈ before, Permitted policy k') ∧ RefusedFor policy k e ∧
        validateWith policy attestable workflowName proposedPlan = .error e := by
  rcases proposedPlan with _ | proposal
  · exact .inl ⟨by simp [proposedKinds], rfl⟩
  rcases checkProposed_cases policy workflowName proposal.optionalEvidence [] with
    ⟨permitted, hrun⟩ | ⟨before, k, after, e, split, permitted, refused, hrun⟩
  · refine .inl ⟨permitted, ?_⟩
    rw [validateWith, hrun, foldl_addNew_nil]
    rfl
  · refine .inr ⟨before, k, after, e, split, permitted, refused, ?_⟩
    rw [validateWith, hrun]
    rfl

/-- What an accepted plan is: its mandatory kinds are the workflow's that can be attested, and it
collects these and the proposed kinds that can be attested. -/
structure Planned (policy : WorkflowEvidencePolicy) (attestable : Option (Finset EvidenceKind))
    (proposedPlan : Option EvidencePlan) (plan : ValidatedEvidencePlan) : Prop where
  permitted : ∀ k ∈ proposedKinds proposedPlan, k ∉ policy.forbidden ∧ k ∈ policy.optional
  mandatory : plan.mandatory = EvidenceKind.sortedByValue (attested attestable policy.mandatory)
  combined : ∀ k, k ∈ plan.combined ↔
    (k ∈ policy.mandatory ∨ k ∈ proposedKinds proposedPlan) ∧ ∀ s ∈ attestable, k ∈ s

/-- The validator accepts a proposal of permitted kinds and refuses any other. -/
theorem validateWith_spec (policy : WorkflowEvidencePolicy)
    (attestable : Option (Finset EvidenceKind)) (workflowName : String)
    (proposedPlan : Option EvidencePlan) :
    (∃ plan, validateWith policy attestable workflowName proposedPlan = .ok plan ∧
        Planned policy attestable proposedPlan plan) ∨
      ∃ e, validateWith policy attestable workflowName proposedPlan = .error e ∧
        (∀ m, e ≠ .noPolicy m) ∧
        ∃ k ∈ proposedKinds proposedPlan, k ∈ policy.forbidden ∨ k ∉ policy.optional := by
  rcases validateWith_cases policy attestable workflowName proposedPlan with
    ⟨permitted, hrun⟩ | ⟨before, k, after, e, split, -, refused, hrun⟩
  · refine .inl ⟨_, hrun, permitted, rfl, fun k => ?_⟩
    simp [validatedPlan, or_and_right]
  · refine .inr ⟨e, hrun, ?_, k, by simp [split], ?_⟩
    · rintro m rfl
      cases refused
    · have := refused.not_permitted
      rwa [Permitted, not_and_or, not_not] at this

/-! ## The whole of a validated plan -/

/-- A validated plan, field by field. -/
structure Accepted (policy : WorkflowEvidencePolicy) (attestable : Option (Finset EvidenceKind))
    (proposedPlan : Option EvidencePlan) (plan : ValidatedEvidencePlan) : Prop where
  sorted : (plan.mandatory.map EvidenceKind.value).Pairwise (· < ·)
  mandatory : ∀ k, k ∈ plan.mandatory ↔ k ∈ policy.mandatory ∧ ∀ s ∈ attestable, k ∈ s
  optional : plan.optional =
    (proposedKinds proposedPlan).eraseDups.filter fun k => attestable.all (k ∈ ·)
  nodup : plan.combined.Nodup
  starts : plan.mandatory <+: plan.combined
  combined : ∀ k, k ∈ plan.combined ↔ k ∈ plan.mandatory ∨ k ∈ plan.optional
  unproposed : ∀ k, k ∈ plan.combined ∧ k ∉ proposedKinds proposedPlan ↔
    k ∈ plan.mandatory ∧ k ∉ proposedKinds proposedPlan
  proposed : plan.proposedOptional = proposedKinds proposedPlan
  rationale : plan.rationale = (proposedPlan.map EvidencePlan.rationale).getD []

theorem attestedList_eq_filter (attestable : Option (Finset EvidenceKind))
    (kinds : List EvidenceKind) :
    attestedList attestable kinds = kinds.filter fun k => attestable.all (k ∈ ·) := by
  rcases attestable with _ | s <;> simp [attestedList]

theorem validatedPlan_accepted (policy : WorkflowEvidencePolicy)
    (attestable : Option (Finset EvidenceKind)) (proposedPlan : Option EvidencePlan) :
    Accepted policy attestable proposedPlan
      (validatedPlan policy attestable proposedPlan (proposedKinds proposedPlan).eraseDups) where
  sorted := EvidenceKind.sorted_sortedByValue _
  mandatory k := by rw [validatedPlan, EvidenceKind.mem_sortedByValue, mem_attested]
  optional := attestedList_eq_filter ..
  nodup := nodup_eraseDups _
  starts := prefix_eraseDups_append (EvidenceKind.nodup_sortedByValue _) _
  combined k := by rw [validatedPlan, List.mem_eraseDups, List.mem_append]
  unproposed k := by
    have proposed : k ∈ attestedList attestable (proposedKinds proposedPlan).eraseDups →
        k ∈ proposedKinds proposedPlan :=
      fun h => List.mem_eraseDups.1 (mem_attestedList.1 h).1
    rw [validatedPlan, List.mem_eraseDups, List.mem_append, or_and_right]
    exact or_iff_left fun h => h.2 (proposed h.1)
  proposed := rfl
  rationale := rfl

/-- What the validator accepts and produces: it refuses a proposal for its first kind that is not
permitted, and makes the plan of any other. -/
theorem validate_total (policy : WorkflowEvidencePolicy)
    (attestable : Option (Finset EvidenceKind)) (workflowName : String)
    (proposedPlan : Option EvidencePlan) :
    (getWorkflowPolicy workflowName = .ok policy →
      validate attestable workflowName proposedPlan =
        validateWith policy attestable workflowName proposedPlan) ∧
      ((∃ e, validateWith policy attestable workflowName proposedPlan = .error e) ↔
        ∃ k ∈ proposedKinds proposedPlan, k ∈ policy.forbidden ∨ k ∉ policy.optional) ∧
      (∀ e, validateWith policy attestable workflowName proposedPlan = .error e →
        ∃ before k after, proposedKinds proposedPlan = before ++ k :: after ∧
          (∀ k' ∈ before, Permitted policy k') ∧ RefusedFor policy k e) ∧
      ∀ plan, validateWith policy attestable workflowName proposedPlan = .ok plan →
        Accepted policy attestable proposedPlan plan := by
  refine ⟨fun found => by rw [validate, found], ?_⟩
  have bad (k : EvidenceKind) :
      k ∈ policy.forbidden ∨ k ∉ policy.optional ↔ ¬ Permitted policy k := by
    rw [Permitted, not_and_or, not_not]
  simp only [bad]
  rcases validateWith_cases policy attestable workflowName proposedPlan with
    ⟨permitted, hrun⟩ | ⟨before, k, after, e, split, permitted, refused, hrun⟩
  · rw [hrun]
    refine ⟨⟨by simp, fun ⟨k, hk, hbad⟩ => absurd (permitted k hk) hbad⟩, by simp, ?_⟩
    rintro plan ⟨⟩
    exact validatedPlan_accepted policy attestable proposedPlan
  · rw [hrun]
    refine ⟨⟨fun _ => ⟨k, by simp [split], refused.not_permitted⟩, fun _ => ⟨e, rfl⟩⟩, ?_, by simp⟩
    rintro e' ⟨⟩
    exact ⟨before, k, after, split, permitted, refused⟩

theorem eq_releaseCargoPolicy {workflowName : String} {policy : WorkflowEvidencePolicy}
    (h : getWorkflowPolicy workflowName = .ok policy) : policy = releaseCargoPolicy := by
  by_cases hname : workflowName = "RELEASE_CARGO"
  · subst hname
    cases h
    rfl
  · have hlookup : workflowPolicies.lookup workflowName = none := by
      simp [workflowPolicies, List.lookup_cons, beq_eq_false_iff_ne.2 hname]
    simp [getWorkflowPolicy, hlookup] at h

/-- No workflow both offers and forbids a kind. -/
theorem not_forbidden_of_optional {workflowName : String} {policy : WorkflowEvidencePolicy}
    (h : getWorkflowPolicy workflowName = .ok policy) {k : EvidenceKind}
    (hk : k ∈ policy.optional) : k ∉ policy.forbidden := by
  rw [eq_releaseCargoPolicy h] at hk ⊢
  revert k
  decide

/-- The mandatory kinds of every workflow are the two that a carrier answers with a verdict. -/
theorem mandatory_of_policy {workflowName : String} {policy : WorkflowEvidencePolicy}
    (h : getWorkflowPolicy workflowName = .ok policy) {k : EvidenceKind}
    (hk : k ∈ policy.mandatory) : k = .numberVerification ∨ k = .locationVerification := by
  rw [eq_releaseCargoPolicy h] at hk
  revert k
  decide

end ZoneGate
