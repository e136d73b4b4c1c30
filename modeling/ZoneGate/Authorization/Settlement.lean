import ZoneGate.Authorization.Restricted

/-!
# Who can settle a hold

A hold is settled on the console, by somebody whose role holds the authority it is held for, and the
console admits no field roles.  So an authority that is a field role leaves its holds to nobody.
-/

namespace ZoneGate

open Py

variable [Unicode]

/-- A role that the console admits holds the authority. -/
def Settleable (authority : String) : Prop :=
  ∃ role, isFieldRole (some role) = false ∧ holdsAuthority (some role) (some authority) = true

/-- A role that the console admits can resolve the decision, either way. -/
def Resolvable (decision : PolicyDecision) : Prop :=
  ∃ role, isFieldRole (some role) = false ∧ ∀ outcome, outcome ≠ .hold →
    AuthorizationService.ineligible decision.decisionId decision outcome (some role) = none

/-- The holders of an authority are admitted exactly when the authority itself is not a field
role. -/
theorem settleable_iff {authority : String} (named : authority ≠ "") :
    Settleable authority ↔ isFieldRole (some authority) = false := by
  constructor
  · rintro ⟨role, console, holds⟩
    have same : normalizeRole (some role) = normalizeRole (some authority) := by
      simpa [holdsAuthority, named] using holds
    rw [isFieldRole, ← same]
    exact console
  · intro console
    exact ⟨authority, console, by simp [holdsAuthority, named]⟩

/-- The security officer, who gets the holds for SIM swaps, works on the console. -/
theorem settleable_simSwapAuthority : Settleable simSwapAuthority := by
  have stripped : strip simSwapAuthority = simSwapAuthority := by decide
  have bare : removePrefix "ROLE_" simSwapAuthority = "SECURITY_OFFICER" := by decide
  have name : normalizeRole (some simSwapAuthority) = "SECURITY_OFFICER" := by
    rw [normalizeRole, Option.getD_some, stripped, upper_eq_self (by simp [simSwapAuthority]), bare]
  rw [settleable_iff (by decide), isFieldRole, name]
  decide

namespace PolicyEngine

/-- Every hold of the engine under the configuration can be resolved on the console. -/
def HoldsResolvable (config : PolicyConfig) : Prop :=
  ∀ decisionId now transaction actor evidence context attestable required,
    let decision := decide config decisionId now transaction actor evidence context attestable
      required
    decision.decision = .hold → Resolvable decision

theorem resolution_decide (config : PolicyConfig) (decisionId : String) (now : DateTime)
    (transaction : TransactionRequest) (actor : Actor) (evidence : CanonicalEvidence)
    (context : Option ContextEvaluation) (attestable required : Option (Finset EvidenceKind)) :
    (decide config decisionId now transaction actor evidence context attestable
      required).resolution = none := by
  obtain ⟨outcome, reasons, authority, shape⟩ := decide_shape config decisionId now transaction
    actor evidence attestable required
  rw [shape context]

/-- Every authority of the configuration, and every hold of the engine under it, can be settled on
the console exactly when no authority is a field role. -/
theorem holds_settleable_iff (config : PolicyConfig) :
    ((∀ e ∈ config.restrictedCategories, Settleable e.2) ∧ HoldsResolvable config) ↔
      ∀ e ∈ config.restrictedCategories, isFieldRole (some e.2) = false := by
  have entry (e) (mem : e ∈ config.restrictedCategories) :
      Settleable e.2 ↔ isFieldRole (some e.2) = false :=
    settleable_iff (config.clean e mem).2.2.2
  constructor
  · rintro ⟨settleable, -⟩ e mem
    exact (entry e mem).1 (settleable e mem)
  intro console
  refine ⟨fun e mem => (entry e mem).2 (console e mem), ?_⟩
  intro decisionId now transaction actor evidence context attestable required decision hold
  have open_ : decision.resolution = none := resolution_decide ..
  have resolvable {authority : String} (settle : Settleable authority)
      (held : decision.requiredAuthority = some authority) : Resolvable decision := by
    obtain ⟨role, admitted, holds⟩ := settle
    refine ⟨role, admitted, fun outcome decides => AuthorizationService.ineligible_eq_none.2
      ⟨hold, open_, ?_, decides⟩⟩
    rintro _ ⟨⟩
    rw [held, holds]
  have rules := decide_rules config decisionId now transaction actor evidence context attestable
    (mandatoryOf attestable required)
  rw [← decide_mandatoryOf] at rules
  change Rules config transaction actor evidence _ decision.decision decision.requiredAuthority
    at rules
  rw [hold] at rules
  generalize named : decision.requiredAuthority = authority at rules
  cases rules with
  | simSwap _ _ => exact resolvable settleable_simSwapAuthority named
  | restricted authority _ _ found =>
    have mem := Dict.mem_of_lookup found
    exact resolvable ((entry _ mem).2 (console _ mem)) named

end PolicyEngine

/-! ## A category handed to the field -/

/-- A configuration that hands a category to the people who ask for releases. -/
def Sample.fieldConfig : PolicyConfig := ⟨[("HAZARDOUS", "cargo_operator")], by decide, by decide⟩

omit [Unicode] in
/-- The configuration is accepted, and nobody on the console can settle a hold for its authority. -/
theorem field_authority_unsettled :
    PolicyConfig.checkCategories [("HAZARDOUS", "cargo_operator")] = .ok Sample.fieldConfig ∧
      Sample.fieldConfig.authorityFor "HAZARDOUS" = some "cargo_operator" ∧
      ¬ @Settleable Sample.unicode "cargo_operator" := by
  refine ⟨by decide, by decide, fun settled => ?_⟩
  have console := (@settleable_iff Sample.unicode _ (by decide)).1 settled
  revert console
  decide

end ZoneGate
