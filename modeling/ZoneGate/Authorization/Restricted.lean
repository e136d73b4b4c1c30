import ZoneGate.Authorization.Runs

/-!
# Restricted categories, however they are written

The configuration strips the categories it is given, and the engine looks up the category of a
request as it came.  So a restricted category is held when the request writes it without surrounding
whitespace, and released when it does not.
-/

namespace ZoneGate

open Py

/-! ## The map that validation leaves -/

namespace PolicyConfig

/-- A key leads to the value of the last entry that strips to it. -/
theorem lookup_strippedEntries (value : List (String × String)) (category : String) :
    (strippedEntries value).lookup category =
      (value.reverse.find? fun e => strip e.1 = category).map fun e => strip e.2 := by
  have go : ∀ l d : List (String × String),
      (l.foldl (fun d e => dictInsert (strip e.1) (strip e.2) d) d).lookup category =
        ((l.reverse.find? fun e => strip e.1 = category).map fun e => strip e.2).or
          (d.lookup category) := by
    intro l
    induction l with
    | nil => simp
    | cons e l ih =>
      intro d
      rw [List.foldl_cons, ih, dictInsert_eq_insert, Dict.lookup_insert, List.reverse_cons,
        List.find?_append]
      cases l.reverse.find? fun e => strip e.1 = category with
      | some found => simp
      | none =>
        by_cases he : category = strip e.1
        · simp [he]
        · simp [he, Ne.symm he]
  rw [strippedEntries, go]
  simp

theorem restrictedCategories_of_checked {value : List (String × String)} {config : PolicyConfig}
    (accepted : checkCategories value = .ok config) :
    config.restrictedCategories = strippedEntries value := by
  unfold checkCategories at accepted
  split at accepted
  · cases accepted
  · cases accepted
    rfl

variable {value : List (String × String)} {config : PolicyConfig}
  (accepted : checkCategories value = .ok config)
include accepted

/-- An authority comes from an entry of the map for the category. -/
theorem entry_of_authorityFor {category authority : String}
    (h : config.authorityFor category = some authority) :
    ∃ e ∈ value, strip e.1 = category ∧ strip e.2 = authority := by
  rw [authorityFor, restrictedCategories_of_checked accepted, lookup_strippedEntries] at h
  obtain ⟨e, found, rfl⟩ := Option.map_eq_some_iff.1 h
  refine ⟨e, ?_, by simpa using List.find?_some found, rfl⟩
  simpa using List.mem_of_find?_eq_some found

/-- Every entry of the map restricts its category, stripped. -/
theorem authorityFor_strip {e : String × String} (mem : e ∈ value) :
    ∃ authority, config.authorityFor (strip e.1) = some authority := by
  rw [authorityFor, restrictedCategories_of_checked accepted, lookup_strippedEntries]
  cases hfind : value.reverse.find? fun x => strip x.1 = strip e.1 with
  | none =>
    have := List.find?_eq_none.1 hfind e (by simpa using mem)
    simp at this
  | some found => exact ⟨strip found.2, rfl⟩

/-- A restricted category is written without surrounding whitespace. -/
theorem strip_of_authorityFor {category authority : String}
    (h : config.authorityFor category = some authority) : strip category = category := by
  obtain ⟨e, -, rfl, -⟩ := entry_of_authorityFor accepted h
  exact strip_strip e.1

end PolicyConfig

/-! ## The hold -/

namespace PolicyEngine

variable [Unicode]

/-- The checks that rule 2b looks at: those required, or by default the number where it can be
attested. -/
def mandatoryOf (attestable required : Option (Finset EvidenceKind)) : Finset EvidenceKind :=
  required.getD ({.numberVerification} ∩ attestable.getD Finset.univ)

theorem decide_mandatoryOf (config : PolicyConfig) (decisionId : String) (now : DateTime)
    (transaction : TransactionRequest) (actor : Actor) (evidence : CanonicalEvidence)
    (context : Option ContextEvaluation) (attestable required : Option (Finset EvidenceKind)) :
    decide config decisionId now transaction actor evidence context attestable required =
      decide config decisionId now transaction actor evidence context attestable
        (some (mandatoryOf attestable required)) := by
  cases required <;> rfl

/-- The verdict is a hold for an authority the map gives to the category, up to surrounding
whitespace. -/
def HeldFor (value : List (String × String)) (category : String) (d : PolicyDecision) : Prop :=
  d.decision = .hold ∧
    ∃ e ∈ value, strip e.1 = strip category ∧ d.requiredAuthority = some (strip e.2)

/-- A request that passes rules 1 to 4 and is about a restricted category is held for the authority
of the category exactly when it writes the category without surrounding whitespace. -/
theorem restricted_held_iff (value : List (String × String)) (config : PolicyConfig)
    (accepted : PolicyConfig.checkCategories value = .ok config) (category authority : String)
    (entry : (category, authority) ∈ value) (decisionId : String) (now : DateTime)
    (transaction : TransactionRequest) (actor : Actor) (evidence : CanonicalEvidence)
    (context : Option ContextEvaluation) (attestable required : Option (Finset EvidenceKind))
    (passes : ¬ Refuses transaction actor evidence (mandatoryOf attestable required))
    (swapped : evidence.recentSimSwap ≠ some true)
    (carries : strip transaction.category = strip category) :
    (HeldFor value category (decide config decisionId now transaction actor evidence context
        attestable required) ∧
      (decide config decisionId now transaction actor evidence context attestable
        required).decision ≠ .approve) ↔
      strip transaction.category = transaction.category := by
  have rules := decide_rules config decisionId now transaction actor evidence context attestable
    (mandatoryOf attestable required)
  rw [← decide_mandatoryOf] at rules
  unfold HeldFor
  generalize (decide config decisionId now transaction actor evidence context attestable
    required).decision = outcome at rules ⊢
  generalize (decide config decisionId now transaction actor evidence context attestable
    required).requiredAuthority = named at rules ⊢
  cases rules with
  | deny refused => exact absurd refused passes
  | simSwap _ recent => exact absurd recent swapped
  | restricted a _ _ found =>
    refine iff_of_true ⟨⟨rfl, ?_⟩, by simp⟩ (PolicyConfig.strip_of_authorityFor accepted found)
    obtain ⟨e, mem, writes, names⟩ := PolicyConfig.entry_of_authorityFor accepted found
    refine ⟨e, mem, ?_, by rw [names]⟩
    rw [← carries, ← writes, strip_strip]
  | approve _ _ missed =>
    refine iff_of_false (by simp) fun clean => ?_
    obtain ⟨a, found⟩ := PolicyConfig.authorityFor_strip accepted entry
    rw [← carries, clean, missed] at found
    cases found

end PolicyEngine

/-! ## The category with surrounding whitespace -/

namespace Sample

def hazardousMap : List (String × String) := [(" HAZARDOUS", "ROLE_SAFETY_OFFICER")]

/-- A configuration whose map writes the category with a space in front. -/
def hazardousConfig : PolicyConfig := ⟨[("HAZARDOUS", "ROLE_SAFETY_OFFICER")], by decide, by decide⟩

theorem hazardousConfig_accepted : PolicyConfig.checkCategories hazardousMap = .ok hazardousConfig := by
  decide

/-- A release that writes the category as the map does. -/
def spacedHazardous : TransactionRequest := release "r" " HAZARDOUS" (by decide)

/-- Everything but the device swap was asked and is clean. -/
def cleanEvidence : CanonicalEvidence :=
  { numberVerified := some true, locationVerified := some true, recentSimSwap := some false,
    reachable := some true, collectedAt := ⟨0⟩ }

/-- The verdict on the release under the configuration. -/
def spacedVerdict : PolicyDecision :=
  let _ := unicode
  PolicyEngine.decide hazardousConfig "dec" ⟨0⟩ spacedHazardous operator cleanEvidence none none
    (some {.numberVerification})

theorem spaced_passes :
    ¬ @PolicyEngine.Refuses unicode spacedHazardous operator cleanEvidence {.numberVerification} := by
  unfold PolicyEngine.Refuses
  decide

end Sample

theorem restricted_held_iff_spaced :
    (PolicyEngine.HeldFor Sample.hazardousMap " HAZARDOUS" Sample.spacedVerdict ∧
        Sample.spacedVerdict.decision ≠ .approve) ↔
      strip Sample.spacedHazardous.category = Sample.spacedHazardous.category := by
  unfold Sample.spacedVerdict
  exact @PolicyEngine.restricted_held_iff Sample.unicode Sample.hazardousMap Sample.hazardousConfig
    Sample.hazardousConfig_accepted " HAZARDOUS" "ROLE_SAFETY_OFFICER" (by decide) "dec" ⟨0⟩
    Sample.spacedHazardous Sample.operator Sample.cleanEvidence none none
    (some {EvidenceKind.numberVerification}) Sample.spaced_passes (by decide) rfl

/-- The category is restricted as the request writes it, and the cargo is released. -/
theorem spaced_category_released :
    PolicyConfig.checkCategories Sample.hazardousMap = .ok Sample.hazardousConfig ∧
      (Sample.spacedHazardous.category, "ROLE_SAFETY_OFFICER") ∈ Sample.hazardousMap ∧
      ¬ @PolicyEngine.Refuses Sample.unicode Sample.spacedHazardous Sample.operator
        Sample.cleanEvidence {.numberVerification} ∧
      Sample.cleanEvidence.recentSimSwap ≠ some true ∧
      Sample.spacedVerdict.decision = .approve :=
  ⟨Sample.hazardousConfig_accepted, by decide, Sample.spaced_passes, by decide, by decide +kernel⟩

end ZoneGate
