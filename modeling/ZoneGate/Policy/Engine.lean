import ZoneGate.Authorization.Effects

/-!
# The policy engine

The rules, in order, with the texts of their reasons.  `PolicyEngine.decide` is the engine without
its identifier and clock: a function of the configuration, the request and the evidence.
-/

namespace ZoneGate

open Py Effects

variable [Unicode]

def actionPermissions : List (String × String) := [("RELEASE_CARGO", "cargo:release")]

def simSwapAuthority : String := "ROLE_SECURITY_OFFICER"

/-- The field of the canonical evidence each planned check lands in, and its label. -/
def evidenceFields : EvidenceKind → Option ((CanonicalEvidence → Option Bool) × String)
  | .numberVerification => some (CanonicalEvidence.numberVerified, "Subscriber number verification")
  | .locationVerification => some (CanonicalEvidence.locationVerified, "Device location verification")
  | .simSwap => some (CanonicalEvidence.recentSimSwap, "SIM continuity")
  | .deviceSwap => some (CanonicalEvidence.recentDeviceSwap, "Device continuity")
  | .reachability => some (CanonicalEvidence.reachable, "Network reachability")
  | .kycMatch => none

namespace PolicyEngine

/-- `ACTION_PERMISSIONS.get(action, f"{action.lower()}:execute")` -/
def requiredPermission (action : String) : String :=
  (actionPermissions.lookup action).getD (lower action ++ ":execute")

/-- The caveat of a deployment whose carrier cannot attest the number. -/
def caveats (supported : Finset EvidenceKind) : List String :=
  if .numberVerification ∈ supported then []
  else
    ["Caveat: this deployment's carrier cannot attest the number on the " ++
      "device, so the actor-to-number binding rests on the ZoneGate " ++
      "enrolment record rather than on network attestation"]

/-- A required check that was not answered. -/
def unanswered (evidence : CanonicalEvidence) (kind : EvidenceKind) : Bool :=
  match evidenceFields kind with
  | none => false
  | some (field, _) => field evidence = none

def label (kind : EvidenceKind) : Option String := (evidenceFields kind).map Prod.snd

/-- `PolicyEngine.evaluate` with the configuration, the new identifier and the time. -/
def decide (config : PolicyConfig) (decisionId : String) (now : DateTime)
    (transaction : TransactionRequest) (actor : Actor) (evidence : CanonicalEvidence)
    (contextEvaluation : Option ContextEvaluation) (attestable : Option (Finset EvidenceKind))
    (required : Option (Finset EvidenceKind)) : PolicyDecision :=
  let supported := attestable.getD Finset.univ
  let outcome (decision : DecisionOutcome) (reason : String)
      (requiredAuthority : Option String := none) (restsOnEvidence : Bool := true) :
      PolicyDecision :=
    { decisionId := decisionId
      transactionId := transaction.transactionId
      decision := decision
      reasons := if restsOnEvidence then reason :: caveats supported else [reason]
      requiredAuthority := requiredAuthority
      contextEvaluation := contextEvaluation
      evidenceSummary := some ⟨evidence.numberVerified, evidence.locationVerified,
        evidence.recentSimSwap, evidence.recentDeviceSwap, evidence.reachable⟩
      decidedAt := now }
  let mandatory := EvidenceKind.sortedByValue
    (required.getD ({.numberVerification} ∩ supported))
  -- Rule 1: permission mismatch
  if requiredPermission transaction.action ∉ actor.permissions then
    outcome .deny ("Actor lacks required permission '" ++ requiredPermission transaction.action ++
      "' for action '" ++ transaction.action ++ "'") none false
  -- Rule 2: the carrier contradicts the registered number
  else if evidence.numberVerified = some false then
    outcome .deny ("Subscriber number verification failed: the carrier did not confirm " ++
      "the registered number on this device")
  else match mandatory.find? (unanswered evidence) with
  -- Rule 2b: mandatory evidence that never arrived
  | some kind =>
      outcome .deny ((label kind).getD "" ++ " is required for this release but was " ++
        "not collected; the carrier did not answer the check, so the " ++
        "release cannot rest on network evidence that does not exist")
  | none =>
      -- Rule 3: outside the zone
      if evidence.locationVerified = some false then
        outcome .deny
          "Device location geofence check failed: device is outside authorized zone"
      -- Rule 4: recent SIM swap
      else if evidence.recentSimSwap = some true then
        outcome .hold ("Recent carrier SIM swap detected on the subscriber device; the line " ++
          "the network evidence was collected over may have changed hands") simSwapAuthority
      else match (config.authorityFor transaction.category).filter (· ≠ "") with
      -- Rule 5: restricted cargo category
      | some authority =>
          outcome .hold ("Cargo category '" ++ transaction.category ++
            "' is restricted and is released " ++ "only on the approval of " ++ authority) authority
      -- Rule 6: otherwise
      | none =>
          let passed := (mandatory.filterMap label).map lower
          let checks := if passed = [] then "no network checks" else join ", " passed
          outcome .approve ("Category '" ++ transaction.category ++
            "' is unrestricted and the required " ++
            "network evidence passed deterministic policy checks (" ++ checks ++ ")")

/-- `"dec_" + uuid4().hex[:12]` -/
def newDecisionId (hex : String) : String := "dec_" ++ String.ofList (hex.toList.take 12)

/-- `PolicyEngine.evaluate`: a new identifier, the time, and the configuration in force. -/
def evaluate (transaction : TransactionRequest) (actor : Actor) (evidence : CanonicalEvidence)
    (contextEvaluation : Option ContextEvaluation) (attestable : Option (Finset EvidenceKind))
    (required : Option (Finset EvidenceKind)) : Service PolicyDecision := do
  let hex ← uuid4
  let now ← utcnow
  let config ← engineConfig
  return decide config (newDecisionId hex) now transaction actor evidence contextEvaluation
    attestable required

/-! ## What the engine decides -/

/-- Rules 1 to 3: the request is refused on the permission or on the evidence. -/
def Refuses (transaction : TransactionRequest) (actor : Actor) (evidence : CanonicalEvidence)
    (mandatory : Finset EvidenceKind) : Prop :=
  requiredPermission transaction.action ∉ actor.permissions ∨
    evidence.numberVerified = some false ∨
    (∃ k ∈ mandatory, unanswered evidence k = true) ∨ evidence.locationVerified = some false

/-- What a reason of the engine begins with. -/
def openings : List String :=
  ["Actor lacks", "Subscriber number", "Device location", "SIM continuity", "Device continuity",
    "Network reachability", " is required", "Recent carrier", "Cargo category", "Category '"]

/-- The text begins like a reason of the engine. -/
def Opens (reason : String) : Prop := ∃ opening ∈ openings, opening.toList <+: reason.toList

section Decide

variable (config : PolicyConfig) (decisionId : String) (now : DateTime)
  (transaction : TransactionRequest) (actor : Actor) (evidence : CanonicalEvidence)
  (context : Option ContextEvaluation) (attestable : Option (Finset EvidenceKind))
  (required : Finset EvidenceKind)

/-- The outcome and the authority of the verdict, rule by rule. -/
inductive Rules : DecisionOutcome → Option String → Prop
  | deny (h : Refuses transaction actor evidence required) : Rules .deny none
  | simSwap (h : ¬ Refuses transaction actor evidence required)
      (swapped : evidence.recentSimSwap = some true) : Rules .hold (some simSwapAuthority)
  | restricted (authority : String) (h : ¬ Refuses transaction actor evidence required)
      (swapped : evidence.recentSimSwap ≠ some true)
      (category : config.authorityFor transaction.category = some authority) :
      Rules .hold (some authority)
  | approve (h : ¬ Refuses transaction actor evidence required)
      (swapped : evidence.recentSimSwap ≠ some true)
      (category : config.authorityFor transaction.category = none) : Rules .approve none

omit [Unicode] in
/-- A required check is unanswered exactly when the loop of rule 2b finds one. -/
theorem find_unanswered_eq_none :
    (EvidenceKind.sortedByValue required).find? (unanswered evidence) = none ↔
      ∀ k ∈ required, unanswered evidence k = false := by
  simp

theorem decide_rules :
    Rules config transaction actor evidence required
      (decide config decisionId now transaction actor evidence context attestable
        (some required)).decision
      (decide config decisionId now transaction actor evidence context attestable
        (some required)).requiredAuthority := by
  by_cases hperm : requiredPermission transaction.action ∈ actor.permissions
  swap
  · rw [decide, if_pos hperm]
    exact .deny (.inl hperm)
  by_cases hnumber : evidence.numberVerified = some false
  · rw [decide, if_neg (not_not.2 hperm), if_pos hnumber]
    exact .deny (.inr (.inl hnumber))
  rcases hfind : (EvidenceKind.sortedByValue required).find? (unanswered evidence) with _ | kind
  swap
  · rw [decide, if_neg (not_not.2 hperm), if_neg hnumber, Option.getD_some, hfind]
    refine .deny (.inr (.inr (.inl ⟨kind, ?_, List.find?_some hfind⟩)))
    simpa using List.mem_of_find?_eq_some hfind
  have answered := (find_unanswered_eq_none evidence required).1 hfind
  by_cases hlocation : evidence.locationVerified = some false
  · rw [decide, if_neg (not_not.2 hperm), if_neg hnumber, Option.getD_some, hfind]
    dsimp only
    rw [if_pos hlocation]
    exact .deny (.inr (.inr (.inr hlocation)))
  have passes : ¬ Refuses transaction actor evidence required := by
    rintro (h | h | ⟨k, hk, h⟩ | h)
    · exact h hperm
    · exact hnumber h
    · simp [answered k hk] at h
    · exact hlocation h
  rw [decide, if_neg (not_not.2 hperm), if_neg hnumber, Option.getD_some, hfind]
  dsimp only
  rw [if_neg hlocation]
  by_cases hswap : evidence.recentSimSwap = some true
  · rw [if_pos hswap]
    exact .simSwap passes hswap
  rw [if_neg hswap]
  rcases hcategory : config.authorityFor transaction.category with _ | authority
  · exact .approve passes hswap hcategory
  · have named : authority ≠ "" := PolicyConfig.authorityFor_ne_empty hcategory
    rw [show (some authority).filter (fun a => (a ≠ "" : Bool)) = some authority by simp [named]]
    exact .restricted authority passes hswap hcategory

/-- The rules that apply decide the outcome. -/
theorem Rules.deny_iff {outcome : DecisionOutcome} {authority : Option String}
    (h : Rules config transaction actor evidence required outcome authority) :
    outcome = .deny ↔ Refuses transaction actor evidence required := by
  cases h <;> simp_all

/-- What every verdict carries, whichever rule gave it; the advice has no part in the rule. -/
theorem decide_shape (required : Option (Finset EvidenceKind)) :
    ∃ outcome reasons authority, ∀ context,
      decide config decisionId now transaction actor evidence context attestable required =
        { decisionId := decisionId
          transactionId := transaction.transactionId
          decision := outcome
          reasons := reasons
          requiredAuthority := authority
          contextEvaluation := context
          evidenceSummary := some ⟨evidence.numberVerified, evidence.locationVerified,
            evidence.recentSimSwap, evidence.recentDeviceSwap, evidence.reachable⟩
          decidedAt := now } := by
  refine ⟨(decide config decisionId now transaction actor evidence none attestable
      required).decision, (decide config decisionId now transaction actor evidence none attestable
      required).reasons, (decide config decisionId now transaction actor evidence none attestable
      required).requiredAuthority, fun context => ?_⟩
  unfold decide
  dsimp only
  split
  · rfl
  split
  · rfl
  split
  · rfl
  split
  · rfl
  split
  · rfl
  split <;> rfl

omit [Unicode] in
/-- What a text begins with decides whether it is a reason of the engine. -/
theorem opens_append {letters : List Char} (rest : String)
    (h : ∃ opening ∈ openings, opening.toList <+: letters) :
    Opens (String.ofList letters ++ rest) := by
  obtain ⟨opening, listed, leads⟩ := h
  refine ⟨opening, listed, ?_⟩
  rw [String.toList_append, String.toList_ofList]
  exact leads.trans (List.prefix_append letters rest.toList)

omit [Unicode] in
theorem opens_letters {letters : List Char} (h : ∃ opening ∈ openings, opening.toList <+: letters) :
    Opens (String.ofList letters) := by
  have opens := opens_append "" h
  rwa [String.append_empty] at opens

omit [Unicode] in
/-- A reason of the engine does not begin like anything else. -/
theorem Opens.not_prefix {reason : String} (h : Opens reason) {letters : List Char}
    (apart : ∀ opening ∈ openings, ¬ opening.toList <+: letters ∧ ¬ letters <+: opening.toList) :
    ¬ letters <+: reason.toList := by
  intro leads
  obtain ⟨opening, listed, opens⟩ := h
  obtain ⟨longer, shorter⟩ := apart opening listed
  rcases Nat.le_total opening.toList.length letters.length with le | le
  · exact longer (List.prefix_of_prefix_length_le opens leads le)
  · exact shorter (List.prefix_of_prefix_length_le leads opens le)

/-- The first reason begins like one of the engine; a denial of permission has no other, and every
other verdict has the caveats of the deployment. -/
theorem decide_reasons (required : Option (Finset EvidenceKind)) :
    let d := decide config decisionId now transaction actor evidence context attestable required
    ∃ reason, Opens reason ∧
      (d.decision = .deny ∧ d.reasons = [reason] ∨
        d.reasons = reason :: caveats (attestable.getD Finset.univ)) := by
  intro d
  unfold d decide
  dsimp only
  simp only [String.append_assoc]
  split
  · exact ⟨_, opens_append _ (by decide), .inl ⟨rfl, rfl⟩⟩
  split
  · exact ⟨_, opens_append _ (by decide), .inr rfl⟩
  split
  · rename_i kind _
    refine ⟨_, ?_, .inr rfl⟩
    cases kind with
    | kycMatch =>
      change Opens ("" ++ _)
      rw [String.empty_append]
      exact opens_append _ (by decide)
    | _ => exact opens_append _ (by decide)
  split
  · exact ⟨_, opens_letters (by decide), .inr rfl⟩
  split
  · exact ⟨_, opens_append _ (by decide), .inr rfl⟩
  split
  · exact ⟨_, opens_append _ (by decide), .inr rfl⟩
  · exact ⟨_, opens_append _ (by decide), .inr rfl⟩

end Decide

end PolicyEngine

end ZoneGate
