import ZoneGate.Py.Str
import ZoneGate.Py.Datetime
import Mathlib.Data.Fintype.Basic

/-!
# Domain records

The records the authorization pipeline reads, writes and returns, with the fields and defaults of
the Pydantic models.  A string enumeration is an inductive type with its `value`.
-/

namespace ZoneGate

open Py

/-- A finite `decimal.Decimal`: sign, coefficient digits and exponent. -/
structure Decimal where
  negative : Bool
  coefficient : ℕ
  exponent : ℤ
deriving DecidableEq, Repr

/-! ## Actors -/

structure Actor where
  actorId : String
  role : String
  permissions : List String := []
  registeredPhoneNumber : String
  registeredDeviceId : String
  enrollmentStatus : String := "ACTIVE"
deriving DecidableEq, Repr

structure DeviceBinding where
  actorId : String
  phoneNumber : String
  deviceId : String
  boundAt : DateTime
  isActive : Bool := true
deriving DecidableEq, Repr

structure OperatorCredential where
  actorId : String
  passwordHash : String
  updatedAt : DateTime
deriving DecidableEq, Repr

structure ConsoleSession where
  sessionId : String
  actorId : String
  createdAt : DateTime
  expiresAt : DateTime
deriving DecidableEq, Repr

/-! ## Transactions -/

def defaultCategory : String := "GENERAL"

structure TransactionRequest where
  transactionId : String
  actorId : String
  action : String
  resourceId : String
  zone : String
  timestamp : DateTime
  value : Decimal := ⟨false, 0, -1⟩
  category : String := defaultCategory
  metadata : List (String × String) := []
  category_length : 1 ≤ category.length ∧ category.length ≤ 64 := by decide
deriving DecidableEq

/-! ## Evidence -/

inductive EvidenceKind
  | numberVerification | locationVerification | simSwap | deviceSwap | reachability | kycMatch
deriving DecidableEq, Repr

namespace EvidenceKind

def value : EvidenceKind → String
  | numberVerification => "NUMBER_VERIFICATION"
  | locationVerification => "LOCATION_VERIFICATION"
  | simSwap => "SIM_SWAP"
  | deviceSwap => "DEVICE_SWAP"
  | reachability => "REACHABILITY"
  | kycMatch => "KYC_MATCH"

/-- All kinds in the order of their values. -/
def byValue : List EvidenceKind :=
  [deviceSwap, kycMatch, locationVerification, numberVerification, reachability, simSwap]

instance : Fintype EvidenceKind where
  elems := ⟨byValue, by decide⟩
  complete k := by cases k <;> decide

/-- `sorted(kinds, key=lambda k: k.value)`. -/
def sortedByValue (kinds : Finset EvidenceKind) : List EvidenceKind :=
  byValue.filter (· ∈ kinds)

theorem sorted_byValue : (byValue.map value).Pairwise (· < ·) := by decide

theorem sorted_sortedByValue (kinds : Finset EvidenceKind) :
    ((sortedByValue kinds).map value).Pairwise (· < ·) :=
  sorted_byValue.sublist (List.filter_sublist.map value)

theorem nodup_sortedByValue (kinds : Finset EvidenceKind) : (sortedByValue kinds).Nodup := by
  have all : byValue.Nodup := by decide
  exact all.filter _

theorem mem_byValue (k : EvidenceKind) : k ∈ byValue := by cases k <;> decide

@[simp] theorem mem_sortedByValue {k : EvidenceKind} {kinds : Finset EvidenceKind} :
    k ∈ sortedByValue kinds ↔ k ∈ kinds := by
  simp [sortedByValue, mem_byValue]

end EvidenceKind

/-- The plan an agent proposes; advisory. -/
structure EvidencePlan where
  optionalEvidence : List EvidenceKind := []
  rationale : List String := []
deriving DecidableEq, Repr

structure ValidatedEvidencePlan where
  mandatory : List EvidenceKind
  optional : List EvidenceKind := []
  combined : List EvidenceKind
  rationale : List String := []
  plannerConsulted : Bool := false
  offeredOptional : List EvidenceKind := []
  proposedOptional : List EvidenceKind := []
deriving DecidableEq, Repr

/-- Normalised network evidence; `none` is a check that was not collected or not answered. -/
structure CanonicalEvidence where
  numberVerified : Option Bool := none
  locationVerified : Option Bool := none
  recentSimSwap : Option Bool := none
  recentDeviceSwap : Option Bool := none
  reachable : Option Bool := none
  kycMatch : Option Bool := none
  collectedAt : DateTime
deriving DecidableEq, Repr

/-! ## Decisions -/

/-- `RecommendedControl` and `DecisionOutcome` have the same members. -/
inductive DecisionOutcome
  | approve | hold | deny
deriving DecidableEq, Repr

namespace DecisionOutcome

def value : DecisionOutcome → String
  | approve => "APPROVE"
  | hold => "HOLD"
  | deny => "DENY"

theorem value_injective : Function.Injective value := by
  intro a b
  cases a <;> cases b <;> decide

/-- Position in the order APPROVE < HOLD < DENY. -/
def strictness : DecisionOutcome → ℕ
  | approve => 0
  | hold => 1
  | deny => 2

instance : LE DecisionOutcome := ⟨fun a b => a.strictness ≤ b.strictness⟩

instance (a b : DecisionOutcome) : Decidable (a ≤ b) :=
  inferInstanceAs (Decidable (a.strictness ≤ b.strictness))

end DecisionOutcome

structure ContextEvaluation where
  riskFactors : List String := []
  recommendedControl : DecisionOutcome
  rationale : String
deriving DecidableEq, Repr

/-- The verdict of the human authority a HOLD was handed to. -/
structure HoldResolution where
  outcome : DecisionOutcome
  resolvedBy : String
  authorityRole : String
  note : String := ""
  resolvedAt : DateTime
deriving DecidableEq, Repr

/-- The `evidence_summary` dictionary of the engine: its five keys and their values. -/
structure EvidenceSummary where
  numberVerified : Option Bool
  locationVerified : Option Bool
  recentSimSwap : Option Bool
  recentDeviceSwap : Option Bool
  reachable : Option Bool
deriving DecidableEq, Repr

structure PolicyDecision where
  decisionId : String
  transactionId : String
  decision : DecisionOutcome
  reasons : List String
  requiredAuthority : Option String := none
  contextEvaluation : Option ContextEvaluation := none
  evidenceSummary : Option EvidenceSummary := none
  decidedAt : DateTime
  resolution : Option HoldResolution := none
deriving DecidableEq, Repr

/-- What the engine decided: the decision without what a person added to it. -/
def PolicyDecision.core (d : PolicyDecision) : PolicyDecision := { d with resolution := none }

structure Receipt where
  receiptId : String
  decisionId : String
  transactionId : String
  decision : DecisionOutcome
  issuedAt : DateTime
  token : Option String := none
deriving DecidableEq, Repr

structure ScopedAuthorizationToken where
  tokenId : String
  actorId : String
  action : String
  resourceId : String
  zone : String
  decisionId : String
  issuedAt : DateTime
  expiresAt : DateTime
  signature : String
  claimed : Bool := false
  claimedAt : Option DateTime := none
deriving DecidableEq, Repr

/-- What a token is for: all of it but whether it was claimed. -/
def ScopedAuthorizationToken.core (t : ScopedAuthorizationToken) : ScopedAuthorizationToken :=
  { t with claimed := false, claimedAt := none }

theorem ScopedAuthorizationToken.signature_eq_of_core {t t' : ScopedAuthorizationToken}
    (same : t'.core = t.core) : t'.signature = t.signature :=
  have signature : t'.core.signature = t.core.signature := by rw [same]
  signature

end ZoneGate
