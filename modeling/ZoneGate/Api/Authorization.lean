import ZoneGate.Api.Actors
import ZoneGate.Authorization.Service

/-!
# The authorization endpoints

The listings of decisions, and the context a person decides a hold on.
-/

namespace ZoneGate

open Py Effects

/-- Everything the human authority needs to decide a hold, in one payload. -/
structure DecisionContext where
  decision : PolicyDecision
  transaction : Option TransactionRequest := none
  evidence : Option CanonicalEvidence := none
  evidencePlan : Option ValidatedEvidencePlan := none
  receipt : Option Receipt := none
deriving DecidableEq

structure AuthorizationResponse where
  decision : PolicyDecision
  receipt : Receipt
deriving DecidableEq

/-- The verdict of the human authority; `resolvedBy` is ignored. -/
structure HoldResolutionRequest where
  outcome : DecisionOutcome
  resolvedBy : Option String := none
  note : String := ""
deriving DecidableEq, Repr

namespace AuthorizationController

/-- `max(1, min(limit, top))` -/
def clamp (limit top : ℤ) : ℤ := max 1 (min limit top)

/-- `item.resolution is None` -/
def isPending (decision : PolicyDecision) : Bool := decision.resolution.isNone

/-- `pending=true` drops what is resolved from a listing. -/
def narrow (pending : Bool) (decisions : List PolicyDecision) : List PolicyDecision :=
  if pending then decisions.filter isPending else decisions

def listAuthorizationDecisions (decision : Option DecisionOutcome) (pending : Bool) (limit : ℤ) :
    Service (List PolicyDecision) := do
  let decisions ← store (.listDecisions (decision.map DecisionOutcome.value) (clamp limit 500))
  return narrow pending decisions

/-- The context of a decision that was looked up. -/
def contextFor (item : PolicyDecision) : Service DecisionContext := do
  let transaction ← store (.getTransaction item.transactionId)
  let evidence ← store (.getEvidence item.transactionId)
  let evidencePlan ← store (.getEvidencePlan item.transactionId)
  let receipt ← store (.getReceiptByTransactionId item.transactionId)
  return ⟨item, transaction, evidence, evidencePlan, receipt⟩

/-- The loop of the listing of contexts. -/
def contextsFor : List PolicyDecision → Service (List DecisionContext)
  | [] => return []
  | item :: items => do
      let context ← contextFor item
      let contexts ← contextsFor items
      return context :: contexts

def listDecisionContexts (decision : Option DecisionOutcome) (pending : Bool) (limit : ℤ) :
    Service (List DecisionContext) := do
  let decisions ← store (.listDecisions (decision.map DecisionOutcome.value) (clamp limit 100))
  contextsFor (narrow pending decisions)

def decisionNotFound (decisionId : String) : ApiError :=
  .http 404 ("Authorization decision '" ++ decisionId ++ "' not found")

def getDecisionContext (decisionId : String) : Api DecisionContext := do
  let decision ← (store (.getDecision decisionId) : Service (Option PolicyDecision))
  match decision with
  | none => throw (decisionNotFound decisionId)
  | some decision => contextFor decision

def getAuthorizationDecision (decisionId : String) : Api PolicyDecision := do
  let decision ← (store (.getDecision decisionId) : Service (Option PolicyDecision))
  match decision with
  | none => throw (decisionNotFound decisionId)
  | some decision => return decision

section

variable [Unicode] (svc : AuthorizationService)

def requestAuthorization (data : TransactionRequest) : Service AuthorizationResponse := do
  let verdict ← svc.authorizeTransaction false data
  return ⟨verdict.1, verdict.2⟩

omit [Unicode] in
/-- How the exceptions of a resolution are answered; the others are not handled. -/
def resolutionError : ServiceError → Option ApiError
  | .decisionNotFound message => some (.http 404 message)
  | .holdAuthority message => some (.http 403 message)
  | .holdResolution message => some (.http 409 message)
  | _ => none

/-- The verdict is recorded under whoever is signed in, never under a name of the request. -/
def resolveHold (cookie : Option String) (decisionId : String) (data : HoldResolutionRequest) :
    Api AuthorizationResponse := do
  let resolver ← requireConsoleActor cookie
  let verdict ← ExceptT.mk
    ((svc.resolveHold decisionId data.outcome resolver.actorId data.note
      (some resolver.role)).catching resolutionError)
  return ⟨verdict.1, verdict.2⟩

end

end AuthorizationController

end ZoneGate
