import ZoneGate.Library.Cells
import ZoneGate.Domain.Records
import ZoneGate.Domain.PolicyConfig

/-!
# The store

`ZoneGateStore` keeps each kind of record in a namespace of the Zova database, under the id of the
record.  A `Cell` is a namespace with a key, and `Cell.Doc` is the document whose JSON is stored
there.  The `…Sync` definitions are the jobs of the store's single worker: reads before the
transaction is opened, the writes inside it, a rollback when a write or the commit fails.
-/

namespace ZoneGate

open Cells Cells.Session

/-- A namespace and a key; the namespace `indexes` has three keys. -/
inductive Cell
  | actors (actorId : String)
  | deviceBindings (actorId : String)
  | consoleCredentials (actorId : String)
  | consoleSessions (sessionId : String)
  | transactions (transactionId : String)
  | evidencePlans (transactionId : String)
  | evidence (transactionId : String)
  | contextEvaluations (transactionId : String)
  | decisions (decisionId : String)
  | decisionTxIndex (transactionId : String)
  | receipts (receiptId : String)
  | receiptTxIndex (transactionId : String)
  | tokens (tokenId : String)
  | tokenSigIndex (signature : String)
  | decisionList
  | actorList
  | policyConfig
deriving DecidableEq

/-- What the text under `policy_config` parses to once the retired fields are dropped: an object
with a category map, an object without one, or anything that fails validation. -/
inductive PolicyText
  | categories (entries : List (String × String))
  | absent
  | invalid
deriving DecidableEq

/-- `PolicyConfig.model_validate_json`, with `None` for a validation error. -/
def PolicyText.parse : PolicyText → Option PolicyConfig
  | .categories entries => (PolicyConfig.checkCategories entries).toOption
  | .absent => some PolicyConfig.default
  | .invalid => none

/-- The document kept in a cell. -/
@[reducible] def Cell.Doc : Cell → Type
  | actors _ => Actor
  | deviceBindings _ => DeviceBinding
  | consoleCredentials _ => OperatorCredential
  | consoleSessions _ => ConsoleSession
  | transactions _ => TransactionRequest
  | evidencePlans _ => ValidatedEvidencePlan
  | evidence _ => CanonicalEvidence
  | contextEvaluations _ => ContextEvaluation
  | decisions _ => PolicyDecision
  | decisionTxIndex _ => String
  | receipts _ => Receipt
  | receiptTxIndex _ => String
  | tokens _ => ScopedAuthorizationToken
  | tokenSigIndex _ => String
  | decisionList => List String
  | actorList => List String
  | policyConfig => PolicyText

/-- The contents of the database. -/
abbrev Kv := Cells.Store Cell.Doc

/-- A job on the database. -/
abbrev Zova := Session Cell.Doc

/-- `kv_get` -/
abbrev kvGet (c : Cell) : Zova (Option c.Doc) := Session.get c

/-- A database without any record. -/
def Kv.empty : Kv := fun _ => none

section Jobs

variable (faults : ℕ → Bool)

/-! ## Actors -/

def getActorSync (actorId : String) : Zova (Option Actor) := kvGet (.actors actorId)

def readActorIds : Zova (List String) := do
  let raw ← kvGet .actorList
  return raw.getD []

/-- The writes of `_save_actor_sync`, given the roster read before. -/
def actorWrites (actor : Actor) (ids : List String) : List (Write Cell.Doc) :=
  [.put (.actors actor.actorId) actor, .put .actorList (actor.actorId :: ids.erase actor.actorId)]

def saveActorSync (actor : Actor) : Zova Unit := do
  let ids ← readActorIds
  transact faults (actorWrites actor ids)

/-- The loop of the two listings: stop at the limit, skip missing and unwanted records. -/
def listLoopSync {α : Type} (limit : ℤ) (fetch : String → Zova (Option α)) (keep : α → Bool) :
    List String → List α → Zova (List α)
  | [], found => return found
  | id :: ids, found =>
      if limit ≤ found.length then return found
      else do
        let raw ← fetch id
        match raw with
        | none => listLoopSync limit fetch keep ids found
        | some record =>
            if keep record then listLoopSync limit fetch keep ids (found ++ [record])
            else listLoopSync limit fetch keep ids found

def listActorsSync (limit : ℤ) : Zova (List Actor) := do
  let ids ← readActorIds
  listLoopSync limit getActorSync (fun _ => true) ids []

/-! ## Records kept under one key -/

def getDeviceBindingSync (actorId : String) : Zova (Option DeviceBinding) :=
  kvGet (.deviceBindings actorId)

def saveDeviceBindingSync (binding : DeviceBinding) : Zova Unit :=
  transact faults [.put (.deviceBindings binding.actorId) binding]

def getCredentialSync (actorId : String) : Zova (Option OperatorCredential) :=
  kvGet (.consoleCredentials actorId)

def saveCredentialSync (credential : OperatorCredential) : Zova Unit :=
  transact faults [.put (.consoleCredentials credential.actorId) credential]

def getSessionSync (sessionId : String) : Zova (Option ConsoleSession) :=
  kvGet (.consoleSessions sessionId)

def saveSessionSync (session : ConsoleSession) : Zova Unit :=
  transact faults [.put (.consoleSessions session.sessionId) session]

def deleteSessionSync (sessionId : String) : Zova Unit :=
  transact faults [⟨.consoleSessions sessionId, none⟩]

def getPolicyConfigSync : Zova (Option PolicyConfig) := do
  let raw ← kvGet .policyConfig
  return raw.bind PolicyText.parse

/-- The only save that opens no transaction. -/
def savePolicyConfigSync (config : PolicyConfig) : Zova Unit :=
  write faults (.put .policyConfig (.categories config.restrictedCategories))

def getTransactionSync (transactionId : String) : Zova (Option TransactionRequest) :=
  kvGet (.transactions transactionId)

def saveTransactionSync (tx : TransactionRequest) : Zova Unit :=
  transact faults [.put (.transactions tx.transactionId) tx]

def getEvidencePlanSync (transactionId : String) : Zova (Option ValidatedEvidencePlan) :=
  kvGet (.evidencePlans transactionId)

def saveEvidencePlanSync (transactionId : String) (plan : ValidatedEvidencePlan) : Zova Unit :=
  transact faults [.put (.evidencePlans transactionId) plan]

def getEvidenceSync (transactionId : String) : Zova (Option CanonicalEvidence) :=
  kvGet (.evidence transactionId)

def saveEvidenceSync (transactionId : String) (evidence : CanonicalEvidence) : Zova Unit :=
  transact faults [.put (.evidence transactionId) evidence]

def getContextEvaluationSync (transactionId : String) : Zova (Option ContextEvaluation) :=
  kvGet (.contextEvaluations transactionId)

def saveContextEvaluationSync (transactionId : String) (evaluation : ContextEvaluation) :
    Zova Unit :=
  transact faults [.put (.contextEvaluations transactionId) evaluation]

/-! ## Decisions -/

def getDecisionSync (decisionId : String) : Zova (Option PolicyDecision) :=
  kvGet (.decisions decisionId)

def getDecisionByTxSync (transactionId : String) : Zova (Option PolicyDecision) := do
  let decisionId ← kvGet (.decisionTxIndex transactionId)
  match decisionId with
  | none => return none
  | some decisionId => kvGet (.decisions decisionId)

def readDecisionIds : Zova (List String) := do
  let raw ← kvGet .decisionList
  return raw.getD []

/-- The writes of `_save_decision_sync`, given the id list read before. -/
def decisionWrites (decision : PolicyDecision) (ids : List String) : List (Write Cell.Doc) :=
  [.put (.decisions decision.decisionId) decision,
    .put (.decisionTxIndex decision.transactionId) decision.decisionId,
    .put .decisionList (decision.decisionId :: ids.erase decision.decisionId)]

def saveDecisionSync (decision : PolicyDecision) : Zova Unit := do
  let ids ← readDecisionIds
  transact faults (decisionWrites decision ids)

/-- `not (outcome and decision.decision != outcome)`. -/
def wantedOutcome (outcome : Option String) (decision : PolicyDecision) : Bool :=
  match outcome with
  | none => true
  | some name => name = "" || decision.decision.value = name

def listDecisionsSync (outcome : Option String) (limit : ℤ) : Zova (List PolicyDecision) := do
  let ids ← readDecisionIds
  listLoopSync limit getDecisionSync (wantedOutcome outcome) ids []

/-! ## Receipts and tokens -/

def getReceiptSync (receiptId : String) : Zova (Option Receipt) := kvGet (.receipts receiptId)

def receiptWrites (receipt : Receipt) : List (Write Cell.Doc) :=
  [.put (.receipts receipt.receiptId) receipt,
    .put (.receiptTxIndex receipt.transactionId) receipt.receiptId]

def saveReceiptSync (receipt : Receipt) : Zova Unit := transact faults (receiptWrites receipt)

def getReceiptByTxSync (transactionId : String) : Zova (Option Receipt) := do
  let receiptId ← kvGet (.receiptTxIndex transactionId)
  match receiptId with
  | none => return none
  | some receiptId => getReceiptSync receiptId

/-- By token id first, then through the signature index. -/
def getTokenSync (tokenIdentifier : String) : Zova (Option ScopedAuthorizationToken) := do
  let raw ← kvGet (.tokens tokenIdentifier)
  match raw with
  | some token => return some token
  | none =>
      let tokenId ← kvGet (.tokenSigIndex tokenIdentifier)
      match tokenId with
      | none => return none
      | some tokenId => kvGet (.tokens tokenId)

def tokenWrites (token : ScopedAuthorizationToken) : List (Write Cell.Doc) :=
  [.put (.tokens token.tokenId) token, .put (.tokenSigIndex token.signature) token.tokenId]

def saveTokenSync (token : ScopedAuthorizationToken) : Zova Unit :=
  transact faults (tokenWrites token)

end Jobs

end ZoneGate
