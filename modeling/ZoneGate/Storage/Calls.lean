import ZoneGate.Storage.Zova

/-!
# Store calls

Each method of `ZoneGateStore` is one job on its single worker.  `StoreCall.job` is the job as the
source writes it, on a database whose writes may fail; `StoreCall.answer` and `StoreCall.writes`
say what a job that completes returns and writes.  `StoreCall.job_on` connects the two: a job
completes, or it fails and leaves the contents as they were.
-/

namespace ZoneGate

open Cells Cells.Session

/-- A method of `ZoneGateStore` with its arguments. -/
inductive StoreCall
  | getActor (actorId : String)
  | saveActor (actor : Actor)
  | listActors (limit : ℤ)
  | getDeviceBinding (actorId : String)
  | saveDeviceBinding (binding : DeviceBinding)
  | getCredential (actorId : String)
  | saveCredential (credential : OperatorCredential)
  | getConsoleSession (sessionId : String)
  | saveConsoleSession (session : ConsoleSession)
  | deleteConsoleSession (sessionId : String)
  | getPolicyConfig
  | savePolicyConfig (config : PolicyConfig)
  | getTransaction (transactionId : String)
  | saveTransaction (tx : TransactionRequest)
  | getEvidencePlan (transactionId : String)
  | saveEvidencePlan (transactionId : String) (plan : ValidatedEvidencePlan)
  | getEvidence (transactionId : String)
  | saveEvidence (transactionId : String) (evidence : CanonicalEvidence)
  | getContextEvaluation (transactionId : String)
  | saveContextEvaluation (transactionId : String) (evaluation : ContextEvaluation)
  | getDecision (decisionId : String)
  | getDecisionByTransactionId (transactionId : String)
  | saveDecision (decision : PolicyDecision)
  | listDecisions (outcome : Option String) (limit : ℤ)
  | getReceipt (receiptId : String)
  | saveReceipt (receipt : Receipt)
  | getReceiptByTransactionId (transactionId : String)
  | getToken (tokenIdentifier : String)
  | saveToken (token : ScopedAuthorizationToken)

namespace StoreCall

/-- What the method returns. -/
@[reducible] def Reply : StoreCall → Type
  | getActor _ => Option Actor
  | saveActor _ => Unit
  | listActors _ => List Actor
  | getDeviceBinding _ => Option DeviceBinding
  | saveDeviceBinding _ => Unit
  | getCredential _ => Option OperatorCredential
  | saveCredential _ => Unit
  | getConsoleSession _ => Option ConsoleSession
  | saveConsoleSession _ => Unit
  | deleteConsoleSession _ => Unit
  | getPolicyConfig => Option PolicyConfig
  | savePolicyConfig _ => Unit
  | getTransaction _ => Option TransactionRequest
  | saveTransaction _ => Unit
  | getEvidencePlan _ => Option ValidatedEvidencePlan
  | saveEvidencePlan _ _ => Unit
  | getEvidence _ => Option CanonicalEvidence
  | saveEvidence _ _ => Unit
  | getContextEvaluation _ => Option ContextEvaluation
  | saveContextEvaluation _ _ => Unit
  | getDecision _ => Option PolicyDecision
  | getDecisionByTransactionId _ => Option PolicyDecision
  | saveDecision _ => Unit
  | listDecisions _ _ => List PolicyDecision
  | getReceipt _ => Option Receipt
  | saveReceipt _ => Unit
  | getReceiptByTransactionId _ => Option Receipt
  | getToken _ => Option ScopedAuthorizationToken
  | saveToken _ => Unit

/-- The job the method submits to the worker. -/
def job (faults : ℕ → Bool) : (c : StoreCall) → Zova c.Reply
  | getActor actorId => getActorSync actorId
  | saveActor actor => saveActorSync faults actor
  | listActors limit => listActorsSync limit
  | getDeviceBinding actorId => getDeviceBindingSync actorId
  | saveDeviceBinding binding => saveDeviceBindingSync faults binding
  | getCredential actorId => getCredentialSync actorId
  | saveCredential credential => saveCredentialSync faults credential
  | getConsoleSession sessionId => getSessionSync sessionId
  | saveConsoleSession session => saveSessionSync faults session
  | deleteConsoleSession sessionId => deleteSessionSync faults sessionId
  | getPolicyConfig => getPolicyConfigSync
  | savePolicyConfig config => savePolicyConfigSync faults config
  | getTransaction transactionId => getTransactionSync transactionId
  | saveTransaction tx => saveTransactionSync faults tx
  | getEvidencePlan transactionId => getEvidencePlanSync transactionId
  | saveEvidencePlan transactionId plan => saveEvidencePlanSync faults transactionId plan
  | getEvidence transactionId => getEvidenceSync transactionId
  | saveEvidence transactionId evidence => saveEvidenceSync faults transactionId evidence
  | getContextEvaluation transactionId => getContextEvaluationSync transactionId
  | saveContextEvaluation transactionId evaluation =>
      saveContextEvaluationSync faults transactionId evaluation
  | getDecision decisionId => getDecisionSync decisionId
  | getDecisionByTransactionId transactionId => getDecisionByTxSync transactionId
  | saveDecision decision => saveDecisionSync faults decision
  | listDecisions outcome limit => listDecisionsSync outcome limit
  | getReceipt receiptId => getReceiptSync receiptId
  | saveReceipt receipt => saveReceiptSync faults receipt
  | getReceiptByTransactionId transactionId => getReceiptByTxSync transactionId
  | getToken tokenIdentifier => getTokenSync tokenIdentifier
  | saveToken token => saveTokenSync faults token

end StoreCall

/-! ## Reads of the contents -/

namespace Kv

def actorIds (kv : Kv) : List String := (kv .actorList).getD []

def decisionIds (kv : Kv) : List String := (kv .decisionList).getD []

/-- The listing loop on fixed contents. -/
def listLoop {α : Type} (limit : ℤ) (fetch : String → Option α) (keep : α → Bool) :
    List String → List α → List α
  | [], found => found
  | id :: ids, found =>
      if limit ≤ found.length then found
      else match fetch id with
        | none => listLoop limit fetch keep ids found
        | some record =>
            if keep record then listLoop limit fetch keep ids (found ++ [record])
            else listLoop limit fetch keep ids found

def listActors (kv : Kv) (limit : ℤ) : List Actor :=
  listLoop limit (fun id => kv (.actors id)) (fun _ => true) kv.actorIds []

def listDecisions (kv : Kv) (outcome : Option String) (limit : ℤ) : List PolicyDecision :=
  listLoop limit (fun id => kv (.decisions id)) (wantedOutcome outcome) kv.decisionIds []

def getDecisionByTx (kv : Kv) (transactionId : String) : Option PolicyDecision :=
  (kv (.decisionTxIndex transactionId)).bind fun id => kv (.decisions id)

def getReceiptByTx (kv : Kv) (transactionId : String) : Option Receipt :=
  (kv (.receiptTxIndex transactionId)).bind fun id => kv (.receipts id)

def getToken (kv : Kv) (tokenIdentifier : String) : Option ScopedAuthorizationToken :=
  (kv (.tokens tokenIdentifier)).or
    ((kv (.tokenSigIndex tokenIdentifier)).bind fun id => kv (.tokens id))

/-- The listing loop returns the first wanted records, up to the limit. -/
theorem listLoop_eq {α : Type} (limit : ℤ) (fetch : String → Option α) (keep : α → Bool)
    (ids : List String) (found : List α) (hfound : (found.length : ℤ) ≤ max limit 0) :
    listLoop limit fetch keep ids found =
      found ++ (((ids.filterMap fetch).filter keep).take (limit.toNat - found.length)) := by
  induction ids generalizing found with
  | nil => simp [listLoop]
  | cons id ids ih =>
    rw [listLoop]
    split_ifs with hlimit
    · rw [show limit.toNat - found.length = 0 by omega, List.take_zero, List.append_nil]
    · rcases hid : fetch id with _ | record
      · simp only [List.filterMap_cons, hid]
        exact ih found hfound
      · simp only [List.filterMap_cons, hid]
        cases hkeep : keep record with
        | false =>
          rw [List.filter_cons_of_neg (by simp [hkeep])]
          exact ih found hfound
        | true =>
          rw [List.filter_cons_of_pos hkeep, if_pos rfl, ih _ (by simp; omega)]
          rw [show limit.toNat - found.length =
              (limit.toNat - (found ++ [record]).length) + 1 by simp; omega]
          simp [List.append_assoc]

end Kv

namespace StoreCall

/-- What a completed job returns. -/
def answer : (c : StoreCall) → Kv → c.Reply
  | getActor actorId, kv => kv (.actors actorId)
  | saveActor _, _ => ()
  | listActors limit, kv => kv.listActors limit
  | getDeviceBinding actorId, kv => kv (.deviceBindings actorId)
  | saveDeviceBinding _, _ => ()
  | getCredential actorId, kv => kv (.consoleCredentials actorId)
  | saveCredential _, _ => ()
  | getConsoleSession sessionId, kv => kv (.consoleSessions sessionId)
  | saveConsoleSession _, _ => ()
  | deleteConsoleSession _, _ => ()
  | getPolicyConfig, kv => (kv .policyConfig).bind PolicyText.parse
  | savePolicyConfig _, _ => ()
  | getTransaction transactionId, kv => kv (.transactions transactionId)
  | saveTransaction _, _ => ()
  | getEvidencePlan transactionId, kv => kv (.evidencePlans transactionId)
  | saveEvidencePlan _ _, _ => ()
  | getEvidence transactionId, kv => kv (.evidence transactionId)
  | saveEvidence _ _, _ => ()
  | getContextEvaluation transactionId, kv => kv (.contextEvaluations transactionId)
  | saveContextEvaluation _ _, _ => ()
  | getDecision decisionId, kv => kv (.decisions decisionId)
  | getDecisionByTransactionId transactionId, kv => kv.getDecisionByTx transactionId
  | saveDecision _, _ => ()
  | listDecisions outcome limit, kv => kv.listDecisions outcome limit
  | getReceipt receiptId, kv => kv (.receipts receiptId)
  | saveReceipt _, _ => ()
  | getReceiptByTransactionId transactionId, kv => kv.getReceiptByTx transactionId
  | getToken tokenIdentifier, kv => kv.getToken tokenIdentifier
  | saveToken _, _ => ()

/-- What a completed job writes. -/
def writes : StoreCall → Kv → List (Write Cell.Doc)
  | saveActor actor, kv => actorWrites actor kv.actorIds
  | saveDeviceBinding binding, _ => [.put (.deviceBindings binding.actorId) binding]
  | saveCredential credential, _ => [.put (.consoleCredentials credential.actorId) credential]
  | saveConsoleSession session, _ => [.put (.consoleSessions session.sessionId) session]
  | deleteConsoleSession sessionId, _ => [⟨.consoleSessions sessionId, none⟩]
  | savePolicyConfig config, _ => [.put .policyConfig (.categories config.restrictedCategories)]
  | saveTransaction tx, _ => [.put (.transactions tx.transactionId) tx]
  | saveEvidencePlan transactionId plan, _ => [.put (.evidencePlans transactionId) plan]
  | saveEvidence transactionId evidence, _ => [.put (.evidence transactionId) evidence]
  | saveContextEvaluation transactionId evaluation, _ =>
      [.put (.contextEvaluations transactionId) evaluation]
  | saveDecision decision, kv => decisionWrites decision kv.decisionIds
  | saveReceipt receipt, _ => receiptWrites receipt
  | saveToken token, _ => tokenWrites token
  | _, _ => []

/-- The contents after a completed job. -/
def exec (c : StoreCall) (kv : Kv) : Kv := Store.writes kv (c.writes kv)

/-- The methods that only read. -/
def IsRead : StoreCall → Prop
  | saveActor _ | saveDeviceBinding _ | saveCredential _ | saveConsoleSession _
  | deleteConsoleSession _ | savePolicyConfig _ | saveTransaction _ | saveEvidencePlan _ _
  | saveEvidence _ _ | saveContextEvaluation _ _ | saveDecision _ | saveReceipt _
  | saveToken _ => False
  | _ => True

@[simp] theorem exec_of_isRead {c : StoreCall} (hc : c.IsRead) (kv : Kv) : c.exec kv = kv := by
  cases c <;> first | rfl | exact hc.elim

/-! ## Jobs and calls agree -/

variable {faults : ℕ → Bool} {kv : Kv} {n : ℕ}

/-- The listing loop in the database reads what the listing loop on the contents reads. -/
theorem listLoopSync_on {α : Type} (fetch : String → Zova (Option α)) (look : String → Option α)
    (hfetch : ∀ id, (fetch id).on ⟨kv, none, n⟩ = (.ok (look id), ⟨kv, none, n⟩)) (limit : ℤ)
    (keep : α → Bool) (ids : List String) (found : List α) :
    (listLoopSync limit fetch keep ids found).on ⟨kv, none, n⟩ =
      (.ok (Kv.listLoop limit look keep ids found), ⟨kv, none, n⟩) := by
  induction ids generalizing found with
  | nil => rfl
  | cons id ids ih =>
    rw [listLoopSync, Kv.listLoop]
    split_ifs with hlimit
    · rfl
    · rw [on_bind_ok (hfetch id)]
      rcases look id with _ | record
      · exact ih found
      · dsimp only
        split_ifs
        · exact ih _
        · exact ih found

/-- How a job can end: completed, or failed with the contents unchanged. -/
def Completes (faults : ℕ → Bool) (c : StoreCall) (kv : Kv) (n : ℕ) : Prop :=
  (∃ m, (c.job faults).on ⟨kv, none, n⟩ = (.ok (c.answer kv), ⟨c.exec kv, none, m⟩)) ∨
    ∃ e m k, n ≤ k ∧ faults k = true ∧
      (c.job faults).on ⟨kv, none, n⟩ = (.error e, ⟨kv, none, m⟩)

/-- A read returns its answer and changes nothing. -/
theorem job_on_read (faults : ℕ → Bool) {c : StoreCall} (hc : c.IsRead) (kv : Kv) (n : ℕ) :
    (c.job faults).on ⟨kv, none, n⟩ = (.ok (c.answer kv), ⟨kv, none, n⟩) := by
  cases c with
  | getToken tokenIdentifier =>
    simp only [job, getTokenSync, answer, Kv.getToken]
    rw [on_bind_ok (get_on _ _ _)]
    rcases kv (.tokens tokenIdentifier) with _ | token
    · dsimp only
      rw [on_bind_ok (get_on _ _ _)]
      rcases kv (.tokenSigIndex tokenIdentifier) with _ | tokenId <;> rfl
    · rfl
  | getDecisionByTransactionId transactionId =>
    simp only [job, getDecisionByTxSync, answer, Kv.getDecisionByTx]
    rw [on_bind_ok (get_on _ _ _)]
    rcases kv (.decisionTxIndex transactionId) with _ | decisionId <;> rfl
  | getReceiptByTransactionId transactionId =>
    simp only [job, getReceiptByTxSync, answer, Kv.getReceiptByTx]
    rw [on_bind_ok (get_on _ _ _)]
    rcases kv (.receiptTxIndex transactionId) with _ | receiptId <;> rfl
  | listActors limit =>
    exact listLoopSync_on getActorSync (fun id => kv (.actors id)) (fun _ => rfl) limit _
      kv.actorIds []
  | listDecisions outcome limit =>
    exact listLoopSync_on getDecisionSync (fun id => kv (.decisions id)) (fun _ => rfl) limit _
      kv.decisionIds []
  | _ => first | rfl | exact hc.elim

theorem completes_of_read {c : StoreCall} (hc : c.IsRead) : Completes faults c kv n :=
  .inl ⟨n, by rw [exec_of_isRead hc, job_on_read faults hc]⟩

/-- A job completes, or it fails at one of its writes and leaves the contents as they were. -/
theorem job_on (faults : ℕ → Bool) (c : StoreCall) (kv : Kv) (n : ℕ) : Completes faults c kv n := by
  cases c with
  | saveActor actor => exact transact_on faults (actorWrites actor kv.actorIds) kv n
  | saveDeviceBinding binding => exact transact_on faults [_] kv n
  | saveCredential credential => exact transact_on faults [_] kv n
  | saveConsoleSession session => exact transact_on faults [_] kv n
  | deleteConsoleSession sessionId => exact transact_on faults [_] kv n
  | saveTransaction tx => exact transact_on faults [_] kv n
  | saveEvidencePlan transactionId plan => exact transact_on faults [_] kv n
  | saveEvidence transactionId evidence => exact transact_on faults [_] kv n
  | saveContextEvaluation transactionId evaluation => exact transact_on faults [_] kv n
  | saveDecision decision => exact transact_on faults (decisionWrites decision kv.decisionIds) kv n
  | saveReceipt receipt => exact transact_on faults (receiptWrites receipt) kv n
  | saveToken token => exact transact_on faults (tokenWrites token) kv n
  | savePolicyConfig config =>
    cases hn : faults n with
    | true => exact .inr ⟨⟨n⟩, n + 1, n, Nat.le_refl n, hn, write_on_error hn _ kv none⟩
    | false => exact .inl ⟨n + 1, write_on_none hn _ kv⟩
  | _ => exact completes_of_read trivial

/-- Without faults every job completes. -/
theorem job_on_quiet (quiet : ∀ k, faults k = false) (c : StoreCall) (kv : Kv) (n : ℕ) :
    ∃ m, (c.job faults).on ⟨kv, none, n⟩ = (.ok (c.answer kv), ⟨c.exec kv, none, m⟩) := by
  rcases job_on faults c kv n with done | ⟨e, m, k, -, fault, -⟩
  · exact done
  · simp [quiet k] at fault

end StoreCall

end ZoneGate
