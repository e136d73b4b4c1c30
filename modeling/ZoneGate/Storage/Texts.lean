import ZoneGate.Storage.Calls
import ZoneGate.Storage.Documents

/-!
# The store on texts

The jobs of `ZoneGateStore` on the database as it is: a read finds a text and validates it, which
may fail; a write puts the text of a record.  Each job goes as the one on records, whatever writes
fail, and validates everything it reads.
-/

namespace ZoneGate

open Cells Cells.Session

/-- The texts in the database, each under a namespace and a key. -/
abbrev Texts := Store (Raw (String × String) String)

/-- A job on the texts; it fails with the cell whose text is no such record. -/
abbrev TextZova := ExceptT Cell (Session (Raw (String × String) String))

/-- `kv_get` and the validation of what is found. -/
def fetchDoc (c : Cell) : TextZova (Option c.Doc) := Session.fetch storedTexts c c

section Jobs

variable (faults : ℕ → Bool)

/-- The texts of the writes in one transaction. -/
def transactTexts (ws : List (Write Cell.Doc)) : TextZova Unit :=
  plain (transact faults (ws.map storedTexts.encode))

def readActorIdTexts : TextZova (List String) := do
  let raw ← fetchDoc .actorList
  return raw.getD []

def readDecisionIdTexts : TextZova (List String) := do
  let raw ← fetchDoc .decisionList
  return raw.getD []

/-- The loop of the two listings; a text is validated when the loop comes to it. -/
def listLoopTexts {α : Type} (limit : ℤ) (fetch : String → TextZova (Option α)) (keep : α → Bool) :
    List String → List α → TextZova (List α)
  | [], found => return found
  | id :: ids, found =>
      if limit ≤ found.length then return found
      else do
        let raw ← fetch id
        match raw with
        | none => listLoopTexts limit fetch keep ids found
        | some record =>
            if keep record then listLoopTexts limit fetch keep ids (found ++ [record])
            else listLoopTexts limit fetch keep ids found

/-- The id in an index is the key of the record. -/
def followIndex {α : Type} (index : TextZova (Option String))
    (fetch : String → TextZova (Option α)) : TextZova (Option α) := do
  let id ← index
  match id with
  | none => return none
  | some id => fetch id

namespace StoreCall

/-- The job the method submits to the worker, on the texts. -/
def textJob : (c : StoreCall) → TextZova c.Reply
  | getActor actorId => fetchDoc (.actors actorId)
  | saveActor actor => do
      let ids ← readActorIdTexts
      transactTexts faults (actorWrites actor ids)
  | listActors limit => do
      let ids ← readActorIdTexts
      listLoopTexts limit (fun id => fetchDoc (.actors id)) (fun _ => true) ids []
  | getDeviceBinding actorId => fetchDoc (.deviceBindings actorId)
  | saveDeviceBinding binding =>
      transactTexts faults [.put (.deviceBindings binding.actorId) binding]
  | getCredential actorId => fetchDoc (.consoleCredentials actorId)
  | saveCredential credential =>
      transactTexts faults [.put (.consoleCredentials credential.actorId) credential]
  | getConsoleSession sessionId => fetchDoc (.consoleSessions sessionId)
  | saveConsoleSession session =>
      transactTexts faults [.put (.consoleSessions session.sessionId) session]
  | deleteConsoleSession sessionId => transactTexts faults [⟨.consoleSessions sessionId, none⟩]
  | getPolicyConfig => do
      let raw ← fetchDoc .policyConfig
      return raw.bind PolicyText.parse
  | savePolicyConfig config =>
      plain (write faults
        (storedTexts.encode (.put .policyConfig (.categories config.restrictedCategories))))
  | getTransaction transactionId => fetchDoc (.transactions transactionId)
  | saveTransaction tx => transactTexts faults [.put (.transactions tx.transactionId) tx]
  | getEvidencePlan transactionId => fetchDoc (.evidencePlans transactionId)
  | saveEvidencePlan transactionId plan =>
      transactTexts faults [.put (.evidencePlans transactionId) plan]
  | getEvidence transactionId => fetchDoc (.evidence transactionId)
  | saveEvidence transactionId evidence =>
      transactTexts faults [.put (.evidence transactionId) evidence]
  | getContextEvaluation transactionId => fetchDoc (.contextEvaluations transactionId)
  | saveContextEvaluation transactionId evaluation =>
      transactTexts faults [.put (.contextEvaluations transactionId) evaluation]
  | getDecision decisionId => fetchDoc (.decisions decisionId)
  | getDecisionByTransactionId transactionId =>
      followIndex (fetchDoc (.decisionTxIndex transactionId)) fun id => fetchDoc (.decisions id)
  | saveDecision decision => do
      let ids ← readDecisionIdTexts
      transactTexts faults (decisionWrites decision ids)
  | listDecisions outcome limit => do
      let ids ← readDecisionIdTexts
      listLoopTexts limit (fun id => fetchDoc (.decisions id)) (wantedOutcome outcome) ids []
  | getReceipt receiptId => fetchDoc (.receipts receiptId)
  | saveReceipt receipt => transactTexts faults (receiptWrites receipt)
  | getReceiptByTransactionId transactionId =>
      followIndex (fetchDoc (.receiptTxIndex transactionId)) fun id => fetchDoc (.receipts id)
  | getToken tokenIdentifier => do
      let raw ← fetchDoc (.tokens tokenIdentifier)
      match raw with
      | some token => return some token
      | none => followIndex (fetchDoc (.tokenSigIndex tokenIdentifier)) fun id =>
          fetchDoc (.tokens id)
  | saveToken token => transactTexts faults (tokenWrites token)

end StoreCall

end Jobs

/-! ## The jobs on texts go as those on records -/

theorem fetchDoc_decodes (c : Cell) : Decodes storedTexts (fetchDoc c) (kvGet c) := .fetch c c

theorem transactTexts_decodes (faults : ℕ → Bool) (ws : List (Write Cell.Doc)) :
    Decodes storedTexts (transactTexts faults ws) (transact faults ws) :=
  (Follows.transact faults ws).decodes

theorem readActorIdTexts_decodes : Decodes storedTexts readActorIdTexts readActorIds :=
  .bind (fetchDoc_decodes .actorList) fun raw => .pure (raw.getD [])

theorem readDecisionIdTexts_decodes : Decodes storedTexts readDecisionIdTexts readDecisionIds :=
  .bind (fetchDoc_decodes .decisionList) fun raw => .pure (raw.getD [])

theorem listLoopTexts_decodes {α : Type} {fetch' : String → TextZova (Option α)}
    {fetch : String → Zova (Option α)} (h : ∀ id, Decodes storedTexts (fetch' id) (fetch id))
    (limit : ℤ) (keep : α → Bool) (ids : List String) (found : List α) :
    Decodes storedTexts (listLoopTexts limit fetch' keep ids found)
      (listLoopSync limit fetch keep ids found) := by
  induction ids generalizing found with
  | nil => exact .pure found
  | cons id ids ih =>
    rw [listLoopTexts, listLoopSync]
    split_ifs
    · exact .pure found
    · refine .bind (h id) fun raw => ?_
      rcases raw with _ | record
      · exact ih found
      · dsimp only
        split_ifs
        · exact ih _
        · exact ih found

/-- What is done about a record that may be missing. -/
theorem decodes_bind_option {α β : Type} {m' : TextZova (Option α)} {m : Zova (Option α)}
    {f' : Option α → TextZova β} {f : Option α → Zova β} (hm : Decodes storedTexts m' m)
    (missing : Decodes storedTexts (f' none) (f none))
    (found : ∀ a, Decodes storedTexts (f' (some a)) (f (some a))) :
    Decodes storedTexts (m' >>= f') (m >>= f) := by
  refine .bind hm fun a => ?_
  rcases a with _ | a
  · exact missing
  · exact found a

/-- Every job reads and writes texts as it would read and write records. -/
theorem StoreCall.textJob_decodes (faults : ℕ → Bool) (c : StoreCall) :
    Decodes storedTexts (c.textJob faults) (c.job faults) := by
  cases c with
  | saveActor actor =>
    exact .bind readActorIdTexts_decodes fun ids => transactTexts_decodes faults _
  | listActors limit =>
    exact .bind readActorIdTexts_decodes fun ids =>
      listLoopTexts_decodes (fun id => fetchDoc_decodes (.actors id)) limit _ ids []
  | getPolicyConfig => exact .bind (fetchDoc_decodes .policyConfig) fun raw => .pure _
  | savePolicyConfig config => exact (Follows.write faults _).decodes
  | getDecisionByTransactionId transactionId =>
    exact decodes_bind_option (fetchDoc_decodes (.decisionTxIndex transactionId)) (.pure none)
      fun id => fetchDoc_decodes (.decisions id)
  | saveDecision decision =>
    exact .bind readDecisionIdTexts_decodes fun ids => transactTexts_decodes faults _
  | listDecisions outcome limit =>
    exact .bind readDecisionIdTexts_decodes fun ids =>
      listLoopTexts_decodes (fun id => fetchDoc_decodes (.decisions id)) limit _ ids []
  | getReceiptByTransactionId transactionId =>
    exact decodes_bind_option (fetchDoc_decodes (.receiptTxIndex transactionId)) (.pure none)
      fun id => fetchDoc_decodes (.receipts id)
  | getToken tokenIdentifier =>
    exact decodes_bind_option (fetchDoc_decodes (.tokens tokenIdentifier))
      (decodes_bind_option (fetchDoc_decodes (.tokenSigIndex tokenIdentifier)) (.pure none)
        fun id => fetchDoc_decodes (.tokens id))
      fun token => .pure (some token)
  | _ => first
    | exact fetchDoc_decodes _
    | exact transactTexts_decodes faults _

end ZoneGate
