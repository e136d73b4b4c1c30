import ZoneGate.Storage.Keyed
import ZoneGate.Library.KeyedLog
import Mathlib.Data.List.Find

/-!
# The store as a log of successful saves

The abstract store is the list of the saves that succeeded, newest first; every read is a lookup
in that list.  `store_refines_log` shows that the database answers every read as the log does,
whatever sequence of saves is made and wherever a write or a commit fails.
-/

namespace ZoneGate

open Cells Cells.Session KeyedLog

/-- A save of one of the records that are listed or indexed. -/
inductive Save
  | actor (a : Actor)
  | decision (d : PolicyDecision)
  | receipt (r : Receipt)
  | token (t : ScopedAuthorizationToken)

namespace Save

def call : Save → StoreCall
  | actor a => .saveActor a
  | decision d => .saveDecision d
  | receipt r => .saveReceipt r
  | token t => .saveToken t

def actor? : Save → Option Actor
  | actor a => some a
  | _ => none

def decision? : Save → Option PolicyDecision
  | decision d => some d
  | _ => none

def receipt? : Save → Option Receipt
  | receipt r => some r
  | _ => none

def token? : Save → Option ScopedAuthorizationToken
  | token t => some t
  | _ => none

end Save

/-! ## The abstract store -/

/-- The successful saves, newest first. -/
abbrev Log := List Save

namespace Log

def actors (log : Log) : List Actor := log.filterMap Save.actor?

def decisions (log : Log) : List PolicyDecision := log.filterMap Save.decision?

def receipts (log : Log) : List Receipt := log.filterMap Save.receipt?

def tokens (log : Log) : List ScopedAuthorizationToken := log.filterMap Save.token?

/-- The records of the actors by most recent save, each actor once. -/
def roster (log : Log) : List Actor := recent Actor.actorId log.actors

/-- The records of the decisions by most recent save, each decision once. -/
def history (log : Log) : List PolicyDecision := recent PolicyDecision.decisionId log.decisions

/-- The contents after the saves of the log, made on an empty database. -/
def replay (log : Log) : Kv := log.foldr (fun s kv => s.call.exec kv) Kv.empty

end Log

/-- The contents hold what the log says: every record, index entry and id list. -/
structure Represents (kv : Kv) (log : Log) : Prop where
  actors : ∀ id, kv (.actors id) = latest Actor.actorId log.actors id
  actorList : kv.actorIds = log.roster.map Actor.actorId
  decisions : ∀ id, kv (.decisions id) = latest PolicyDecision.decisionId log.decisions id
  decisionTxIndex : ∀ tx, kv (.decisionTxIndex tx) =
    (latest PolicyDecision.transactionId log.decisions tx).map PolicyDecision.decisionId
  decisionList : kv.decisionIds = log.history.map PolicyDecision.decisionId
  receipts : ∀ id, kv (.receipts id) = latest Receipt.receiptId log.receipts id
  receiptTxIndex : ∀ tx, kv (.receiptTxIndex tx) =
    (latest Receipt.transactionId log.receipts tx).map Receipt.receiptId
  tokens : ∀ id, kv (.tokens id) = latest ScopedAuthorizationToken.tokenId log.tokens id
  tokenSigIndex : ∀ sig, kv (.tokenSigIndex sig) =
    (latest ScopedAuthorizationToken.signature log.tokens sig).map ScopedAuthorizationToken.tokenId

theorem represents_empty : Represents Kv.empty [] := by
  constructor <;> intros <;> rfl

theorem Represents.save {kv : Kv} {log : Log} (h : Represents kv log) (s : Save) :
    Represents (s.call.exec kv) (s :: log) := by
  cases s with
  | actor a =>
    refine ⟨latest_of_put h.actors (StoreCall.saveActor_actors kv a), ?_, h.decisions,
      h.decisionTxIndex, h.decisionList, h.receipts, h.receiptTxIndex, h.tokens, h.tokenSigIndex⟩
    change a.actorId :: kv.actorIds.erase a.actorId = _
    rw [h.actorList]
    exact (map_key_recent_cons_erase Actor.actorId a log.actors).symm
  | decision d =>
    refine ⟨h.actors, h.actorList,
      latest_of_put h.decisions (StoreCall.saveDecision_decisions kv d),
      latest_map_of_put h.decisionTxIndex (StoreCall.saveDecision_decisionTxIndex kv d), ?_,
      h.receipts, h.receiptTxIndex, h.tokens, h.tokenSigIndex⟩
    change d.decisionId :: kv.decisionIds.erase d.decisionId = _
    rw [h.decisionList]
    exact (map_key_recent_cons_erase PolicyDecision.decisionId d log.decisions).symm
  | receipt r =>
    exact ⟨h.actors, h.actorList, h.decisions, h.decisionTxIndex, h.decisionList,
      latest_of_put h.receipts (StoreCall.saveReceipt_receipts kv r),
      latest_map_of_put h.receiptTxIndex (StoreCall.saveReceipt_receiptTxIndex kv r), h.tokens,
      h.tokenSigIndex⟩
  | token t =>
    exact ⟨h.actors, h.actorList, h.decisions, h.decisionTxIndex, h.decisionList, h.receipts,
      h.receiptTxIndex, latest_of_put h.tokens (StoreCall.saveToken_tokens kv t),
      latest_map_of_put h.tokenSigIndex (StoreCall.saveToken_tokenSigIndex kv t)⟩

/-! ## Reads of the log -/

/-- What all callers of the saves respect: an id keeps its transaction or its signature, and
signatures are told apart from each other and from token ids. -/
structure Consistent (saves : List Save) : Prop where
  decision_tx : ∀ d d', .decision d ∈ saves → .decision d' ∈ saves →
    d.decisionId = d'.decisionId → d.transactionId = d'.transactionId
  receipt_tx : ∀ r r', .receipt r ∈ saves → .receipt r' ∈ saves →
    r.receiptId = r'.receiptId → r.transactionId = r'.transactionId
  token_sig : ∀ t t', .token t ∈ saves → .token t' ∈ saves →
    (t.tokenId = t'.tokenId ↔ t.signature = t'.signature)
  sig_ne_id : ∀ t t', .token t ∈ saves → .token t' ∈ saves → t.signature ≠ t'.tokenId

namespace Log

theorem mem_decisions {log : Log} {d : PolicyDecision} :
    d ∈ log.decisions ↔ .decision d ∈ log := by
  rw [decisions, List.mem_filterMap]
  constructor
  · rintro ⟨s, hs, hd⟩
    cases s <;> simp_all [Save.decision?]
  · exact fun h => ⟨_, h, rfl⟩

theorem mem_receipts {log : Log} {r : Receipt} : r ∈ log.receipts ↔ .receipt r ∈ log := by
  rw [receipts, List.mem_filterMap]
  constructor
  · rintro ⟨s, hs, hr⟩
    cases s <;> simp_all [Save.receipt?]
  · exact fun h => ⟨_, h, rfl⟩

theorem mem_tokens {log : Log} {t : ScopedAuthorizationToken} :
    t ∈ log.tokens ↔ .token t ∈ log := by
  rw [tokens, List.mem_filterMap]
  constructor
  · rintro ⟨s, hs, ht⟩
    cases s <;> simp_all [Save.token?]
  · exact fun h => ⟨_, h, rfl⟩

/-- The newest record of the token with the identifier as its id or as its signature. -/
def token (log : Log) (identifier : String) : Option ScopedAuthorizationToken :=
  log.tokens.find? fun t => t.tokenId = identifier ∨ t.signature = identifier

/-- The decisions with the outcome, or all of them, by most recent save. -/
def historyOf (log : Log) (outcome : Option DecisionOutcome) : List PolicyDecision :=
  log.history.filter fun d => outcome.elim true (d.decision = ·)

end Log

section Reads

variable {kv : Kv} {log : Log}

theorem Represents.getDecisionByTx (h : Represents kv log) (c : Consistent log) (tx : String) :
    kv.getDecisionByTx tx = latest PolicyDecision.transactionId log.decisions tx := by
  rw [Kv.getDecisionByTx, h.decisionTxIndex]
  rcases hd : latest PolicyDecision.transactionId log.decisions tx with _ | d
  · rfl
  · exact (h.decisions _).trans (latest_of_latest (fun a ha b hb => c.decision_tx a b
      (Log.mem_decisions.1 ha) (Log.mem_decisions.1 hb)) hd)

theorem Represents.getReceiptByTx (h : Represents kv log) (c : Consistent log) (tx : String) :
    kv.getReceiptByTx tx = latest Receipt.transactionId log.receipts tx := by
  rw [Kv.getReceiptByTx, h.receiptTxIndex]
  rcases hr : latest Receipt.transactionId log.receipts tx with _ | r
  · rfl
  · exact (h.receipts _).trans (latest_of_latest (fun a ha b hb => c.receipt_tx a b
      (Log.mem_receipts.1 ha) (Log.mem_receipts.1 hb)) hr)

/-- An identifier is the id of a token or the signature of one, never both. -/
theorem Log.token_eq (c : Consistent log) (identifier : String) :
    log.token identifier = (latest ScopedAuthorizationToken.tokenId log.tokens identifier).or
      (latest ScopedAuthorizationToken.signature log.tokens identifier) := by
  rw [Log.token]
  rcases ht : latest ScopedAuthorizationToken.tokenId log.tokens identifier with _ | t
  · rw [Option.none_or]
    refine List.find?_congr fun t ht' => ?_
    have hne : t.tokenId ≠ identifier := by
      have := List.find?_eq_none.1 ht t ht'
      simpa using this
    simp [hne]
  · rw [Option.some_or, ← ht]
    refine List.find?_congr fun t' ht' => ?_
    have hne : t'.signature ≠ identifier := by
      rw [← key_of_latest ht]
      exact c.sig_ne_id t' t (Log.mem_tokens.1 ht') (Log.mem_tokens.1 (mem_of_latest ht))
    simp [hne]

theorem Represents.getToken (h : Represents kv log) (c : Consistent log) (identifier : String) :
    kv.getToken identifier = log.token identifier := by
  rw [Kv.getToken, h.tokens, h.tokenSigIndex, Log.token_eq c]
  congr 1
  rcases ht : latest ScopedAuthorizationToken.signature log.tokens identifier with _ | t
  · rfl
  · exact (h.tokens _).trans (latest_of_latest (fun a ha b hb => (c.token_sig a b
      (Log.mem_tokens.1 ha) (Log.mem_tokens.1 hb)).1) ht)

theorem Represents.listActors (h : Represents kv log) (limit : ℤ) :
    kv.listActors limit = log.roster.take limit.toNat := by
  rw [Kv.listActors, Kv.listLoop_eq _ _ _ _ _ (by simp), h.actorList, funext h.actors, Log.roster,
    filterMap_latest_recent]
  simp

theorem wantedOutcome_value (outcome : Option DecisionOutcome) (d : PolicyDecision) :
    wantedOutcome (outcome.map DecisionOutcome.value) d = outcome.elim true (d.decision = ·) := by
  rcases outcome with _ | o
  · rfl
  · have blank : o.value ≠ "" := by cases o <;> decide
    simp [wantedOutcome, blank, DecisionOutcome.value_injective.eq_iff]

theorem Represents.listDecisions (h : Represents kv log) (outcome : Option DecisionOutcome)
    (limit : ℤ) : kv.listDecisions (outcome.map DecisionOutcome.value) limit =
      (log.historyOf outcome).take limit.toNat := by
  rw [Kv.listDecisions, Kv.listLoop_eq _ _ _ _ _ (by simp), h.decisionList, funext h.decisions,
    funext (wantedOutcome_value outcome), Log.history, filterMap_latest_recent]
  simp [Log.history, Log.historyOf]

end Reads

/-! ## Saving on a database that may fail -/

/-- Make the saves in order on a database whose writes and commits may fail.  The log keeps those
that succeeded; the caller of a save that raised goes on. -/
def saveAll (faults : ℕ → Bool) :
    List Save → Log × Database Cell.Doc → Log × Database Cell.Doc
  | [], (log, db) => (log, db)
  | s :: saves, (log, db) =>
      match (s.call.job faults).on db with
      | (.ok _, db') => saveAll faults saves (s :: log, db')
      | (.error _, db') => saveAll faults saves (log, db')

/-- The store answers every read as the log does. -/
structure AnswersAs (faults : ℕ → Bool) (db : Database Cell.Doc) (log : Log) : Prop where
  getActor : ∀ id, ((StoreCall.getActor id).job faults).on db =
    (.ok (latest Actor.actorId log.actors id), db)
  getDecision : ∀ id, ((StoreCall.getDecision id).job faults).on db =
    (.ok (latest PolicyDecision.decisionId log.decisions id), db)
  getReceipt : ∀ id, ((StoreCall.getReceipt id).job faults).on db =
    (.ok (latest Receipt.receiptId log.receipts id), db)
  getDecisionByTransactionId : ∀ tx,
    ((StoreCall.getDecisionByTransactionId tx).job faults).on db =
      (.ok (latest PolicyDecision.transactionId log.decisions tx), db)
  getReceiptByTransactionId : ∀ tx,
    ((StoreCall.getReceiptByTransactionId tx).job faults).on db =
      (.ok (latest Receipt.transactionId log.receipts tx), db)
  getToken : ∀ identifier, ((StoreCall.getToken identifier).job faults).on db =
    (.ok (log.token identifier), db)
  getToken_signature : ∀ t ∈ log.tokens, log.token t.signature = log.token t.tokenId
  listActors : ∀ limit, ((StoreCall.listActors limit).job faults).on db =
    (.ok (log.roster.take limit.toNat), db)
  listDecisions : ∀ (outcome : Option DecisionOutcome) limit,
    ((StoreCall.listDecisions (outcome.map DecisionOutcome.value) limit).job faults).on db =
      (.ok ((log.historyOf outcome).take limit.toNat), db)

theorem Represents.answersAs {kv : Kv} {log : Log} (h : Represents kv log) (c : Consistent log)
    (faults : ℕ → Bool) (n : ℕ) : AnswersAs faults ⟨kv, none, n⟩ log := by
  have read (call : StoreCall) (hc : call.IsRead) {r : call.Reply} (hr : call.answer kv = r) :
      (call.job faults).on ⟨kv, none, n⟩ = (.ok r, ⟨kv, none, n⟩) := by
    rw [StoreCall.job_on_read faults hc, hr]
  refine ⟨fun id => read (.getActor id) trivial (h.actors id),
    fun id => read (.getDecision id) trivial (h.decisions id),
    fun id => read (.getReceipt id) trivial (h.receipts id),
    fun tx => read (.getDecisionByTransactionId tx) trivial (h.getDecisionByTx c tx),
    fun tx => read (.getReceiptByTransactionId tx) trivial (h.getReceiptByTx c tx),
    fun x => read (.getToken x) trivial (h.getToken c x), fun t ht => ?_,
    fun limit => read (.listActors limit) trivial (h.listActors limit),
    fun outcome limit => read (.listDecisions _ limit) trivial (h.listDecisions outcome limit)⟩
  refine List.find?_congr fun t' ht' => ?_
  have hid : t'.tokenId ≠ t.signature :=
    (c.sig_ne_id t t' (Log.mem_tokens.1 ht) (Log.mem_tokens.1 ht')).symm
  have hsig : t'.signature ≠ t.tokenId :=
    c.sig_ne_id t' t (Log.mem_tokens.1 ht') (Log.mem_tokens.1 ht)
  simp [hid, hsig, c.token_sig t' t (Log.mem_tokens.1 ht') (Log.mem_tokens.1 ht)]

/-- One save: it succeeds and the log grows, or it raises and nothing has changed. -/
theorem saveAll_step (faults : ℕ → Bool) (s : Save) (saves : List Save) (log : Log) (kv : Kv)
    (n : ℕ) : ∃ m, saveAll faults (s :: saves) (log, ⟨kv, none, n⟩) =
        saveAll faults saves (s :: log, ⟨s.call.exec kv, none, m⟩) ∨
      saveAll faults (s :: saves) (log, ⟨kv, none, n⟩) =
        saveAll faults saves (log, ⟨kv, none, m⟩) := by
  rcases StoreCall.job_on faults s.call kv n with ⟨m, h⟩ | ⟨e, m, -, -, -, h⟩
  · exact ⟨m, .inl (by rw [saveAll, h])⟩
  · exact ⟨m, .inr (by rw [saveAll, h])⟩

theorem Consistent.mono {saves saves' : List Save} (c : Consistent saves) (h : saves' ⊆ saves) :
    Consistent saves' :=
  ⟨fun d d' hd hd' => c.decision_tx d d' (h hd) (h hd'),
    fun r r' hr hr' => c.receipt_tx r r' (h hr) (h hr'),
    fun t t' ht ht' => c.token_sig t t' (h ht) (h ht'),
    fun t t' ht ht' => c.sig_ne_id t t' (h ht) (h ht')⟩

/-- A run of saves leaves the contents that its log replays, with no transaction open; the log
holds saves of the run only, in their order. -/
theorem saveAll_run (faults : ℕ → Bool) (saves : List Save) (log : Log) (n : ℕ) :
    ∃ more m, saveAll faults saves (log, ⟨log.replay, none, n⟩) =
      (more ++ log, ⟨Log.replay (more ++ log), none, m⟩) ∧ more.Sublist saves.reverse := by
  induction saves generalizing log n with
  | nil => exact ⟨[], n, rfl, List.Sublist.refl _⟩
  | cons s saves ih =>
    rcases saveAll_step faults s saves log log.replay n with ⟨m, done | raised⟩
    · obtain ⟨more, m', hrun, hsub⟩ := ih (s :: log) m
      refine ⟨more ++ [s], m', ?_, ?_⟩
      · rw [done, List.append_assoc]
        exact hrun
      · simpa using hsub.append_right [s]
    · obtain ⟨more, m', hrun, hsub⟩ := ih log m
      refine ⟨more, m', by rw [raised, hrun], ?_⟩
      rw [List.reverse_cons]
      exact hsub.trans (List.sublist_append_left _ _)

theorem represents_replay (log : Log) : Represents log.replay log := by
  induction log with
  | nil => exact represents_empty
  | cons s log ih => exact ih.save s

/-- Whatever writes and commits fail, the store answers as the log of the saves that succeeded: it
holds what these saves alone would have left, and a further save that raises changes no answer. -/
theorem store_refines_log (faults : ℕ → Bool) (saves : List Save) (c : Consistent saves) :
    ∃ log m, saveAll faults saves ([], ⟨Kv.empty, none, 0⟩) = (log, ⟨log.replay, none, m⟩) ∧
      log.Sublist saves.reverse ∧ AnswersAs faults ⟨log.replay, none, m⟩ log ∧
      (∀ (s : Save) e db', (s.call.job faults).on ⟨log.replay, none, m⟩ = (.error e, db') →
        AnswersAs faults db' log) ∧
      ListsLatest Actor.actorId log.actors log.roster ∧
      ListsLatest PolicyDecision.decisionId log.decisions log.history := by
  obtain ⟨log, m, hrun, hsub⟩ := saveAll_run faults saves [] 0
  rw [List.append_nil] at hrun
  have hc : Consistent log := c.mono fun s hs => List.mem_reverse.1 (hsub.subset hs)
  have answers (n : ℕ) := (represents_replay log).answersAs hc faults n
  refine ⟨log, m, hrun, hsub, answers m, fun s e db' hs => ?_, recent_listsLatest _ _,
    recent_listsLatest _ _⟩
  rcases StoreCall.job_on faults s.call log.replay m with ⟨k, h⟩ | ⟨e', k, -, -, -, h⟩
  · rw [h] at hs
    cases hs
  · rw [h] at hs
    cases hs
    exact answers k

/-- A decision saved twice, the first time with a fault at its second write. -/
theorem store_refines_log_faulty :
    let held : PolicyDecision := ⟨"dec_1", "tx_1", .hold, ["held"], some "ROLE_A", none, none, ⟨0⟩, none⟩
    let actor : Actor := { actorId := "a", role := "CARGO_OPERATOR", registeredPhoneNumber := "1",
                           registeredDeviceId := "d" }
    let token : ScopedAuthorizationToken :=
      ⟨"tok_1", "a", "RELEASE_CARGO", "r", "z", "dec_1", ⟨0⟩, ⟨1⟩, "sig", false, none⟩
    let saves : List Save := [.actor actor, .decision held, .decision held, .token token,
      .receipt ⟨"rcpt_dec_1", "dec_1", "tx_1", .hold, ⟨0⟩, none⟩]
    ∃ log m, saveAll (· == 4) saves ([], ⟨Kv.empty, none, 0⟩) = (log, ⟨log.replay, none, m⟩) ∧
      log.Sublist saves.reverse ∧ AnswersAs (· == 4) ⟨log.replay, none, m⟩ log ∧
      (∀ (s : Save) e db', (s.call.job (· == 4)).on ⟨log.replay, none, m⟩ = (.error e, db') →
        AnswersAs (· == 4) db' log) ∧
      ListsLatest Actor.actorId log.actors log.roster ∧
      ListsLatest PolicyDecision.decisionId log.decisions log.history := by
  refine store_refines_log (· == 4) _ ⟨?_, ?_, ?_, ?_⟩ <;> simp

end ZoneGate
