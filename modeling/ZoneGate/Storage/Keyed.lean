import ZoneGate.Storage.Calls

/-!
# Records under their own keys

Every record the store keeps names the key it is kept under.  `Kv.Stored` are the contents that
the calls of the store can produce; all of them are `Kv.Keyed`.  The lemmas about `exec` say what
the saves of records leave under the keys they write.
-/

namespace ZoneGate

open Cells

/-- The document names the key of its cell. -/
def Cell.Names : (c : Cell) → c.Doc → Prop
  | actors actorId, actor => actor.actorId = actorId
  | deviceBindings actorId, binding => binding.actorId = actorId
  | consoleCredentials actorId, credential => credential.actorId = actorId
  | consoleSessions sessionId, session => session.sessionId = sessionId
  | transactions transactionId, tx => tx.transactionId = transactionId
  | decisions decisionId, decision => decision.decisionId = decisionId
  | receipts receiptId, receipt => receipt.receiptId = receiptId
  | tokens tokenId, token => token.tokenId = tokenId
  | _, _ => True

namespace Kv

/-- Every record is kept under its own key. -/
def Keyed (kv : Kv) : Prop := Store.All Cell.Names kv

theorem keyed_empty : Keyed Kv.empty := by
  intro c v h
  cases h

/-- A token that is found is the one under its own identifier. -/
theorem tokens_of_getToken {kv : Kv} (keyed : kv.Keyed) {identifier : String}
    {t : ScopedAuthorizationToken} (found : kv.getToken identifier = some t) :
    kv (.tokens t.tokenId) = some t := by
  rcases Option.or_eq_some_iff.1 found with direct | ⟨-, indexed⟩
  · obtain rfl : t.tokenId = identifier := keyed (.tokens identifier) t direct
    exact direct
  · obtain ⟨id, -, stored⟩ := Option.bind_eq_some_iff.1 indexed
    obtain rfl : t.tokenId = id := keyed (.tokens id) t stored
    exact stored

/-- The contents that store calls on an empty database leave. -/
inductive Stored : Kv → Prop
  | empty : Stored Kv.empty
  | exec (c : StoreCall) {kv : Kv} (h : Stored kv) : Stored (c.exec kv)

end Kv

theorem StoreCall.exec_keyed (c : StoreCall) {kv : Kv} (h : kv.Keyed) : (c.exec kv).Keyed := by
  refine Store.All.writes h ?_
  cases c <;>
    simp [StoreCall.writes, actorWrites, decisionWrites, receiptWrites, tokenWrites, Cell.Names]

theorem Kv.Stored.keyed {kv : Kv} (h : kv.Stored) : kv.Keyed := by
  induction h with
  | empty => exact Kv.keyed_empty
  | exec c _ ih => exact c.exec_keyed ih

/-! ## What the saves leave -/

namespace StoreCall

variable (kv : Kv)

variable {kv} in
/-- Only a session is ever deleted. -/
theorem exec_ne_none (c : StoreCall) {cell : Cell}
    (lasts : ∀ id, cell ≠ .consoleSessions id) (there : kv cell ≠ none) : c.exec kv cell ≠ none := by
  refine Cells.Store.writes_ne_none there ?_
  cases c with
  | deleteConsoleSession id =>
    intro w mem named
    obtain rfl := List.mem_singleton.1 mem
    exact absurd named.symm (lasts id)
  | _ => simp [writes, actorWrites, decisionWrites, receiptWrites, tokenWrites]

theorem saveActor_actors (a : Actor) (id : String) :
    (saveActor a).exec kv (.actors id) = if id = a.actorId then some a else kv (.actors id) := by
  refine Store.writes_eq_ite kv (actorWrites a kv.actorIds) ?_ fun h => by simp [actorWrites, h]
  rintro rfl
  exact Store.writes_cons_self kv _ _ _ (by simp)

theorem saveDeviceBinding_deviceBindings (b : DeviceBinding) (id : String) :
    (saveDeviceBinding b).exec kv (.deviceBindings id) =
      if id = b.actorId then some b else kv (.deviceBindings id) := by
  refine Store.writes_eq_ite kv [.put (.deviceBindings b.actorId) b] ?_ fun h => by simpa using h
  rintro rfl
  exact Store.writes_cons_self kv _ _ _ (by simp)

theorem saveCredential_consoleCredentials (k : OperatorCredential) (id : String) :
    (saveCredential k).exec kv (.consoleCredentials id) =
      if id = k.actorId then some k else kv (.consoleCredentials id) := by
  refine Store.writes_eq_ite kv [.put (.consoleCredentials k.actorId) k] ?_ fun h => by simpa using h
  rintro rfl
  exact Store.writes_cons_self kv _ _ _ (by simp)

theorem saveConsoleSession_consoleSessions (s : ConsoleSession) (id : String) :
    (saveConsoleSession s).exec kv (.consoleSessions id) =
      if id = s.sessionId then some s else kv (.consoleSessions id) := by
  refine Store.writes_eq_ite kv [.put (.consoleSessions s.sessionId) s] ?_ fun h => by simpa using h
  rintro rfl
  exact Store.writes_cons_self kv _ _ _ (by simp)

theorem deleteConsoleSession_consoleSessions (sessionId id : String) :
    (deleteConsoleSession sessionId).exec kv (.consoleSessions id) =
      if id = sessionId then none else kv (.consoleSessions id) := by
  refine Store.writes_eq_ite kv [⟨.consoleSessions sessionId, none⟩] ?_ fun h => by simpa using h
  rintro rfl
  exact Store.writes_cons_self kv _ _ _ (by simp)

theorem saveTransaction_transactions (tx : TransactionRequest) (id : String) :
    (saveTransaction tx).exec kv (.transactions id) =
      if id = tx.transactionId then some tx else kv (.transactions id) := by
  refine Store.writes_eq_ite kv [.put (.transactions tx.transactionId) tx] ?_
    fun h => by simpa using h
  rintro rfl
  exact Store.writes_cons_self kv _ _ _ (by simp)

theorem saveDecision_decisions (d : PolicyDecision) (id : String) :
    (saveDecision d).exec kv (.decisions id) =
      if id = d.decisionId then some d else kv (.decisions id) := by
  refine Store.writes_eq_ite kv (decisionWrites d kv.decisionIds) ?_
    fun h => by simp [decisionWrites, h]
  rintro rfl
  exact Store.writes_cons_self kv _ _ _ (by simp)

theorem saveDecision_decisionTxIndex (d : PolicyDecision) (id : String) :
    (saveDecision d).exec kv (.decisionTxIndex id) =
      if id = d.transactionId then some d.decisionId else kv (.decisionTxIndex id) := by
  refine Store.writes_eq_ite kv (decisionWrites d kv.decisionIds) ?_
    fun h => by simp [decisionWrites, h]
  rintro rfl
  exact Store.writes_cons_self (Store.write kv (.put (.decisions d.decisionId) d)) _ _ _ (by simp)

theorem saveReceipt_receipts (r : Receipt) (id : String) :
    (saveReceipt r).exec kv (.receipts id) =
      if id = r.receiptId then some r else kv (.receipts id) := by
  refine Store.writes_eq_ite kv (receiptWrites r) ?_ fun h => by simp [receiptWrites, h]
  rintro rfl
  exact Store.writes_cons_self kv _ _ _ (by simp)

theorem saveReceipt_receiptTxIndex (r : Receipt) (id : String) :
    (saveReceipt r).exec kv (.receiptTxIndex id) =
      if id = r.transactionId then some r.receiptId else kv (.receiptTxIndex id) := by
  refine Store.writes_eq_ite kv (receiptWrites r) ?_ fun h => by simp [receiptWrites, h]
  rintro rfl
  exact Store.writes_cons_self (Store.write kv (.put (.receipts r.receiptId) r)) _ _ _ (by simp)

theorem saveToken_tokens (t : ScopedAuthorizationToken) (id : String) :
    (saveToken t).exec kv (.tokens id) = if id = t.tokenId then some t else kv (.tokens id) := by
  refine Store.writes_eq_ite kv (tokenWrites t) ?_ fun h => by simp [tokenWrites, h]
  rintro rfl
  exact Store.writes_cons_self kv _ _ _ (by simp)

theorem saveToken_tokenSigIndex (t : ScopedAuthorizationToken) (signature : String) :
    (saveToken t).exec kv (.tokenSigIndex signature) =
      if signature = t.signature then some t.tokenId else kv (.tokenSigIndex signature) := by
  refine Store.writes_eq_ite kv (tokenWrites t) ?_ fun h => by simp [tokenWrites, h]
  rintro rfl
  exact Store.writes_cons_self (Store.write kv (.put (.tokens t.tokenId) t)) _ _ _ (by simp)

end StoreCall

end ZoneGate
