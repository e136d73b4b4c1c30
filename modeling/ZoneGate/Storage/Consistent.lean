import ZoneGate.Library.Indexes
import ZoneGate.Storage.Keyed

/-!
# References in the store

The store keeps lists of identifiers, indexes by transaction and by signature, and receipts that
name a decision.  `Kv.Consistent` says that every such reference leads to a record that fits it;
`StoreCall.Respects` is what a save has to respect for that to stay so.
-/

namespace ZoneGate

open Indexes

/-- The receipt is the one of the decision. -/
structure Receipt.Matches (r : Receipt) (d : PolicyDecision) : Prop where
  receiptId : r.receiptId = "rcpt_" ++ d.decisionId
  decisionId : r.decisionId = d.decisionId
  transactionId : r.transactionId = d.transactionId
  decision : r.decision = d.decision

/-- The decision of the receipt is on record. -/
def Receipt.Backed (r : Receipt) (kv : Kv) : Prop :=
  ∃ d, kv (.decisions d.decisionId) = some d ∧ r.Matches d

/-- Decisions with one core are one decision, up to the resolution. -/
theorem PolicyDecision.eq_of_core {d d' : PolicyDecision} (same : d'.core = d.core) :
    d'.decisionId = d.decisionId ∧ d'.transactionId = d.transactionId ∧ d'.decision = d.decision :=
  have id : d'.core.decisionId = d.core.decisionId := by rw [same]
  have transaction : d'.core.transactionId = d.core.transactionId := by rw [same]
  have outcome : d'.core.decision = d.core.decision := by rw [same]
  ⟨id, transaction, outcome⟩

theorem Receipt.Matches.of_core {r : Receipt} {d d' : PolicyDecision} (h : r.Matches d)
    (same : d'.core = d.core) : r.Matches d' := by
  obtain ⟨id, transaction, outcome⟩ := PolicyDecision.eq_of_core same
  exact ⟨by rw [h.receiptId, id], by rw [h.decisionId, id], by rw [h.transactionId, transaction],
    by rw [h.decision, outcome]⟩

namespace Kv

/-- Every reference in the store leads to a record that fits it. -/
structure Consistent (kv : Kv) : Prop where
  keyed : kv.Keyed
  actorList : Listed (fun id => kv (.actors id)) kv.actorIds
  decisionList : Listed (fun id => kv (.decisions id)) kv.decisionIds
  decisionIndex : IndexedBy (fun id => kv (.decisions id)) (fun tx => kv (.decisionTxIndex tx))
    PolicyDecision.transactionId
  receiptIndex : IndexedBy (fun id => kv (.receipts id)) (fun tx => kv (.receiptTxIndex tx))
    Receipt.transactionId
  tokenIndex : IndexedBy (fun id => kv (.tokens id)) (fun signature => kv (.tokenSigIndex signature))
    ScopedAuthorizationToken.signature
  backed : ∀ id r, kv (.receipts id) = some r → r.Backed kv
  filed : ∀ id d, kv (.decisions id) = some d → kv (.transactions d.transactionId) ≠ none

theorem consistent_empty : Kv.empty.Consistent where
  keyed := keyed_empty
  actorList := .empty
  decisionList := .empty
  decisionIndex := .empty
  receiptIndex := .empty
  tokenIndex := .empty
  backed := by
    rintro id r ⟨⟩
  filed := by
    rintro id d ⟨⟩

/-- What is on record stays on record, but for the sessions; decisions stay what they are up to their
resolution, and tokens up to their claim. -/
structure Extends (kv kv' : Kv) : Prop where
  kept : ∀ c, (∀ id, c ≠ .consoleSessions id) → kv c ≠ none → kv' c ≠ none
  decisions : ∀ id d, kv (.decisions id) = some d →
    ∃ d', kv' (.decisions id) = some d' ∧ d'.core = d.core
  tokens : ∀ id t, kv (.tokens id) = some t →
    ∃ t', kv' (.tokens id) = some t' ∧ t'.core = t.core

theorem Extends.refl (kv : Kv) : kv.Extends kv :=
  ⟨fun _ _ h => h, fun _ d h => ⟨d, h, rfl⟩, fun _ t h => ⟨t, h, rfl⟩⟩

theorem Extends.trans {kv kv' kv'' : Kv} (h : kv.Extends kv') (h' : kv'.Extends kv'') :
    kv.Extends kv'' := by
  refine ⟨fun c lasts there => h'.kept c lasts (h.kept c lasts there), fun id d stored => ?_,
    fun id t stored => ?_⟩
  · obtain ⟨d', stored', same⟩ := h.decisions id d stored
    obtain ⟨d'', stored'', same'⟩ := h'.decisions id d' stored'
    exact ⟨d'', stored'', same'.trans same⟩
  · obtain ⟨t', stored', same⟩ := h.tokens id t stored
    obtain ⟨t'', stored'', same'⟩ := h'.tokens id t' stored'
    exact ⟨t'', stored'', same'.trans same⟩

theorem Extends.transactions {kv kv' : Kv} (h : kv.Extends kv') (id : String)
    (there : kv (.transactions id) ≠ none) : kv' (.transactions id) ≠ none :=
  h.kept _ (fun _ => nofun) there

theorem Extends.receipts {kv kv' : Kv} (h : kv.Extends kv') (id : String)
    (there : kv (.receipts id) ≠ none) : kv' (.receipts id) ≠ none :=
  h.kept _ (fun _ => nofun) there

end Kv

/-- The decision of a receipt stays on record. -/
theorem Receipt.Backed.extends {r : Receipt} {kv kv' : Kv} (h : r.Backed kv)
    (grows : kv.Extends kv') : r.Backed kv' := by
  obtain ⟨d, stored, fits⟩ := h
  obtain ⟨d', stored', same⟩ := grows.decisions _ d stored
  exact ⟨d', by rwa [(PolicyDecision.eq_of_core same).1], fits.of_core same⟩

/-! ## What a save has to respect -/

/-- A decision is about a transaction on record and replaces none but itself, up to the resolution;
a receipt is about a decision on record; a token replaces none but itself, up to the claim. -/
def StoreCall.Respects (kv : Kv) : StoreCall → Prop
  | saveDecision d => (∀ old, kv (.decisions d.decisionId) = some old → old.core = d.core) ∧
      kv (.transactions d.transactionId) ≠ none
  | saveReceipt r => r.Backed kv
  | saveToken t => ∀ old, kv (.tokens t.tokenId) = some old → old.core = t.core
  | _ => True

namespace StoreCall

theorem exec_extends {c : StoreCall} {kv : Kv} (h : c.Respects kv) : kv.Extends (c.exec kv) := by
  refine ⟨fun cell => exec_ne_none c, fun id old stored => ?_, fun id old stored => ?_⟩
  · cases c with
    | saveDecision d =>
      rw [saveDecision_decisions]
      split_ifs with same
      · subst same
        exact ⟨d, rfl, (h.1 old stored).symm⟩
      · exact ⟨old, stored, rfl⟩
    | _ => exact ⟨old, stored, rfl⟩
  · cases c with
    | saveToken t =>
      rw [saveToken_tokens]
      split_ifs with same
      · subst same
        exact ⟨t, rfl, (h old stored).symm⟩
      · exact ⟨old, stored, rfl⟩
    | _ => exact ⟨old, stored, rfl⟩

/-- Two receipts under one identifier are about one decision. -/
theorem transactionId_eq_of_backed {kv : Kv} {r r' : Receipt} (h : r.Backed kv) (h' : r'.Backed kv)
    (same : r.receiptId = r'.receiptId) : r.transactionId = r'.transactionId := by
  obtain ⟨d, stored, fits⟩ := h
  obtain ⟨d', stored', fits'⟩ := h'
  have ids : d.decisionId = d'.decisionId := by
    have := (fits.receiptId.symm.trans same).trans fits'.receiptId
    simpa using this
  rw [ids, stored'] at stored
  obtain rfl := Option.some.inj stored
  rw [fits.transactionId, fits'.transactionId]

/-- A save that respects the references keeps them. -/
theorem exec_consistent {c : StoreCall} {kv : Kv} (h : kv.Consistent) (respects : c.Respects kv) :
    (c.exec kv).Consistent := by
  have keyed := c.exec_keyed h.keyed
  have grows := exec_extends respects
  have backed (id : String) (r : Receipt) (stored : kv (.receipts id) = some r) :
      r.Backed (c.exec kv) := (h.backed id r stored).extends grows
  have filed (id : String) (d : PolicyDecision) (stored : kv (.decisions id) = some d) :
      c.exec kv (.transactions d.transactionId) ≠ none :=
    grows.transactions _ (h.filed id d stored)
  cases c with
  | saveActor a =>
    exact { h with
      keyed := keyed
      actorList := h.actorList.save (saveActor_actors kv a)
      backed := backed
      filed := filed }
  | saveDecision d =>
    exact { h with
      keyed := keyed
      decisionList := h.decisionList.save (saveDecision_decisions kv d)
      decisionIndex := h.decisionIndex.save
        (fun old stored => (PolicyDecision.eq_of_core (respects.1 old stored)).2.1)
        (saveDecision_decisions kv d) (saveDecision_decisionTxIndex kv d)
      backed := backed
      filed := fun id d' stored => by
        rw [saveDecision_decisions] at stored
        split_ifs at stored
        · cases stored
          exact grows.transactions _ respects.2
        · exact filed id d' stored }
  | saveReceipt r =>
    refine { h with
      keyed := keyed
      receiptIndex := h.receiptIndex.save (fun old stored => ?_) (saveReceipt_receipts kv r)
        (saveReceipt_receiptTxIndex kv r)
      backed := fun id r' stored => ?_
      filed := filed }
    · exact transactionId_eq_of_backed (h.backed _ old stored) respects
        (h.keyed (.receipts r.receiptId) old stored)
    · rw [saveReceipt_receipts] at stored
      split_ifs at stored
      · cases stored
        exact respects
      · exact backed id r' stored
  | saveToken t =>
    exact { h with
      keyed := keyed
      tokenIndex := h.tokenIndex.save
        (fun old stored => ScopedAuthorizationToken.signature_eq_of_core (respects old stored))
        (saveToken_tokens kv t) (saveToken_tokenSigIndex kv t)
      backed := backed
      filed := filed }
  | _ => exact { h with keyed := keyed, backed := backed, filed := filed }

end StoreCall

end ZoneGate
