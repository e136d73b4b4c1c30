import ZoneGate.Authorization.Scope

/-!
# Whose receipts

A receipt should belong to its decision and carry the token of that decision only.  A resolution
finds the receipt through the transaction id, which a later request may have taken over;
`receipts_belong_iff` says that nothing else goes wrong.
-/

namespace ZoneGate

open Py Effects AuthorizationService

namespace Ledger

variable (l : Ledger)

/-- The receipt found through the receipt index. -/
def receiptByTx (tx : String) : Option Receipt := (l.receiptIndex tx).bind l.receipts

/-- The decision found through the decision index. -/
def decisionByTx (tx : String) : Option PolicyDecision := (l.decisionIndex tx).bind l.decisions

/-- A decision and a receipt, recorded together. -/
def record (d : PolicyDecision) (r : Receipt) : Ledger := (l.withDecision d).withReceipt r

end Ledger

/-- The ledgers agree on the decisions, the receipts and their indices. -/
structure SameRecords (l l' : Ledger) : Prop where
  decisions : l'.decisions = l.decisions
  decisionIndex : l'.decisionIndex = l.decisionIndex
  receipts : l'.receipts = l.receipts
  receiptIndex : l'.receiptIndex = l.receiptIndex

/-! ## The indices -/

/-- Receipts are named after decisions on record and agree with them, and both indices lead to
records of the transaction. -/
structure Indexed (l : Ledger) : Prop where
  receipts_named : ∀ id r, l.receipts id = some r → r.receiptId = id ∧ id = "rcpt_" ++ r.decisionId
  receipts_about : ∀ id r, l.receipts id = some r → ∃ d, l.decisions r.decisionId = some d ∧
    r.transactionId = d.transactionId ∧ r.decision = d.decision
  receiptIndex : ∀ tx id, l.receiptIndex tx = some id →
    ∃ r, l.receipts id = some r ∧ r.transactionId = tx
  decisionIndex : ∀ tx id, l.decisionIndex tx = some id →
    ∃ d, l.decisions id = some d ∧ d.transactionId = tx
  receipted : ∀ id d, l.decisions id = some d → l.receiptIndex d.transactionId ≠ none
  filed : ∀ id d, l.decisions id = some d → l.transactions d.transactionId ≠ none

/-- What may be recorded: a decision with the transaction and the outcome that its id already has,
and a receipt that is named after a decision on record and agrees with it. -/
structure Recordable (l : Ledger) (d : PolicyDecision) (r : Receipt) : Prop where
  keeps : ∀ d₀, l.decisions d.decisionId = some d₀ →
    d₀.transactionId = d.transactionId ∧ d₀.decision = d.decision
  named : r.receiptId = "rcpt_" ++ r.decisionId
  about : ∃ d', (l.withDecision d).decisions r.decisionId = some d' ∧
    r.transactionId = d'.transactionId ∧ r.decision = d'.decision
  sameTx : r.transactionId = d.transactionId
  filed : l.transactions d.transactionId ≠ none

theorem receiptId_inj {a b : String} (h : "rcpt_" ++ a = "rcpt_" ++ b) : a = b := by simpa using h

namespace Indexed

variable {l : Ledger}

/-- Identifiers and tokens have no part in it. -/
theorem of_eq {l' : Ledger} (h : Indexed l) (transactions : l'.transactions = l.transactions)
    (records : SameRecords l l') : Indexed l' := by
  obtain ⟨decisions, decisionIndex, receipts, receiptIndex⟩ := records
  cases l
  cases l'
  cases transactions
  cases decisions
  cases decisionIndex
  cases receipts
  cases receiptIndex
  exact ⟨h.receipts_named, h.receipts_about, h.receiptIndex, h.decisionIndex, h.receipted, h.filed⟩

theorem withTransaction (h : Indexed l) (tx : TransactionRequest) :
    Indexed (l.withTransaction tx) := by
  refine ⟨h.receipts_named, h.receipts_about, h.receiptIndex, h.decisionIndex, h.receipted,
    fun id d hd => ?_⟩
  rw [Ledger.withTransaction_transactions]
  split_ifs
  · exact nofun
  · exact h.filed id d hd

/-- A decision on record is still on record, with its transaction and outcome. -/
theorem decisions_withDecision {d : PolicyDecision} (keeps : ∀ d₀,
      l.decisions d.decisionId = some d₀ → d₀.transactionId = d.transactionId ∧
        d₀.decision = d.decision) {id : String} {d₀ : PolicyDecision}
    (hd : l.decisions id = some d₀) :
    ∃ d', (l.withDecision d).decisions id = some d' ∧ d₀.transactionId = d'.transactionId ∧
      d₀.decision = d'.decision := by
  rw [Ledger.withDecision_decisions]
  split_ifs with hid
  · subst hid
    exact ⟨d, rfl, keeps d₀ hd⟩
  · exact ⟨d₀, hd, rfl, rfl⟩

theorem record (h : Indexed l) {d : PolicyDecision} {r : Receipt} (rec : Recordable l d r) :
    Indexed (l.record d r) := by
  refine ⟨fun id r' hr => ?_, fun id r' hr => ?_, fun tx id hx => ?_, fun tx id hx => ?_,
    fun id d' hd => ?_, fun id d' hd => ?_⟩
  · rw [Ledger.record, Ledger.withReceipt_receipts] at hr
    split_ifs at hr with hid
    · cases hr
      exact ⟨hid.symm, hid.trans rec.named⟩
    · exact h.receipts_named id r' hr
  · rw [Ledger.record, Ledger.withReceipt_receipts] at hr
    split_ifs at hr with hid
    · cases hr
      exact rec.about
    · obtain ⟨d₀, hd₀, tx, outcome⟩ := h.receipts_about id r' hr
      obtain ⟨d', hd', tx', outcome'⟩ := decisions_withDecision rec.keeps hd₀
      exact ⟨d', hd', tx.trans tx', outcome.trans outcome'⟩
  · rw [Ledger.record, Ledger.withReceipt_receiptIndex] at hx
    simp only [Ledger.record, Ledger.withReceipt_receipts]
    split_ifs at hx with htx
    · cases hx
      exact ⟨r, if_pos rfl, htx.symm⟩
    · obtain ⟨r', hr', tx'⟩ := h.receiptIndex tx id hx
      have differs : id ≠ r.receiptId := by
        -- a receipt of the same name is about the same decision, so of the same transaction
        intro same
        obtain ⟨-, name⟩ := h.receipts_named id r' hr'
        have sameDecision : r'.decisionId = r.decisionId :=
          receiptId_inj (name.symm.trans (same.trans rec.named))
        obtain ⟨d₀, hd₀, tx₀, -⟩ := h.receipts_about id r' hr'
        obtain ⟨d', hd', tx'', -⟩ := decisions_withDecision rec.keeps hd₀
        obtain ⟨d'', hd'', about, -⟩ := rec.about
        rw [← sameDecision, hd'] at hd''
        cases hd''
        exact htx (tx'.symm.trans (tx₀.trans (tx''.trans about.symm)))
      exact ⟨r', (if_neg differs).trans hr', tx'⟩
  · change (l.withDecision d).decisionIndex tx = some id at hx
    rw [Ledger.withDecision_decisionIndex] at hx
    split_ifs at hx with htx
    · cases hx
      exact ⟨d, Ledger.withDecision_self _ rfl, htx.symm⟩
    · obtain ⟨d₀, hd₀, tx'⟩ := h.decisionIndex tx id hx
      obtain ⟨d', hd', tx'', -⟩ := decisions_withDecision rec.keeps hd₀
      exact ⟨d', hd', tx''.symm.trans tx'⟩
  · rw [Ledger.record, Ledger.withReceipt_receiptIndex]
    change (l.withDecision d).decisions id = some d' at hd
    rw [Ledger.withDecision_decisions] at hd
    split_ifs with htx
    · exact nofun
    · split_ifs at hd with hid
      · cases hd
        exact absurd rec.sameTx.symm htx
      · exact h.receipted id d' hd
  · change (l.withDecision d).decisions id = some d' at hd
    rw [Ledger.withDecision_decisions] at hd
    split_ifs at hd with hid
    · cases hd
      exact rec.filed
    · exact h.filed id d' hd

/-- The receipt that a resolution starts from is the one the index leads to. -/
theorem receiptOnRecord (h : Indexed l) {id : String} {d : PolicyDecision}
    (hd : l.decisions id = some d) (now : DateTime) :
    ∃ key, l.receiptIndex d.transactionId = some key ∧
      l.receipts key = some (l.receiptOnRecord d now) ∧
      (l.receiptOnRecord d now).transactionId = d.transactionId := by
  obtain ⟨key, hkey⟩ := Option.ne_none_iff_exists'.1 (h.receipted id d hd)
  obtain ⟨r, hr, tx⟩ := h.receiptIndex _ key hkey
  have found : l.receiptOnRecord d now = r := by
    rw [Ledger.receiptOnRecord, hkey, Option.bind_some, hr, Option.getD_some]
  exact ⟨key, hkey, by rw [found, hr], by rw [found, tx]⟩

end Indexed

/-- A new decision on a transaction that was just put on file, with its receipt. -/
theorem Recordable.new {l : Ledger} {tx : TransactionRequest} {d : PolicyDecision}
    (unused : l.decisions d.decisionId = none) (about : d.transactionId = tx.transactionId)
    (now : DateTime) (token : Option String) :
    Recordable (l.withTransaction tx) d (receiptFor d now token) where
  keeps _ hd := absurd (unused.symm.trans hd) nofun
  named := rfl
  about := ⟨d, Ledger.withDecision_self _ rfl, rfl, rfl⟩
  sameTx := rfl
  filed := by
    rw [Ledger.withTransaction_transactions, if_pos about]
    exact nofun

section Resolutions

variable [Unicode] {l : Ledger} {decisionId : String} {outcome : DecisionOutcome}
  {role : Option String} {d : PolicyDecision}

theorem Recordable.resolution (ix : Indexed l) (sound : Sound l)
    (isOpen : Open l decisionId outcome role d) (verdict : DecisionOutcome)
    (resolvedBy note : String) (now : DateTime) (token : Option String) :
    Recordable l (resolve d verdict resolvedBy note now)
      { l.receiptOnRecord d now with issuedAt := now, token := token } := by
  obtain ⟨key, -, hr, tx⟩ := ix.receiptOnRecord isOpen.stored now
  have keeps (d₀ : PolicyDecision) (hd₀ : l.decisions d.decisionId = some d₀) :
      d₀.transactionId = d.transactionId ∧ d₀.decision = d.decision := by
    rw [sound.decisions_named _ _ isOpen.stored, isOpen.stored] at hd₀
    cases hd₀
    exact ⟨rfl, rfl⟩
  obtain ⟨hkey, named⟩ := ix.receipts_named key _ hr
  obtain ⟨d₀, hd₀, about, outcome₀⟩ := ix.receipts_about key _ hr
  obtain ⟨d', hd', about', outcome'⟩ := Indexed.decisions_withDecision
    (d := resolve d verdict resolvedBy note now) keeps hd₀
  exact ⟨keeps, hkey.trans named, ⟨d', hd', about.trans about', outcome₀.trans outcome'⟩, tx,
    ix.filed decisionId d isOpen.stored⟩

end Resolutions

theorem Indexed.step [Unicode] {l l' : Ledger} {request : Request}
    {answer : Except ServiceError Answer} (h : Indexed l) (sound : Sound l)
    (step : l.Step request answer l') (fresh : Fresh l'.drawn) : Indexed l' := by
  cases step with
  | @withheld _ tx d hex now id about =>
    have unused := id ▸ sound.decision_unused fresh
    exact ((h.withTransaction tx).record (.new unused about now none)).of_eq rfl
      ⟨rfl, rfl, rfl, rfl⟩
  | @approved _ tx d t hex hex' now id about =>
    have unused := id ▸ sound.decision_unused (fresh.of_suffix (List.suffix_cons hex' _))
    exact ((h.withTransaction tx).record (.new unused about now (some t.tokenId))).of_eq rfl
      ⟨rfl, rfl, rfl, rfl⟩
  | unfinished => exact h.withTransaction _
  | @denied _ _ by' note _ d now isOpen =>
    exact h.record (.resolution h sound isOpen _ by' note now (l.receiptOnRecord d now).token)
  | @released _ by' note _ d tx t hex now isOpen =>
    exact (h.record (.resolution h sound isOpen .approve by' note now (some t.tokenId))).of_eq rfl
      ⟨rfl, rfl, rfl, rfl⟩
  | stranded isOpen gone => exact absurd gone (h.filed _ _ isOpen.stored)
  | claimed => exact h.of_eq rfl ⟨rfl, rfl, rfl, rfl⟩
  | idle => exact h

/-! ## Receipts and decisions -/

/-- A token the receipt carries is that of the decision it names, which is no DENY. -/
def Tied (l : Ledger) (r : Receipt) : Prop :=
  ∀ key, r.token = some key → (∃ t, l.tokens key = some t ∧ t.decisionId = r.decisionId) ∧
    ∀ d, l.decisions r.decisionId = some d → d.decision ≠ .deny

/-- The receipt and the decision that the indices lead to belong together. -/
def Matched (l : Ledger) (tx : String) : Prop :=
  (l.receiptByTx tx).map Receipt.decisionId = (l.decisionByTx tx).map PolicyDecision.decisionId

structure ReceiptsBelong (l : Ledger) : Prop where
  tied : ∀ id r, l.receipts id = some r → Tied l r
  matched : ∀ tx, Matched l tx

/-- A resolution that succeeds returns and stores a receipt of the decision it was asked about,
with a token exactly on APPROVE. -/
def Answered (l : Ledger) : Exchange → Prop
  | (.resolve decisionId outcome _ _ _, .ok (.judged _ r)) =>
      r.decisionId = decisionId ∧ l.receipts r.receiptId = some r ∧
        (r.token.isSome ↔ outcome = .approve)
  | _ => True

/-- If the request resolves an open hold, then the receipt index of the hold's transaction leads
to the receipt of the hold. -/
def OwnReceipt [Unicode] (l : Ledger) : Request → Prop
  | .resolve decisionId outcome _ _ role => ∀ d, Open l decisionId outcome role d →
      l.receiptIndex d.transactionId = some ("rcpt_" ++ decisionId)
  | _ => True

section Recording

variable {l l' : Ledger} {d : PolicyDecision} {r : Receipt}

theorem matched_record (ix : Indexed l) (rec : Recordable l d r) (tx : String) :
    Matched (l.record d r) tx ↔
      if tx = d.transactionId then r.decisionId = d.decisionId else Matched l tx := by
  have receiptIndex : (l.record d r).receiptIndex tx =
      if tx = d.transactionId then some r.receiptId else l.receiptIndex tx := by
    rw [Ledger.record, Ledger.withReceipt_receiptIndex, rec.sameTx]
    rfl
  have decisionIndex : (l.record d r).decisionIndex tx =
      if tx = d.transactionId then some d.decisionId else l.decisionIndex tx :=
    Ledger.withDecision_decisionIndex ..
  have receipts (id : String) : (l.record d r).receipts id =
      if id = r.receiptId then some r else l.receipts id := Ledger.withReceipt_receipts ..
  have decisions (id : String) : (l.record d r).decisions id =
      if id = d.decisionId then some d else l.decisions id := Ledger.withDecision_decisions ..
  by_cases htx : tx = d.transactionId
  · rw [if_pos htx] at receiptIndex decisionIndex
    rw [if_pos htx, Matched, Ledger.receiptByTx, Ledger.decisionByTx, receiptIndex, decisionIndex,
      Option.bind_some, Option.bind_some, receipts, decisions, if_pos rfl, if_pos rfl,
      Option.map_some, Option.map_some, Option.some.injEq]
  · rw [if_neg htx] at receiptIndex decisionIndex
    rw [if_neg htx]
    -- what another index entry leads to is neither the receipt nor the decision recorded
    have sameReceipt : (l.record d r).receiptByTx tx = l.receiptByTx tx := by
      rw [Ledger.receiptByTx, Ledger.receiptByTx, receiptIndex]
      rcases hx : l.receiptIndex tx with _ | id
      · rfl
      obtain ⟨r', hr', tx'⟩ := (ix.record rec).receiptIndex tx id (receiptIndex.trans hx)
      rw [Option.bind_some, Option.bind_some, receipts]
      rw [receipts] at hr'
      split_ifs at hr' with hid
      · cases hr'
        exact absurd (tx'.symm.trans rec.sameTx) htx
      · exact if_neg hid
    have sameDecision : (l.record d r).decisionByTx tx = l.decisionByTx tx := by
      rw [Ledger.decisionByTx, Ledger.decisionByTx, decisionIndex]
      rcases hx : l.decisionIndex tx with _ | id
      · rfl
      obtain ⟨d', hd', tx'⟩ := (ix.record rec).decisionIndex tx id (decisionIndex.trans hx)
      rw [Option.bind_some, Option.bind_some, decisions]
      rw [decisions] at hd'
      split_ifs at hd' with hid
      · cases hd'
        exact absurd tx'.symm htx
      · exact if_neg hid
    rw [Matched, Matched, sameReceipt, sameDecision]

/-- A receipt stays tied while its token keeps its decision and its decision keeps its outcome. -/
theorem Tied.mono (h : Tied l r)
    (tokens : ∀ key t, l.tokens key = some t →
      ∃ t', l'.tokens key = some t' ∧ t'.decisionId = t.decisionId)
    (outcomes : ∀ d, l'.decisions r.decisionId = some d →
      ∃ d₀, l.decisions r.decisionId = some d₀ ∧ d₀.decision = d.decision) : Tied l' r := by
  intro key hkey
  obtain ⟨⟨t, ht, same⟩, notDenied⟩ := h key hkey
  refine ⟨?_, fun d hd => ?_⟩
  · obtain ⟨t', ht', same'⟩ := tokens key t ht
    exact ⟨t', ht', same'.trans same⟩
  · obtain ⟨d₀, hd₀, outcome⟩ := outcomes d hd
    rw [← outcome]
    exact notDenied d₀ hd₀

/-- What recording a decision with a receipt, and perhaps a new token, makes of the receipts. -/
theorem ReceiptsBelong.record_iff (h : ReceiptsBelong l) (ix : Indexed l) (rec : Recordable l d r)
    (tokens : ∀ key t, l.tokens key = some t →
      ∃ t', l'.tokens key = some t' ∧ t'.decisionId = t.decisionId)
    (records : SameRecords (l.record d r) l') :
    ReceiptsBelong l' ↔ Tied l' r ∧ r.decisionId = d.decisionId := by
  obtain ⟨decisions, decisionIndex, receipts, receiptIndex⟩ := records
  have matched (tx : String) : Matched l' tx ↔
      if tx = d.transactionId then r.decisionId = d.decisionId else Matched l tx := by
    rw [← matched_record ix rec tx, Matched, Matched, Ledger.receiptByTx, Ledger.receiptByTx,
      Ledger.decisionByTx, Ledger.decisionByTx, decisions, receipts, decisionIndex, receiptIndex]
  have receipts (id : String) : l'.receipts id =
      if id = r.receiptId then some r else l.receipts id := by
    rw [receipts]
    exact Ledger.withReceipt_receipts ..
  constructor
  · intro belong
    have own := (matched d.transactionId).1 (belong.matched _)
    rw [if_pos rfl] at own
    exact ⟨belong.tied r.receiptId r ((receipts _).trans (if_pos rfl)), own⟩
  · rintro ⟨tied, own⟩
    refine ⟨fun id r' hr => ?_, fun tx => ?_⟩
    · rw [receipts] at hr
      split_ifs at hr
      · cases hr
        exact tied
      · obtain ⟨d₀, hd₀, -⟩ := ix.receipts_about id r' hr
        obtain ⟨d', hd', -, outcome⟩ := Indexed.decisions_withDecision rec.keeps hd₀
        refine (h.tied id r' hr).mono tokens fun d'' hd'' => ⟨d₀, hd₀, ?_⟩
        rw [decisions] at hd''
        obtain rfl := Option.some.inj (hd'.symm.trans hd'')
        exact outcome
    · rw [matched]
      split_ifs
      · exact own
      · exact h.matched tx

end Recording

/-! ## One request -/

/-- The receipts belong to their decisions, and the last answer was right. -/
def ReceiptsRight (l : Ledger) (history : List Exchange) : Prop :=
  ReceiptsBelong l ∧ ∀ exchange ∈ history.head?, Answered l exchange

theorem receiptsRight_of_belong {l : Ledger} {exchange : Exchange} {history : List Exchange}
    (answered : Answered l exchange) :
    ReceiptsRight l (exchange :: history) ↔ ReceiptsBelong l :=
  ⟨And.left, fun h => ⟨h, fun _ he => Option.some.inj he ▸ answered⟩⟩

section Step

variable [Unicode] {l l' : Ledger} {decisionId : String} {outcome : DecisionOutcome}
  {role : Option String} {d : PolicyDecision}

/-- The receipt on record is that of the hold exactly when the index leads there. -/
theorem ownReceipt_iff (ix : Indexed l) (isOpen : Open l decisionId outcome role d)
    (resolvedBy note : String) (now : DateTime) :
    OwnReceipt l (.resolve decisionId outcome resolvedBy note role) ↔
      (l.receiptOnRecord d now).decisionId = decisionId := by
  obtain ⟨key, hkey, hr, -⟩ := ix.receiptOnRecord isOpen.stored now
  obtain ⟨-, named⟩ := ix.receipts_named key _ hr
  constructor
  · intro own
    have leads := own d isOpen
    rw [hkey, Option.some.injEq, named] at leads
    exact receiptId_inj leads
  · intro own d' isOpen'
    obtain rfl := Option.some.inj (isOpen.stored.symm.trans isOpen'.stored)
    rw [hkey, named, own]

/-- The receipt of an open hold carries no token. -/
theorem ReceiptsBelong.token_of_open (h : ReceiptsBelong l) (sound : Sound l) (ix : Indexed l)
    (isOpen : Open l decisionId outcome role d) {now : DateTime}
    (own : (l.receiptOnRecord d now).decisionId = decisionId) :
    (l.receiptOnRecord d now).token = none := by
  obtain ⟨key, -, hr, -⟩ := ix.receiptOnRecord isOpen.stored now
  rcases htoken : (l.receiptOnRecord d now).token with _ | token
  · rfl
  obtain ⟨⟨t, ht, names⟩, -⟩ := h.tied key _ hr token htoken
  exact absurd (names.trans (own.trans (sound.decisions_named _ _ isOpen.stored).symm))
    (sound.free_of_open isOpen token t ht)

/-- A resolution that succeeds is right exactly when it found the receipt of the hold, provided
that it then ties the receipt to its token. -/
theorem ReceiptsBelong.resolution_iff (h : ReceiptsBelong l) (sound : Sound l) (ix : Indexed l)
    (isOpen : Open l decisionId outcome role d) (resolvedBy note : String) (now : DateTime)
    (token : Option String) (history : List Exchange)
    (tokens : ∀ key t, l.tokens key = some t →
      ∃ t', l'.tokens key = some t' ∧ t'.decisionId = t.decisionId)
    {r : Receipt} (hr : r = { l.receiptOnRecord d now with issuedAt := now, token := token })
    (records : SameRecords (l.record (resolve d outcome resolvedBy note now) r) l')
    (carries : r.decisionId = decisionId → Tied l' r ∧ (token.isSome ↔ outcome = .approve)) :
    ReceiptsRight l' ((.resolve decisionId outcome resolvedBy note role,
        .ok (.judged (resolve d outcome resolvedBy note now) r)) :: history) ↔
      OwnReceipt l (.resolve decisionId outcome resolvedBy note role) := by
  have named := sound.decisions_named _ _ isOpen.stored
  have recordable : Recordable l (resolve d outcome resolvedBy note now) r :=
    hr ▸ .resolution ix sound isOpen outcome resolvedBy note now token
  have belong := h.record_iff ix recordable tokens records
  have sameId : r.decisionId = (l.receiptOnRecord d now).decisionId := by rw [hr]
  rw [ownReceipt_iff ix isOpen resolvedBy note now, ← sameId]
  constructor
  · rintro ⟨right, -⟩
    exact (belong.1 right).2.trans named
  · intro own
    obtain ⟨tied, tokenIff⟩ := carries own
    refine ⟨belong.2 ⟨tied, own.trans named.symm⟩, fun exchange he => ?_⟩
    obtain rfl := Option.some.inj he
    refine ⟨own, ?_, by rwa [hr]⟩
    rw [records.receipts]
    exact Ledger.withReceipt_self ..

/-- A request keeps the receipts right exactly when it resolves no hold whose receipt the index no
longer leads to. -/
theorem ReceiptsBelong.step_iff {history : List Exchange} {request : Request}
    {answer : Except ServiceError Answer} (h : ReceiptsBelong l) (sound : Sound l)
    (ix : Indexed l) (step : l.Step request answer l') (fresh : Fresh l'.drawn) :
    ReceiptsRight l' ((request, answer) :: history) ↔ OwnReceipt l request := by
  -- a new token is kept under a new key
  have kept {t : ScopedAuthorizationToken} (unused : l.tokens t.tokenId = none) (key : String)
      (t₀ : ScopedAuthorizationToken) (ht₀ : l.tokens key = some t₀) :
      ∃ t', (l.withToken t).tokens key = some t' ∧ t'.decisionId = t₀.decisionId := by
    rw [Ledger.withToken_tokens]
    split_ifs with hkey
    · exact absurd (hkey ▸ ht₀ : l.tokens t.tokenId = some t₀) (by simp [unused])
    · exact ⟨t₀, ht₀, rfl⟩
  cases step with
  | @withheld listener tx d hex now id about =>
    have unused := id ▸ sound.decision_unused fresh
    have base : ReceiptsBelong (l.withTransaction tx) := ⟨h.tied, h.matched⟩
    refine Iff.trans (receiptsRight_of_belong trivial) (iff_of_true ?_ trivial)
    refine Iff.mpr (base.record_iff (ix.withTransaction tx) (.new unused about now none)
      (fun key t ht => ⟨t, ht, rfl⟩) ⟨rfl, rfl, rfl, rfl⟩) ⟨?_, rfl⟩
    exact fun key hkey => absurd hkey nofun
  | @approved listener tx d t hex hex' now id about unresolved approve tokenId names =>
    have unused := id ▸ sound.decision_unused (fresh.of_suffix (List.suffix_cons hex' _))
    have newToken : l.tokens t.tokenId = none := tokenId ▸ (sound.draw hex).token_unused fresh
    have base : ReceiptsBelong (l.withTransaction tx) := ⟨h.tied, h.matched⟩
    refine Iff.trans (receiptsRight_of_belong trivial) (iff_of_true ?_ trivial)
    refine Iff.mpr (base.record_iff (ix.withTransaction tx)
      (.new unused about now (some t.tokenId)) (kept newToken)
      ⟨rfl, rfl, rfl, rfl⟩) ⟨?_, rfl⟩
    intro key hkey
    obtain rfl := Option.some.inj hkey
    refine ⟨⟨t, Ledger.withToken_self .., names⟩, fun d' hd' => ?_⟩
    obtain rfl := Option.some.inj ((Ledger.withDecision_self _ rfl).symm.trans hd')
    rw [approve]
    exact nofun
  | unfinished =>
    exact Iff.trans (receiptsRight_of_belong trivial) (iff_of_true ⟨h.tied, h.matched⟩ trivial)
  | @denied decisionId outcome by' note role d now isOpen deny =>
    apply h.resolution_iff sound ix isOpen by' note now (l.receiptOnRecord d now).token
    case tokens => exact fun key t ht => ⟨t, ht, rfl⟩
    case hr => rfl
    case records => exact ⟨rfl, rfl, rfl, rfl⟩
    case carries =>
      intro own
      have bare := h.token_of_open sound ix isOpen own
      exact ⟨fun key hkey => absurd (bare.symm.trans hkey) nofun,
        iff_of_false (by simp [bare]) deny⟩
  | @released decisionId by' note role d tx t hex now isOpen onFile tokenId names =>
    have newToken : l.tokens t.tokenId = none := tokenId ▸ sound.token_unused fresh
    apply h.resolution_iff sound ix isOpen by' note now (some t.tokenId)
    case tokens => exact kept newToken
    case hr => rfl
    case records => exact ⟨rfl, rfl, rfl, rfl⟩
    case carries =>
      intro own
      have sameDecision := own.trans (sound.decisions_named _ _ isOpen.stored).symm
      refine ⟨fun key hkey => ?_, iff_of_true rfl rfl⟩
      obtain rfl := Option.some.inj hkey
      have stored : (l.withDecision (resolve d .approve by' note now)).decisions
          (l.receiptOnRecord d now).decisionId = some (resolve d .approve by' note now) :=
        l.withDecision_self sameDecision
      refine ⟨⟨t, Ledger.withToken_self .., names.trans sameDecision.symm⟩, fun d' hd' => ?_⟩
      obtain rfl := Option.some.inj (stored.symm.trans hd')
      exact ne_of_eq_of_ne (ineligible_eq_none.1 isOpen.eligible).1 nofun
  | stranded isOpen gone => exact absurd gone (ix.filed _ _ isOpen.stored)
  | @claimed identifier key expected result t now stored =>
    refine Iff.trans (receiptsRight_of_belong trivial)
      (iff_of_true ⟨fun id r hr => (h.tied id r hr).mono ?_ fun d hd => ⟨d, hd, rfl⟩, h.matched⟩
        trivial)
    intro key₀ t₀ ht₀
    rw [Ledger.withToken_tokens]
    split_ifs with hkey
    · have sameToken : key₀ = key := hkey.trans (sound.tokens_named key t stored)
      obtain rfl := Option.some.inj ((sameToken ▸ stored).symm.trans ht₀)
      exact ⟨_, rfl, rfl⟩
    · exact ⟨t₀, ht₀, rfl⟩
  | idle hidle =>
    cases request with
    | authorize => exact hidle.elim
    | resolve decisionId outcome by' note role =>
      obtain ⟨closed, e, rfl⟩ := hidle
      exact Iff.trans (receiptsRight_of_belong trivial)
        (iff_of_true h fun d isOpen => absurd isOpen (closed d))
    | _ => exact Iff.trans (receiptsRight_of_belong trivial) (iff_of_true h trivial)

end Step

/-! ## Runs -/

theorem receiptsRight_start (config : PolicyConfig) :
    ReceiptsRight (Served.start config).world.ledger [] := by
  refine ⟨⟨fun id r h => ?_, fun tx => rfl⟩, fun exchange h => ?_⟩
  · cases h
  · cases h

section Runs

variable [Unicode] (svc : AuthorizationService) (env : Env) (peers : ℕ → Peers)

theorem Served.serve_indexed (config : PolicyConfig) (requests : List Request)
    (fresh : Fresh ((Served.start config).serve svc env peers requests).world.drawn) :
    Indexed ((Served.start config).serve svc env peers requests).world.ledger := by
  refine serve_induct svc env peers (Q := fun l _ => Indexed l) ?_
    (fun _ _ _ _ _ sound ix step fresh => ix.step sound step fresh) requests fresh
  constructor <;> intros <;> contradiction

/-- In every run, the receipts belong to their decisions in all states exactly when every hold is
resolved while the receipt index of its transaction leads to its own receipt. -/
theorem receipts_belong_iff (config : PolicyConfig) (requests : List Request)
    (fresh : Fresh ((Served.start config).serve svc env peers requests).world.drawn) :
    (∀ before after, requests = before ++ after →
        let s := (Served.start config).serve svc env peers before
        ReceiptsRight s.world.ledger s.history) ↔
      ∀ before request after, requests = before ++ request :: after →
        OwnReceipt ((Served.start config).serve svc env peers before).world.ledger request := by
  refine Served.ledger_always_iff svc env peers (G := ReceiptsRight)
    (C := fun l _ request => OwnReceipt l request) (receiptsRight_start config) requests fresh ?_
  intro before request answer l' _ fresh sound right step fresh'
  exact right.1.step_iff sound (Served.serve_indexed svc env peers config before fresh) step fresh'

end Runs

/-- A release is held, the transaction id is sent again with an action that is denied, and an
officer approves the hold. -/
def overwrittenRequests : List Request :=
  [.enroll Sample.operator, .bindDevice Sample.binding,
    .authorize false (Sample.hazardous "r"),
    .authorize false { Sample.hazardous "r" with action := "SCRAP_CARGO" },
    .resolve "dec_000000000000" .approve "Officer" "" (some "SAFETY_OFFICER")]

theorem receipts_belong_iff_overwritten :
    let _ := Sample.unicode
    (∀ before after, overwrittenRequests = before ++ after →
        ReceiptsRight (Sample.served before).world.ledger (Sample.served before).history) ↔
      ∀ before request after, overwrittenRequests = before ++ request :: after →
        OwnReceipt (Sample.served before).world.ledger request :=
  @receipts_belong_iff Sample.unicode Sample.service Sample.env (fun _ => Sample.peers)
    PolicyConfig.default overwrittenRequests (by unfold Fresh; decide +kernel)

/-- The receipt of the DENY carries the token of the hold. -/
theorem overwritten_not_right :
    Fresh (Sample.served overwrittenRequests).world.drawn ∧
      ¬ ReceiptsRight (Sample.served overwrittenRequests).world.ledger
        (Sample.served overwrittenRequests).history := by
  refine ⟨by unfold Fresh; decide +kernel, fun right => ?_⟩
  have receipt : ((Sample.served overwrittenRequests).world.ledger.receipts
      "rcpt_dec_000000000001").map (fun r => (r.token, r.decisionId)) =
        some (some "tok_000000000002", "dec_000000000001") := by
    decide +kernel
  have decision : ((Sample.served overwrittenRequests).world.ledger.decisions
      "dec_000000000001").map PolicyDecision.decision = some .deny := by
    decide +kernel
  obtain ⟨r, hr, fields⟩ := Option.map_eq_some_iff.1 receipt
  obtain ⟨d, hd, deny⟩ := Option.map_eq_some_iff.1 decision
  obtain ⟨token, decisionId⟩ := Prod.mk.inj fields
  exact (right.1.tied _ r hr _ token).2 d (decisionId ▸ hd) deny

end ZoneGate
