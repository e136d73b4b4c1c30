import ZoneGate.Authorization.Claims
import ZoneGate.Authorization.Pipeline

/-!
# Spent tokens stay spent

A request saves a token only when it issues it, or claimed, after it has read it.  So however the
requests overlap, what a token is for never changes, and a token that was claimed stays claimed,
although a claim writes back a record that may be stale.
-/

namespace ZoneGate

open Py Effects

/-! ## What a request saves -/

/-- No token was saved. -/
def NoTokens (past : List (Handled Services)) : Prop :=
  ∀ t, (⟨Effect.store (.saveToken t), ()⟩ : Handled Services) ∉ past

/-- A token that is saved is unclaimed, signed in ASCII and the first one, or it is one that was
read, claimed. -/
def SavesToken (past : List (Handled Services)) : Effect → Prop
  | .store (.saveToken t) => (t.claimed = false ∧ isAscii t.signature = true ∧ NoTokens past) ∨
      ∃ id t₀ now, (⟨Effect.store (.getToken id), some t₀⟩ : Handled Services) ∈ past ∧
        t = TokenService.claimedAtTime t₀ now
  | _ => True

/-- A claim that succeeds has read the token unclaimed, has found it not expired, and has saved it
claimed. -/
def ClaimsRead (identifier : String) (past : List (Handled Services)) :
    Except ServiceError ClaimResult → Prop
  | .ok result => result.claimed = true → ∃ t now now',
      past = [⟨Effect.store (.getToken identifier), some t⟩, ⟨Effect.utcnow, now⟩,
        ⟨Effect.utcnow, now'⟩,
        ⟨Effect.store (.saveToken (TokenService.claimedAtTime t now')), ()⟩] ∧
      t.claimed = false ∧ ¬ t.expiresAt < now
  | .error _ => True

section Programs

variable {past : List (Handled Services)} {α : Type}

theorem noTokens_call (past : List (Handled Services)) (c : Effect) (hc : ¬ IsSaveToken c)
    (h : NoTokens past) : SavesToken past c ∧ ∀ r, NoTokens (past ++ [⟨c, r⟩]) := by
  constructor
  · unfold SavesToken
    split
    · exact absurd trivial hc
    · trivial
  · intro r t mem
    rcases List.mem_append.1 mem with mem | mem
    · exact h t mem
    · cases List.mem_singleton.1 mem
      exact hc trivial

theorem savesToken_of_callsOnly {p : Service α} (hp : p.CallsOnly (¬ IsSaveToken ·))
    (past : List (Handled Services)) : p.Upholds SavesToken (fun _ _ => True) past := by
  refine (Prog.Upholds.of_callsOnly (P := fun _ => True) hp (fun past c hc _ => ?_) trivial)
  refine ⟨?_, fun _ => trivial⟩
  unfold SavesToken
  split
  · exact absurd trivial hc
  · trivial

theorem not_isSaveToken_of_preliminary {c : Effect} (hc : Preliminary c) : ¬ IsSaveToken c := by
  intro save
  unfold IsSaveToken at save
  split at save
  · exact hc
  · exact save

namespace AuthorizationService

variable (svc : AuthorizationService)

theorem issueForHold_savesToken (h : NoTokens past) (decision : PolicyDecision) :
    (svc.issueForHold decision).Upholds SavesToken (fun _ _ => True) past := by
  have keeps := noTokens_call
  simp only [issueForHold, TokenService.issueToken, Prog.perform_eq, Prog.call_bind, Prog.ret_bind,
    Prog.pure_eq]
  refine .call (keeps _ _ not_false h) (fun _ => trivial) fun found h => ?_
  rcases found with _ | transaction
  · trivial
  refine .call (keeps _ _ not_false h) (fun _ => trivial) fun now h => ?_
  refine .call (keeps _ _ not_false h) (fun _ => trivial) fun hex h => ?_
  exact ⟨.inl ⟨rfl, svc.sign.ascii _, h⟩, fun _ => trivial, fun _ => trivial⟩

theorem resolveHold_savesToken [Unicode] (decisionId : String) (outcome : DecisionOutcome)
    (resolvedBy note : String) (role : Option String) :
    (svc.resolveHold decisionId outcome resolvedBy note role).Upholds SavesToken
      (fun _ _ => True) [] := by
  have keeps := noTokens_call
  have start : NoTokens [] := fun t mem => by cases mem
  simp only [resolveHold, settleHold, Prog.perform_eq, Prog.call_bind, Prog.ret_bind]
  refine .call (keeps _ _ not_false start) (fun _ => trivial) fun found h => ?_
  rcases found with _ | decision
  · trivial
  dsimp only
  rcases ineligible decisionId decision outcome role with _ | e
  swap
  · trivial
  refine .call (keeps _ _ not_false h) (fun _ => trivial) fun now h => ?_
  refine .call (keeps _ _ not_false h) (fun _ => trivial) fun _ h => ?_
  refine .call (keeps _ _ not_false h) (fun _ => trivial) fun found h => ?_
  dsimp only
  split_ifs
  · refine (svc.issueForHold_savesToken h decision).bind (fun past token _ => ?_)
      fun _ _ _ => trivial
    exact ⟨trivial, fun _ => trivial, fun _ => trivial⟩
  · exact ⟨trivial, fun _ => trivial, fun _ => trivial⟩

theorem claimToken_savesToken (tokenIdentifier : String) (expected : Expected) :
    (svc.claimToken tokenIdentifier expected).Upholds SavesToken (ClaimsRead tokenIdentifier)
      [] := by
  simp only [claimToken, TokenService.claimToken, Prog.perform_eq, Prog.call_bind, Prog.ret_bind]
  refine ⟨trivial, fun _ => trivial, fun found => ?_⟩
  rcases found with _ | token
  · exact fun claimed => absurd claimed Bool.false_ne_true
  refine ⟨trivial, fun _ => trivial, fun now => ?_⟩
  dsimp only
  rcases hverify : TokenService.verifyToken svc.sign now token expected with
    message | ⟨_ | _, answer⟩
  · trivial
  · exact fun claimed => absurd claimed Bool.false_ne_true
  refine ⟨trivial, fun _ => trivial, fun now' => ⟨.inr ?_, fun _ => trivial, fun _ _ => ?_⟩⟩
  · exact ⟨tokenIdentifier, token, now', by simp, rfl⟩
  · exact ⟨token, now, now', rfl, TokenService.of_verifyToken svc.sign hverify⟩

variable [Unicode]

omit [Unicode] in
theorem refuse_savesToken (listener : Bool) (transaction : TransactionRequest) (now : DateTime)
    (stage : Stage) (detail reason : String) :
    (refuse listener transaction now stage detail reason).Upholds SavesToken (fun _ _ => True)
      past := by
  refine savesToken_of_callsOnly (.bind ?_ fun _ => ?_) past
  · exact (emit_preliminary ..).mono fun _ => not_isSaveToken_of_preliminary
  · exact ⟨not_false, fun _ => ⟨not_false, fun _ => ⟨not_false, fun _ => trivial⟩⟩⟩

theorem decideAndPersist_savesToken (h : NoTokens past) (listener : Bool)
    (transaction : TransactionRequest) (now : DateTime) (actor : Actor)
    (plan : ValidatedEvidencePlan) (evidence : CanonicalEvidence)
    (context : Option ContextEvaluation) :
    (svc.decideAndPersist listener transaction now actor plan evidence context).Upholds
      SavesToken (fun _ _ => True) past := by
  have keeps := noTokens_call
  have emits (stage : Stage) (status : StageStatus) (detail : String) :=
    (emit_preliminary listener stage status detail).mono fun _ => not_isSaveToken_of_preliminary
  simp only [decideAndPersist, PolicyEngine.evaluate, issueIfApproved, TokenService.issueToken,
    Prog.perform_eq, Prog.call_bind, Prog.ret_bind, Prog.pure_eq]
  refine .bind_callsOnly (emits ..) keeps (fun _ _ _ => trivial) h fun _ _ h => ?_
  refine .call (keeps _ _ not_false h) (fun _ => trivial) fun hex h => ?_
  refine .call (keeps _ _ not_false h) (fun _ => trivial) fun time h => ?_
  refine .call (keeps _ _ not_false h) (fun _ => trivial) fun config h => ?_
  refine .bind_callsOnly (emits ..) keeps (fun _ _ _ => trivial) h fun _ _ h => ?_
  split_ifs
  · refine .call (keeps _ _ not_false h) (fun _ => trivial) fun issuedAt h => ?_
    refine .call (keeps _ _ not_false h) (fun _ => trivial) fun drawn h => ?_
    refine ⟨.inl ⟨rfl, svc.sign.ascii _, h⟩, fun _ => trivial, fun _ => ?_⟩
    refine savesToken_of_callsOnly ?_ _
    exact ⟨not_false, fun _ => ⟨not_false, fun _ => trivial⟩⟩
  · refine savesToken_of_callsOnly ?_ _
    exact ⟨not_false, fun _ => ⟨not_false, fun _ => trivial⟩⟩

theorem authorizeTransaction_savesToken (listener : Bool) (transaction : TransactionRequest) :
    (svc.authorizeTransaction listener transaction).Upholds SavesToken (fun _ _ => True) [] := by
  have start : NoTokens [] := fun t mem => by cases mem
  exact Steps.authorizeTransaction (P := fun _ => NoTokens)
    { call := fun _ past c hc h =>
        noTokens_call past c (not_isSaveToken_of_preliminary hc.preliminary) h
      advance := fun _ _ _ _ h => h
      raise := fun _ _ _ _ => trivial
      refuse := fun _ _ _ _ _ _ => refuse_savesToken ..
      decide := fun _ _ _ _ _ _ _ h _ _ => svc.decideAndPersist_savesToken h .. } start

end AuthorizationService

/-- A request that is a claim answers as a claim does. -/
def AnswersClaim (request : Request) (past : List (Handled Services)) :
    Except ServiceError Answer → Prop
  | .ok answer => ∀ identifier expected, request = .claim identifier expected →
      ∃ result, answer = .claimed result ∧ ClaimsRead identifier past (.ok result)
  | .error _ => True

/-- What a request of any kind saves, and what a claim answers. -/
theorem Request.program_savesToken [Unicode] (svc : AuthorizationService) (request : Request) :
    (request.program svc).Upholds SavesToken (AnswersClaim request) [] := by
  cases request with
  | authorize listener transaction =>
    exact (svc.authorizeTransaction_savesToken listener transaction).bind
      (fun _ _ _ => by rintro _ _ ⟨⟩) fun _ _ _ => trivial
  | resolve decisionId outcome resolvedBy note role =>
    exact (svc.resolveHold_savesToken decisionId outcome resolvedBy note role).bind
      (fun _ _ _ => by rintro _ _ ⟨⟩) fun _ _ _ => trivial
  | claim identifier expected =>
    refine (svc.claimToken_savesToken identifier expected).bind (fun _ result h => ?_)
      fun _ _ _ => trivial
    rintro _ _ ⟨⟩
    exact ⟨result, rfl, h⟩
  | enroll actor => exact ⟨trivial, fun _ => trivial, fun _ => by rintro _ _ ⟨⟩⟩
  | bindDevice binding => exact ⟨trivial, fun _ => trivial, fun _ => by rintro _ _ ⟨⟩⟩
  | configure config =>
    exact ⟨trivial, fun _ => trivial, fun _ => ⟨trivial, fun _ => trivial,
      fun _ => by rintro _ _ ⟨⟩⟩⟩

/-- A token that is read has a signature in ASCII. -/
def ReadsAscii (x : Handled Services) : Prop :=
  ∀ id t, x = ⟨Effect.store (.getToken id), some t⟩ → isAscii t.signature = true

/-- A claim makes four calls at most, and returns if the signature it reads can be compared. -/
theorem AuthorizationService.claim_within [Unicode] (svc : AuthorizationService)
    (identifier : String) (expected : Expected) :
    ((Request.claim identifier expected).program svc).Within ReadsAscii 4 := by
  simp only [Request.program, claimToken, TokenService.claimToken, Prog.perform_eq, Prog.call_bind,
    Prog.ret_bind, Prog.pure_eq]
  intro found reads
  rcases found with _ | token
  · trivial
  intro now _
  dsimp only
  rw [TokenService.verifyToken_of_ascii svc.sign (reads identifier token rfl)]
  rcases TokenService.checks _ now token expected with ⟨_ | _, answer⟩
  · trivial
  · exact fun _ _ _ _ => trivial

end Programs

/-! ## Tokens that stay -/

/-- The later state of a token: it is for the same, and it is still claimed if it was. -/
structure ScopedAuthorizationToken.Becomes (t t' : ScopedAuthorizationToken) : Prop where
  core : t'.core = t.core
  claimed : t.claimed = true → t'.claimed = true

theorem ScopedAuthorizationToken.Becomes.refl (t : ScopedAuthorizationToken) : t.Becomes t :=
  ⟨rfl, id⟩

theorem ScopedAuthorizationToken.Becomes.signature {t t' : ScopedAuthorizationToken}
    (h : t.Becomes t') : t'.signature = t.signature :=
  ScopedAuthorizationToken.signature_eq_of_core h.core

theorem ScopedAuthorizationToken.Becomes.trans {t t' t'' : ScopedAuthorizationToken}
    (h : t.Becomes t') (h' : t'.Becomes t'') : t.Becomes t'' :=
  ⟨h'.core.trans h.core, fun claimed => h'.claimed (h.claimed claimed)⟩

namespace Kv

/-- The store has a later state of the token. -/
def HasToken (kv : Kv) (t : ScopedAuthorizationToken) : Prop :=
  ∃ t', kv (.tokens t.tokenId) = some t' ∧ t.Becomes t'

/-- Every token of a store is in the later one. -/
def KeepsTokens (kv kv' : Kv) : Prop :=
  ∀ id t, kv (.tokens id) = some t → ∃ t', kv' (.tokens id) = some t' ∧ t.Becomes t'

theorem KeepsTokens.of_eq {kv kv' : Kv} (same : ∀ id, kv' (.tokens id) = kv (.tokens id)) :
    kv.KeepsTokens kv' :=
  fun id t h => ⟨t, (same id).trans h, .refl t⟩

theorem KeepsTokens.trans {kv kv' kv'' : Kv} (h : kv.KeepsTokens kv') (h' : kv'.KeepsTokens kv'') :
    kv.KeepsTokens kv'' := by
  intro id t found
  obtain ⟨t', found', becomes⟩ := h id t found
  obtain ⟨t'', found'', becomes'⟩ := h' id t' found'
  exact ⟨t'', found'', becomes.trans becomes'⟩

/-- The signatures of the tokens are ASCII. -/
def AsciiSigned (kv : Kv) : Prop :=
  ∀ id t, kv (.tokens id) = some t → isAscii t.signature = true

theorem HasToken.keep {kv kv' : Kv} {t : ScopedAuthorizationToken} (h : kv.HasToken t)
    (keeps : kv.KeepsTokens kv') : kv'.HasToken t := by
  obtain ⟨t', found, becomes⟩ := h
  obtain ⟨t'', found', becomes'⟩ := keeps _ t' found
  exact ⟨t'', found', becomes.trans becomes'⟩

end Kv

section Kept

variable {ι : Type} [DecidableEq ι]

/-- Request `i` has issued the token. -/
def Issued (trace : List (Event Services ServiceError World ι)) (i : ι)
    (t : ScopedAuthorizationToken) : Prop :=
  (⟨Effect.store (.saveToken t), ()⟩ : Handled Services) ∈ history i trace ∧ t.claimed = false

/-- No two requests issue tokens with one identifier, and no token had it at the start. -/
structure FreshTokens (kv : Kv) (trace : List (Event Services ServiceError World ι)) : Prop where
  apart : ∀ i j t t', Issued trace i t → Issued trace j t' → t.tokenId = t'.tokenId → i = j
  new : ∀ i t, Issued trace i t → kv (.tokens t.tokenId) = none

/-- Records are kept under their own keys; a token that was stored at the start, that was read or
that was saved is stored still; and every token was there at the start or was issued since. -/
structure TokensKept (kv₀ kv : Kv) (trace : List (Event Services ServiceError World ι)) :
    Prop where
  keyed : kv.Keyed
  kept : kv₀.KeepsTokens kv
  read : ∀ i id t, (⟨Effect.store (.getToken id), some t⟩ : Handled Services) ∈ history i trace →
    kv.HasToken t
  saved : ∀ i t, (⟨Effect.store (.saveToken t), ()⟩ : Handled Services) ∈ history i trace →
    kv.HasToken t
  made : ∀ id t, kv (.tokens id) = some t →
    kv₀ (.tokens id) ≠ none ∨ ∃ i t', Issued trace i t' ∧ t'.tokenId = id

variable {kv₀ : Kv} {trace more : List (Event Services ServiceError World ι)}

theorem Issued.append {i : ι} {t : ScopedAuthorizationToken} (h : Issued trace i t) :
    Issued (trace ++ more) i t :=
  ⟨history_append trace more ▸ List.mem_append_left _ h.1, h.2⟩

theorem FreshTokens.of_append (h : FreshTokens kv₀ (trace ++ more)) : FreshTokens kv₀ trace :=
  ⟨fun i j t t' ht ht' => h.apart i j t t' ht.append ht'.append,
    fun i t ht => h.new i t ht.append⟩

variable {env : Env} {peers : ι → Peers} {w : World} {i : ι}

/-- A token that is issued has a digest for its signature. -/
theorem Issued.ascii {α : Type} {c : Pool Services ServiceError α World ι}
    {ψ : ι → List (Handled Services) → Except ServiceError α → Prop} {schedule : List ι}
    (programs : c.AllUphold (fun _ => SavesToken) ψ []) {t : ScopedAuthorizationToken}
    (h : Issued (c.trace (handleAll env peers) schedule) i t) : isAscii t.signature = true := by
  obtain ⟨e, mem, -, answered⟩ := mem_history.1 h.1
  obtain ⟨before, after, split⟩ := List.append_of_mem mem
  have saves := Pool.upholds_event programs split
  rw [Event.call_of_answered answered] at saves
  rcases saves with ⟨-, ascii, -⟩ | ⟨_, _, _, -, rfl⟩
  · exact ascii
  · exact absurd h.2 (by simp [TokenService.claimedAtTime])

/-- So the signatures stay ASCII. -/
theorem TokensKept.asciiSigned {kv : Kv} (inv : TokensKept kv₀ kv trace) (start : kv₀.AsciiSigned)
    (issued : ∀ i t, Issued trace i t → isAscii t.signature = true) : kv.AsciiSigned := by
  intro id t found
  rcases inv.made id t found with there | ⟨i, t₀, made, rfl⟩
  · obtain ⟨t₀, found₀⟩ := Option.ne_none_iff_exists'.1 there
    obtain ⟨t', found', becomes⟩ := inv.kept id t₀ found₀
    obtain rfl : t' = t := Option.some.inj (found'.symm.trans found)
    rw [becomes.signature]
    exact start id t₀ found₀
  · obtain ⟨t', found', becomes⟩ := inv.saved i t₀ made.1
    obtain rfl : t' = t := Option.some.inj (found'.symm.trans found)
    rw [becomes.signature]
    exact issued i t₀ made

/-- And so are those that were read. -/
theorem TokensKept.readsAscii {kv : Kv} (inv : TokensKept kv₀ kv trace) (ascii : kv.AsciiSigned) :
    ∀ x ∈ history i trace, ReadsAscii x := by
  rintro _ mem id t rfl
  obtain ⟨t', found, becomes⟩ := inv.read i id t mem
  rw [← becomes.signature]
  exact ascii _ t' found

theorem handle_tokens (env : Env) (peers : Peers) {c : Effect} (hc : ¬ IsSaveToken c) (w : World)
    (id : String) :
    (handle env peers c w).2.kv (.tokens id) = w.kv (.tokens id) := by
  cases c with
  | store c =>
    cases c with
    | saveToken t => exact absurd trivial hc
    | _ => rfl
  | _ => rfl

/-- A token that is saved is new under its identifier, or a later state of the one stored. -/
theorem TokensKept.save_becomes {t : ScopedAuthorizationToken} (inv : TokensKept kv₀ w.kv trace)
    (saves : SavesToken (history i trace) (.store (.saveToken t)))
    (fresh : FreshTokens kv₀ (trace ++ [⟨i, .store (.saveToken t), w, .ok ()⟩])) :
    (∀ old, w.kv (.tokens t.tokenId) = some old → old.Becomes t) ∧
      (t.claimed = false ∨ w.kv (.tokens t.tokenId) ≠ none) := by
  rcases saves with ⟨unclaimed, -, first⟩ | ⟨id, t₀, now, read, rfl⟩
  · refine ⟨fun old found => ?_, .inl unclaimed⟩
    have issued : Issued (trace ++ [⟨i, .store (.saveToken t), w, .ok ()⟩]) i t :=
      ⟨mem_history_snoc.2 (.inr ⟨rfl, rfl⟩), unclaimed⟩
    -- the identifier is neither one of the start nor one of another request's token
    rcases inv.made _ old found with there | ⟨j, t', issued', same⟩
    · exact absurd (fresh.new i t issued) there
    · obtain rfl := fresh.apart i j t t' issued issued'.append same.symm
      exact absurd issued'.1 (first t')
  · obtain ⟨t', found, becomes⟩ := inv.read i id t₀ read
    refine ⟨fun old found' => ?_, .inr (Option.ne_none_iff_exists'.2 ⟨t', found⟩)⟩
    obtain rfl : t' = old := Option.some.inj (found.symm.trans found')
    exact ⟨becomes.core.symm, fun _ => rfl⟩

/-- The save of a token. -/
theorem TokensKept.save {t : ScopedAuthorizationToken} (inv : TokensKept kv₀ w.kv trace)
    (saves : SavesToken (history i trace) (.store (.saveToken t)))
    (fresh : FreshTokens kv₀ (trace ++ [⟨i, .store (.saveToken t), w, .ok ()⟩])) :
    w.kv.KeepsTokens (w.after (.saveToken t)).kv ∧
      TokensKept kv₀ (w.after (.saveToken t)).kv
        (trace ++ [⟨i, .store (.saveToken t), w, .ok ()⟩]) := by
  obtain ⟨becomes, origin⟩ := inv.save_becomes saves fresh
  have stored (id : String) : (w.after (.saveToken t)).kv (.tokens id) =
      if id = t.tokenId then some t else w.kv (.tokens id) := StoreCall.saveToken_tokens ..
  have keeps : w.kv.KeepsTokens (w.after (.saveToken t)).kv := by
    intro id old found
    by_cases hid : id = t.tokenId
    · subst hid
      exact ⟨t, (stored _).trans (if_pos rfl), becomes old found⟩
    · exact ⟨old, ((stored id).trans (if_neg hid)).trans found, .refl old⟩
  refine ⟨keeps, (StoreCall.saveToken t).exec_keyed inv.keyed, inv.kept.trans keeps,
    fun j id t' mem => ?_, fun j t' mem => ?_, fun id t' found => ?_⟩
  · rcases mem_history_snoc.1 mem with mem | ⟨-, eq⟩
    · exact (inv.read j id t' mem).keep keeps
    · cases eq
  · rcases mem_history_snoc.1 mem with mem | ⟨-, eq⟩
    · exact (inv.saved j t' mem).keep keeps
    · cases eq
      exact ⟨t, (stored _).trans (if_pos rfl), .refl t⟩
  · have before (old : ScopedAuthorizationToken) (there : w.kv (.tokens id) = some old) :
        kv₀ (.tokens id) ≠ none ∨ ∃ j t'', Issued (trace ++
          [⟨i, .store (.saveToken t), w, .ok ()⟩]) j t'' ∧ t''.tokenId = id :=
      (inv.made id old there).imp_right fun ⟨j, t'', issued, same⟩ => ⟨j, t'', issued.append, same⟩
    rcases ite_eq_iff.1 ((stored id).symm.trans found) with ⟨rfl, -⟩ | ⟨-, there⟩
    · rcases origin with unclaimed | there
      · exact .inr ⟨i, t, ⟨mem_history_snoc.2 (.inr ⟨rfl, rfl⟩), unclaimed⟩, rfl⟩
      · obtain ⟨old, there⟩ := Option.ne_none_iff_exists'.1 there
        exact before old there
    · exact before t' there

/-- A call that saves no token. -/
theorem TokensKept.other {c : Effect} (inv : TokensKept kv₀ w.kv trace) (hc : ¬ IsSaveToken c) :
    w.kv.KeepsTokens (handleAll env peers i c w).2.kv ∧
      TokensKept kv₀ (handleAll env peers i c w).2.kv
        (trace ++ [⟨i, c, w, (handleAll env peers i c w).1⟩]) := by
  have same := handle_tokens env (peers i) hc w
  have keeps : w.kv.KeepsTokens (handleAll env peers i c w).2.kv := .of_eq same
  refine ⟨keeps, handle_keyed c w inv.keyed, inv.kept.trans keeps,
    fun j id t mem => ?_, fun j t mem => ?_, fun id t found => ?_⟩
  · rcases mem_history_snoc.1 mem with mem | ⟨-, eq⟩
    · exact (inv.read j id t mem).keep keeps
    · have found : w.kv.getToken id = some t :=
        Except.ok.inj (Event.reply_of_answered (h := handleAll env peers) rfl eq)
      exact Kv.HasToken.keep ⟨t, Kv.tokens_of_getToken inv.keyed found, .refl t⟩ keeps
  · rcases mem_history_snoc.1 mem with mem | ⟨-, eq⟩
    · exact (inv.saved j t mem).keep keeps
    · obtain rfl : c = .store (.saveToken t) := Event.call_of_answered eq
      exact absurd trivial hc
  · rw [same] at found
    exact (inv.made id t found).imp_right fun ⟨j, t', issued, same⟩ => ⟨j, t', issued.append, same⟩

/-- Any call of a request. -/
theorem TokensKept.call {c : Effect} (inv : TokensKept kv₀ w.kv trace)
    (saves : SavesToken (history i trace) c)
    (fresh : FreshTokens kv₀ (trace ++ [⟨i, c, w, (handleAll env peers i c w).1⟩])) :
    w.kv.KeepsTokens (handleAll env peers i c w).2.kv ∧
      TokensKept kv₀ (handleAll env peers i c w).2.kv
        (trace ++ [⟨i, c, w, (handleAll env peers i c w).1⟩]) := by
  by_cases hc : IsSaveToken c
  · unfold IsSaveToken at hc
    split at hc
    · exact inv.save saves fresh
    · exact hc.elim
  · exact inv.other hc

/-- Requests that save no other tokens, from a state and a trace on. -/
theorem TokensKept.run {α : Type} {c : Pool Services ServiceError α World ι}
    {ψ : ι → List (Handled Services) → Except ServiceError α → Prop}
    (all : c.AllUphold (fun _ => SavesToken) ψ trace) (inv : TokensKept kv₀ c.state.kv trace)
    (schedule : List ι)
    (fresh : FreshTokens kv₀ (trace ++ c.trace (handleAll env peers) schedule)) :
    c.state.kv.KeepsTokens (c.run (handleAll env peers) schedule).state.kv ∧
      TokensKept kv₀ (c.run (handleAll env peers) schedule).state.kv
        (trace ++ c.trace (handleAll env peers) schedule) := by
  refine (all.induct (h := handleAll env peers) (P := fun s trace => FreshTokens kv₀ trace →
    c.state.kv.KeepsTokens s.kv ∧ TokensKept kv₀ s.kv trace)
    (fun _ => ⟨.of_eq fun _ => rfl, inv⟩) (fun s trace i op saves ih fresh => ?_) schedule).2 fresh
  obtain ⟨before, here⟩ := ih fresh.of_append
  obtain ⟨keeps, there⟩ := here.call saves fresh
  exact ⟨before.trans keeps, there⟩

end Kept

/-! ## Runs -/

/-- The claim reads a token after it was marked claimed, in the run or before it. -/
def ReadSpent {ι : Type} [DecidableEq ι] (kv₀ : Kv)
    (trace : List (Event Services ServiceError World ι)) (i : ι) : Prop :=
  ∃ before e after identifier t, trace = before ++ e :: after ∧ e.thread = i ∧
    e.answered = some ⟨.store (.getToken identifier), some t⟩ ∧
    ((∃ t', kv₀ (.tokens t.tokenId) = some t' ∧ t'.claimed = true) ∨
      ∃ j t', (⟨Effect.store (.saveToken t'), ()⟩ : Handled Services) ∈ history j before ∧
        t'.tokenId = t.tokenId ∧ t'.claimed = true)

/-- The claim reads the clock, to verify the token it has read, when the clock has already shown a
time at which the token is expired. -/
def VerifiedExpired {ι : Type} [DecidableEq ι] (env : Env)
    (trace : List (Event Services ServiceError World ι)) (i : ι) : Prop :=
  ∃ before e after identifier, ∃ t : ScopedAuthorizationToken, ∃ m,
    trace = before ++ e :: after ∧ e.thread = i ∧ e.call = .utcnow ∧
    history i before = [⟨Effect.store (.getToken identifier), some t⟩] ∧
    m ≤ e.state.readings ∧ t.expiresAt < env.clock m

section Runs

variable [Unicode] {ι : Type} [DecidableEq ι] (svc : AuthorizationService) (env : Env)
  (peers : ι → Peers)

/-- Requests of all kinds, about to start. -/
def inFlight (requests : ι → Request) (w : World) : Pool Services ServiceError Answer World ι where
  threads i := (requests i).program svc
  state := w

omit [Unicode] [DecidableEq ι] in
theorem tokensKept_start {w : World} (stored : w.kv.Stored) [DecidableEq ι] :
    TokensKept w.kv w.kv ([] : List (Event Services ServiceError World ι)) where
  keyed := stored.keyed
  kept := .of_eq fun _ => rfl
  read i id t mem := by cases mem
  saved i t mem := by cases mem
  made id t found := .inl (Option.ne_none_iff_exists'.2 ⟨t, found⟩)

omit [Unicode] in
/-- A token that is read after it was marked claimed is claimed. -/
theorem TokensKept.claimed_of_spent {kv₀ : Kv} {before : List (Event Services ServiceError World ι)}
    {e : Event Services ServiceError World ι} (inv : TokensKept kv₀ e.state.kv before)
    (handled : e.reply = (handleAll env peers e.thread e.call e.state).1) {identifier : String}
    {t : ScopedAuthorizationToken}
    (answered : e.answered = some ⟨.store (.getToken identifier), some t⟩)
    (spent : (∃ t', kv₀ (.tokens t.tokenId) = some t' ∧ t'.claimed = true) ∨
      ∃ j t', (⟨Effect.store (.saveToken t'), ()⟩ : Handled Services) ∈ history j before ∧
        t'.tokenId = t.tokenId ∧ t'.claimed = true) : t.claimed = true := by
  have found : e.state.kv.getToken identifier = some t :=
    Except.ok.inj (Event.reply_of_answered (h := handleAll env peers) handled answered)
  have stored := Kv.tokens_of_getToken inv.keyed found
  have there : ∃ t', e.state.kv (.tokens t.tokenId) = some t' ∧ t'.claimed = true := by
    rcases spent with ⟨t', found, claimed⟩ | ⟨j, t', saved, same, claimed⟩
    · obtain ⟨t'', found', becomes⟩ := inv.kept _ t' found
      exact ⟨t'', found', becomes.claimed claimed⟩
    · obtain ⟨t'', found', becomes⟩ := inv.saved j t' saved
      exact ⟨t'', same ▸ found', becomes.claimed claimed⟩
  obtain ⟨t', found, claimed⟩ := there
  obtain rfl : t = t' := Option.some.inj (stored.symm.trans found)
  exact claimed

omit [Unicode] in
/-- A claim that succeeds has verified the token before it expired. -/
theorem ClaimsRead.live {trace : List (Event Services ServiceError World ι)} {i : ι}
    {identifier : String} {result : ClaimResult}
    (reads : ClaimsRead identifier (history i trace) (.ok result)) (claimed : result.claimed = true)
    {before after : List (Event Services ServiceError World ι)}
    {e : Event Services ServiceError World ι} (split : trace = before ++ e :: after)
    (mine : e.thread = i) (call : e.call = .utcnow)
    (handled : e.reply = (handleAll env peers e.thread e.call e.state).1) {identifier' : String}
    {t : ScopedAuthorizationToken}
    (past : history i before = [⟨Effect.store (.getToken identifier'), some t⟩]) :
    ¬ t.expiresAt < env.clock e.state.readings := by
  obtain ⟨t', now, now', whole, -, live⟩ := reads claimed
  obtain ⟨j, c, s, reply⟩ := e
  dsimp only at mine call handled ⊢
  subst mine call handled
  have verified : history j (before ++ [⟨j, Effect.utcnow, s, .ok (env.clock s.readings)⟩]) =
      history j before ++ [⟨Effect.utcnow, env.clock s.readings⟩] := history_snoc_ok rfl rfl
  rw [split, List.append_cons, history_append] at whole
  have whole : history j before ++ [⟨Effect.utcnow, env.clock s.readings⟩] ++ history j after = _ :=
    (congrArg (· ++ history j after) verified).symm.trans whole
  rw [past] at whole
  generalize history j after = rest at whole
  cases whole
  exact live

/-- In every interleaving of requests of all kinds, as long as the identifiers of the tokens issued
are fresh and the clock does not go back, a stored token stays for what it is, and claimed once it
is; and a claim that reads a token after it was marked claimed, or verifies one after it expired,
does not succeed.  Every claim ends with a result when it has had four turns, if the signatures that
were there at the start are ASCII, as those of the service are. -/
theorem spent_tokens_stay {w : World} (stored : w.kv.Stored) (forward : Monotone env.clock)
    (requests : ι → Request) (schedule : List ι)
    (fresh : FreshTokens w.kv ((inFlight svc requests w).trace (handleAll env peers) schedule)) :
    let run := fun schedule => (inFlight svc requests w).run (handleAll env peers) schedule
    let trace := (inFlight svc requests w).trace (handleAll env peers) schedule
    (∀ first next last, schedule = first ++ next ++ last →
      (run first).state.kv.KeepsTokens (run (first ++ next)).state.kv) ∧
    ∀ i identifier expected, requests i = .claim identifier expected →
      (ReadSpent w.kv trace i ∨ VerifiedExpired env trace i → ∀ result,
        (run schedule).threads i = .ret (.claimed result) → result.claimed = false) ∧
      (w.kv.AsciiSigned → 4 ≤ schedule.count i →
        ∃ result, (run schedule).threads i = .ret (.claimed result)) := by
  intro run trace
  have programs : (inFlight svc requests w).AllUphold (fun _ => SavesToken)
      (fun i => AnswersClaim (requests i)) [] := fun i => (requests i).program_savesToken svc
  have kept (first last : List ι) (eq : schedule = first ++ last) :=
    ((tokensKept_start stored).run programs first (FreshTokens.of_append
      (by rw [eq, Pool.trace_append] at fresh; exact fresh))).2
  have all (schedule : List ι) := Pool.upholds_run (h := handleAll env peers) programs schedule
  refine ⟨fun first next last eq => ?_,
    fun i identifier expected claims => ⟨?_, fun ascii turns => ?_⟩⟩
  · subst eq
    rw [Pool.trace_append, Pool.trace_append] at fresh
    have here := kept first (next ++ last) (List.append_assoc ..)
    have keeps := (here.run (all first) next fresh.of_append).1
    rwa [← Pool.run_append] at keeps
  · intro late result returned
    obtain ⟨_, ⟨⟩, reads⟩ := (all schedule).of_ret returned identifier expected claims
    by_contra claimed
    have claimed := Bool.of_not_eq_false claimed
    rcases late with ⟨before, e, after, identifier', t, split, mine, answered, spent⟩ |
      ⟨before, e, after, identifier', t, m, split, mine, call, past, passed, expired⟩
    · obtain ⟨first, last, eq, rfl, event, -⟩ := Pool.trace_split split
      obtain ⟨-, state, handled⟩ := Pool.event_eq_some event
      have here := kept first (e.thread :: last) eq
      rw [List.nil_append, ← state] at here
      have mem : ⟨Effect.store (.getToken identifier'), some t⟩ ∈ history i trace :=
        mem_history.2 ⟨e, by rw [split]; simp, mine, answered⟩
      obtain ⟨t', now, now', whole, unclaimed, -⟩ := reads claimed
      rw [whole] at mem
      obtain ⟨-, rfl⟩ : identifier' = identifier ∧ t = t' := by simpa using mem
      simp [here.claimed_of_spent env peers handled answered spent] at unclaimed
    · obtain ⟨_, _, -, -, event, -⟩ := Pool.trace_split split
      refine reads.live env peers claimed split mine call (Pool.event_eq_some event).2.2 past ?_
      exact expired.trans_le (forward passed)
  · have here := kept schedule [] (List.append_nil _).symm
    have reads := here.readsAscii (i := i) (here.asciiSigned ascii fun _ _ => Issued.ascii programs)
    obtain ⟨answer, returned⟩ := Pool.ret_of_within (c := inFlight svc requests w)
      (fun i => handle_ok env (peers i)) (i := i) (n := 4)
      (by simpa [inFlight, claims] using svc.claim_within identifier expected) reads turns
    obtain ⟨result, rfl, -⟩ := (all schedule).of_ret returned identifier expected claims
    exact ⟨result, returned⟩

end Runs

/-- A release that is approved, and claims of its token. -/
def releaseAndClaims : ℕ → Request
  | 0 => .authorize false Sample.general
  | _ => .claim "tok_000000000001" {}

/-- The release, and then two claims. -/
def claimedTwiceOver : List ℕ := List.replicate 20 0 ++ List.replicate 4 1 ++ List.replicate 4 2

/-- The requests, run by a schedule. -/
def releaseAndClaimsRun (schedule : List ℕ) : Pool Services ServiceError Answer World ℕ :=
  (@inFlight Sample.unicode ℕ Sample.service releaseAndClaims Sample.world).run
    (handleAll Sample.env fun _ => Sample.peers) schedule

/-- The calls of that run. -/
def releaseAndClaimsTrace (schedule : List ℕ) : List (Event Services ServiceError World ℕ) :=
  (@inFlight Sample.unicode ℕ Sample.service releaseAndClaims Sample.world).trace
    (handleAll Sample.env fun _ => Sample.peers) schedule

/-- The identifiers of the tokens issued, each with the request that issues it. -/
def issuedIds {ι : Type} (trace : List (Event Services ServiceError World ι)) : List (ι × String) :=
  trace.filterMap fun e =>
    match e.call with
    | .store (.saveToken t) => if t.claimed = false then some (e.thread, t.tokenId) else none
    | _ => none

theorem Issued.mem_issuedIds {ι : Type} [DecidableEq ι]
    {trace : List (Event Services ServiceError World ι)} {i : ι} {t : ScopedAuthorizationToken}
    (h : Issued trace i t) : (i, t.tokenId) ∈ issuedIds trace := by
  obtain ⟨e, mem, mine, answered⟩ := mem_history.1 h.1
  refine List.mem_filterMap.2 ⟨e, mem, ?_⟩
  rw [Event.call_of_answered answered, mine]
  exact if_pos h.2

theorem claimedTwiceOver_fresh :
    FreshTokens Sample.world.kv (releaseAndClaimsTrace claimedTwiceOver) := by
  have issued : issuedIds (releaseAndClaimsTrace claimedTwiceOver) = [(0, "tok_000000000001")] := by
    decide +kernel
  have only (i : ℕ) (t : ScopedAuthorizationToken)
      (h : Issued (releaseAndClaimsTrace claimedTwiceOver) i t) :
      i = 0 ∧ t.tokenId = "tok_000000000001" := by
    simpa [issued] using h.mem_issuedIds
  refine ⟨fun i j t t' h h' _ => (only i t h).1.trans (only j t' h').1.symm, fun i t h => ?_⟩
  rw [(only i t h).2]
  decide +kernel

theorem spent_tokens_stay_release :
    let run := releaseAndClaimsRun
    let trace := releaseAndClaimsTrace claimedTwiceOver
    (∀ first next last, claimedTwiceOver = first ++ next ++ last →
      (run first).state.kv.KeepsTokens (run (first ++ next)).state.kv) ∧
    ∀ i identifier expected, releaseAndClaims i = .claim identifier expected →
      (ReadSpent Sample.world.kv trace i ∨ VerifiedExpired Sample.env trace i → ∀ result,
        (run claimedTwiceOver).threads i = .ret (.claimed result) → result.claimed = false) ∧
      (Sample.world.kv.AsciiSigned → 4 ≤ claimedTwiceOver.count i →
        ∃ result, (run claimedTwiceOver).threads i = .ret (.claimed result)) := by
  have fresh := claimedTwiceOver_fresh
  unfold releaseAndClaimsRun releaseAndClaimsTrace at *
  exact @spent_tokens_stay Sample.unicode ℕ _ Sample.service Sample.env (fun _ => Sample.peers) _
    Sample.world_stored (fun _ _ _ => Nat.le_refl _) releaseAndClaims claimedTwiceOver fresh

end ZoneGate
