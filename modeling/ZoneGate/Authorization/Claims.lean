import ZoneGate.Authorization.Calls
import ZoneGate.Library.CheckThenAct

/-!
# Claims that overlap

A claim reads the token in one store call and writes it back in another.  Claims of one token that
run interleaved succeed one at most exactly when no claim is written between the read and the write
of another.
-/

namespace ZoneGate

open Py Effects

/-- A token is looked up. -/
def IsGetToken : Effect → Prop
  | .store (.getToken _) => True
  | _ => False

/-- A token is saved. -/
def IsSaveToken : Effect → Prop
  | .store (.saveToken _) => True
  | _ => False

/-- A new version of a token is found wherever the token is found. -/
theorem Kv.getToken_saveToken {kv : Kv} (keyed : kv.Keyed) {identifier : String}
    {token token' : ScopedAuthorizationToken} (h : kv.getToken identifier = some token)
    (sameId : token'.tokenId = token.tokenId) :
    Kv.getToken ((StoreCall.saveToken token').exec kv) identifier = some token' := by
  rw [Kv.getToken, StoreCall.saveToken_tokens, StoreCall.saveToken_tokenSigIndex]
  rcases Option.or_eq_some_iff.1 h with direct | ⟨absent, indexed⟩
  · rw [if_pos ((keyed (.tokens identifier) token direct).symm.trans sameId.symm)]
    rfl
  obtain ⟨key, hkey, found⟩ := Option.bind_eq_some_iff.1 indexed
  have named : key = token'.tokenId := (keyed (.tokens key) token found).symm.trans sameId.symm
  have differs : identifier ≠ token'.tokenId := by
    rintro rfl
    rw [← named, found] at absent
    cases absent
  rw [if_neg differs, absent, Option.none_or]
  split_ifs
  · rw [Option.bind_some, StoreCall.saveToken_tokens, if_pos rfl]
  · rw [hkey, Option.bind_some, StoreCall.saveToken_tokens, if_pos named]

section Claims

variable {ι : Type} {svc : AuthorizationService} {env : Env} {peers : ι → Peers}
  {identifiers : ι → String}

/-- All identifiers find the same token, and it is claimed if a claim was written. -/
structure OneToken (identifiers : ι → String) (token : ScopedAuthorizationToken)
    (s : Logged World ι Effect) (current : ScopedAuthorizationToken) : Prop where
  keyed : s.state.kv.Keyed
  found : ∀ i, s.state.kv.getToken (identifiers i) = some current
  tokenId : current.tokenId = token.tokenId
  claimed : (∃ e ∈ s.log, IsSaveToken e.2) → current.claimed = true

/-- The invariant of overlapping claims: every save came after a read that was before all saves. -/
def ClaimsInv (identifiers : ι → String) (token : ScopedAuthorizationToken)
    (s : Logged World ι Effect) : Prop :=
  Guarded IsGetToken IsSaveToken s.log ∧ ∃ current, OneToken identifiers token s current

/-- A request still on its way has not saved. -/
def claimContract (identifiers : ι → String) (token : ScopedAuthorizationToken) (i : ι) :
    Contract (Logged World ι Effect) :=
  .logging (ClaimsInv identifiers token) (fun s => ¬ Wrote IsSaveToken i s.log) i

/-- A request claimed the token exactly if it saved it. -/
def ClaimPost (i : ι) (r : Except ServiceError ClaimResult) (s : Logged World ι Effect) : Prop :=
  (∃ result, r = .ok result ∧ result.claimed = true) ↔ Wrote IsSaveToken i s.log

variable {token : ScopedAuthorizationToken} {i : ι}

theorem OneToken.call {s : Logged World ι Effect} {current : ScopedAuthorizationToken}
    (h : OneToken identifiers token s current) {e : Effect} (he : ¬ IsSaveToken e) {w : World}
    (same : w.kv = s.state.kv) : OneToken identifiers token ⟨w, s.log ++ [(i, e)]⟩ current := by
  refine ⟨same ▸ h.keyed, same ▸ h.found, h.tokenId, fun ⟨e', mem, saved⟩ => ?_⟩
  rcases List.mem_append.1 mem with mem | mem
  · exact h.claimed ⟨e', mem, saved⟩
  · rw [List.mem_singleton.1 mem] at saved
    exact absurd saved he

/-- A call that saves no token. -/
theorem claim_call {e : Effect} (he : ¬ IsSaveToken e) {next : e.Reply → Service ClaimResult}
    {s : Logged World ι Effect} (pending : ¬ Wrote IsSaveToken i s.log) {r : World → e.Reply}
    {after : World → World} (answers : ∀ w, handle env (peers i) e w = (.ok (r w), after w))
    (quiet : ∀ w, (after w).kv = w.kv)
    (rest : ∀ s', (claimContract identifiers token i).rely s s' →
      ClaimsInv identifiers token s' →
      Safe (handleLogged env peers i) (claimContract identifiers token i) (ClaimPost i)
        (next (r s'.state)) ⟨after s'.state, s'.log ++ [(i, e)]⟩) :
    Safe (handleLogged env peers i) (claimContract identifiers token i) (ClaimPost i)
      (.call e next) s := by
  refine safe_call_logging fun s' rely inv => ⟨not_wrote_rely rely pending, r s'.state,
    after s'.state, answers s'.state, ?_, rest s' rely inv⟩
  obtain ⟨guarded, current, one⟩ := inv
  exact ⟨guarded.snoc fun saved => absurd saved he, current, one.call he (quiet _)⟩

/-- The save of a request that has read before anything was saved, and the answer after it. -/
theorem claim_save {s : Logged World ι Effect} {updated : ScopedAuthorizationToken}
    (pending : ¬ Wrote IsSaveToken i s.log) (first : ReadFirst IsGetToken IsSaveToken i s.log)
    (sameId : updated.tokenId = token.tokenId) (claimed : updated.claimed = true)
    {result : ClaimResult} (success : result.claimed = true) :
    Safe (handleLogged env peers i) (claimContract identifiers token i) (ClaimPost i)
      (.call (Effect.store (.saveToken updated)) fun _ => .ret result) s := by
  refine safe_call_logging fun s' rely ⟨guarded, current, one⟩ =>
    ⟨not_wrote_rely rely pending, (), s'.state.after (.saveToken updated), rfl,
      ⟨guarded.snoc fun _ => first.rely rely, updated, ?_⟩, ?_⟩
  · exact ⟨(StoreCall.saveToken updated).exec_keyed one.keyed,
      fun j => Kv.getToken_saveToken one.keyed (one.found j) (sameId.trans one.tokenId.symm),
      sameId, fun _ => claimed⟩
  · rintro s'' ⟨more, hlog, -⟩ -
    refine iff_of_true ⟨result, rfl, success⟩ ?_
    rw [hlog, wrote_append, wrote_append, wrote_singleton]
    exact .inl (.inr ⟨rfl, trivial⟩)

theorem claimToken_safe (expected : Expected) {s : Logged World ι Effect}
    (pending : ¬ Wrote IsSaveToken i s.log) :
    Safe (handleLogged env peers i) (claimContract identifiers token i) (ClaimPost i)
      (svc.claimToken (identifiers i) expected) s := by
  have readsOnly : ¬ IsSaveToken (.store (.getToken (identifiers i))) := not_false
  have clock : ¬ IsSaveToken .utcnow := not_false
  rw [AuthorizationService.claimToken]
  simp only [Prog.perform_eq, Prog.call_bind, Prog.ret_bind]
  refine claim_call readsOnly pending (fun _ => rfl) (fun _ => rfl) fun s₁ rely₁ inv₁ => ?_
  obtain ⟨-, current, one⟩ := inv₁
  have pending₁ := not_wrote_snoc (not_wrote_rely rely₁ pending) readsOnly
  -- an unclaimed token was read before anything was saved
  have first (unclaimed : current.claimed = false) : ReadFirst IsGetToken IsSaveToken i
      (s₁.log ++ [(i, .store (.getToken (identifiers i)))]) :=
    readFirst_snoc trivial fun e he saved => by simp [one.claimed ⟨e, he, saved⟩] at unclaimed
  rw [show (StoreCall.getToken (identifiers i)).answer s₁.state.kv = some current from one.found i]
  simp only [TokenService.claimToken, Prog.perform_eq, Prog.call_bind, Prog.ret_bind]
  refine claim_call clock pending₁ (fun _ => rfl) (fun _ => rfl) fun s₂ rely₂ _ => ?_
  have pending₂ := not_wrote_snoc (not_wrote_rely rely₂ pending₁) clock
  rcases hverify : TokenService.verifyToken svc.sign (env.clock s₂.state.readings) current expected
    with message | ⟨_ | _, answer⟩
  · exact fun s' rely _ => iff_of_false (by simp) (not_wrote_rely rely pending₂)
  · exact fun s' rely _ => iff_of_false (by simp) (not_wrote_rely rely pending₂)
  simp only [Prog.pure_eq, Prog.call_bind, Prog.ret_bind]
  refine claim_call clock pending₂ (fun _ => rfl) (fun _ => rfl) fun s₃ rely₃ _ => ?_
  obtain ⟨unclaimed, -⟩ := TokenService.of_verifyToken svc.sign hverify
  have first₂ := ((first unclaimed).rely rely₂).append [(i, .utcnow)]
  refine claim_save (not_wrote_snoc (not_wrote_rely rely₃ pending₂) clock)
    ((first₂.rely rely₃).append _) ?_ ?_ ?_
  · exact one.tokenId
  · rfl
  · rfl

end Claims

/-! ## Runs -/

section Runs

variable {ι : Type} [DecidableEq ι] (svc : AuthorizationService) (env : Env) (peers : ι → Peers)

/-- Claims, each by an identifier and with its expectations, about to start. -/
def claims (identifiers : ι → String) (expected : ι → Expected) (w : World) :
    Requests ClaimResult ι where
  threads i := svc.claimToken (identifiers i) (expected i)
  state := ⟨w, []⟩

/-- The request has returned and claimed the token. -/
def HasClaimed (c : Requests ClaimResult ι) (i : ι) : Prop :=
  ∃ result, c.threads i = .ret result ∧ result.claimed = true

/-- In every interleaving, a request has claimed the token exactly if it has saved it, and every
save came after a read that was before all saves. -/
theorem hasClaimed_iff {w : World} (stored : w.kv.Stored) {token : ScopedAuthorizationToken}
    {identifiers : ι → String} (found : ∀ i, w.kv.getToken (identifiers i) = some token)
    (expected : ι → Expected) (schedule : List ι) :
    let c := (claims svc identifiers expected w).run (handleLogged env peers) schedule
    Guarded IsGetToken IsSaveToken c.state.log ∧
      ∀ i, HasClaimed c i ↔ Wrote IsSaveToken i c.state.log := by
  intro c
  have noSave (i : ι) : ¬ Wrote IsSaveToken i ([] : List (ι × Effect)) := by simp [Wrote]
  have start : ClaimsInv identifiers token ⟨w, []⟩ :=
    ⟨guarded_nil, token, stored.keyed, found, rfl, by simp⟩
  have ready : Pool.AllSafe (handleLogged env peers) (claimContract identifiers token) ClaimPost
      (claims svc identifiers expected w) :=
    fun i => ⟨start, claimToken_safe (expected i) (noSave i)⟩
  have safe : Pool.AllSafe (handleLogged env peers) (claimContract identifiers token) ClaimPost c :=
    Pool.safe_run_logging ready schedule
  refine ⟨?_, fun i => ⟨?_, fun wrote => ?_⟩⟩
  · cases schedule with
    | nil => exact guarded_nil
    | cons i _ => exact (safe i).1.1
  · rintro ⟨result, returned, claimed⟩
    exact (safe.of_ret returned).1 ⟨result, rfl, claimed⟩
  · cases hi : c.threads i with
    | ret result =>
      obtain ⟨_, ⟨⟩, claimed⟩ := (safe.of_ret hi).2 wrote
      exact ⟨result, hi, claimed⟩
    | raise e =>
      obtain ⟨_, ⟨⟩, -⟩ := (safe.of_raise hi).2 wrote
    | call op next => exact absurd wrote (safe.of_call hi)

/-- At most one of the overlapping claims of a token succeeds, exactly when no claim is saved
between the read and the save of another. -/
theorem claimed_once_iff {w : World} (stored : w.kv.Stored) {token : ScopedAuthorizationToken}
    {identifiers : ι → String} (found : ∀ i, w.kv.getToken (identifiers i) = some token)
    (expected : ι → Expected) (schedule : List ι) :
    let c := (claims svc identifiers expected w).run (handleLogged env peers) schedule
    (∀ i j, HasClaimed c i → HasClaimed c j → i = j) ↔
      ¬ Overtaken IsGetToken IsSaveToken c.state.log := by
  intro c
  obtain ⟨guarded, claimed⟩ := hasClaimed_iff svc env peers stored found expected schedule
  rw [← exists_two_writers_iff guarded]
  constructor
  · rintro once ⟨i, j, hij, hi, hj⟩
    exact hij (once i j ((claimed i).2 hi) ((claimed j).2 hj))
  · intro none i j hi hj
    by_contra hij
    exact none ⟨i, j, hij, (claimed i).1 hi, (claimed j).1 hj⟩

end Runs

/-- Two claims of the token of an approval, one by its id and one by its signature. -/
def twoClaims (byId : Bool) : String :=
  if byId then "tok_000000000001"
  else ((Sample.approved.kv (.tokens "tok_000000000001")).map (·.signature)).getD ""

/-- The two claims, run to their ends. -/
def twoClaimsRun (schedule : List Bool) : Requests ClaimResult Bool :=
  (claims Sample.service twoClaims (fun _ => {}) Sample.approved).run
    (handleLogged Sample.env fun _ => Sample.peers) schedule

theorem twoClaims_found : ∃ token, ∀ byId, Sample.approved.kv.getToken (twoClaims byId) =
    some token := by
  have found : (Sample.approved.kv.getToken "tok_000000000001").isSome = true := by decide +kernel
  have same : ∀ byId, Sample.approved.kv.getToken (twoClaims byId) =
      Sample.approved.kv.getToken "tok_000000000001" := by decide +kernel
  obtain ⟨token, h⟩ := Option.isSome_iff_exists.1 found
  exact ⟨token, fun byId => (same byId).trans h⟩

theorem claimed_once_iff_two :
    let c := twoClaimsRun [true, true, true, true, false, false]
    (∀ i j, HasClaimed c i → HasClaimed c j → i = j) ↔
      ¬ Overtaken IsGetToken IsSaveToken c.state.log := by
  obtain ⟨token, found⟩ := twoClaims_found
  unfold twoClaimsRun
  exact claimed_once_iff Sample.service Sample.env (fun _ => Sample.peers) Sample.approved_stored
    found (fun _ => {}) [true, true, true, true, false, false]

/-- Both read the token before either saves it, and both succeed. -/
theorem claimed_twice :
    let c := twoClaimsRun [true, false, true, false, true, false, true, false]
    (∃ token, ∀ byId, Sample.approved.kv.getToken (twoClaims byId) = some token) ∧
      HasClaimed c true ∧ HasClaimed c false := by
  have claims (byId : Bool) : HasClaimed
      (twoClaimsRun [true, false, true, false, true, false, true, false]) byId := by
    have succeeded : ((twoClaimsRun [true, false, true, false, true, false, true, false]).threads
        byId).returned.map ClaimResult.claimed = some true := by
      revert byId
      decide +kernel
    obtain ⟨result, returned, claimed⟩ := Option.map_eq_some_iff.1 succeeded
    exact ⟨result, Prog.eq_ret_of_returned returned, claimed⟩
  exact ⟨twoClaims_found, claims true, claims false⟩

end ZoneGate
