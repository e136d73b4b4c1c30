import ZoneGate.Authorization.Verification

/-!
# The claim of a token

The endpoint that claims a token for physical execution.  A claim should succeed exactly when the
token is genuine, live and unclaimed and meets every expectation the request carries; the service
leaves out the expectations that are empty strings.
-/

namespace ZoneGate

open Py Effects

structure TokenClaimRequest where
  tokenId : String
  action : Option String := none
  resourceId : Option String := none
  zone : Option String := none
  actorId : Option String := none
deriving DecidableEq, Repr

structure TokenClaimResponse where
  claimed : Bool
  status : String
  message : String
  tokenId : String
  claimedAt : Option DateTime := none
deriving DecidableEq, Repr

/-- The expectations of the request. -/
def TokenClaimRequest.expected (data : TokenClaimRequest) : Expected :=
  { action := data.action, resourceId := data.resourceId, zone := data.zone,
    actorId := data.actorId }

/-- Every expectation that is present equals the field of the token. -/
structure Met (expected : Expected) (t : ScopedAuthorizationToken) : Prop where
  action : ∀ e, expected.action = some e → t.action = e
  resourceId : ∀ e, expected.resourceId = some e → t.resourceId = e
  zone : ∀ e, expected.zone = some e → t.zone = e
  actorId : ∀ e, expected.actorId = some e → t.actorId = e

/-- An expectation that is an empty string is about a field that is empty. -/
structure BlanksMet (expected : Expected) (t : ScopedAuthorizationToken) : Prop where
  action : expected.action = some "" → t.action = ""
  resourceId : expected.resourceId = some "" → t.resourceId = ""
  zone : expected.zone = some "" → t.zone = ""
  actorId : expected.actorId = some "" → t.actorId = ""

/-- The token is signed, and neither expired nor claimed. -/
structure Claimable (sign : Hmac) (now : DateTime) (t : ScopedAuthorizationToken) : Prop where
  signed : t.signature = sign (TokenService.message t)
  live : now ≤ t.expiresAt
  unclaimed : t.claimed = false

theorem met_iff {expected : Expected} {t : ScopedAuthorizationToken} :
    Met expected t ↔ MetWhereGiven expected t ∧ BlanksMet expected t := by
  have field {e : Option String} {actual : String} (given : ∀ x, e = some x → x ≠ "" → actual = x)
      (blank : e = some "" → actual = "") (x : String) (hx : e = some x) : actual = x := by
    by_cases empty : x = ""
    · rw [empty] at hx ⊢
      exact blank hx
    · exact given x hx empty
  constructor
  · intro h
    exact ⟨⟨fun e he _ => h.action e he, fun e he _ => h.resourceId e he, fun e he _ => h.zone e he,
      fun e he _ => h.actorId e he⟩, ⟨h.action _, h.resourceId _, h.zone _, h.actorId _⟩⟩
  · rintro ⟨given, blank⟩
    exact ⟨field given.action blank.action, field given.resourceId blank.resourceId,
      field given.zone blank.zone, field given.actorId blank.actorId⟩

namespace TokensController

def claimToken (svc : AuthorizationService) (data : TokenClaimRequest) :
    Service TokenClaimResponse := do
  let result ← svc.claimToken data.tokenId data.expected
  return {
    claimed := result.claimed
    status := result.status
    message := result.message
    tokenId := data.tokenId
    claimedAt := result.token.bind ScopedAuthorizationToken.claimedAt }

variable {svc : AuthorizationService} {env : Env} {peers : Peers} {w : World}
  {data : TokenClaimRequest} {t : ScopedAuthorizationToken}

/-- The endpoint answers that the token is claimed. -/
def Claims (result : Except ServiceError TokenClaimResponse) : Prop :=
  ∃ response, result = .ok response ∧ response.claimed = true

theorem claims_of_map {result : Except ServiceError TokenClaimResponse}
    (h : result.toOption.map TokenClaimResponse.claimed = some true) : Claims result := by
  rcases result with e | response
  · cases h
  · exact ⟨response, rfl, Option.some.inj h⟩

variable (svc env peers) in
/-- What the claim of a token on record does: it succeeds when the token is claimable and meets the
expectations that are not empty, and then the token is saved as claimed.  It raises if the signature
on record is not ASCII. -/
theorem claimToken_cases (found : w.kv.getToken data.tokenId = some t) :
    let run := (claimToken svc data).run (handle env peers) w
    (isAscii t.signature = true → ∃ response, run.1 = .ok response) ∧
      ((Claims run.1 ∧ Claimable svc.sign (env.clock w.readings) t ∧
          MetWhereGiven data.expected t ∧ ∃ claimedAt, run.2.kv =
            (StoreCall.saveToken (TokenService.claimedAtTime t claimedAt)).exec w.kv) ∨
        (¬ Claims run.1 ∧ run.2.kv = w.kv ∧
          ¬ (Claimable svc.sign (env.clock w.readings) t ∧ MetWhereGiven data.expected t))) := by
  intro run
  have ran : run = (claimToken svc data).run (handle env peers) w := rfl
  rw [claimToken, Prog.run_bind, AuthorizationService.claimToken_run, found] at ran
  dsimp only at ran
  by_cases ascii : isAscii t.signature = true
  · obtain ⟨⟨valid, status, message⟩, verified, -, valid_iff⟩ :=
      TokenService.verifyToken_ascii svc.sign (env.clock w.readings) data.expected ascii
    rw [verified] at ran
    cases valid with
    | false =>
      rw [ran]
      refine ⟨fun _ => ⟨_, rfl⟩, .inr ⟨?_, rfl, fun h => ?_⟩⟩
      · rintro ⟨_, ⟨⟩, ⟨⟩⟩
      · simpa using valid_iff.2 ⟨h.1.signed, h.1.live, h.1.unclaimed, h.2⟩
    | true =>
      obtain ⟨signed, live, unclaimed, met⟩ := valid_iff.1 rfl
      rw [ran]
      exact ⟨fun _ => ⟨_, rfl⟩, .inl ⟨⟨_, rfl, rfl⟩, ⟨signed, live, unclaimed⟩, met, _, rfl⟩⟩
  · rcases verified : TokenService.verifyToken svc.sign (env.clock w.readings) t data.expected with
      message | answer
    swap
    · exact absurd (TokenService.ascii_of_verifyToken svc.sign verified) ascii
    rw [verified] at ran
    rw [ran]
    refine ⟨fun h => absurd h ascii, .inr ⟨?_, rfl, fun h => ascii ?_⟩⟩
    · rintro ⟨_, ⟨⟩, -⟩
    · rw [h.1.signed]
      exact svc.sign.ascii _

variable (svc env w data t) in
/-- The claim succeeds exactly for a claimable token that meets every expectation of the request; on
success the record differs in `claimed` and `claimed_at` alone, and when the claim does not succeed
nothing changes.  It is answered unless the signature on record is not ASCII. -/
def ClaimsRight (peers : Peers) : Prop :=
  let run := (claimToken svc data).run (handle env peers) w
  (Claims run.1 ↔ Claimable svc.sign (env.clock w.readings) t ∧ Met data.expected t) ∧
    (Claims run.1 → ∃ claimedAt,
      run.2.kv (.tokens t.tokenId) = (w.kv (.tokens t.tokenId)).map
        (fun t => { t with claimed := true, claimedAt := some claimedAt }) ∧
      ∀ c, c ≠ .tokens t.tokenId → c ≠ .tokenSigIndex t.signature → run.2.kv c = w.kv c) ∧
    (¬ Claims run.1 → run.2.kv = w.kv) ∧
    (isAscii t.signature = true → ∃ response, run.1 = .ok response)

/-- A claim does right unless the token is claimable and meets all expectations but one that is an
empty string. -/
theorem claim_right_iff (svc : AuthorizationService) (env : Env) (peers : Peers) (w : World)
    (stored : w.kv.Stored) (data : TokenClaimRequest) (t : ScopedAuthorizationToken)
    (found : w.kv.getToken data.tokenId = some t) :
    ClaimsRight svc env w data t peers ↔
      (Claimable svc.sign (env.clock w.readings) t → MetWhereGiven data.expected t →
        BlanksMet data.expected t) := by
  have onRecord := Kv.tokens_of_getToken stored.keyed found
  obtain ⟨answered, cases⟩ := claimToken_cases svc env peers found
  constructor
  · rintro ⟨claims, -⟩ claimable given
    rcases cases with ⟨claimed, -⟩ | ⟨-, -, not⟩
    · exact (met_iff.1 (claims.1 claimed).2).2
    · exact absurd ⟨claimable, given⟩ not
  · intro blanks
    rcases cases with ⟨claimed, claimable, given, claimedAt, kv⟩ | ⟨rejected, kv, not⟩
    · refine ⟨iff_of_true claimed ⟨claimable, met_iff.2 ⟨given, blanks claimable given⟩⟩,
        fun _ => ⟨claimedAt, ?_, fun c hc hc' => ?_⟩, fun h => absurd claimed h, answered⟩
      · rw [kv, StoreCall.saveToken_tokens, onRecord]
        exact if_pos rfl
      · rw [kv]
        exact Cells.Store.writes_of_ne _ _ (by
          simp [StoreCall.writes, tokenWrites, TokenService.claimedAtTime, hc, hc'])
    · exact ⟨iff_of_false rejected fun h => not ⟨h.1, (met_iff.1 h.2).1⟩,
        fun h => absurd h rejected, fun _ => kv, answered⟩

end TokensController

/-- A claim of the token of an approval for the resource with the empty name. -/
def Sample.blankClaim : TokenClaimRequest :=
  { tokenId := "tok_000000000001", resourceId := some "" }

theorem Sample.blankClaim_found : ∃ t, Sample.approved.kv.getToken "tok_000000000001" = some t := by
  have found : (Sample.approved.kv.getToken "tok_000000000001").isSome = true := by decide +kernel
  exact Option.isSome_iff_exists.1 found

theorem claim_right_iff_blank : ∃ t,
    Sample.approved.kv.getToken "tok_000000000001" = some t ∧
      (TokensController.ClaimsRight Sample.service Sample.env Sample.approved Sample.blankClaim t
          Sample.peers ↔
        (Claimable Sample.service.sign (Sample.env.clock Sample.approved.readings) t →
          MetWhereGiven Sample.blankClaim.expected t → BlanksMet Sample.blankClaim.expected t)) := by
  obtain ⟨t, found⟩ := Sample.blankClaim_found
  exact ⟨t, found, TokensController.claim_right_iff Sample.service Sample.env Sample.peers
    Sample.approved Sample.approved_stored Sample.blankClaim t found⟩

/-- The token is scoped to the resource `r`, and the claim for another one succeeds. -/
theorem blank_claim_succeeds : ∃ t,
    Sample.approved.kv.getToken "tok_000000000001" = some t ∧ t.resourceId = "r" ∧
      ¬ TokensController.ClaimsRight Sample.service Sample.env Sample.approved Sample.blankClaim t
        Sample.peers := by
  obtain ⟨t, found⟩ := Sample.blankClaim_found
  have onRelease : (Sample.approved.kv.getToken "tok_000000000001").map (·.resourceId) = some "r" := by
    decide +kernel
  have resource : t.resourceId = "r" := by simpa [found] using onRelease
  refine ⟨t, found, resource, ?_⟩
  rintro ⟨claims, -⟩
  have succeeds : ((TokensController.claimToken Sample.service Sample.blankClaim).run
      (handle Sample.env Sample.peers) Sample.approved).1.toOption.map
        TokenClaimResponse.claimed = some true := by decide +kernel
  have met := (claims.1 (TokensController.claims_of_map succeeds)).2.resourceId "" rfl
  exact absurd (resource.symm.trans met) (by decide)

end ZoneGate
