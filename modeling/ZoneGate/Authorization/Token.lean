import ZoneGate.Authorization.Effects
import ZoneGate.Py.Bytes

/-!
# Scoped tokens

Issue, verification and single-use claim of tokens.  `sign` is the hexadecimal HMAC of a message
under the secret of the service.  Signatures are compared as texts, and the comparison raises for a
text that is not ASCII.
-/

namespace ZoneGate

open Py Effects

/-- What a claim expects of the token; `none` is not checked. -/
structure Expected where
  action : Option String := none
  resourceId : Option String := none
  zone : Option String := none
  actorId : Option String := none
deriving DecidableEq, Repr

/-- The result of a claim: whether it succeeded, its status, a message and the token. -/
structure ClaimResult where
  claimed : Bool
  status : String
  message : String
  token : Option ScopedAuthorizationToken
deriving DecidableEq, Repr

/-- The hexadecimal HMAC of messages under one secret. -/
structure Hmac where
  hexdigest : String → String
  ascii (message : String) : isAscii (hexdigest message) = true

instance : CoeFun Hmac fun _ => String → String := ⟨Hmac.hexdigest⟩

/-- `hmac.compare_digest` of two texts, or the message of its `TypeError`. -/
def compareDigest (a b : String) : Except String Bool :=
  if isAscii a ∧ isAscii b then .ok (a = b)
  else .error "comparing strings with non-ASCII characters is not supported"

namespace TokenService

variable (sign : Hmac)

/-- The message that is signed. -/
def payload (tokenId actorId action resourceId zone decisionId : String)
    (issuedAt expiresAt : DateTime) : String :=
  dumpsSorted
    [("token_id", tokenId), ("actor_id", actorId), ("action", action),
      ("resource_id", resourceId), ("zone", zone), ("decision_id", decisionId),
      ("issued_at", issuedAt.isoformat), ("expires_at", expiresAt.isoformat)]

def newTokenId (hex : String) : String := "tok_" ++ hex

/-- The token that is issued at a time with a new identifier. -/
def newToken (tokenId actorId action resourceId zone decisionId : String) (now : DateTime)
    (ttlSeconds : ℕ) : ScopedAuthorizationToken :=
  let expiresAt := now.addSeconds ttlSeconds
  { tokenId := tokenId
    actorId := actorId
    action := action
    resourceId := resourceId
    zone := zone
    decisionId := decisionId
    issuedAt := now
    expiresAt := expiresAt
    signature := sign (payload tokenId actorId action resourceId zone decisionId now expiresAt)
    claimed := false
    claimedAt := none }

def issueToken (actorId action resourceId zone decisionId : String) (ttlSeconds : ℕ := 300) :
    Service ScopedAuthorizationToken := do
  let now ← utcnow
  let hex ← uuid4
  return newToken sign (newTokenId hex) actorId action resourceId zone decisionId now ttlSeconds

/-- An expectation that is given and not blank, and that the token does not meet. -/
def mismatch (expected : Option String) (actual : String) : Option String :=
  expected.filter fun e => e ≠ "" ∧ actual ≠ e

/-- The checks of `verify_token` at the time `now`, once the signature is compared: validity, status
and message. -/
def checks (signed : Bool) (now : DateTime) (token : ScopedAuthorizationToken)
    (expected : Expected) : Bool × String × String :=
  let scope (what actual requested : String) : Bool × String × String :=
    (false, "REJECTED_SCOPE_MISMATCH", "Scope mismatch: token " ++ what ++ " '" ++ actual ++
      "' != requested " ++ what ++ " '" ++ requested ++ "'")
  if !signed then
    (false, "REJECTED_INVALID_SIGNATURE", "Cryptographic signature verification failed")
  else if token.expiresAt < now then
    (false, "REJECTED_EXPIRED", "Token expired at " ++ token.expiresAt.isoformat)
  else if token.claimed then
    (false, "REJECTED_ALREADY_CLAIMED", "Token already claimed at " ++
      (token.claimedAt.map DateTime.isoformat).getD "unknown")
  else match mismatch expected.action token.action with
  | some requested => scope "action" token.action requested
  | none => match mismatch expected.resourceId token.resourceId with
  | some requested => scope "resource" token.resourceId requested
  | none => match mismatch expected.zone token.zone with
  | some requested => scope "zone" token.zone requested
  | none => match mismatch expected.actorId token.actorId with
  | some requested => scope "actor" token.actorId requested
  | none => (true, "VALID", "Token is valid and eligible for claim")

/-- `verify_token` at the time `now`, or the message of its `TypeError`. -/
def verifyToken (now : DateTime) (token : ScopedAuthorizationToken) (expected : Expected) :
    Except String (Bool × String × String) := do
  let expectedSig := sign (payload token.tokenId token.actorId token.action token.resourceId
    token.zone token.decisionId token.issuedAt token.expiresAt)
  let signed ← compareDigest token.signature expectedSig
  return checks signed now token expected

section

variable {now : DateTime} {token : ScopedAuthorizationToken} {expected : Expected}

/-- A signature that is ASCII is compared, as every digest is. -/
theorem verifyToken_of_ascii (ascii : isAscii token.signature = true) :
    verifyToken sign now token expected =
      .ok (checks (token.signature = sign (payload token.tokenId token.actorId token.action
        token.resourceId token.zone token.decisionId token.issuedAt token.expiresAt))
          now token expected) := by
  rw [verifyToken, compareDigest, if_pos ⟨ascii, sign.ascii _⟩]
  rfl

/-- The verification raises for a signature that is not. -/
theorem ascii_of_verifyToken {answer : Bool × String × String}
    (h : verifyToken sign now token expected = .ok answer) : isAscii token.signature = true := by
  by_contra ascii
  rw [verifyToken, compareDigest, if_neg fun h => ascii h.1] at h
  cases h

/-- A token that was claimed is not valid any more. -/
theorem unclaimed_of_checks {signed : Bool} (h : (checks signed now token expected).1 = true) :
    token.claimed = false := by
  unfold checks at h
  cases hclaimed : token.claimed with
  | false => rfl
  | true =>
    dsimp only at h
    rw [if_pos hclaimed] at h
    split_ifs at h

/-- Nor is a token that has expired. -/
theorem live_of_checks {signed : Bool} (h : (checks signed now token expected).1 = true) :
    ¬ token.expiresAt < now := by
  intro expired
  unfold checks at h
  dsimp only at h
  rw [if_pos expired] at h
  split_ifs at h

/-- A token that is found valid is unclaimed, and has not expired. -/
theorem of_verifyToken {answer : String × String}
    (h : verifyToken sign now token expected = .ok (true, answer)) :
    token.claimed = false ∧ ¬ token.expiresAt < now := by
  rw [verifyToken_of_ascii sign (ascii_of_verifyToken sign h)] at h
  have valid := congrArg Prod.fst (Except.ok.inj h)
  exact ⟨unclaimed_of_checks valid, live_of_checks valid⟩

end

/-- The token as a claim leaves it. -/
def claimedAtTime (token : ScopedAuthorizationToken) (now : DateTime) : ScopedAuthorizationToken :=
  { token with claimed := true, claimedAt := some now }

/-- `TokenService.claim_token`. -/
def claimToken (token : ScopedAuthorizationToken) (expected : Expected) : Service ClaimResult := do
  let now ← utcnow
  match verifyToken sign now token expected with
  | .error message => .raise (.type message)
  | .ok (false, status, message) => return ⟨false, status, message, some token⟩
  | .ok (true, _, _) => do
      let claimedAt ← utcnow
      return ⟨true, "CLAIMED", "Token successfully claimed for physical execution",
        some (claimedAtTime token claimedAt)⟩

end TokenService

end ZoneGate
