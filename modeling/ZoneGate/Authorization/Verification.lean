import ZoneGate.Authorization.Runs
import ZoneGate.Py.Calendar
import ZoneGate.Py.Json

/-!
# What a signature binds

The signed message determines the eight fields it is built from, so a record that carries the
signature of an issued token passes the signature check exactly when it agrees with that token in
all of them.
-/

namespace ZoneGate

open Py Effects AuthorizationService

/-- The records agree in the eight fields that are signed. -/
structure SameBinding (t t' : ScopedAuthorizationToken) : Prop where
  tokenId : t.tokenId = t'.tokenId
  actorId : t.actorId = t'.actorId
  action : t.action = t'.action
  resourceId : t.resourceId = t'.resourceId
  zone : t.zone = t'.zone
  decisionId : t.decisionId = t'.decisionId
  issuedAt : t.issuedAt = t'.issuedAt
  expiresAt : t.expiresAt = t'.expiresAt

/-- What the claim asks of the token, ignoring expectations that are empty strings. -/
structure MetWhereGiven (expected : Expected) (t : ScopedAuthorizationToken) : Prop where
  action : ∀ e, expected.action = some e → e ≠ "" → t.action = e
  resourceId : ∀ e, expected.resourceId = some e → e ≠ "" → t.resourceId = e
  zone : ∀ e, expected.zone = some e → e ≠ "" → t.zone = e
  actorId : ∀ e, expected.actorId = some e → e ≠ "" → t.actorId = e

namespace TokenService

/-! ## The message -/

/-- The message determines the fields. -/
theorem payload_injective {tokenId tokenId' actorId actorId' action action' resourceId resourceId'
    zone zone' decisionId decisionId' : String} {issuedAt issuedAt' expiresAt expiresAt' : DateTime}
    (e : payload tokenId actorId action resourceId zone decisionId issuedAt expiresAt =
      payload tokenId' actorId' action' resourceId' zone' decisionId' issuedAt' expiresAt') :
    tokenId = tokenId' ∧ actorId = actorId' ∧ action = action' ∧ resourceId = resourceId' ∧
      zone = zone' ∧ decisionId = decisionId' ∧ issuedAt = issuedAt' ∧ expiresAt = expiresAt' := by
  have items := perm_of_dumpsSorted e
  have mem (item : String × String) := items.mem_iff (a := item)
  have h1 := (mem ("token_id", tokenId)).1 (by simp)
  have h2 := (mem ("actor_id", actorId)).1 (by simp)
  have h3 := (mem ("action", action)).1 (by simp)
  have h4 := (mem ("resource_id", resourceId)).1 (by simp)
  have h5 := (mem ("zone", zone)).1 (by simp)
  have h6 := (mem ("decision_id", decisionId)).1 (by simp)
  have h7 := (mem ("issued_at", issuedAt.isoformat)).1 (by simp)
  have h8 := (mem ("expires_at", expiresAt.isoformat)).1 (by simp)
  simp only [List.mem_cons, Prod.mk.injEq, String.reduceEq, false_and, or_false, false_or,
    true_and, List.not_mem_nil] at h1 h2 h3 h4 h5 h6 h7 h8
  exact ⟨h1, h2, h3, h4, h5, h6, DateTime.isoformat_injective h7, DateTime.isoformat_injective h8⟩

/-- The message of a token record. -/
def message (t : ScopedAuthorizationToken) : String :=
  payload t.tokenId t.actorId t.action t.resourceId t.zone t.decisionId t.issuedAt t.expiresAt

theorem message_eq_iff {t t' : ScopedAuthorizationToken} :
    message t = message t' ↔ SameBinding t t' := by
  constructor
  · intro e
    obtain ⟨h1, h2, h3, h4, h5, h6, h7, h8⟩ := payload_injective e
    exact ⟨h1, h2, h3, h4, h5, h6, h7, h8⟩
  · rintro ⟨h1, h2, h3, h4, h5, h6, h7, h8⟩
    rw [message, message, h1, h2, h3, h4, h5, h6, h7, h8]

/-! ## Verification -/

variable (sign : Hmac) {now : DateTime} {t : ScopedAuthorizationToken} {expected : Expected}

theorem mismatch_eq_none {e : Option String} {actual : String} :
    mismatch e actual = none ↔ ∀ x, e = some x → x ≠ "" → actual = x := by
  rcases e with _ | x
  · simp [mismatch]
  · simp [mismatch, Option.filter_eq_none_iff]

/-- The signature check comes first, and no other check answers as it does. -/
theorem checks_invalid_iff {signed : Bool} :
    (checks signed now t expected).2.1 = "REJECTED_INVALID_SIGNATURE" ↔ signed = false := by
  unfold checks
  dsimp only
  cases signed with
  | false => exact iff_of_true rfl rfl
  | true =>
    refine iff_of_false ?_ (by simp)
    split_ifs with _ hexpired hclaimed
    · simp at *
    · simp
    · simp
    split
    · simp
    split
    · simp
    split
    · simp
    split <;> simp

theorem checks_valid_iff {signed : Bool} :
    (checks signed now t expected).1 = true ↔
      signed = true ∧ now ≤ t.expiresAt ∧ t.claimed = false ∧ MetWhereGiven expected t := by
  have met : MetWhereGiven expected t ↔
      mismatch expected.action t.action = none ∧ mismatch expected.resourceId t.resourceId = none ∧
        mismatch expected.zone t.zone = none ∧ mismatch expected.actorId t.actorId = none := by
    simp only [mismatch_eq_none]
    exact ⟨fun h => ⟨h.action, h.resourceId, h.zone, h.actorId⟩, fun h => ⟨h.1, h.2.1, h.2.2.1, h.2.2.2⟩⟩
  have alive : now ≤ t.expiresAt ↔ ¬ t.expiresAt < now := Nat.not_lt.symm
  rw [met, alive]
  unfold checks
  dsimp only
  cases signed with
  | false => exact iff_of_false Bool.false_ne_true fun h => Bool.false_ne_true h.1
  | true =>
    rw [if_neg (by simp)]
    split_ifs with hexpired hclaimed
    · simp [hexpired]
    · simp [hclaimed]
    · rcases mismatch expected.action t.action with _ | _
      swap
      · simp
      rcases mismatch expected.resourceId t.resourceId with _ | _
      swap
      · simp
      rcases mismatch expected.zone t.zone with _ | _
      swap
      · simp
      rcases mismatch expected.actorId t.actorId with _ | _
      swap
      · simp
      simp [hexpired, hclaimed]

variable (now expected) in
/-- A token whose signature can be compared is found valid when it is signed, neither expired nor
claimed, and meets what is given. -/
theorem verifyToken_ascii (ascii : isAscii t.signature = true) :
    ∃ answer, verifyToken sign now t expected = .ok answer ∧
      (answer.2.1 = "REJECTED_INVALID_SIGNATURE" ↔ t.signature ≠ sign (message t)) ∧
      (answer.1 = true ↔ t.signature = sign (message t) ∧ now ≤ t.expiresAt ∧ t.claimed = false ∧
        MetWhereGiven expected t) :=
  ⟨_, verifyToken_of_ascii sign ascii, checks_invalid_iff.trans decide_eq_false_iff_not,
    checks_valid_iff.trans (and_congr_left' decide_eq_true_iff)⟩

/-- The signed message determines the eight fields.  A record with the signature of an issued token
is verified without an exception, and passes the signature check exactly when its eight fields are
the issued ones. -/
theorem signature_binds (injective : Function.Injective sign) :
    (∀ tokenId tokenId' actorId actorId' action action' resourceId resourceId' zone zone'
        decisionId decisionId' issuedAt issuedAt' expiresAt expiresAt',
      payload tokenId actorId action resourceId zone decisionId issuedAt expiresAt =
          payload tokenId' actorId' action' resourceId' zone' decisionId' issuedAt' expiresAt' →
        tokenId = tokenId' ∧ actorId = actorId' ∧ action = action' ∧ resourceId = resourceId' ∧
          zone = zone' ∧ decisionId = decisionId' ∧ issuedAt = issuedAt' ∧
            expiresAt = expiresAt') ∧
    ∀ (env : Env) (peers : Peers) (w w' : World) (actorId action resourceId zone decisionId : String)
        (ttlSeconds : ℕ) (issued record : ScopedAuthorizationToken) (now : DateTime)
        (expected : Expected),
      (issueToken sign actorId action resourceId zone decisionId ttlSeconds).run
          (handle env peers) w = (.ok issued, w') →
      record.signature = issued.signature →
        ∃ answer, verifyToken sign now record expected = .ok answer ∧
          (answer.2.1 ≠ "REJECTED_INVALID_SIGNATURE" ↔ SameBinding record issued) := by
  refine ⟨fun _ _ _ _ _ _ _ _ _ _ _ _ _ _ _ _ e => payload_injective e, ?_⟩
  intro env peers w w' actorId action resourceId zone decisionId ttlSeconds issued record now
    expected run carries
  have signed : issued.signature = sign (message issued) := by
    simp only [issueToken, Prog.perform_eq, Prog.call_bind, Prog.ret_bind, run_utcnow, run_uuid4,
      Prog.pure_eq, Prog.run_ret, Prod.mk.injEq, Except.ok.injEq] at run
    rw [← run.1]
    rfl
  have ascii : isAscii record.signature = true := by
    rw [carries, signed]
    exact sign.ascii _
  obtain ⟨answer, verified, invalid, -⟩ := verifyToken_ascii sign now expected ascii
  refine ⟨answer, verified, ?_⟩
  rw [Ne, invalid, not_not, carries, signed]
  exact eq_comm.trans (injective.eq_iff.trans message_eq_iff)

end TokenService

theorem Sample.digests_injective : Function.Injective Sample.digests := by
  intro message message' e
  have marked (text text' : String) : "sig:" ++ text ≠ quote text' := fun e =>
    absurd (congrArg (·.toList.head?) e) (by simp [quote])
  simp only [digests] at e
  split_ifs at e
  · exact (String.append_right_inj _).1 e
  · exact absurd e (marked _ _)
  · exact absurd e.symm (marked _ _)
  · exact quote_injective e

/-- A token of the small deployment, issued to the operator. -/
def Sample.issued : ScopedAuthorizationToken :=
  Sample.service.nextToken Sample.env Sample.world "op" "RELEASE_CARGO" "r" "PORT_GATE_17" "dec"

/-- The token, sent to another gate. -/
def Sample.misdirected : ScopedAuthorizationToken := { Sample.issued with zone := "PORT_GATE_18" }

/-- It fails the signature check there. -/
theorem signature_binds_zone : ∃ answer,
    TokenService.verifyToken Sample.service.sign ⟨0⟩ Sample.misdirected {} = .ok answer ∧
      answer.2.1 = "REJECTED_INVALID_SIGNATURE" := by
  have carries : Sample.misdirected.signature = Sample.issued.signature := by
    rw [Sample.misdirected]
  obtain ⟨answer, verified, binds⟩ := (TokenService.signature_binds Sample.service.sign
    Sample.digests_injective).2 Sample.env Sample.peers Sample.world _ "op" "RELEASE_CARGO" "r"
    "PORT_GATE_17" "dec" 300 Sample.issued Sample.misdirected ⟨0⟩ {} (issueToken_run ..) carries
  refine ⟨answer, verified, ?_⟩
  by_contra accepted
  exact absurd (binds.1 accepted).zone (by decide)

end ZoneGate
