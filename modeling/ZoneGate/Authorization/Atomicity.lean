import ZoneGate.Authorization.Outcome
import Mathlib.Tactic.IntervalCases

/-!
# Resolving a hold when store calls raise

`resolve_hold` writes the resolution, the token and the receipt in separate store calls.
`resolveHold_atomic_iff` says for which failures it raises and leaves the store as it was.
-/

namespace ZoneGate

open Py Effects

namespace AuthorizationService

variable (svc : AuthorizationService) {fails : ℕ → Option String} {env : Env} {peers : Peers}
  (w : World) {n : ℕ}

/-! ## The run, failure by failure -/

theorem issueForHold_failing (decision : PolicyDecision) :
    (svc.issueForHold decision).run (handleFailing fails env peers) (w, n) =
      match fails n with
      | some message => (.error (.store message), (w, n + 1))
      | none =>
          match w.kv (.transactions decision.transactionId) with
          | none => (.error (.holdResolution
              ("Transaction '" ++ decision.transactionId ++ "' is no longer on record")), (w, n + 1))
          | some transaction =>
              match fails (n + 1) with
              | some message => (.error (.store message), (w.tick.draw env, n + 2))
              | none =>
                  let token := svc.nextToken env w transaction.actorId transaction.action
                    transaction.resourceId transaction.zone decision.decisionId
                  (.ok (some token.tokenId), (issued env w token, n + 2)) := by
  simp only [issueForHold, Prog.perform_eq, Prog.call_bind, Prog.ret_bind]
  rcases hn : fails n with _ | message
  swap
  · rw [run_store_failing_error hn]
  rw [run_store_failing_ok hn, World.after_getTransaction, StoreCall.answer]
  rcases w.kv (.transactions decision.transactionId) with _ | transaction
  · rfl
  simp only [TokenService.issueToken, Prog.perform_eq, Prog.call_bind, Prog.ret_bind, Prog.pure_eq,
    run_utcnow_failing, run_uuid4_failing]
  rcases hn' : fails (n + 1) with _ | message
  · rw [run_store_failing_ok hn']
    rfl
  · rw [run_store_failing_error hn']

theorem settleHold_failing (decision : PolicyDecision) (outcome : DecisionOutcome)
    (resolvedBy note : String) :
    (svc.settleHold decision outcome resolvedBy note).run (handleFailing fails env peers)
        (w, n) =
      let now := env.clock w.readings
      let resolved := resolve decision outcome resolvedBy note now
      let w₁ := w.tick.after (.saveDecision resolved)
      let receipt := receiptOnRecord w₁ decision now
      match fails n with
      | some message => (.error (.store message), (w.tick, n + 1))
      | none =>
          match fails (n + 1) with
          | some message => (.error (.store message), (w₁, n + 2))
          | none =>
              match (if outcome = .approve then svc.issueForHold decision
                  else pure receipt.token).run (handleFailing fails env peers) (w₁, n + 2) with
              | (.error e, s) => (.error e, s)
              | (.ok token, (w₂, k)) =>
                  match fails k with
                  | some message => (.error (.store message), (w₂, k + 1))
                  | none => (.ok (resolved, { receipt with issuedAt := now, token := token }),
                      (receipted w₂ receipt now token, k + 1)) := by
  simp only [settleHold, Prog.perform_eq, Prog.call_bind, Prog.ret_bind, run_utcnow_failing]
  rcases hn : fails n with _ | message
  swap
  · rw [run_store_failing_error hn]
  rw [run_store_failing_ok hn]
  rcases hn' : fails (n + 1) with _ | message
  swap
  · rw [run_store_failing_error hn']
  rw [run_store_failing_ok hn', World.after_getReceiptByTransactionId, Prog.run_bind]
  dsimp only [receiptOnRecord, StoreCall.answer]
  rcases (if outcome = .approve then _ else _ : Service (Option String)).run _ _ with
    ⟨e | token, w₂, k⟩
  · rfl
  dsimp only
  rcases hk : fails k with _ | message
  · rw [run_store_failing_ok hk]
    rfl
  · rw [run_store_failing_error hk]

theorem resolveHold_failing [Unicode] (decisionId : String) (outcome : DecisionOutcome)
    (resolvedBy note : String) (resolverRole : Option String) :
    (svc.resolveHold decisionId outcome resolvedBy note resolverRole).run
        (handleFailing fails env peers) (w, n) =
      match fails n with
      | some message => (.error (.store message), (w, n + 1))
      | none =>
          match w.kv (.decisions decisionId) with
          | none => (.error (.decisionNotFound ("Decision '" ++ decisionId ++ "' not found")),
              (w, n + 1))
          | some decision =>
              match ineligible decisionId decision outcome resolverRole with
              | some e => (.error e, (w, n + 1))
              | none => (svc.settleHold decision outcome resolvedBy note).run
                  (handleFailing fails env peers) (w, n + 1) := by
  simp only [resolveHold, Prog.perform_eq, Prog.call_bind, Prog.ret_bind]
  rcases hn : fails n with _ | message
  swap
  · rw [run_store_failing_error hn]
  rw [run_store_failing_ok hn, World.after_getDecision, StoreCall.answer]
  rcases w.kv (.decisions decisionId) with _ | decision
  · rfl
  · dsimp only
    rcases ineligible decisionId decision outcome resolverRole with _ | e <;> rfl

/-! ## What is left behind -/

/-- The number of store calls of a resolution that goes through. -/
def resolutionCalls (outcome : DecisionOutcome) : ℕ := if outcome = .approve then 6 else 4

/-- A call after the resolution is saved raises, or the transaction of an approval is gone. -/
def FailsLate (fails : ℕ → Option String) (kv : Kv) (decision : PolicyDecision)
    (outcome : DecisionOutcome) : Prop :=
  (∃ k, 2 ≤ k ∧ k < resolutionCalls outcome ∧ fails k ≠ none) ∨
    (outcome = .approve ∧ kv (.transactions decision.transactionId) = none)

theorem failsLate_of_fails {k : ℕ} {decision : PolicyDecision} {outcome : DecisionOutcome} {kv : Kv}
    {message : String} (hk : fails k = some message) (h2 : 2 ≤ k)
    (hlt : k < resolutionCalls outcome) : FailsLate fails kv decision outcome :=
  .inl ⟨k, h2, hlt, by simp [hk]⟩

theorem decisions_saveDecision (decision : PolicyDecision) :
    (w.after (.saveDecision decision)).kv (.decisions decision.decisionId) = some decision :=
  (StoreCall.saveDecision_decisions ..).trans (if_pos rfl)

variable (env peers) in
/-- Once the resolution is saved it stays, and what follows decides whether the request raises. -/
theorem settleHold_failsLate (decision : PolicyDecision) (outcome : DecisionOutcome)
    (resolvedBy note : String) (h1 : fails 1 = none) :
    let result := (svc.settleHold decision outcome resolvedBy note).run
      (handleFailing fails env peers) (w, 1)
    ((∃ e, result.1 = .error e) ↔ FailsLate fails w.kv decision outcome) ∧
      result.2.1.kv (.decisions decision.decisionId) =
        some (resolve decision outcome resolvedBy note (env.clock w.readings)) := by
  have saved := decisions_saveDecision w.tick
    (resolve decision outcome resolvedBy note (env.clock w.readings))
  have raises {m : String} {k : ℕ} (hk : fails k = some m) (le : 2 ≤ k)
      (lt : k < resolutionCalls outcome) {α : Type} (e : ServiceError) :
      (∃ e', (.error e : Except ServiceError α) = .error e') ↔
        FailsLate fails w.kv decision outcome :=
    iff_of_true ⟨e, rfl⟩ (failsLate_of_fails hk le lt)
  have returns (quiet : ∀ k, 2 ≤ k → k < resolutionCalls outcome → fails k = none)
      (onRecord : outcome = .approve → w.kv (.transactions decision.transactionId) ≠ none)
      {α : Type} (a : α) :
      (∃ e', (.ok a : Except ServiceError α) = .error e') ↔
        FailsLate fails w.kv decision outcome := by
    refine iff_of_false (by simp) ?_
    rintro (⟨k, le, lt, hk⟩ | ⟨happrove, gone⟩)
    · exact hk (quiet k le lt)
    · exact onRecord happrove gone
  rw [settleHold_failing, h1]
  rcases h2 : fails 2 with _ | m
  swap
  · have lt : 2 < resolutionCalls outcome := by
      unfold resolutionCalls
      split_ifs <;> decide
    exact ⟨raises h2 (Nat.le_refl 2) lt _, saved⟩
  by_cases happrove : outcome = .approve
  · have six : resolutionCalls outcome = 6 := by simp [resolutionCalls, happrove]
    simp only [if_pos happrove, issueForHold_failing, transactions_saveDecision, World.kv_tick]
    rcases h3 : fails 3 with _ | m
    swap
    · exact ⟨raises h3 (by omega) (by omega) _, saved⟩
    rcases htx : w.kv (.transactions decision.transactionId) with _ | transaction
    · exact ⟨iff_of_true ⟨_, rfl⟩ (.inr ⟨happrove, htx⟩), saved⟩
    rcases h4 : fails 4 with _ | m
    swap
    · exact ⟨raises h4 (by omega) (by omega) _, saved⟩
    dsimp only
    rcases h5 : fails 5 with _ | m
    swap
    · exact ⟨raises h5 (by omega) (by omega) _, saved⟩
    refine ⟨returns (fun k le lt => ?_) (fun _ => by simp [htx]) _, saved⟩
    rw [six] at lt
    interval_cases k <;> assumption
  · have four : resolutionCalls outcome = 4 := by simp [resolutionCalls, happrove]
    simp only [if_neg happrove, Prog.pure_eq, Prog.run_ret]
    rcases h3 : fails 3 with _ | m
    swap
    · exact ⟨raises h3 (by omega) (by omega) _, saved⟩
    refine ⟨returns (fun k le lt => ?_) (fun h => absurd h happrove) _, saved⟩
    rw [four] at lt
    interval_cases k <;> assumption

/-- The resolution is saved and the request fails late: the store keeps half a resolution. -/
def HalfDone [Unicode] (fails : ℕ → Option String) (w : World) (decisionId : String)
    (outcome : DecisionOutcome) (resolverRole : Option String) : Prop :=
  fails 0 = none ∧ fails 1 = none ∧ ∃ decision, w.kv (.decisions decisionId) = some decision ∧
    ineligible decisionId decision outcome resolverRole = none ∧
    FailsLate fails w.kv decision outcome

/-- Resolving a hold is all or nothing exactly when the request does not fail after the resolution
is saved. -/
theorem resolveHold_atomic_iff [Unicode] (svc : AuthorizationService)
    (fails : ℕ → Option String) (env : Env) (peers : Peers) (w : World)
    (stored : w.kv.Stored) (decisionId : String) (outcome : DecisionOutcome)
    (resolvedBy note : String) (resolverRole : Option String) :
    let result := (svc.resolveHold decisionId outcome resolvedBy note resolverRole).run
      (handleFailing fails env peers) (w, 0)
    ((∃ e, result.1 = .error e) → result.2.1.kv = w.kv) ↔
      ¬ HalfDone fails w decisionId outcome resolverRole := by
  rw [resolveHold_failing]
  rcases h0 : fails 0 with _ | m
  swap
  · exact iff_of_true (fun _ => rfl) fun h => by simp [HalfDone, h0] at h
  rcases hd : w.kv (.decisions decisionId) with _ | decision
  · exact iff_of_true (fun _ => rfl) fun ⟨_, _, decision, h, _⟩ => by simp [hd] at h
  dsimp only
  rcases he : ineligible decisionId decision outcome resolverRole with _ | e
  swap
  · refine iff_of_true (fun _ => rfl) fun ⟨_, _, decision', h, h', _⟩ => ?_
    obtain rfl := Option.some.inj (hd.symm.trans h)
    simp [he] at h'
  dsimp only
  rcases h1 : fails 1 with _ | m
  swap
  · rw [settleHold_failing, h1]
    exact iff_of_true (fun _ => rfl) fun h => by simp [HalfDone, h1] at h
  obtain ⟨raises, saved⟩ :=
    svc.settleHold_failsLate env peers w decision outcome resolvedBy note h1
  have pending : decision.resolution = none := (ineligible_eq_none.1 he).2.1
  have changed : ¬ ((svc.settleHold decision outcome resolvedBy note).run
      (handleFailing fails env peers) (w, 1)).2.1.kv = w.kv := by
    intro same
    have named : decision.decisionId = decisionId := stored.keyed (.decisions decisionId) decision hd
    rw [same, named, hd] at saved
    have written := congrArg PolicyDecision.resolution (Option.some.inj saved)
    rw [pending] at written
    cases written
  constructor
  · rintro whole ⟨-, -, decision', hd', -, late⟩
    obtain rfl := Option.some.inj (hd.symm.trans hd')
    exact changed (whole (raises.2 late))
  · intro whole raised
    exact absurd ⟨h0, h1, decision, hd, he, raises.1 raised⟩ whole

end AuthorizationService

open AuthorizationService

/-- The store calls of a run that raise: only the given one. -/
def failsAt (k : ℕ) (n : ℕ) : Option String := if n = k then some "disk full" else none

theorem resolveHold_atomic_iff_held :
    let _ := Sample.unicode
    let result := (Sample.service.resolveHold "dec_000000000000" .approve "Officer" "" none).run
      (handleFailing (failsAt 1) Sample.env Sample.peers) (Sample.held, 0)
    ((∃ e, result.1 = .error e) → result.2.1.kv = Sample.held.kv) ↔
      ¬ HalfDone (failsAt 1) Sample.held "dec_000000000000" .approve none :=
  @resolveHold_atomic_iff Sample.unicode Sample.service (failsAt 1) Sample.env Sample.peers
    Sample.held Sample.held_stored "dec_000000000000" .approve "Officer" "" none

/-- The approval of the hold when the save of the receipt raises. -/
def approvalCutShort : Except ServiceError (PolicyDecision × Receipt) × World × ℕ :=
  let _ := Sample.unicode
  (Sample.service.resolveHold "dec_000000000000" .approve "Officer" "" none).run
    (handleFailing (failsAt 5) Sample.env Sample.peers) (Sample.held, 0)

/-- It raises, with the hold settled and its token issued. -/
theorem resolveHold_half_done :
    Sample.held.kv.Stored ∧ approvalCutShort.1 = .error (.store "disk full") ∧
      approvalCutShort.2.1.kv ≠ Sample.held.kv := by
  refine ⟨Sample.held_stored, by decide +kernel, fun same => ?_⟩
  have pending : (Sample.held.kv (.decisions "dec_000000000000")).bind PolicyDecision.resolution =
      none := by decide +kernel
  have settled : (approvalCutShort.2.1.kv (.decisions "dec_000000000000")).bind
      PolicyDecision.resolution ≠ none := by decide +kernel
  rw [same] at settled
  exact settled pending

end ZoneGate
