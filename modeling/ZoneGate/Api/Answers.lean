import ZoneGate.Api.References

/-!
# What was answered is on record

An authorization answers with a decision and its receipt, after it has saved both, and before them
the token that the receipt names.  Whatever the other requests do from then on, all of this stays on
record and fits together.
-/

namespace ZoneGate

open Py Effects

/-! ## What an authorization has saved -/

/-- The token that the receipt of the decision names: one for the transaction that the request has
saved, if the decision approves it, and none otherwise. -/
inductive TokenFor (transaction : TransactionRequest) (past : List (Handled Services))
    (d : PolicyDecision) : Option String → Prop
  | none (refused : d.decision ≠ .approve) : TokenFor transaction past d none
  | issued {actor : Actor} {t : ScopedAuthorizationToken} (approved : d.decision = .approve)
      (read : (⟨Effect.store (.getActor transaction.actorId), some actor⟩ : Handled Services) ∈ past)
      (saved : (⟨Effect.store (.saveToken t), ()⟩ : Handled Services) ∈ past)
      (names : t.decisionId = d.decisionId)
      (scope : actor.actorId = transaction.actorId → ScopedTo transaction t) :
      TokenFor transaction past d (some t.tokenId)

theorem TokenFor.mono {transaction : TransactionRequest} {past past' : List (Handled Services)}
    {d : PolicyDecision} {token : Option String} (h : TokenFor transaction past d token)
    (sub : past ⊆ past') : TokenFor transaction past' d token := by
  cases h with
  | none refused => exact .none refused
  | issued approved read saved names scope => exact .issued approved (sub read) (sub saved) names scope

/-- The request has saved the decision and the receipt, which are about the transaction. -/
structure HasRecorded (transaction : TransactionRequest) (past : List (Handled Services))
    (d : PolicyDecision) (r : Receipt) : Prop where
  about : d.transactionId = transaction.transactionId
  fits : r.Matches d
  decision : (⟨Effect.store (.saveDecision d), ()⟩ : Handled Services) ∈ past
  receipt : (⟨Effect.store (.saveReceipt r), ()⟩ : Handled Services) ∈ past
  token : TokenFor transaction past d r.token

/-- An authorization that returns has recorded what it returns. -/
def ReturnsRecorded (transaction : TransactionRequest) (past : List (Handled Services)) :
    Except ServiceError (PolicyDecision × Receipt) → Prop
  | .ok (d, r) => HasRecorded transaction past d r
  | .error _ => True

namespace AuthorizationService

section Recording

variable {transaction : TransactionRequest} {past : List (Handled Services)}

/-- The decision and then its receipt, once the token is saved. -/
theorem persist_recorded {d : PolicyDecision} (about : d.transactionId = transaction.transactionId)
    {token : Option String} (carries : TokenFor transaction past d token) (now : DateTime) :
    (.call (Effect.store (.saveDecision d)) fun _ =>
      .call (Effect.store (.saveReceipt (receiptFor d now token))) fun _ =>
        .ret (d, receiptFor d now token) : Service (PolicyDecision × Receipt)).Upholds
      (fun _ _ => True) (ReturnsRecorded transaction) past := by
  refine ⟨trivial, fun _ => trivial, fun _ => ⟨trivial, fun _ => trivial, fun _ => ?_⟩⟩
  exact ⟨about, matches_receiptFor .., by simp, by simp, carries.mono fun x mem => by simp [mem]⟩

/-- A part of which nothing is asked, before what comes after it. -/
theorem silent_bind {α β : Type} {p : Service β} {f : β → Service α}
    {ψ : List (Handled Services) → Except ServiceError α → Prop}
    (raise : ∀ past e, ψ past (.error e))
    (rest : ∀ past' b, past ⊆ past' → (f b).Upholds (fun _ _ => True) ψ past') :
    (p >>= f).Upholds (fun _ _ => True) ψ past :=
  (Prog.upholds_of_forall (ψ := fun _ _ => True) (fun _ _ => trivial) (fun _ _ => trivial) p
    past).extends_past.bind (fun past' b longer => rest past' b longer.2.subset) fun _ e _ => raise _ e

theorem refuse_recorded {listener : Bool} {now : DateTime} {stage : Stage} {detail reason : String} :
    (refuse listener transaction now stage detail reason).Upholds (fun _ _ => True)
      (ReturnsRecorded transaction) past := by
  simp only [refuse, Prog.perform_eq, Prog.call_bind, Prog.ret_bind]
  refine silent_bind (fun _ _ => trivial) fun past _ _ => ⟨trivial, fun _ => trivial, fun hex => ?_⟩
  exact persist_recorded rfl (.none fun approved => by cases approved) _

variable [Unicode] (svc : AuthorizationService)

theorem decideAndPersist_recorded {listener : Bool} {now : DateTime} {actor : Actor}
    {plan : ValidatedEvidencePlan} {evidence : CanonicalEvidence}
    {context : Option ContextEvaluation}
    (read : (⟨Effect.store (.getActor transaction.actorId), some actor⟩ : Handled Services) ∈ past) :
    (svc.decideAndPersist listener transaction now actor plan evidence context).Upholds
      (fun _ _ => True) (ReturnsRecorded transaction) past := by
  simp only [decideAndPersist, PolicyEngine.evaluate, issueIfApproved, TokenService.issueToken,
    Prog.perform_eq, Prog.call_bind, Prog.ret_bind, Prog.pure_eq]
  refine silent_bind (fun _ _ => trivial) fun past₁ _ sub₁ => ⟨trivial, fun _ => trivial,
    fun hex => ⟨trivial, fun _ => trivial, fun time => ⟨trivial, fun _ => trivial,
      fun config => ?_⟩⟩⟩
  refine silent_bind (fun _ _ => trivial) fun past₂ _ sub₂ => ?_
  set decision := PolicyEngine.decide config (PolicyEngine.newDecisionId hex) time transaction
    actor evidence context svc.attestable (some plan.mandatory.toFinset) with made
  have about : decision.transactionId = transaction.transactionId := by
    obtain ⟨outcome, reasons, authority, shape⟩ := PolicyEngine.decide_shape config
      (PolicyEngine.newDecisionId hex) time transaction actor evidence svc.attestable
      (some plan.mandatory.toFinset)
    rw [made, shape]
  have read : (⟨Effect.store (.getActor transaction.actorId), some actor⟩ : Handled Services) ∈
      past₂ := sub₂ (by simp [sub₁ read])
  split_ifs with approved
  · refine ⟨trivial, fun _ => trivial, fun issuedAt => ⟨trivial, fun _ => trivial,
      fun drawn => ⟨trivial, fun _ => trivial, fun _ => ?_⟩⟩⟩
    refine persist_recorded about (.issued approved ?_ (List.mem_append_right _
      (List.mem_singleton.2 rfl)) rfl fun same => ⟨same, rfl, rfl, rfl⟩) now
    simp [read]
  · exact persist_recorded about (.none approved) now

/-- An authorization that returns has recorded its verdict. -/
theorem authorizeTransaction_recorded (listener : Bool) (transaction : TransactionRequest) :
    (svc.authorizeTransaction listener transaction).Upholds (fun _ _ => True)
      (ReturnsRecorded transaction) [] :=
  Steps.authorizeTransaction (P := fun _ _ => True)
    { call := fun _ _ _ _ _ => ⟨trivial, fun _ => trivial⟩
      advance := fun _ _ _ _ _ => trivial
      raise := fun _ _ _ _ => trivial
      refuse := fun _ _ _ _ _ _ => refuse_recorded
      decide := fun _ _ _ _ _ _ _ _ read _ => svc.decideAndPersist_recorded read.actor } trivial

end Recording

end AuthorizationService

/-! ## The endpoints -/

/-- The answer gives a decision with its receipt. -/
def HttpAnswer.Gives (d : PolicyDecision) (r : Receipt) : HttpAnswer → Prop
  | .authorized response => response = ⟨d, r⟩
  | .streamed closing => closing = .result d r
  | _ => False

/-- A receipt under the identifier of another is about the same decision. -/
theorem Receipt.matches_of_backed {kv : Kv} {r : Receipt} {d d' : PolicyDecision}
    (backed : r.Backed kv) (named : r.receiptId = "rcpt_" ++ d.decisionId)
    (stored : kv (.decisions d.decisionId) = some d') (same : d'.core = d.core) : r.Matches d := by
  obtain ⟨held, there, fits⟩ := backed
  have ids : held.decisionId = d.decisionId := by
    have := fits.receiptId.symm.trans named
    simpa using this
  rw [ids, stored] at there
  obtain rfl := Option.some.inj there
  exact fits.of_core same.symm

/-- If the request asks for an authorization, then it has recorded the verdict that it answers. -/
def HttpRequest.AnswersRecorded (request : HttpRequest) (past : List (Handled Services)) :
    Except ServiceError HttpAnswer → Prop
  | .ok answer => ∀ data d r, request.AsksFor data → answer.Gives d r → HasRecorded data past d r
  | .error _ => True

theorem HttpRequest.answersRecorded_of_idle {request : HttpRequest}
    (idle : ∀ data, ¬ request.AsksFor data) (past : List (Handled Services))
    (result : Except ServiceError HttpAnswer) : request.AnswersRecorded past result := by
  cases result with
  | ok answer => exact fun data _ _ asks => absurd asks (idle data)
  | error e => trivial

section Endpoints

variable [Unicode] [UnicodeDigits] (svc : AuthorizationService) (console : ConsoleAuthService)
  (settings : Settings)

theorem HttpRequest.program_recorded (request : HttpRequest) :
    (request.program svc console settings).Upholds (fun _ _ => True) request.AnswersRecorded [] := by
  cases request with
  | requestAuthorization data =>
    rw [HttpRequest.program, ← bind_pure_comp]
    refine .bind (ρ := fun past result => ∀ response, result = .ok response →
      HasRecorded data past response.decision response.receipt) ?_ (fun past response recorded => ?_)
      fun _ _ _ => trivial
    · refine (svc.authorizeTransaction_recorded false data).bind (fun past verdict recorded => ?_)
        fun _ _ _ => by rintro _ ⟨⟩
      rintro response ⟨⟩
      exact recorded
    · intro data' d r asks gives
      obtain rfl : data = data' := asks
      obtain rfl : response = ⟨d, r⟩ := gives
      exact recorded _ rfl
  | streamAuthorization data =>
    have task : ((svc.authorizeTransaction true data).catching some).Upholds (fun _ _ => True)
        (fun past result => ∀ verdict, result = .ok (.ok verdict) →
          HasRecorded data past verdict.1 verdict.2) [] := by
      refine (svc.authorizeTransaction_recorded true data).catching some
        (fun past result recorded => ?_) fun _ _ _ => by rintro _ ⟨⟩
      rcases result with e | verdict
      · rintro verdict ⟨⟩
      · rintro _ ⟨⟩
        exact recorded
    refine task.bind (fun past result recorded => ?_) fun _ _ _ => trivial
    intro data' d r asks gives
    obtain rfl : data = data' := asks
    rcases result with e | verdict
    · cases gives
    · cases gives
      exact recorded _ rfl
  | _ => exact Prog.upholds_of_forall (fun _ _ => trivial) (answersRecorded_of_idle fun _ => id) _ _

/-! ## Runs -/

variable {ι : Type} [DecidableEq ι]

/-- The answer is on record: the decision on its transaction, up to a resolution, a receipt of it,
and the token that the receipt names, which is for what was asked. -/
structure AnswerKept (kv : Kv) (data : TransactionRequest) (d : PolicyDecision) (r : Receipt) :
    Prop where
  about : d.transactionId = data.transactionId
  fits : r.Matches d
  filed : kv (.transactions data.transactionId) ≠ none
  listed : d.decisionId ∈ kv.decisionIds
  decision : ∃ d', kv (.decisions d.decisionId) = some d' ∧ d'.core = d.core
  receipt : ∃ r', kv (.receipts r.receiptId) = some r' ∧ r'.Matches d
  approved : d.decision = .approve ↔ r.token ≠ none
  token : ∀ id, r.token = some id →
    ∃ t, kv (.tokens id) = some t ∧ t.decisionId = d.decisionId ∧ ScopedTo data t

omit [Unicode] [UnicodeDigits] in
/-- What a request has recorded is on record in every later state. -/
theorem SoundSince.answerKept {env : Env} {peers : ι → Peers} {kv : Kv} {trace : HttpTrace ι}
    (sound : SoundSince env peers kv trace) (answered : AnsweredBy env peers trace) {i : ι}
    {data : TransactionRequest} {d : PolicyDecision} {r : Receipt}
    (recorded : HasRecorded data (history i trace) d r) : AnswerKept kv data d r := by
  have found {c : Effect} {reply : c.Reply}
      (there : (⟨c, reply⟩ : Handled Services) ∈ history i trace) :
      ∃ e ∈ trace, e.call = c ∧ (handleAll env peers e.thread c e.state).1 = .ok reply := by
    obtain ⟨e, mem, -, answer⟩ := mem_history.1 there
    exact ⟨e, mem, Event.call_of_answered answer, Event.reply_of_answered (answered e mem) answer⟩
  have saved {c : StoreCall} {reply : c.Reply}
      (there : (⟨Effect.store c, reply⟩ : Handled Services) ∈ history i trace) :
      ∃ before : Kv, (c.exec before).Extends kv := by
    obtain ⟨e, mem, made, -⟩ := found there
    refine ⟨e.state.kv, ?_⟩
    have since := sound.after e mem
    rw [made] at since
    exact since
  obtain ⟨about, fits, decision, receipt, token⟩ := recorded
  obtain ⟨d', stored, same⟩ : ∃ d', kv (.decisions d.decisionId) = some d' ∧ d'.core = d.core := by
    obtain ⟨before, grows⟩ := saved decision
    exact grows.decisions _ d ((StoreCall.saveDecision_decisions before d _).trans (if_pos rfl))
  refine ⟨about, fits, ?_, ?_, ⟨d', stored, same⟩, ?_, ?_, fun id named => ?_⟩
  · rw [← about, ← (PolicyDecision.eq_of_core same).2.1]
    exact sound.consistent.filed _ d' stored
  · exact (sound.consistent.decisionList.mem_iff _).2 (by simp [stored])
  · obtain ⟨before, grows⟩ := saved receipt
    obtain ⟨r', there⟩ := Option.ne_none_iff_exists'.1 (grows.receipts r.receiptId
      (by simp [StoreCall.saveReceipt_receipts]))
    refine ⟨r', there, Receipt.matches_of_backed (sound.consistent.backed _ r' there) ?_ stored same⟩
    exact (sound.consistent.keyed (.receipts r.receiptId) r' there).trans fits.receiptId
  · generalize r.token = carried at token
    cases token with
    | none refused => simp [refused]
    | issued approved => simp [approved]
  · generalize r.token = carried at token named
    cases token with
    | none => cases named
    | @issued actor t approved read saves names scope =>
      obtain rfl := Option.some.inj named
      obtain ⟨before, grows⟩ := saved saves
      obtain ⟨t', stored', same'⟩ := grows.tokens t.tokenId t
        ((StoreCall.saveToken_tokens before t _).trans (if_pos rfl))
      obtain ⟨e, mem, -, reply⟩ := found read
      have itself : actor.actorId = data.actorId :=
        (sound.earlier e mem).keyed (.actors data.actorId) actor (Except.ok.inj reply)
      refine ⟨t', stored', ?_, ?_⟩
      all_goals cases t; cases t'; cases same'
      · exact names
      · exact ⟨(scope itself).actorId, (scope itself).action, (scope itself).resourceId,
          (scope itself).zone⟩

/-- Whatever the other requests do before, meanwhile and after, the verdict that a request for an
authorization has answered is on record: the decision on the transaction that was asked for, a
receipt of it, and for an approval, and only for one, a token for just what was asked. -/
theorem answers_on_record (env : Env) (peers : ι → Peers) (requests : ι → HttpRequest) {w : World}
    (consistent : w.kv.Consistent) (schedule : List ι)
    (fresh : NewIds
      ((serving svc console settings requests w).trace (handleAll env peers) schedule))
    {i : ι} {data : TransactionRequest} (asks : (requests i).AsksFor data) {answer : HttpAnswer}
    (ended : ((serving svc console settings requests w).run (handleAll env peers)
      schedule).threads i = .ret answer) {d : PolicyDecision} {r : Receipt}
    (gives : answer.Gives d r) :
    AnswerKept ((serving svc console settings requests w).run (handleAll env peers) schedule).state.kv
      data d r := by
  obtain ⟨-, sound⟩ := sound_since svc console settings env peers requests consistent schedule fresh
  have recorded := (Pool.upholds_run (h := handleAll env peers)
    (fun i => (requests i).program_recorded svc console settings) schedule).of_ret ended
  exact sound.answerKept (fun e mem => Pool.reply_of_mem_trace mem) (recorded data d r asks gives)

end Endpoints

/-! ## A release that is approved -/

/-- The answer of an authorization that has ended. -/
def Sample.verdict : Service HttpAnswer → Option AuthorizationResponse
  | .ret (.authorized response) => some response
  | _ => none

theorem Sample.eq_ret_of_verdict {p : Service HttpAnswer} {response : AuthorizationResponse}
    (h : verdict p = some response) : p = .ret (.authorized response) := by
  unfold verdict at h
  split at h <;> cases h
  rfl

theorem Sample.releasing_ends : ∃ response,
    (releasing.run (handleAll env fun _ => peers) (List.replicate 25 ())).threads () =
      .ret (.authorized response) := by
  have ended : (verdict ((releasing.run (handleAll env fun _ => peers)
      (List.replicate 25 ())).threads ())).isSome = true := by decide +kernel
  obtain ⟨response, given⟩ := Option.isSome_iff_exists.1 ended
  exact ⟨response, eq_ret_of_verdict given⟩

theorem answers_on_record_release :
    ∃ d r, (Sample.releasing.run (handleAll Sample.env fun _ => Sample.peers)
        (List.replicate 25 ())).threads () = .ret (.authorized ⟨d, r⟩) ∧
      AnswerKept (Sample.releasing.run (handleAll Sample.env fun _ => Sample.peers)
        (List.replicate 25 ())).state.kv Sample.general d r := by
  obtain ⟨⟨d, r⟩, ended⟩ := Sample.releasing_ends
  exact ⟨d, r, ended, @answers_on_record Sample.unicode Sample.unicodeDigits Sample.service
    Sample.console {} Unit _ Sample.env (fun _ => Sample.peers)
    (fun _ => .requestAuthorization Sample.general) Sample.world Sample.world_consistent
    (List.replicate 25 ()) Sample.releasing_fresh () Sample.general rfl _ ended d r rfl⟩

end ZoneGate
