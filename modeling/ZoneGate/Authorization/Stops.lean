import ZoneGate.Authorization.Pipeline

/-!
# Authorizations that are stopped

An authorization can be stopped before any of its calls, by a store call that raises or because it
is cancelled.  Each of its saves is a transaction of its own, and the order of the saves decides
what a stop leaves behind: the token of an approval is saved before its decision, and the decision
before its receipt.
-/

namespace ZoneGate

open Py Effects

/-! ## Completed store calls -/

/-- The store calls of a history. -/
def completed (past : List (Handled Services)) : List StoreCall :=
  past.filterMap fun x => match x.1 with
    | .store c => some c
    | _ => none

/-- The contents after the calls. -/
def replay (kv : Kv) (calls : List StoreCall) : Kv := calls.foldl (fun kv c => c.exec kv) kv

namespace StoreCall

/-- A verdict, its token or its receipt is saved. -/
def Persists : StoreCall → Prop
  | saveToken _ | saveDecision _ | saveReceipt _ => True
  | _ => False

theorem exec_of_not_persists {c : StoreCall} (hc : ¬ c.Persists) (kv : Kv) (id : String) :
    c.exec kv (.decisions id) = kv (.decisions id) ∧
      c.exec kv (.receipts id) = kv (.receipts id) := by
  cases c with
  | saveToken => exact absurd trivial hc
  | saveDecision => exact absurd trivial hc
  | saveReceipt => exact absurd trivial hc
  | _ => exact ⟨rfl, rfl⟩

end StoreCall

theorem completed_append (first last : List (Handled Services)) :
    completed (first ++ last) = completed first ++ completed last := List.filterMap_append ..

theorem replay_append (kv : Kv) (first last : List StoreCall) :
    replay kv (first ++ last) = replay (replay kv first) last := List.foldl_append ..

/-- Nothing of the verdict has been saved. -/
def Quiet (calls : List StoreCall) : Prop := ∀ c ∈ calls, ¬ c.Persists

theorem Quiet.replay {calls : List StoreCall} (h : Quiet calls) (kv : Kv) (id : String) :
    replay kv calls (.decisions id) = kv (.decisions id) ∧
      replay kv calls (.receipts id) = kv (.receipts id) := by
  induction calls generalizing kv with
  | nil => exact ⟨rfl, rfl⟩
  | cons c calls ih =>
    have here := StoreCall.exec_of_not_persists (h c List.mem_cons_self) kv id
    obtain ⟨decisions, receipts⟩ := ih (fun c hc => h c (List.mem_cons_of_mem _ hc)) (c.exec kv)
    exact ⟨decisions.trans here.1, receipts.trans here.2⟩

/-! ## How far an authorization has come -/

/-- The tokens that are saved for a decision: one at most, and for an approval only. -/
inductive TokensOf (d : PolicyDecision) : List StoreCall → Prop
  | none : TokensOf d []
  | issued (t : ScopedAuthorizationToken) (names : t.decisionId = d.decisionId)
      (approved : d.decision = .approve) : TokensOf d [.saveToken t]

/-- The store calls of an authorization up to a point: the token of an approval, the decision and
its receipt come last, in this order. -/
inductive Persisted : List StoreCall → Prop
  | quiet {calls : List StoreCall} (h : Quiet calls) : Persisted calls
  | token {calls : List StoreCall} (h : Quiet calls) (t : ScopedAuthorizationToken) :
      Persisted (calls ++ [.saveToken t])
  | decision {calls tokens : List StoreCall} (h : Quiet calls) (d : PolicyDecision)
      (issued : TokensOf d tokens) : Persisted (calls ++ tokens ++ [.saveDecision d])
  | receipt {calls tokens : List StoreCall} (h : Quiet calls) (d : PolicyDecision)
      (issued : TokensOf d tokens) (now : DateTime) (token : Option String) :
      Persisted (calls ++ tokens ++
        [.saveDecision d, .saveReceipt (AuthorizationService.receiptFor d now token)])

/-- The request has come this far, with nothing of its verdict saved. -/
def QuietPast (past : List (Handled Services)) : Prop := Quiet (completed past)

def PersistedPast (past : List (Handled Services)) : Prop := Persisted (completed past)

/-- A preliminary call saves nothing of a verdict. -/
theorem quietPast_preliminary (past : List (Handled Services)) (c : Effect) (hc : Preliminary c)
    (h : QuietPast past) : PersistedPast past ∧ ∀ r, QuietPast (past ++ [⟨c, r⟩]) := by
  refine ⟨.quiet h, fun r => ?_⟩
  unfold QuietPast
  rw [completed_append]
  intro c' hc'
  refine (List.mem_append.1 hc').elim (h c') fun mem persists => ?_
  cases c with
  | store c =>
    obtain rfl : c' = c := List.mem_singleton.1 mem
    cases c' <;> first | exact hc | exact persists
  | _ => cases mem

theorem QuietPast.silent {past : List (Handled Services)} {c : Effect} (h : QuietPast past)
    (silent : ∀ r, completed [⟨c, r⟩] = []) (r : Services.Reply c) :
    QuietPast (past ++ [⟨c, r⟩]) := by
  unfold QuietPast
  rwa [completed_append, silent, List.append_nil]

namespace AuthorizationService

variable [Unicode] (svc : AuthorizationService) (listener : Bool)
  (transaction : TransactionRequest) {past : List (Handled Services)}

omit [Unicode] in
/-- The decision and its receipt, after the tokens that were issued. -/
theorem persist_passes {d : PolicyDecision} {calls tokens : List StoreCall} (quiet : Quiet calls)
    (issued : TokensOf d tokens) (here : completed past = calls ++ tokens)
    (before : PersistedPast past) (now : DateTime) (token : Option String) :
    Prog.Upholds (fun past _ => PersistedPast past) (fun past _ => PersistedPast past)
      (.call (Effect.store (.saveDecision d)) fun _ =>
        .call (Effect.store (.saveReceipt (receiptFor d now token))) fun _ =>
          .ret (d, receiptFor d now token) : Service (PolicyDecision × Receipt)) past := by
  have decided : PersistedPast (past ++ [⟨Effect.store (.saveDecision d), ()⟩]) := by
    unfold PersistedPast
    rw [completed_append, here]
    exact .decision quiet d issued
  have done : PersistedPast (past ++ [⟨Effect.store (.saveDecision d), ()⟩] ++
      [⟨Effect.store (.saveReceipt (receiptFor d now token)), ()⟩]) := by
    unfold PersistedPast
    rw [completed_append, completed_append, here, List.append_assoc _ (completed _)]
    exact .receipt quiet d issued now token
  exact ⟨before, fun _ => before, fun _ => ⟨decided, fun _ => decided, fun _ => done⟩⟩

omit [Unicode] in
theorem refuse_passes (h : QuietPast past) (now : DateTime) (stage : Stage)
    (detail reason : String) :
    (refuse listener transaction now stage detail reason).Upholds (fun past _ => PersistedPast past)
      (fun past _ => PersistedPast past) past := by
  simp only [refuse, Prog.perform_eq, Prog.call_bind, Prog.ret_bind]
  refine .bind_callsOnly (emit_preliminary ..) quietPast_preliminary (fun _ _ h => .quiet h) h
    fun past _ h => ?_
  refine ⟨.quiet h, fun _ => .quiet h, fun hex => ?_⟩
  have h := QuietPast.silent h (fun _ => rfl) hex
  exact persist_passes h .none (List.append_nil _).symm (.quiet h) _ _

theorem decideAndPersist_passes (h : QuietPast past) (now : DateTime) (actor : Actor)
    (plan : ValidatedEvidencePlan) (evidence : CanonicalEvidence)
    (context : Option ContextEvaluation) :
    (svc.decideAndPersist listener transaction now actor plan evidence context).Upholds
      (fun past _ => PersistedPast past) (fun past _ => PersistedPast past) past := by
  simp only [decideAndPersist, PolicyEngine.evaluate, Prog.perform_eq, Prog.call_bind,
    Prog.ret_bind, Prog.pure_eq]
  refine .bind_callsOnly (emit_preliminary ..) quietPast_preliminary (fun _ _ h => .quiet h) h
    fun past _ h => ?_
  refine ⟨.quiet h, fun _ => .quiet h, fun hex => ?_⟩
  have h := QuietPast.silent h (fun _ => rfl) hex
  refine ⟨.quiet h, fun _ => .quiet h, fun time => ?_⟩
  have h := QuietPast.silent h (fun _ => rfl) time
  refine ⟨.quiet h, fun _ => .quiet h, fun config => ?_⟩
  have h := QuietPast.silent h (fun _ => rfl) config
  refine .bind_callsOnly (emit_preliminary ..) quietPast_preliminary (fun _ _ h => .quiet h) h
    fun past _ h => ?_
  set decision := PolicyEngine.decide config (PolicyEngine.newDecisionId hex) time transaction
    actor evidence context svc.attestable (some plan.mandatory.toFinset)
  simp only [issueIfApproved, TokenService.issueToken, Prog.perform_eq, Prog.call_bind,
    Prog.ret_bind, Prog.pure_eq]
  split_ifs with approved
  · refine ⟨.quiet h, fun _ => .quiet h, fun issuedAt => ?_⟩
    have h := QuietPast.silent h (fun _ => rfl) issuedAt
    refine ⟨.quiet h, fun _ => .quiet h, fun drawn => ?_⟩
    have h := QuietPast.silent h (fun _ => rfl) drawn
    refine ⟨.quiet h, fun _ => .quiet h, fun _ => ?_⟩
    refine persist_passes h (.issued _ rfl approved) (completed_append ..) ?_ _ _
    unfold PersistedPast
    rw [completed_append]
    exact .token h _
  · exact persist_passes h .none (List.append_nil _).symm (.quiet h) _ _

/-- An authorization saves the token, the decision and the receipt in this order, and nothing of
them before. -/
theorem authorizeTransaction_passes :
    (svc.authorizeTransaction listener transaction).Upholds (fun past _ => PersistedPast past)
      (fun past _ => PersistedPast past) [] := by
  have start : QuietPast [] := by
    intro c hc
    cases hc
  exact Steps.authorizeTransaction (P := fun _ => QuietPast)
    { call := fun _ past c hc h => quietPast_preliminary past c hc.preliminary h
      advance := fun _ _ _ _ h => h
      raise := fun _ _ _ h => .quiet h
      refuse := fun stage _ now detail reason h =>
        refuse_passes listener transaction h now stage detail reason
      decide := fun _ now actor _ plan evidence context h _ _ =>
        svc.decideAndPersist_passes listener transaction h now actor plan evidence context } start

end AuthorizationService

/-! ## What a stop leaves -/

/-- Every stored token is for a stored approval, and every stored decision has its receipt. -/
structure NoOrphans (kv : Kv) (calls : List StoreCall) : Prop where
  tokens : ∀ t, .saveToken t ∈ calls →
    ∃ d, kv (.decisions t.decisionId) = some d ∧ d.decision = .approve
  receipts : ∀ d, .saveDecision d ∈ calls →
    ∃ r, kv (.receipts ("rcpt_" ++ d.decisionId)) = some r ∧ r.decisionId = d.decisionId

/-- The record that the call leaves for a later one is there already. -/
def OnRecord (kv : Kv) : StoreCall → Prop
  | .saveToken t => ∃ d, kv (.decisions t.decisionId) = some d ∧ d.decision = .approve
  | .saveDecision d =>
      ∃ r, kv (.receipts ("rcpt_" ++ d.decisionId)) = some r ∧ r.decisionId = d.decisionId
  | _ => True

theorem onRecord_of_not_persists {c : StoreCall} (hc : ¬ c.Persists) (kv : Kv) :
    OnRecord kv c := by
  cases c with
  | saveToken => exact absurd trivial hc
  | saveDecision => exact absurd trivial hc
  | _ => trivial

theorem Quiet.not_mem {calls : List StoreCall} (h : Quiet calls) {c : StoreCall}
    (hc : c.Persists) : c ∉ calls := fun mem => h c mem hc

/-- The tokens of a decision leave the decisions and the receipts alone. -/
theorem TokensOf.replay {d : PolicyDecision} {tokens : List StoreCall} (issued : TokensOf d tokens)
    (kv : Kv) (id : String) :
    replay kv tokens (.decisions id) = kv (.decisions id) ∧
      replay kv tokens (.receipts id) = kv (.receipts id) := by
  cases issued <;> exact ⟨rfl, rfl⟩

theorem Quiet.mem_append {calls tokens last : List StoreCall} (quiet : Quiet calls) {c : StoreCall}
    (mem : c ∈ calls ++ tokens ++ last) (hc : c.Persists) : c ∈ tokens ∨ c ∈ last := by
  rw [List.mem_append, List.mem_append] at mem
  exact mem.imp_left fun mem => mem.resolve_left (quiet.not_mem hc)

/-- The tokens that are saved before a decision are for that decision. -/
theorem TokensOf.of_mem {d : PolicyDecision} {calls tokens last : List StoreCall}
    (issued : TokensOf d tokens) (quiet : Quiet calls) {t : ScopedAuthorizationToken}
    (none : .saveToken t ∉ last) (mem : .saveToken t ∈ calls ++ tokens ++ last) :
    t.decisionId = d.decisionId ∧ d.decision = .approve := by
  have mem := (quiet.mem_append mem trivial).resolve_right none
  cases issued with
  | none => cases mem
  | issued t' names approved =>
    cases List.mem_singleton.1 mem
    exact ⟨names, approved⟩

/-- Only one decision is saved. -/
theorem TokensOf.decision_of_mem {d d' : PolicyDecision} {calls tokens last : List StoreCall}
    (issued : TokensOf d tokens) (quiet : Quiet calls)
    (mem : .saveDecision d' ∈ calls ++ tokens ++ last) : .saveDecision d' ∈ last := by
  refine (quiet.mem_append mem trivial).resolve_left fun mem => ?_
  cases issued with
  | none => cases mem
  | issued => cases List.mem_singleton.1 mem

/-- A stop after the save of the token. -/
theorem noOrphans_token_iff {calls : List StoreCall} (quiet : Quiet calls)
    (t : ScopedAuthorizationToken) (kv : Kv) :
    NoOrphans (replay kv (calls ++ [.saveToken t])) (calls ++ [.saveToken t]) ↔
      OnRecord kv (.saveToken t) := by
  have decisions : replay kv (calls ++ [.saveToken t]) (.decisions t.decisionId) =
      kv (.decisions t.decisionId) := by
    rw [replay_append]
    exact (quiet.replay kv _).1
  constructor
  · intro orphans
    rw [OnRecord, ← decisions]
    exact orphans.tokens t (List.mem_append_right _ (List.mem_singleton.2 rfl))
  · intro onRecord
    refine ⟨fun t' mem => ?_, fun d mem => ?_⟩
    · rcases List.mem_append.1 mem with mem | mem
      · exact absurd mem (quiet.not_mem trivial)
      · cases List.mem_singleton.1 mem
        rw [decisions]
        exact onRecord
    · rcases List.mem_append.1 mem with mem | mem
      · exact absurd mem (quiet.not_mem trivial)
      · cases List.mem_singleton.1 mem

/-- A stop after the save of the decision. -/
theorem noOrphans_decision_iff {calls tokens : List StoreCall} (quiet : Quiet calls)
    {d : PolicyDecision} (issued : TokensOf d tokens) (kv : Kv) :
    NoOrphans (replay kv (calls ++ tokens ++ [.saveDecision d]))
        (calls ++ tokens ++ [.saveDecision d]) ↔ OnRecord kv (.saveDecision d) := by
  have decisions : replay kv (calls ++ tokens ++ [.saveDecision d]) (.decisions d.decisionId) =
      some d := by
    rw [replay_append]
    exact (StoreCall.saveDecision_decisions ..).trans (if_pos rfl)
  have receipts (id : String) : replay kv (calls ++ tokens ++ [.saveDecision d]) (.receipts id) =
      kv (.receipts id) := by
    rw [replay_append, replay_append]
    exact (issued.replay _ _).2.trans (quiet.replay kv _).2
  constructor
  · intro orphans
    rw [OnRecord, ← receipts]
    exact orphans.receipts d (List.mem_append_right _ (List.mem_singleton.2 rfl))
  · intro onRecord
    refine ⟨fun t mem => ?_, fun d' mem => ?_⟩
    · obtain ⟨names, approved⟩ := issued.of_mem quiet (by simp) mem
      exact ⟨d, names ▸ decisions, approved⟩
    · cases List.mem_singleton.1 (issued.decision_of_mem quiet mem)
      rw [receipts]
      exact onRecord

/-- A stop after the save of the receipt. -/
theorem noOrphans_receipt {calls tokens : List StoreCall} (quiet : Quiet calls)
    {d : PolicyDecision} (issued : TokensOf d tokens) (now : DateTime) (token : Option String)
    (kv : Kv) :
    let calls := calls ++ tokens ++
      [.saveDecision d, .saveReceipt (AuthorizationService.receiptFor d now token)]
    NoOrphans (replay kv calls) calls := by
  intro saves
  have decisions : replay kv saves (.decisions d.decisionId) = some d := by
    rw [replay_append]
    exact (StoreCall.saveDecision_decisions ..).trans (if_pos rfl)
  have receipts : replay kv saves (.receipts ("rcpt_" ++ d.decisionId)) =
      some (AuthorizationService.receiptFor d now token) := by
    rw [replay_append]
    exact (StoreCall.saveReceipt_receipts ..).trans (if_pos rfl)
  refine ⟨fun t mem => ?_, fun d' mem => ?_⟩
  · obtain ⟨names, approved⟩ := issued.of_mem quiet (by simp) mem
    exact ⟨d, names ▸ decisions, approved⟩
  · obtain rfl : d' = d := by simpa using issued.decision_of_mem quiet mem
    exact ⟨_, receipts, rfl⟩

theorem Persisted.noOrphans_iff {calls : List StoreCall} (h : Persisted calls) (kv : Kv) :
    NoOrphans (replay kv calls) calls ↔ ∀ c, calls.getLast? = some c → OnRecord kv c := by
  cases h with
  | quiet quiet =>
    refine iff_of_true ⟨fun t mem => ?_, fun d mem => ?_⟩ fun c last => ?_
    · exact absurd mem (quiet.not_mem trivial)
    · exact absurd mem (quiet.not_mem trivial)
    · exact onRecord_of_not_persists (quiet c (List.mem_of_getLast? last)) kv
  | token quiet t =>
    rw [List.getLast?_concat, noOrphans_token_iff quiet]
    exact ⟨fun onRecord c last => Option.some.inj last ▸ onRecord, fun h => h _ rfl⟩
  | decision quiet d issued =>
    rw [List.getLast?_concat, noOrphans_decision_iff quiet issued]
    exact ⟨fun onRecord c last => Option.some.inj last ▸ onRecord, fun h => h _ rfl⟩
  | receipt quiet d issued now token =>
    refine iff_of_true (noOrphans_receipt quiet issued now token kv) fun c last => ?_
    rw [List.getLast?_append_of_ne_nil _ (by simp)] at last
    cases last
    trivial

/-! ## Runs -/

/-- An authorization on its own, with the number of store calls made so far. -/
abbrev Authorizing := Pool Services ServiceError (PolicyDecision × Receipt) (World × ℕ) Unit

/-- The authorization, about to start. -/
def authorizing [Unicode] (svc : AuthorizationService) (listener : Bool)
    (transaction : TransactionRequest) (w : World) : Authorizing where
  threads _ := svc.authorizeTransaction listener transaction
  state := (w, 0)

section Runs

variable {fails : ℕ → Option String} {env : Env} {peers : Peers}

/-- The contents are those that the completed store calls leave. -/
theorem Authorizing.replayed (c : Authorizing) (schedule : List Unit) :
    (c.run (fun _ => handleFailing fails env peers) schedule).state.1.kv =
      replay c.state.1.kv
        (completed (history () (c.trace (fun _ => handleFailing fails env peers) schedule))) := by
  refine Pool.trace_induct (P := fun (s : World × ℕ) trace =>
    s.1.kv = replay c.state.1.kv (completed (history () trace))) rfl ?_ schedule
  rintro ⟨w, n⟩ trace ⟨⟩ op here
  cases op with
  | store call =>
    cases hn : fails n with
    | some message =>
      rw [history_snoc_error (e := ⟨(), _, _, _⟩) (x := .store message)]
      · simpa only [handleFailing, hn] using here
      · simp only [handleFailing, hn]
    | none =>
      rw [history_snoc_ok (e := ⟨(), _, _, _⟩) (r := call.answer w.kv) rfl]
      · rw [completed_append, replay_append, ← here]
        simp only [handleFailing, hn]
        rfl
      · simp only [handleFailing, hn]
        rfl
  | _ =>
    rw [history_snoc_ok (e := ⟨(), _, _, _⟩) rfl rfl, completed_append, replay_append, ← here]
    rfl

/-- However an authorization is stopped, it leaves no orphan exactly when the last store call it
completed is neither the save of a token nor that of a decision, or the store had an approval or a
receipt under the new identifier before. -/
theorem stopped_leaves_no_orphan_iff [Unicode] (svc : AuthorizationService) (env : Env)
    (peers : Peers) (fails : ℕ → Option String) (w : World) (listener : Bool)
    (transaction : TransactionRequest) (n : ℕ) :
    let start := authorizing svc listener transaction w
    let calls := completed (history ()
      (start.trace (fun _ => handleFailing fails env peers) (List.replicate n ())))
    NoOrphans (start.run (fun _ => handleFailing fails env peers) (List.replicate n ())).state.1.kv
        calls ↔
      ∀ c, calls.getLast? = some c → OnRecord w.kv c := by
  intro start calls
  have passes : PersistedPast (history ()
      (start.trace (fun _ => handleFailing fails env peers) (List.replicate n ()))) :=
    (Pool.upholds_run (fun _ => svc.authorizeTransaction_passes listener transaction) _).passes
      (Q := fun _ => PersistedPast) ()
  rw [Authorizing.replayed]
  exact Persisted.noOrphans_iff passes w.kv

end Runs

/-! ## A token without a decision -/

/-- The seventh store call of the release, the save of its decision, raises. -/
def decisionFails (n : ℕ) : Option String := if n = 6 then some "disk I/O error" else none

/-- The release, run until it is stopped by the store. -/
def stoppedRelease : Authorizing :=
  (@authorizing Sample.unicode Sample.service false Sample.general Sample.world).run
    (fun _ => handleFailing decisionFails Sample.env Sample.peers) (List.replicate 30 ())

def stoppedReleaseCalls : List StoreCall :=
  completed (history ()
    ((@authorizing Sample.unicode Sample.service false Sample.general Sample.world).trace
      (fun _ => handleFailing decisionFails Sample.env Sample.peers) (List.replicate 30 ())))

/-- The decision that a saved token is for. -/
def tokenFor : StoreCall → Option String
  | .saveToken t => some t.decisionId
  | _ => none

/-- The token of the release is stored, and no decision for it. -/
theorem stopped_with_orphan : ¬ NoOrphans stoppedRelease.state.1.kv stoppedReleaseCalls := by
  intro orphans
  have saved : "dec_000000000000" ∈ stoppedReleaseCalls.filterMap tokenFor := by decide +kernel
  have absent : stoppedRelease.state.1.kv (.decisions "dec_000000000000") = none := by
    decide +kernel
  obtain ⟨c, mem, names⟩ := List.mem_filterMap.1 saved
  cases c with
  | saveToken t =>
    obtain ⟨d, found, -⟩ := orphans.tokens t mem
    rw [Option.some.inj names, absent] at found
    cases found
  | _ => cases names

end ZoneGate
