import ZoneGate.Authorization.Ledger

/-!
# Where tokens come from

Every token in the registry belongs to a decision that approves, by the engine or by a person, and
no decision has two.  `Sound` is the invariant of the ledger behind it; each thing a request can do
keeps it, as long as the identifiers drawn are fresh.
-/

namespace ZoneGate

open Py Effects

/-! ## Fresh identifiers -/

/-- The identifiers drawn differ, already in the digits that a decision id keeps. -/
def Fresh (drawn : List String) : Prop := (drawn.map PolicyEngine.newDecisionId).Nodup

theorem Fresh.of_suffix {drawn drawn' : List String} (h : Fresh drawn') (hs : drawn <:+ drawn') :
    Fresh drawn := h.sublist (hs.sublist.map _)

theorem Fresh.decisionId_ne {drawn : List String} {hex hex' : String} (h : Fresh (hex :: drawn))
    (hex'_mem : hex' ∈ drawn) : PolicyEngine.newDecisionId hex ≠ PolicyEngine.newDecisionId hex' :=
  fun e => (List.nodup_cons.1 h).1 (e ▸ List.mem_map_of_mem hex'_mem)

theorem Fresh.tokenId_ne {drawn : List String} {hex hex' : String} (h : Fresh (hex :: drawn))
    (hex'_mem : hex' ∈ drawn) : TokenService.newTokenId hex ≠ TokenService.newTokenId hex' := by
  intro e
  refine h.decisionId_ne hex'_mem (congrArg _ ?_)
  simpa [TokenService.newTokenId] using e

theorem Ledger.Step.drawn_suffix [Unicode] {l l' : Ledger} {request : Request}
    {answer : Except ServiceError Answer} (h : l.Step request answer l') : l.drawn <:+ l'.drawn := by
  cases h with
  | withheld => exact List.suffix_cons ..
  | approved => exact (List.suffix_cons ..).trans (List.suffix_cons ..)
  | released => exact List.suffix_cons ..
  | unfinished | denied | stranded | claimed | idle => exact List.suffix_rfl

/-! ## The invariant -/

/-- The engine approved, or it held and a person approved. -/
def Approved (d : PolicyDecision) : Prop :=
  d.decision = .approve ∨
    d.decision = .hold ∧ ∃ resolution, d.resolution = some resolution ∧
      resolution.outcome = .approve

/-- Records are kept under the identifiers drawn for them; every token is that of an approved
decision, and of no other token's. -/
structure Sound (l : Ledger) : Prop where
  decisions_named : ∀ id d, l.decisions id = some d → d.decisionId = id
  decisions_drawn : ∀ id d, l.decisions id = some d →
    ∃ hex ∈ l.drawn, id = PolicyEngine.newDecisionId hex
  tokens_named : ∀ id t, l.tokens id = some t → t.tokenId = id
  tokens_drawn : ∀ id t, l.tokens id = some t → ∃ hex ∈ l.drawn, id = TokenService.newTokenId hex
  earned : ∀ id t, l.tokens id = some t → ∃ d, l.decisions t.decisionId = some d ∧ Approved d
  single : ∀ id id' t t', l.tokens id = some t → l.tokens id' = some t' →
    t.decisionId = t'.decisionId → id = id'

namespace Sound

variable {l : Ledger}

/-- Transactions and receipts have no part in it. -/
theorem of_eq {l' : Ledger} (h : Sound l) (drawn : l'.drawn = l.drawn)
    (decisions : l'.decisions = l.decisions) (tokens : l'.tokens = l.tokens) : Sound l' := by
  cases l
  cases l'
  cases drawn
  cases decisions
  cases tokens
  exact ⟨h.decisions_named, h.decisions_drawn, h.tokens_named, h.tokens_drawn, h.earned, h.single⟩

theorem decision_unused (h : Sound l) {hex : String} (fresh : Fresh (hex :: l.drawn)) :
    l.decisions (PolicyEngine.newDecisionId hex) = none := by
  rcases hd : l.decisions (PolicyEngine.newDecisionId hex) with _ | d
  · rfl
  · obtain ⟨hex', mem, e⟩ := h.decisions_drawn _ d hd
    exact absurd e (fresh.decisionId_ne mem)

theorem token_unused (h : Sound l) {hex : String} (fresh : Fresh (hex :: l.drawn)) :
    l.tokens (TokenService.newTokenId hex) = none := by
  rcases ht : l.tokens (TokenService.newTokenId hex) with _ | t
  · rfl
  · obtain ⟨hex', mem, e⟩ := h.tokens_drawn _ t ht
    exact absurd e (fresh.tokenId_ne mem)

/-- A decision that no token names may be recorded, under a new identifier or in the place of what
is on record under its own. -/
theorem withDecision (h : Sound l) {d : PolicyDecision}
    (drawn : ∃ hex ∈ l.drawn, d.decisionId = PolicyEngine.newDecisionId hex)
    (free : ∀ id t, l.tokens id = some t → t.decisionId ≠ d.decisionId) :
    Sound (l.withDecision d) := by
  refine ⟨fun id d' hd => ?_, fun id d' hd => ?_, h.tokens_named, h.tokens_drawn,
    fun id t ht => ?_, h.single⟩
  · rw [Ledger.withDecision_decisions] at hd
    split_ifs at hd with hid
    · cases hd
      exact hid.symm
    · exact h.decisions_named id d' hd
  · rw [Ledger.withDecision_decisions] at hd
    split_ifs at hd with hid
    · rw [hid]
      exact drawn
    · exact h.decisions_drawn id d' hd
  · rw [Ledger.withDecision_decisions, if_neg (free id t ht)]
    exact h.earned id t ht

theorem draw (h : Sound l) (hex : String) : Sound (l.draw hex) := by
  refine ⟨h.decisions_named, fun id d hd => ?_, h.tokens_named, fun id t ht => ?_, h.earned,
    h.single⟩
  · obtain ⟨hex', mem, e⟩ := h.decisions_drawn id d hd
    exact ⟨hex', List.mem_cons_of_mem _ mem, e⟩
  · obtain ⟨hex', mem, e⟩ := h.tokens_drawn id t ht
    exact ⟨hex', List.mem_cons_of_mem _ mem, e⟩

/-- The token of an approved decision may be recorded if no other token is that decision's. -/
theorem withToken (h : Sound l) {t : ScopedAuthorizationToken} {d : PolicyDecision}
    (drawn : ∃ hex ∈ l.drawn, t.tokenId = TokenService.newTokenId hex)
    (stored : l.decisions t.decisionId = some d) (approved : Approved d)
    (only : ∀ id t', l.tokens id = some t' → t'.decisionId = t.decisionId → id = t.tokenId) :
    Sound (l.withToken t) := by
  refine ⟨h.decisions_named, h.decisions_drawn, fun id t' ht => ?_, fun id t' ht => ?_,
    fun id t' ht => ?_, fun id id' t₁ t₂ h₁ h₂ e => ?_⟩
  · rw [Ledger.withToken_tokens] at ht
    split_ifs at ht with hid
    · cases ht
      exact hid.symm
    · exact h.tokens_named id t' ht
  · rw [Ledger.withToken_tokens] at ht
    split_ifs at ht with hid
    · rw [hid]
      exact drawn
    · exact h.tokens_drawn id t' ht
  · rw [Ledger.withToken_tokens] at ht
    split_ifs at ht with hid
    · cases ht
      exact ⟨d, stored, approved⟩
    · exact h.earned id t' ht
  · rw [Ledger.withToken_tokens] at h₁ h₂
    split_ifs at h₁ h₂ with hid hid' hid'
    · exact hid.trans hid'.symm
    · cases h₁
      exact hid.trans (only id' t₂ h₂ e.symm).symm
    · cases h₂
      exact (only id t₁ h₁ e).trans hid'.symm
    · exact h.single id id' t₁ t₂ h₁ h₂ e

/-- A token names a decision that is on record, so none names a new one. -/
theorem free_of_unused (h : Sound l) {decisionId : String} (unused : l.decisions decisionId = none)
    (id : String) (t : ScopedAuthorizationToken) (ht : l.tokens id = some t) :
    t.decisionId ≠ decisionId := by
  obtain ⟨d, hd, -⟩ := h.earned id t ht
  intro e
  rw [e, unused] at hd
  cases hd

/-- No token names a hold that is still open. -/
theorem free_of_open [Unicode] (h : Sound l) {decisionId : String} {outcome : DecisionOutcome}
    {role : Option String} {d : PolicyDecision} (isOpen : Open l decisionId outcome role d)
    (id : String) (t : ScopedAuthorizationToken) (ht : l.tokens id = some t) :
    t.decisionId ≠ d.decisionId := by
  obtain ⟨d', hd', approved⟩ := h.earned id t ht
  obtain ⟨hold, pending, -⟩ := AuthorizationService.ineligible_eq_none.1 isOpen.eligible
  intro e
  rw [e, h.decisions_named _ _ isOpen.stored, isOpen.stored] at hd'
  cases hd'
  rcases approved with approve | ⟨-, resolution, hr, -⟩
  · rw [hold] at approve
    cases approve
  · rw [pending] at hr
    cases hr

/-- A resolution takes the place of the hold it resolves. -/
theorem withResolution [Unicode] (h : Sound l) {decisionId : String} {outcome : DecisionOutcome}
    {role : Option String} {d : PolicyDecision} (isOpen : Open l decisionId outcome role d)
    (verdict : DecisionOutcome) (resolvedBy note : String) (now : DateTime) :
    Sound (l.withDecision (AuthorizationService.resolve d verdict resolvedBy note now)) := by
  refine h.withDecision ?_ fun id t ht => h.free_of_open isOpen id t ht
  obtain ⟨hex, mem, e⟩ := h.decisions_drawn _ _ isOpen.stored
  exact ⟨hex, mem, (h.decisions_named _ _ isOpen.stored).trans e⟩

/-- Every request keeps the invariant. -/
theorem step [Unicode] {l' : Ledger} {request : Request} {answer : Except ServiceError Answer}
    (h : Sound l) (step : l.Step request answer l') (fresh : Fresh l'.drawn) : Sound l' := by
  cases step with
  | withheld id =>
    have h' := (h.draw _).withDecision ⟨_, List.mem_cons_self, id⟩
      (h.free_of_unused (id ▸ h.decision_unused fresh))
    exact h'.of_eq rfl rfl rfl
  | @approved _ tx d t hex hex' _ id _ _ approve tokenId names =>
    have unused := id ▸ h.decision_unused (fresh.of_suffix (List.suffix_cons hex' _))
    have free := h.free_of_unused unused
    have h' := ((h.draw hex).draw hex').withDecision ⟨hex, by simp [Ledger.draw], id⟩ free
    refine (h'.withToken (t := t) ⟨hex', List.mem_cons_self, tokenId⟩ (d := d) ?_ (.inl approve)
      fun id' t' ht e => absurd (e.trans names) (free id' t' ht)).of_eq rfl rfl rfl
    simp [names]
  | unfinished => exact h.of_eq rfl rfl rfl
  | denied isOpen => exact (h.withResolution isOpen ..).of_eq rfl rfl rfl
  | @released decisionId by' note role d tx t hex now isOpen _ tokenId names =>
    have hold := (AuthorizationService.ineligible_eq_none.1 isOpen.eligible).1
    have free := h.free_of_open isOpen
    have h' := (h.withResolution isOpen .approve by' note now).draw hex
    refine (h'.withToken (t := t) ⟨hex, List.mem_cons_self, tokenId⟩
      (d := AuthorizationService.resolve d .approve by' note now) ?_ (.inr ⟨hold, _, rfl, rfl⟩)
      fun id' t' ht e => absurd (e.trans names) (free id' t' ht)).of_eq rfl rfl rfl
    change (l.withDecision _).decisions _ = _
    rw [Ledger.withDecision_decisions]
    exact if_pos names
  | stranded isOpen => exact h.withResolution isOpen ..
  | @claimed identifier key _ _ t _ stored =>
    obtain ⟨d, hd, approved⟩ := h.earned key t stored
    have named := h.tokens_named key t stored
    obtain ⟨hex, mem, e⟩ := h.tokens_drawn key t stored
    exact h.withToken ⟨hex, mem, named.trans e⟩ hd approved fun id' t' ht e =>
      (h.single id' key t' t ht stored e).trans named.symm
  | idle => exact h

end Sound

/-! ## Runs -/

section Runs

variable [Unicode] (svc : AuthorizationService) (env : Env) (peers : ℕ → Peers)

omit [Unicode] in
theorem sound_start (config : PolicyConfig) : Sound (Served.start config).world.ledger := by
  constructor <;> intros <;> contradiction

/-- One request of a run is one step of the ledger. -/
theorem Served.ledger_step {s : Served} (stored : s.world.kv.Stored) (request : Request) :
    ∃ answer, (s.step svc env peers request).history = (request, answer) :: s.history ∧
      s.world.ledger.Step request answer (s.step svc env peers request).world.ledger :=
  ⟨_, rfl, request.ledger_step svc env (peers s.history.length) stored.keyed⟩

/-- A prefix of a run has drawn fewer identifiers. -/
theorem Served.serve_drawn (s : Served) (stored : s.world.kv.Stored) (requests : List Request) :
    s.world.drawn <:+ (s.serve svc env peers requests).world.drawn := by
  induction requests generalizing s with
  | nil => exact List.suffix_rfl
  | cons request requests ih =>
    obtain ⟨answer, -, step⟩ := s.ledger_step svc env peers stored request
    exact step.drawn_suffix.trans (ih _ (run_stored _ stored))

theorem Served.fresh_prefix {config : PolicyConfig} {requests before after : List Request}
    (fresh : Fresh ((Served.start config).serve svc env peers requests).world.drawn)
    (eq : requests = before ++ after) :
    Fresh ((Served.start config).serve svc env peers before).world.drawn := by
  rw [eq, Served.serve_append] at fresh
  exact fresh.of_suffix (Served.serve_drawn svc env peers _
    (Served.serve_stored svc env peers .empty before) after)

theorem Served.serve_sound (config : PolicyConfig) (requests : List Request) :
    let s := (Served.start config).serve svc env peers requests
    Fresh s.world.drawn → Sound s.world.ledger := by
  refine (Served.serve_keeps svc env peers (P := fun s => s.world.kv.Stored ∧
    (Fresh s.world.drawn → Sound s.world.ledger)) (fun s request ⟨stored, sound⟩ => ?_)
    ⟨.empty, fun _ => sound_start config⟩ requests).2
  refine ⟨run_stored _ stored, fun fresh => ?_⟩
  obtain ⟨answer, -, step⟩ := s.ledger_step svc env peers stored request
  exact (sound (fresh.of_suffix step.drawn_suffix)).step step fresh

/-- What every request on a sound ledger keeps holds after every run. -/
theorem Served.serve_induct {Q : Ledger → List Exchange → Prop} {config : PolicyConfig}
    (start : Q (Served.start config).world.ledger [])
    (step : ∀ l history request answer l', Sound l → Q l history → l.Step request answer l' →
      Fresh l'.drawn → Q l' ((request, answer) :: history)) (requests : List Request)
    (fresh : Fresh ((Served.start config).serve svc env peers requests).world.drawn) :
    let s := (Served.start config).serve svc env peers requests
    Q s.world.ledger s.history := by
  induction requests using List.reverseRecOn with
  | nil => exact start
  | append_singleton requests request ih =>
    have before := fresh_prefix svc env peers fresh rfl
    have stored := serve_stored svc env peers (s := Served.start config) .empty requests
    obtain ⟨answer, hhistory, hstep⟩ := ledger_step svc env peers stored request
    rw [serve_snoc] at fresh ⊢
    dsimp only
    rw [hhistory]
    exact step _ _ _ _ _ (serve_sound svc env peers config requests before) (ih before) hstep fresh

/-- What every request on a sound ledger keeps exactly under a condition holds in all states of a
run exactly when all its requests meet the condition. -/
theorem Served.ledger_always_iff {G : Ledger → List Exchange → Prop}
    {C : Ledger → List Exchange → Request → Prop} {config : PolicyConfig}
    (start : G (Served.start config).world.ledger []) (requests : List Request)
    (fresh : Fresh ((Served.start config).serve svc env peers requests).world.drawn)
    (step_iff : ∀ before request answer l',
      let s := (Served.start config).serve svc env peers before
      Fresh s.world.drawn → Sound s.world.ledger → G s.world.ledger s.history →
        s.world.ledger.Step request answer l' → Fresh l'.drawn →
          (G l' ((request, answer) :: s.history) ↔ C s.world.ledger s.history request)) :
    (∀ before after, requests = before ++ after →
        let s := (Served.start config).serve svc env peers before
        G s.world.ledger s.history) ↔
      ∀ before request after, requests = before ++ request :: after →
        let s := (Served.start config).serve svc env peers before
        C s.world.ledger s.history request := by
  refine Served.always_iff svc env peers (G := fun s => G s.world.ledger s.history)
    (C := fun s request => C s.world.ledger s.history request) start
    fun before request after eq good => ?_
  have stored := Served.serve_stored svc env peers (s := Served.start config) .empty before
  have fresh' := Served.fresh_prefix svc env peers fresh
    (show requests = (before ++ [request]) ++ after by rw [eq, List.append_assoc]; rfl)
  rw [Served.serve_snoc] at fresh'
  obtain ⟨answer, hhistory, step⟩ := Served.ledger_step svc env peers stored request
  have fresh'' := fresh'.of_suffix step.drawn_suffix
  rw [hhistory]
  exact step_iff before request answer _ fresh''
    (Served.serve_sound svc env peers config before fresh'') good step fresh'

/-- Every token in the registry names a stored decision that the engine approved, or held and a
person approved: never a DENY, a pending HOLD or a HOLD that was denied.  No two tokens name the
same decision. -/
theorem tokens_have_provenance (config : PolicyConfig) (requests : List Request)
    (fresh : Fresh ((Served.start config).serve svc env peers requests).world.drawn) :
    let kv := ((Served.start config).serve svc env peers requests).world.kv
    (∀ id t, kv (.tokens id) = some t → ∃ d, kv (.decisions t.decisionId) = some d ∧
      (d.decision = .approve ∨ d.decision = .hold ∧ ∃ resolution,
        d.resolution = some resolution ∧ resolution.outcome = .approve)) ∧
    (∀ id t d, kv (.tokens id) = some t → kv (.decisions t.decisionId) = some d →
      d.decision ≠ .deny ∧ ¬ (d.decision = .hold ∧ d.resolution = none) ∧
      ¬ (d.decision = .hold ∧ ∃ resolution, d.resolution = some resolution ∧
        resolution.outcome = .deny)) ∧
    ∀ id id' t t', kv (.tokens id) = some t → kv (.tokens id') = some t' →
      t.decisionId = t'.decisionId → id = id' := by
  have sound := Served.serve_sound svc env peers config requests fresh
  refine ⟨sound.earned, fun id t d ht hd => ?_, sound.single⟩
  obtain ⟨d', hd', approved⟩ := sound.earned id t ht
  obtain rfl := Option.some.inj (hd.symm.trans hd')
  rcases approved with approve | ⟨hold, resolution, hr, approve⟩
  · simp [approve]
  · simp [hold, hr, approve]

end Runs

/-- A hold that is approved, and its token claimed. -/
def releasedRequests : List Request :=
  [.enroll Sample.operator, .bindDevice Sample.binding,
    .authorize false (Sample.hazardous "r"),
    .resolve "dec_000000000000" .approve "Officer" "" (some "SAFETY_OFFICER"),
    .claim "tok_000000000001" { action := some "RELEASE_CARGO" }]

theorem tokens_have_provenance_released :
    let kv := (Sample.served releasedRequests).world.kv
    (kv (.tokens "tok_000000000001")).isSome = true ∧
      ∀ id id' t t', kv (.tokens id) = some t → kv (.tokens id') = some t' →
        t.decisionId = t'.decisionId → id = id' := by
  have fresh : Fresh (Sample.served releasedRequests).world.drawn := by
    unfold Fresh
    decide +kernel
  refine ⟨by decide +kernel, ?_⟩
  unfold Sample.served at fresh ⊢
  exact (@tokens_have_provenance Sample.unicode Sample.service Sample.env (fun _ => Sample.peers)
    PolicyConfig.default releasedRequests fresh).2.2

end ZoneGate
