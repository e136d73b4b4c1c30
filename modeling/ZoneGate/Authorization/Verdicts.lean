import ZoneGate.Authorization.Calls
import ZoneGate.Library.Ownership

/-!
# The verdict of the engine stands

Requests of all kinds overlap, call by call.  A request makes one decision at most, and saves it
once; or it saves a decision that it has read, with a resolution attached.  So what the engine
decided is never rewritten, and a resolution is only ever put on a hold, by a role that may.
-/

namespace ZoneGate

open Py Effects

section Verdicts

variable [Unicode] {ι : Type}

/-! ## The discipline -/

/-- What a request may attach to a decision kept under an identifier: to a hold, the verdict, the
resolver and the note of the request, if the role it passes holds the authority. -/
def Request.MaySettle (request : Request) (id : String) (d : PolicyDecision) (r : HoldResolution) :
    Prop :=
  d.decision = .hold ∧ (r.outcome = .approve ∨ r.outcome = .deny) ∧
    ∃ role, request = .resolve id r.outcome r.resolvedBy r.note role ∧
      ∀ passed, role = some passed → holdsAuthority (some passed) d.requiredAuthority = true

/-- Request `i` owns the right to make one decision, and knows the decisions it has read, each with
the key it has read it under.  It saves a new decision once, or a decision it knows, with a
resolution that it may attach. -/
def decisionDiscipline (i : ι) (request : Request) :
    Discipline Services ι (String × PolicyDecision) where
  may c known spent := ∀ d, c = .store (.saveDecision d) →
    (d.resolution = none ∧ i ∈ spent) ∨
      ∃ id d₀ r, (id, d₀) ∈ known ∧ d.core = d₀.core ∧ d.resolution = some r ∧
        request.MaySettle id d r
  learns
    | .store (.getDecision id), found => {fact | found.map (id, ·) = some fact}
    | _, _ => ∅
  mono c known known' spent more may d hd := by
    rcases may d hd with new | ⟨id, d₀, r, mem, rest⟩
    · exact .inl new
    · exact .inr ⟨id, d₀, r, more mem, rest⟩

/-- Anybody may make the calls that save no decision. -/
theorem may_of_quiet (i : ι) (request : Request) (e : Effect)
    (known : Set (String × PolicyDecision)) (he : ¬ IsSaveDecision e) :
    (decisionDiscipline i request).may e known ∅ := by
  rintro d rfl
  exact absurd trivial he

theorem may_of_preliminary (i : ι) (request : Request) (e : Effect)
    (known : Set (String × PolicyDecision)) (he : Preliminary e) :
    (decisionDiscipline i request).may e known ∅ := by
  rintro d rfl
  exact he.elim

/-! ## Programs that keep to it -/

namespace AuthorizationService

variable (svc : AuthorizationService) {i : ι} (request : Request)
  {known : Set (String × PolicyDecision)}

/-- The save of a new decision and of its receipt. -/
theorem persist_obeys {α : Type} {d : PolicyDecision} (new : d.resolution = none)
    (receipt : Receipt) (a : α) :
    Prog.Obeys (decisionDiscipline i request)
      (.call (Effect.store (.saveDecision d)) fun _ =>
        .call (Effect.store (.saveReceipt receipt)) fun _ => .ret a : Service α) {i} known := by
  refine ⟨{i}, subset_rfl, ?_, fun _ => ?_⟩
  · rintro d' eq
    cases eq
    exact .inl ⟨new, rfl⟩
  · exact Prog.obeys_free (may_of_quiet i request _ _ not_false) fun _ => trivial

theorem refuse_obeys (listener : Bool) (transaction : TransactionRequest) (now : DateTime)
    (stage : Stage) (detail reason : String) :
    (refuse listener transaction now stage detail reason).Obeys (decisionDiscipline i request) {i}
      known := by
  have quiet := may_of_quiet i request
  have preliminary := may_of_preliminary i request
  simp only [refuse, Prog.perform_eq, Prog.call_bind, Prog.ret_bind]
  refine .bind_free preliminary (emit_preliminary ..) fun _ => ?_
  refine Prog.obeys_free (quiet _ _ not_false) fun hex => ?_
  exact persist_obeys request rfl _ _

theorem decideAndPersist_obeys (listener : Bool) (transaction : TransactionRequest)
    (now : DateTime) (actor : Actor) (plan : ValidatedEvidencePlan) (evidence : CanonicalEvidence)
    (context : Option ContextEvaluation) :
    (svc.decideAndPersist listener transaction now actor plan evidence context).Obeys
      (decisionDiscipline i request) {i} known := by
  have quiet := may_of_quiet i request
  have preliminary := may_of_preliminary i request
  simp only [decideAndPersist, PolicyEngine.evaluate, Prog.perform_eq, Prog.call_bind,
    Prog.ret_bind, Prog.pure_eq]
  refine .bind_free preliminary (emit_preliminary ..) fun _ => ?_
  refine Prog.obeys_free (quiet _ _ not_false) fun hex => ?_
  refine Prog.obeys_free (quiet _ _ not_false) fun time => ?_
  refine Prog.obeys_free (quiet _ _ not_false) fun config => ?_
  refine .bind_free preliminary (emit_preliminary ..) fun _ => ?_
  refine .bind_free quiet (svc.issueIfApproved_quiet ..) fun token => ?_
  obtain ⟨outcome, reasons, authority, shape⟩ := PolicyEngine.decide_shape config
    (PolicyEngine.newDecisionId hex) time transaction actor evidence svc.attestable
    (some plan.mandatory.toFinset)
  rw [shape]
  exact persist_obeys request rfl _ _

theorem collectAndDecide_obeys (listener : Bool) (transaction : TransactionRequest)
    (now : DateTime) (actor : Actor) (binding : DeviceBinding) (plan : ValidatedEvidencePlan) :
    (svc.collectAndDecide listener transaction now actor binding plan).Obeys
      (decisionDiscipline i request) {i} known := by
  have quiet := may_of_quiet i request
  have preliminary := may_of_preliminary i request
  simp only [collectAndDecide, Prog.perform_eq, Prog.call_bind, Prog.ret_bind]
  refine Prog.obeys_free (quiet _ _ not_false) fun _ => ?_
  refine .bind_free preliminary (emit_preliminary ..) fun _ => ?_
  refine .bind_free preliminary (emit_preliminary ..) fun _ => ?_
  refine .bind_free (fun _ _ he => preliminary _ _ he.preliminary)
    (collectEvidence_atStage _ _ _ _ _ .evidence) fun outcome => ?_
  rcases outcome with (message | message | message) | evidence
  · exact refuse_obeys ..
  · exact refuse_obeys ..
  · exact refuse_obeys ..
  · refine Prog.obeys_free (quiet _ _ not_false) fun _ => ?_
    refine .bind_free preliminary (emit_preliminary ..) fun _ => ?_
    refine .bind_free (fun _ _ he => preliminary _ _ he.preliminary)
      (svc.assessContext_atStage ..) fun context => ?_
    exact svc.decideAndPersist_obeys request ..

theorem planAndCollect_obeys (listener : Bool) (transaction : TransactionRequest)
    (now : DateTime) (actor : Actor) (binding : DeviceBinding) :
    (svc.planAndCollect listener transaction now actor binding).Obeys (decisionDiscipline i request)
      {i} known := by
  have preliminary := may_of_preliminary i request
  unfold planAndCollect
  rcases getWorkflowPolicy transaction.action with message | policy
  · exact refuse_obeys ..
  refine .bind_free (fun _ _ he => preliminary _ _ he.preliminary)
    (svc.planEvidence_atStage ..) fun proposed => ?_
  refine .bind_free preliminary (emit_preliminary ..) fun _ => ?_
  rcases validate svc.attestable transaction.action proposed with (m | m | m) | plan
  · trivial
  · exact refuse_obeys ..
  · exact refuse_obeys ..
  · exact svc.collectAndDecide_obeys request ..

theorem authorizeTransaction_obeys (listener : Bool) (transaction : TransactionRequest) :
    (svc.authorizeTransaction listener transaction).Obeys (decisionDiscipline i request) {i}
      known := by
  have quiet := may_of_quiet i request
  have preliminary := may_of_preliminary i request
  simp only [authorizeTransaction, Prog.perform_eq, Prog.call_bind, Prog.ret_bind]
  refine Prog.obeys_free (quiet _ _ not_false) fun now => ?_
  refine Prog.obeys_free (quiet _ _ not_false) fun _ => ?_
  refine .bind_free preliminary (emit_preliminary ..) fun _ => ?_
  refine Prog.obeys_free (quiet _ _ not_false) fun actor => ?_
  rcases actor with _ | actor
  · exact refuse_obeys ..
  refine Prog.obeys_free (quiet _ _ not_false) fun binding => ?_
  rcases binding with _ | binding
  · exact refuse_obeys ..
  · refine .bind_free preliminary (emit_preliminary ..) fun _ => ?_
    exact svc.planAndCollect_obeys request ..

/-- A resolution saves the decision it has read, if that is a hold open to its role. -/
theorem resolveHold_obeys (decisionId : String) (outcome : DecisionOutcome)
    (resolvedBy note : String) (role : Option String) :
    (svc.resolveHold decisionId outcome resolvedBy note role).Obeys
      (decisionDiscipline i (.resolve decisionId outcome resolvedBy note role)) {i} known := by
  have quiet := may_of_quiet i (.resolve decisionId outcome resolvedBy note role)
  rw [resolveHold]
  simp only [Prog.perform_eq, Prog.call_bind, Prog.ret_bind]
  refine Prog.obeys_call (quiet _ _ not_false) fun found => ?_
  rcases found with _ | d
  · trivial
  dsimp only
  rcases he : ineligible decisionId d outcome role with _ | e
  swap
  · trivial
  obtain ⟨isHold, -, authority, decides⟩ := ineligible_eq_none.1 he
  have verdict : outcome = .approve ∨ outcome = .deny := by
    cases outcome with
    | approve => exact .inl rfl
    | hold => exact absurd rfl decides
    | deny => exact .inr rfl
  dsimp only
  rw [settleHold_eq]
  refine Prog.obeys_free (quiet _ _ not_false) fun now => ?_
  refine Prog.obeys_call ?_ fun _ => .of_free quiet (svc.afterVerdict_quiet ..)
  rintro _ eq
  cases eq
  refine .inr ⟨decisionId, d, _, .inr rfl, rfl, rfl, ?_⟩
  exact ⟨isHold, verdict, role, rfl, authority⟩

end AuthorizationService

theorem Request.program_obeys (svc : AuthorizationService) (i : ι) (request : Request) :
    (request.program svc).Obeys (decisionDiscipline i request) {i} ∅ := by
  have quiet := may_of_quiet i request
  cases request with
  | authorize listener transaction =>
    exact (svc.authorizeTransaction_obeys _ listener transaction).bind fun _ => trivial
  | resolve decisionId outcome resolvedBy note role =>
    exact (svc.resolveHold_obeys decisionId outcome resolvedBy note role).bind fun _ => trivial
  | claim tokenIdentifier expected =>
    exact .bind_free quiet (svc.claimToken_quiet tokenIdentifier expected) fun _ => trivial
  | enroll actor => exact Prog.obeys_free (quiet _ _ not_false) fun _ => trivial
  | bindDevice binding => exact Prog.obeys_free (quiet _ _ not_false) fun _ => trivial
  | configure config =>
    exact Prog.obeys_free (quiet _ _ not_false) fun _ =>
      Prog.obeys_free (quiet _ _ not_false) fun _ => trivial

/-! ## What the calls keep -/

/-- Request `i` has made the decision. -/
def Made (log : List (ι × Effect)) (i : ι) (d : PolicyDecision) : Prop :=
  (i, Effect.store (.saveDecision d)) ∈ log ∧ d.resolution = none

/-- No two requests make decisions with one identifier, and no decision had it at the start. -/
structure FreshDecisions (kv : Kv) (log : List (ι × Effect)) : Prop where
  apart : ∀ i j d d', Made log i d → Made log j d' → d.decisionId = d'.decisionId → i = j
  new : ∀ i d, Made log i d → kv (.decisions d.decisionId) = none

omit [Unicode] in
theorem Made.append {log : List (ι × Effect)} {i : ι} {d : PolicyDecision} (h : Made log i d)
    (more : List (ι × Effect)) : Made (log ++ more) i d :=
  ⟨List.mem_append_left _ h.1, h.2⟩

omit [Unicode] in
theorem made_snoc {log : List (ι × Effect)} {i j : ι} {e : Effect} {d : PolicyDecision} :
    Made (log ++ [(j, e)]) i d ↔
      Made log i d ∨ (j = i ∧ e = .store (.saveDecision d) ∧ d.resolution = none) := by
  simp only [Made, List.mem_append, List.mem_singleton, Prod.mk.injEq, eq_comm (a := j),
    eq_comm (a := e)]
  tauto

omit [Unicode] in
theorem FreshDecisions.of_append {kv : Kv} {log more : List (ι × Effect)}
    (h : FreshDecisions kv (log ++ more)) : FreshDecisions kv log :=
  ⟨fun i j d d' hd hd' => h.apart i j d d' (hd.append more) (hd'.append more),
    fun i d hd => h.new i d (hd.append more)⟩

section Kept

variable {w₀ : World} {requests : ι → Request}

/-- Decisions are kept under their own identifiers, and were there at the start or were made since;
a resolution was there at the start, or a request has saved it; and whatever resolution a request has
saved is one that it may attach. -/
structure Settled (w₀ : World) (requests : ι → Request) (s : Logged World ι Effect) : Prop where
  named : ∀ id d, s.state.kv (.decisions id) = some d → d.decisionId = id
  made : ∀ id d, s.state.kv (.decisions id) = some d →
    w₀.kv (.decisions id) ≠ none ∨ ∃ i d', Made s.log i d' ∧ d'.decisionId = id
  lawful : ∀ id d r, s.state.kv (.decisions id) = some d → d.resolution = some r →
    (∃ d₀, w₀.kv (.decisions id) = some d₀ ∧ d₀.resolution = some r) ∨
      ∃ i, (i, Effect.store (.saveDecision d)) ∈ s.log
  saved : ∀ i d r, (i, Effect.store (.saveDecision d)) ∈ s.log → d.resolution = some r →
    (requests i).MaySettle d.decisionId d r

/-- The right to make a decision lasts until one is made; a decision is still known while one with
the same core is stored. -/
def decisionReading (w₀ : World) (requests : ι → Request) :
    Reading (Logged World ι Effect) ι (String × PolicyDecision) where
  live s := {i | ∀ d, ¬ Made s.log i d}
  holds s := {fact | ∃ d, s.state.kv (.decisions fact.1) = some d ∧ d.core = fact.2.core}
  inv := Settled w₀ requests
  good s := FreshDecisions w₀.kv s.log

variable {env : Env} {peers : ι → Peers} {i : ι} {s : Logged World ι Effect} {spent : Set ι}

/-- What the discipline says about a decision that is saved: it replaces none with another core, its
identifier is one that was there or that is new, and its resolution is one that may be attached. -/
theorem save_lawful {d : PolicyDecision} {known : Set (String × PolicyDecision)}
    (may : (decisionDiscipline i (requests i)).may (.store (.saveDecision d)) known spent)
    (holds : known ⊆ (decisionReading w₀ requests).holds s)
    (live : spent ⊆ (decisionReading w₀ requests).live s) (inv : Settled w₀ requests s)
    (fresh : FreshDecisions w₀.kv (s.log ++ [(i, .store (.saveDecision d))])) :
    (∀ old, s.state.kv (.decisions d.decisionId) = some old → d.core = old.core) ∧
      (d.resolution = none ∧ i ∈ spent ∨
        d.resolution ≠ none ∧ s.state.kv (.decisions d.decisionId) ≠ none) ∧
      ∀ r, d.resolution = some r → (requests i).MaySettle d.decisionId d r := by
  rcases may d rfl with ⟨new, own⟩ | ⟨id, d₀, r, mem, core, resolution, settles⟩
  · have made : Made (s.log ++ [(i, .store (.saveDecision d))]) i d :=
      made_snoc.2 (.inr ⟨rfl, rfl, new⟩)
    refine ⟨fun old h => ?_, .inl ⟨new, own⟩, fun r h => by simp [new] at h⟩
    -- the identifier is neither one of the start nor one of another request's decision
    rcases inv.made _ old h with there | ⟨j, d', hd', same⟩
    · exact absurd (fresh.new i d made) there
    · obtain rfl := fresh.apart i j d d' made (hd'.append _) same.symm
      exact absurd hd' (live own d')
  · obtain ⟨old, stored, same⟩ := holds mem
    dsimp only at stored same
    have cores : d.core = old.core := core.trans same.symm
    have sameId : d.core.decisionId = old.core.decisionId := by rw [cores]
    obtain rfl : id = d.decisionId := (inv.named _ _ stored).symm.trans sameId.symm
    refine ⟨fun old' h => ?_, .inr ⟨by simp [resolution], by simp [stored]⟩, fun r' h => ?_⟩
    · rw [stored] at h
      cases h
      exact cores
    · rw [resolution] at h
      cases h
      exact settles

/-- The save of a decision. -/
theorem kept_save {d : PolicyDecision} {known : Set (String × PolicyDecision)}
    (may : (decisionDiscipline i (requests i)).may (.store (.saveDecision d)) known spent)
    (holds : known ⊆ (decisionReading w₀ requests).holds s)
    (live : spent ⊆ (decisionReading w₀ requests).live s) (inv : Settled w₀ requests s)
    (fresh : FreshDecisions w₀.kv (s.log ++ [(i, .store (.saveDecision d))])) :
    Kept (decisionDiscipline i (requests i)) (decisionReading w₀ requests)
      (handleLogged env peers i) (.store (.saveDecision d)) s spent := by
  obtain ⟨sameCore, origin, lawful⟩ := save_lawful may holds live inv fresh
  have saved (id : String) : (s.state.after (.saveDecision d)).kv (.decisions id) =
      if id = d.decisionId then some d else s.state.kv (.decisions id) :=
    StoreCall.saveDecision_decisions ..
  have before (id : String) (old : PolicyDecision) (h : s.state.kv (.decisions id) = some old) :
      w₀.kv (.decisions id) ≠ none ∨
        ∃ j d', Made (s.log ++ [(i, .store (.saveDecision d))]) j d' ∧ d'.decisionId = id :=
    (inv.made id old h).imp_right fun ⟨j, d', hd', same⟩ => ⟨j, d', hd'.append _, same⟩
  refine ⟨⟨fun id d' h => ?_, fun id d' h => ?_, fun id d' r h hr => ?_, fun j d' r mem hr => ?_⟩,
    ?_, ?_, fun _ _ => Set.empty_subset _⟩
  · rcases ite_eq_iff.1 ((saved id).symm.trans h) with ⟨rfl, eq⟩ | ⟨-, eq⟩
    · cases eq
      rfl
    · exact inv.named id d' eq
  · rcases ite_eq_iff.1 ((saved id).symm.trans h) with ⟨rfl, -⟩ | ⟨-, eq⟩
    · rcases origin with ⟨new, -⟩ | ⟨-, there⟩
      · exact .inr ⟨i, d, made_snoc.2 (.inr ⟨rfl, rfl, new⟩), rfl⟩
      · obtain ⟨old, stored⟩ := Option.ne_none_iff_exists'.1 there
        exact before _ old stored
    · exact before id d' eq
  · rcases ite_eq_iff.1 ((saved id).symm.trans h) with ⟨rfl, eq⟩ | ⟨-, eq⟩
    · cases eq
      exact .inr ⟨i, List.mem_append_right _ (List.mem_singleton_self _)⟩
    · exact (inv.lawful id d' r eq hr).imp_right fun ⟨j, mem⟩ => ⟨j, List.mem_append_left _ mem⟩
  · rcases List.mem_append.1 mem with mem | mem
    · exact inv.saved j d' r mem hr
    · cases List.mem_singleton.1 mem
      exact lawful r hr
  · rintro ⟨id, d₀⟩ ⟨old, stored, same⟩
    by_cases hid : id = d.decisionId
    · subst hid
      exact ⟨d, (saved _).trans (if_pos rfl), (sameCore old stored).trans same⟩
    · exact ⟨old, ((saved _).trans (if_neg hid)).trans stored, same⟩
  · rintro j ⟨pending, unspent⟩ d' made
    rcases made_snoc.1 made with old | ⟨rfl, eq, new⟩
    · exact pending d' old
    · cases eq
      rcases origin with ⟨-, own⟩ | ⟨resolved, -⟩
      · exact unspent own
      · exact resolved new

/-- A call that leaves the decisions alone. -/
theorem kept_quiet {e : Effect} (he : ¬ IsSaveDecision e) (inv : Settled w₀ requests s)
    (learns : ∀ r, (handle env (peers i) e s.state).1 = .ok r →
      (decisionDiscipline i (requests i)).learns e r ⊆ (decisionReading w₀ requests).holds s) :
    Kept (decisionDiscipline i (requests i)) (decisionReading w₀ requests)
      (handleLogged env peers i) e s spent := by
  have same (id : String) := handle_decisions env (peers i) he s.state id
  have holds : (decisionReading w₀ requests).holds s ⊆
      (decisionReading w₀ requests).holds (handleLogged env peers i e s).2 :=
    fun _ ⟨d, stored, core⟩ => ⟨d, (same _).trans stored, core⟩
  refine ⟨⟨fun id d h => ?_, fun id d h => ?_, fun id d r h hr => ?_, fun j d r mem hr => ?_⟩, holds,
    ?_, fun r hr => (learns r hr).trans holds⟩
  · exact inv.named id d ((same id).symm.trans h)
  · exact (inv.made id d ((same id).symm.trans h)).imp_right
      fun ⟨j, d', hd', named⟩ => ⟨j, d', hd'.append _, named⟩
  · exact (inv.lawful id d r ((same id).symm.trans h) hr).imp_right
      fun ⟨j, mem⟩ => ⟨j, List.mem_append_left _ mem⟩
  · rcases List.mem_append.1 mem with mem | mem
    · exact inv.saved j d r mem hr
    · cases List.mem_singleton.1 mem
      exact absurd trivial he
  · rintro j ⟨pending, -⟩ d made
    rcases made_snoc.1 made with old | ⟨-, rfl, -⟩
    · exact pending d old
    · exact he trivial

theorem decisionDiscipline_keeps (w₀ : World) (requests : ι → Request) (env : Env)
    (peers : ι → Peers) (i : ι) : Keeps (decisionDiscipline i (requests i))
      (decisionReading w₀ requests) (handleLogged env peers i) := by
  refine ⟨fun e s good => FreshDecisions.of_append good,
    fun e s known spent may holds live inv good => ?_⟩
  cases e with
  | store c =>
    cases c with
    | saveDecision d => exact kept_save may holds live inv good
    | getDecision id =>
      refine kept_quiet not_false inv fun found eq => ?_
      cases eq
      rintro fact hfact
      obtain ⟨d, stored, rfl⟩ := Option.map_eq_some_iff.1 hfact
      exact ⟨d, stored, rfl⟩
    | _ => exact kept_quiet not_false inv fun _ _ => Set.empty_subset _
  | _ => exact kept_quiet not_false inv fun _ _ => Set.empty_subset _

end Kept

/-! ## Runs -/

section Runs

variable [DecidableEq ι] (svc : AuthorizationService) (env : Env) (peers : ι → Peers)

/-- Requests of all kinds, about to start. -/
def overlapping (requests : ι → Request) (w : World) : Requests Answer ι where
  threads i := (requests i).program svc
  state := ⟨w, []⟩

omit [DecidableEq ι] in
theorem owners_start {w : World} (stored : w.kv.Stored) (requests : ι → Request) :
    Pool.Owners (fun i => decisionDiscipline i (requests i)) (decisionReading w requests)
      (overlapping svc requests w) (fun i => {i}) (fun _ => ∅) where
  obeys i := (requests i).program_obeys svc i
  live i := by
    rintro j - d ⟨made, -⟩
    cases made
  holds _ := Set.empty_subset _
  apart i j hij r hi hj := hij (hi.symm.trans hj)
  inv :=
    { named := fun id d h => stored.keyed (.decisions id) d h
      made := fun _ d h => .inl (Option.ne_none_iff_exists'.2 ⟨d, h⟩)
      lawful := fun _ d _ h hr => .inl ⟨d, h, hr⟩
      saved := fun _ _ _ mem => by cases mem }

/-- In every interleaving, as long as the identifiers of the decisions made are fresh, a decision
that is stored stays, but for its resolution.  A resolution that was not there at the start was saved
by a request; and each save of a resolution is for a hold, by a request that resolves it with that
verdict, resolver and note, and whose role, if it passes one, holds the authority. -/
theorem verdicts_stand {w : World} (stored : w.kv.Stored) (requests : ι → Request)
    (schedule : List ι) (fresh : FreshDecisions w.kv
      ((overlapping svc requests w).run (handleLogged env peers) schedule).state.log) :
    let run := fun schedule : List ι =>
      (overlapping svc requests w).run (handleLogged env peers) schedule
    let after := fun schedule : List ι => (run schedule).state.state.kv
    let log := fun schedule : List ι => (run schedule).state.log
    (∀ first next last, schedule = first ++ next ++ last →
      ∀ id d, after first (.decisions id) = some d →
        ∃ d', after (first ++ next) (.decisions id) = some d' ∧ d'.core = d.core) ∧
      (∀ first last, schedule = first ++ last →
        ∀ id d r, after first (.decisions id) = some d → d.resolution = some r →
          (∃ d₀, w.kv (.decisions id) = some d₀ ∧ d₀.resolution = some r) ∨
            ∃ i, (i, Effect.store (.saveDecision d)) ∈ log first ∧
              (requests i).MaySettle id d r) ∧
      ∀ i d r, (i, Effect.store (.saveDecision d)) ∈ log schedule → d.resolution = some r →
        (requests i).MaySettle d.decisionId d r := by
  intro run after log
  have keeps (i : ι) := decisionDiscipline_keeps w requests env peers i
  have part (first last : List ι) (eq : schedule = first ++ last) : FreshDecisions w.kv
      ((overlapping svc requests w).run (handleLogged env peers) first).state.log := by
    rw [eq, Pool.run_append] at fresh
    exact Pool.good_of_run keeps last fresh
  have settled (first last : List ι) (eq : schedule = first ++ last) :
      Settled w requests (run first).state := by
    obtain ⟨⟨_, _, owners⟩, -⟩ := (owners_start svc stored requests).run keeps first
      (part first last eq)
    exact owners.inv
  refine ⟨fun first next last eq id d h => ?_, fun first last eq id d r h hr => ?_,
    (settled schedule [] (List.append_nil _).symm).saved⟩
  · have whole := part (first ++ next) last eq
    rw [Pool.run_append] at whole
    obtain ⟨⟨_, _, owners⟩, -⟩ := (owners_start svc stored requests).run keeps first
      (Pool.good_of_run keeps next whole)
    obtain ⟨d', h', core⟩ := (owners.run keeps next whole).2 (show (id, d) ∈ _ from ⟨d, h, rfl⟩)
    refine ⟨d', ?_, core⟩
    rwa [← Pool.run_append] at h'
  · have inv := settled first last eq
    refine (inv.lawful id d r h hr).imp_right fun ⟨i, mem⟩ => ⟨i, mem, ?_⟩
    rw [← inv.named id d h]
    exact inv.saved i d r mem hr

end Runs

end Verdicts

/-- A request that is held, and an officer who approves it. -/
def heldAndApproved (authorizes : Bool) : Request :=
  if authorizes then .authorize false (Sample.hazardous "r")
  else .resolve "dec_000000000000" .approve "Officer" "" (some "SAFETY_OFFICER")

/-- The two requests, run by a schedule. -/
def heldAndApprovedRun (schedule : List Bool) : Requests Answer Bool :=
  (@overlapping Sample.unicode Bool Sample.service heldAndApproved Sample.world).run
    (handleLogged Sample.env fun _ => Sample.peers) schedule

/-- The officer approves between the save of the hold and the save of its receipt. -/
def approvedEarly : List Bool :=
  List.replicate 13 true ++ List.replicate 3 false ++ [true] ++ List.replicate 6 false

/-- The identifiers of the new decisions that are saved, each with the request that saves it. -/
def madeIds {ι : Type} (log : List (ι × Effect)) : List (ι × String) :=
  log.filterMap fun
    | (i, .store (.saveDecision d)) => if d.resolution = none then some (i, d.decisionId) else none
    | _ => none

theorem Made.mem_madeIds {ι : Type} {log : List (ι × Effect)} {i : ι} {d : PolicyDecision}
    (h : Made log i d) : (i, d.decisionId) ∈ madeIds log :=
  List.mem_filterMap.2 ⟨_, h.1, if_pos h.2⟩

theorem approvedEarly_fresh :
    FreshDecisions Sample.world.kv (heldAndApprovedRun approvedEarly).state.log := by
  have made : madeIds (heldAndApprovedRun approvedEarly).state.log =
      [(true, "dec_000000000000")] := by decide +kernel
  have only (i : Bool) (d : PolicyDecision)
      (h : Made (heldAndApprovedRun approvedEarly).state.log i d) :
      i = true ∧ d.decisionId = "dec_000000000000" := by
    simpa [made] using h.mem_madeIds
  refine ⟨fun i j d d' h h' _ => (only i d h).1.trans (only j d' h').1.symm, fun i d h => ?_⟩
  rw [(only i d h).2]
  decide +kernel

theorem verdicts_stand_approved :
    let after := fun schedule => (heldAndApprovedRun schedule).state.state.kv
    let log := fun schedule => (heldAndApprovedRun schedule).state.log
    (∀ first next last, approvedEarly = first ++ next ++ last →
      ∀ id d, after first (.decisions id) = some d →
        ∃ d', after (first ++ next) (.decisions id) = some d' ∧ d'.core = d.core) ∧
      (∀ first last, approvedEarly = first ++ last →
        ∀ id d r, after first (.decisions id) = some d → d.resolution = some r →
          (∃ d₀, Sample.world.kv (.decisions id) = some d₀ ∧ d₀.resolution = some r) ∨
            ∃ i, (i, Effect.store (.saveDecision d)) ∈ log first ∧
              @Request.MaySettle Sample.unicode (heldAndApproved i) id d r) ∧
      ∀ i d r, (i, Effect.store (.saveDecision d)) ∈ log approvedEarly → d.resolution = some r →
        @Request.MaySettle Sample.unicode (heldAndApproved i) d.decisionId d r := by
  have fresh := approvedEarly_fresh
  unfold heldAndApprovedRun at fresh ⊢
  exact @verdicts_stand Sample.unicode Bool _ Sample.service Sample.env (fun _ => Sample.peers) _
    Sample.world_stored heldAndApproved approvedEarly fresh

end ZoneGate
