import ZoneGate.Authorization.Calls
import ZoneGate.Library.CheckThenAct

/-!
# Resolutions that overlap

A resolution reads the hold in one store call and writes the verdict back in another.  As long as
no verdict is written between the read and the write of another request, overlapping resolutions of
one hold succeed one at most, and the verdict that is stored stands.
-/

namespace ZoneGate

open Py Effects AuthorizationService

section Resolutions

variable {ι : Type} {svc : AuthorizationService} {env : Env} {peers : ι → Peers}
  {decisionId : String} {hold : PolicyDecision} {i : ι}

/-- The decision that is stored: the hold until a verdict is saved, then one with a verdict, which
only a hold without one can get. -/
structure OneHold (decisionId : String) (hold : PolicyDecision) (s : Logged World ι Effect)
    (current : PolicyDecision) : Prop where
  stored : s.state.kv (.decisions decisionId) = some current
  named : current.decisionId = decisionId
  untouched : (∀ e ∈ s.log, ¬ IsSaveDecision e.2) → current = hold
  resolved : (∃ e ∈ s.log, IsSaveDecision e.2) →
    hold.resolution = none ∧ current.resolution ≠ none

/-- The invariant of overlapping resolutions: every save came after a read that was before all
saves, and no request saves twice. -/
structure ResolutionsInv (decisionId : String) (hold : PolicyDecision) (s : Logged World ι Effect) :
    Prop where
  guarded : Guarded IsGetDecision IsSaveDecision s.log
  once : WritesOnce IsSaveDecision s.log
  one : ∃ current, OneHold decisionId hold s current

def resolutionContract (decisionId : String) (hold : PolicyDecision) (i : ι) :
    Contract (Logged World ι Effect) :=
  .logging (ResolutionsInv decisionId hold) (fun _ => True) i

/-- A request that succeeds has saved its verdict. -/
def ResolutionPost {α : Type} (i : ι) (r : Except ServiceError α) (s : Logged World ι Effect) :
    Prop :=
  (∃ a, r = .ok a) → Wrote IsSaveDecision i s.log

theorem ResolutionsInv.call {s : Logged World ι Effect} (h : ResolutionsInv decisionId hold s)
    {e : Effect} (he : ¬ IsSaveDecision e) {w : World}
    (same : w.kv (.decisions decisionId) = s.state.kv (.decisions decisionId)) :
    ResolutionsInv decisionId hold ⟨w, s.log ++ [(i, e)]⟩ := by
  obtain ⟨current, one⟩ := h.one
  have old (saved : ∃ e' ∈ s.log ++ [(i, e)], IsSaveDecision e'.2) :
      ∃ e' ∈ s.log, IsSaveDecision e'.2 := by
    obtain ⟨e', mem, saved⟩ := saved
    rcases List.mem_append.1 mem with mem | mem
    · exact ⟨e', mem, saved⟩
    · rw [List.mem_singleton.1 mem] at saved
      exact absurd saved he
  refine ⟨h.guarded.snoc fun saved => absurd saved he, h.once.snoc fun saved => absurd saved he,
    current, ?_, one.named, fun quiet => ?_, fun saved => ?_⟩
  · exact same.trans one.stored
  · exact one.untouched fun e' mem => quiet e' (List.mem_append_left _ mem)
  · exact one.resolved (old saved)

/-- What follows the save of the verdict saves no decision any more. -/
theorem afterVerdict_safe {d : PolicyDecision} {outcome : DecisionOutcome}
    {resolvedBy note : String} {now : DateTime} {s : Logged World ι Effect}
    (wrote : Wrote IsSaveDecision i s.log) :
    Safe (handleLogged env peers i) (resolutionContract decisionId hold i) (ResolutionPost i)
      (svc.afterVerdict d outcome resolvedBy note now) s := by
  refine (Safe.of_callsOnly (P := fun s => Wrote IsSaveDecision i s.log)
    (svc.afterVerdict_quiet d outcome resolvedBy note now) ?_ ?_ wrote).mono
      fun _ _ _ h _ => h
  · rintro s s' ⟨more, hlog, -⟩ - h
    rw [hlog, wrote_append]
    exact .inl h
  · exact fun e s he inv h => ⟨trivial, inv.call he (handle_decisions _ _ he ..),
      ⟨[(i, e)], rfl, by simp⟩, wrote_append.2 (.inl h)⟩

/-- The save of a verdict, by a request that read the hold before anything was saved. -/
theorem saveVerdict_safe {outcome : DecisionOutcome} {resolvedBy note : String} {now : DateTime}
    {s : Logged World ι Effect} (named : hold.decisionId = decisionId)
    (unresolved : hold.resolution = none) (pending : ¬ Wrote IsSaveDecision i s.log)
    (first : ReadFirst IsGetDecision IsSaveDecision i s.log) :
    Safe (handleLogged env peers i) (resolutionContract decisionId hold i) (ResolutionPost i)
      (.call (Effect.store (.saveDecision (resolve hold outcome resolvedBy note now)))
        fun _ => svc.afterVerdict hold outcome resolvedBy note now) s := by
  refine safe_call_logging fun s' rely inv =>
    ⟨trivial, (), s'.state.after (.saveDecision _), rfl, ?_, afterVerdict_safe ?_⟩
  · refine ⟨inv.guarded.snoc fun _ => first.rely rely,
      inv.once.snoc fun _ => not_wrote_rely rely pending,
      resolve hold outcome resolvedBy note now, ?_, named, fun quiet => ?_, fun _ => ?_⟩
    · exact (StoreCall.saveDecision_decisions ..).trans (if_pos named.symm)
    · exact absurd trivial (quiet _ (List.mem_append_right _ List.mem_cons_self))
    · exact ⟨unresolved, nofun⟩
  · exact wrote_append.2 (.inr (wrote_singleton.2 ⟨rfl, trivial⟩))

theorem resolveHold_safe [Unicode] (outcome : DecisionOutcome) (resolvedBy note : String)
    (role : Option String) {s : Logged World ι Effect} (pending : ¬ Wrote IsSaveDecision i s.log) :
    Safe (handleLogged env peers i) (resolutionContract decisionId hold i) (ResolutionPost i)
      (svc.resolveHold decisionId outcome resolvedBy note role) s := by
  have readsOnly : ¬ IsSaveDecision (.store (.getDecision decisionId)) := not_false
  have clock : ¬ IsSaveDecision .utcnow := not_false
  rw [AuthorizationService.resolveHold]
  simp only [Prog.perform_eq, Prog.call_bind, Prog.ret_bind]
  refine safe_call_logging fun s₁ rely₁ inv₁ => ⟨trivial, _, _, rfl, inv₁.call readsOnly rfl, ?_⟩
  have pending₁ := not_wrote_snoc (not_wrote_rely rely₁ pending) readsOnly
  obtain ⟨current, one⟩ := inv₁.one
  rw [show (StoreCall.getDecision decisionId).answer s₁.state.kv = some current from one.stored]
  dsimp only
  rcases he : ineligible decisionId current outcome role with _ | e
  swap
  · rintro s' - - ⟨a, ha⟩
    cases ha
  -- the hold is read without a verdict, so none was saved before
  have unresolved := (ineligible_eq_none.1 he).2.1
  have quiet : ∀ e ∈ s₁.log, ¬ IsSaveDecision e.2 :=
    fun e mem saved => (one.resolved ⟨e, mem, saved⟩).2 unresolved
  obtain rfl := one.untouched quiet
  have first : ReadFirst IsGetDecision IsSaveDecision i
      (s₁.log ++ [(i, .store (.getDecision decisionId))]) := readFirst_snoc trivial quiet
  dsimp only
  rw [settleHold_eq]
  refine safe_call_logging fun s₂ rely₂ inv₂ => ⟨trivial, _, _, rfl, inv₂.call clock rfl, ?_⟩
  exact saveVerdict_safe one.named unresolved (not_wrote_snoc (not_wrote_rely rely₂ pending₁) clock)
    ((first.rely rely₂).append _)

end Resolutions

/-! ## Runs -/

section Runs

variable {ι : Type} [DecidableEq ι] [Unicode] (svc : AuthorizationService) (env : Env)
  (peers : ι → Peers)

/-- What a request to resolve a hold says. -/
structure Resolving where
  outcome : DecisionOutcome
  resolvedBy : String
  note : String
  resolverRole : Option String

/-- Resolutions of one decision, about to start. -/
def resolutions (decisionId : String) (requests : ι → Resolving) (w : World) :
    Requests (PolicyDecision × Receipt) ι where
  threads i := svc.resolveHold decisionId (requests i).outcome (requests i).resolvedBy
    (requests i).note (requests i).resolverRole
  state := ⟨w, []⟩

/-- The request has returned, without an exception. -/
def HasResolved (c : Requests (PolicyDecision × Receipt) ι) (i : ι) : Prop :=
  ∃ verdict, c.threads i = .ret verdict

/-- The resolution that is stored on a decision. -/
def Kv.resolution (kv : Kv) (decisionId : String) : Option HoldResolution :=
  (kv (.decisions decisionId)).bind (·.resolution)

/-- In every state of the run one request has succeeded at most, and a resolution that is stored
is there in every later state. -/
structure OneVerdict (decisionId : String) (start : Requests (PolicyDecision × Receipt) ι)
    (schedule : List ι) : Prop where
  once : ∀ first last, schedule = first ++ last → ∀ i j,
    HasResolved (start.run (handleLogged env peers) first) i →
      HasResolved (start.run (handleLogged env peers) first) j → i = j
  stands : ∀ first next last, schedule = first ++ next ++ last → ∀ r,
    (start.run (handleLogged env peers) first).state.state.kv.resolution decisionId = some r →
      (start.run (handleLogged env peers) (first ++ next)).state.state.kv.resolution decisionId =
        some r

variable {w : World} {decisionId : String} {hold : PolicyDecision}

theorem resolutions_safe (stored : w.kv.Stored) (found : w.kv (.decisions decisionId) = some hold)
    (requests : ι → Resolving) (schedule : List ι) :
    Pool.AllSafe (handleLogged env peers) (resolutionContract decisionId hold) ResolutionPost
      ((resolutions svc decisionId requests w).run (handleLogged env peers) schedule) := by
  have named : hold.decisionId = decisionId := stored.keyed (.decisions decisionId) hold found
  have start : ResolutionsInv decisionId hold (⟨w, []⟩ : Logged World ι Effect) :=
    ⟨guarded_nil, writesOnce_nil, hold, found, named, fun _ => rfl, by simp⟩
  have ready : Pool.AllSafe (handleLogged env peers) (resolutionContract decisionId hold)
      ResolutionPost (resolutions svc decisionId requests w) :=
    fun i => ⟨start, resolveHold_safe _ _ _ _ (by simp [resolutions, Wrote])⟩
  exact Pool.safe_run_logging ready schedule

/-- A resolution that is stored stays, as long as no verdict is saved between the read and the save
of another request. -/
theorem resolution_stands (stored : w.kv.Stored) (found : w.kv (.decisions decisionId) = some hold)
    (requests : ι → Resolving) (first next : List ι)
    (apart : ¬ Overtaken IsGetDecision IsSaveDecision ((resolutions svc decisionId requests w).run
      (handleLogged env peers) (first ++ next)).state.log) {r : HoldResolution}
    (settled : ((resolutions svc decisionId requests w).run
      (handleLogged env peers) first).state.state.kv.resolution decisionId = some r) :
    ((resolutions svc decisionId requests w).run
      (handleLogged env peers) (first ++ next)).state.state.kv.resolution decisionId = some r := by
  rcases next with _ | ⟨i, next⟩
  · rwa [List.append_nil]
  have safe := resolutions_safe svc env peers stored found requests
  have before : ResolutionsInv decisionId hold _ := (safe first i).1
  have after : ResolutionsInv decisionId hold _ := (safe (first ++ i :: next) i).1
  rw [Pool.run_append] at apart after ⊢
  obtain ⟨more, hlog, same⟩ := Pool.logged_run IsSaveDecision (fun w => w.kv.resolution decisionId)
    (fun i _ w he => congrArg (Option.bind · _) (handle_decisions env (peers i) he w _))
    ((resolutions svc decisionId requests w).run (handleLogged env peers) first) (i :: next)
  refine (same fun e mem saved => ?_).trans settled
  obtain ⟨_, one⟩ := after.one
  have unresolved : hold.resolution = none :=
    (one.resolved ⟨e, hlog ▸ List.mem_append_right _ mem, saved⟩).1
  -- the stored verdict is not the hold's own, so it was saved, and what was saved is not overtaken
  obtain ⟨current, one⟩ := before.one
  by_cases quiet : ∀ e ∈ ((resolutions svc decisionId requests w).run
      (handleLogged env peers) first).state.log, ¬ IsSaveDecision e.2
  · rw [Kv.resolution, one.stored, one.untouched quiet, Option.bind_some, unresolved] at settled
    cases settled
  push Not at quiet
  obtain ⟨⟨k, c⟩, wrote, hc⟩ := quiet
  obtain ⟨mid, last, rfl⟩ := List.append_of_mem mem
  rw [← List.append_assoc] at hlog
  exact not_wrote_before after.guarded after.once apart hlog saved k
    ⟨c, hc, List.mem_append_left mid wrote⟩

/-- Overlapping resolutions of a decision settle it once and for all, in every run in which no
verdict is saved between the read and the save of another request. -/
theorem one_verdict (stored : w.kv.Stored) (found : w.kv (.decisions decisionId) = some hold)
    (requests : ι → Resolving) (schedule : List ι)
    (apart : ¬ Overtaken IsGetDecision IsSaveDecision
      ((resolutions svc decisionId requests w).run (handleLogged env peers) schedule).state.log) :
    OneVerdict env peers decisionId (resolutions svc decisionId requests w) schedule := by
  have safe := resolutions_safe svc env peers stored found requests
  -- a part of such a run is such a run
  have part (first last : List ι) (eq : schedule = first ++ last) :
      ¬ Overtaken IsGetDecision IsSaveDecision
        ((resolutions svc decisionId requests w).run (handleLogged env peers) first).state.log := by
    intro overtaken
    obtain ⟨more, hlog⟩ := Pool.log_run (fun i => handle env (peers i))
      ((resolutions svc decisionId requests w).run (handleLogged env peers) first) last
    refine apart ?_
    rw [eq, Pool.run_append, hlog]
    exact overtaken.append more
  refine ⟨fun first last eq i j hi hj => ?_, fun first next last eq r hr => ?_⟩
  · by_contra hij
    refine part first last eq ?_
    obtain ⟨a, ha⟩ := hi
    obtain ⟨b, hb⟩ := hj
    exact (exists_two_writers_iff (safe first i).1.guarded).1
      ⟨i, j, hij, (safe first).of_ret ha ⟨a, rfl⟩, (safe first).of_ret hb ⟨b, rfl⟩⟩
  · exact resolution_stands svc env peers stored found requests first next (part _ last eq) hr

end Runs

/-- An officer approves the hold, another denies it. -/
def twoOfficers (approves : Bool) : Resolving where
  outcome := if approves then .approve else .deny
  resolvedBy := if approves then "Officer" else "Auditor"
  note := ""
  resolverRole := some "SAFETY_OFFICER"

/-- The two resolutions of the hold, about to start. -/
def twoVerdicts : Requests (PolicyDecision × Receipt) Bool :=
  @resolutions Bool Sample.unicode Sample.service "dec_000000000000" twoOfficers Sample.held

/-- The two resolutions, run by a schedule. -/
def twoVerdictsRun (schedule : List Bool) : Requests (PolicyDecision × Receipt) Bool :=
  twoVerdicts.run (handleLogged Sample.env fun _ => Sample.peers) schedule

/-- What is stored as the outcome of the hold. -/
def storedVerdict (schedule : List Bool) : Option DecisionOutcome :=
  ((twoVerdictsRun schedule).state.state.kv.resolution "dec_000000000000").map (·.outcome)

theorem twoVerdicts_found : ∃ hold, Sample.held.kv (.decisions "dec_000000000000") = some hold ∧
    hold.decision = .hold ∧ hold.resolution = none := by
  have found : (Sample.held.kv (.decisions "dec_000000000000")).map
      (fun hold => (hold.decision, hold.resolution)) = some (.hold, none) := by decide +kernel
  obtain ⟨hold, stored, eq⟩ := Option.map_eq_some_iff.1 found
  exact ⟨hold, stored, (Prod.mk.inj eq).1, (Prod.mk.inj eq).2⟩

/-- The second officer reads the verdict of the first, and stops. -/
theorem twoVerdicts_apart : ¬ Overtaken IsGetDecision IsSaveDecision
    (twoVerdictsRun [true, true, true, false, false]).state.log := by
  intro overtaken
  obtain ⟨i, k, differ, order⟩ := overtaken.threads
  have callers : (twoVerdictsRun [true, true, true, false, false]).state.log.map
      Prod.fst = [true, true, true, false] := by decide +kernel
  rw [callers] at order
  revert i k
  decide

theorem one_verdict_officers :
    OneVerdict Sample.env (fun _ => Sample.peers) "dec_000000000000" twoVerdicts
      [true, true, true, false, false] := by
  obtain ⟨hold, found, -⟩ := twoVerdicts_found
  have apart := twoVerdicts_apart
  unfold twoVerdictsRun twoVerdicts at apart
  unfold twoVerdicts
  exact @one_verdict Bool _ Sample.unicode Sample.service Sample.env (fun _ => Sample.peers) _ _ _
    Sample.held_stored found twoOfficers [true, true, true, false, false] apart

/-- Both read the hold before either saves its verdict: both succeed, and the denial replaces the
approval. -/
theorem resolved_twice :
    let schedule := [true, false, true, true, false, false] ++ List.replicate 6 true ++
      List.replicate 2 false
    (∃ hold, Sample.held.kv (.decisions "dec_000000000000") = some hold ∧ hold.decision = .hold ∧
      hold.resolution = none) ∧
      HasResolved (twoVerdictsRun schedule) true ∧ HasResolved (twoVerdictsRun schedule) false ∧
      storedVerdict (schedule.take 4) = some .approve ∧ storedVerdict schedule = some .deny := by
  intro schedule
  have resolved (approves : Bool) : HasResolved (twoVerdictsRun schedule) approves := by
    have returned : ((twoVerdictsRun schedule).threads approves).returned.isSome = true := by
      revert approves
      decide +kernel
    obtain ⟨verdict, h⟩ := Option.isSome_iff_exists.1 returned
    exact ⟨verdict, Prog.eq_ret_of_returned h⟩
  exact ⟨twoVerdicts_found, resolved true, resolved false, by decide +kernel, by decide +kernel⟩

end ZoneGate
