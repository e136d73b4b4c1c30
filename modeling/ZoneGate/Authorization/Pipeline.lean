import ZoneGate.Authorization.Calls
import ZoneGate.Library.Trace

/-!
# The pipeline as a whole

An authorization makes preliminary calls until it refuses the request or lets the engine decide.
`Steps.authorizeTransaction` is the rule for what an authorization upholds: it suffices to look at
the preliminary calls, at the refusal and at the verdict.
-/

namespace ZoneGate

open Py Effects

/-- The actor and the binding of the request have been read. -/
structure HasRead (transaction : TransactionRequest) (actor : Actor) (binding : DeviceBinding)
    (past : List (Handled Services)) : Prop where
  actor : ⟨Effect.store (.getActor transaction.actorId), some actor⟩ ∈ past
  binding : ⟨Effect.store (.getDeviceBinding transaction.actorId), some binding⟩ ∈ past

theorem HasRead.mono {transaction : TransactionRequest} {actor : Actor} {binding : DeviceBinding}
    {past past' : List (Handled Services)} (h : HasRead transaction actor binding past)
    (sub : past ⊆ past') : HasRead transaction actor binding past' :=
  ⟨sub h.actor, sub h.binding⟩

theorem HasRead.append {transaction : TransactionRequest} {actor : Actor} {binding : DeviceBinding}
    {past : List (Handled Services)} (h : HasRead transaction actor binding past)
    (more : List (Handled Services)) : HasRead transaction actor binding (past ++ more) :=
  h.mono (List.subset_append_left ..)

/-- Nothing is collected for a binding at odds with the actor. -/
theorem collectEvidence_mismatched (registry : List (String × Geofence)) {actor : Actor}
    {binding : DeviceBinding} (transaction : TransactionRequest) (plan : ValidatedEvidencePlan)
    (h : Mismatched actor binding) :
    ∃ e, (collectEvidence registry actor binding transaction plan).run = .ret (.error e) := by
  rcases hbinding : validateActorDeviceBinding actor binding with e | ⟨⟩
  · refine ⟨e, ?_⟩
    simp only [collectEvidence, hbinding]
    rfl
  · exact absurd h (validateActorDeviceBinding_eq_ok.1 hbinding)

namespace AuthorizationService

section Rule

variable [Unicode] (svc : AuthorizationService)
  {φ : List (Handled Services) → Effect → Prop}
  {ψ : List (Handled Services) → Except ServiceError (PolicyDecision × Receipt) → Prop}

/-- What is needed of the preliminary calls, the refusal and the verdict of a request, for an
assertion `P` on its history at each stage. -/
structure Steps (listener : Bool) (transaction : TransactionRequest)
    (φ : List (Handled Services) → Effect → Prop)
    (ψ : List (Handled Services) → Except ServiceError (PolicyDecision × Receipt) → Prop)
    (P : Stage → List (Handled Services) → Prop) : Prop where
  call : ∀ stage past c, AtStage stage c → P stage past → φ past c ∧ ∀ r, P stage (past ++ [⟨c, r⟩])
  advance : ∀ stage stage' past, stage.position ≤ stage'.position → P stage past → P stage' past
  raise : ∀ stage past e, P stage past → ψ past (.error e)
  refuse : ∀ stage past now detail reason, P stage past →
    (refuse listener transaction now stage detail reason).Upholds φ ψ past
  decide : ∀ past now actor binding plan evidence context, P .policy past →
    HasRead transaction actor binding past → ¬ Mismatched actor binding →
    (svc.decideAndPersist listener transaction now actor plan evidence context).Upholds φ ψ past

variable {svc} {listener : Bool} {transaction : TransactionRequest}
  {P : Stage → List (Handled Services) → Prop} {past : List (Handled Services)}
  {actor : Actor} {binding : DeviceBinding}

namespace Steps

/-- The assertion together with what has been read is kept as the assertion alone is. -/
theorem call_read (h : Steps svc listener transaction φ ψ P) (actor : Actor)
    (binding : DeviceBinding) (stage : Stage) (past : List (Handled Services)) (c : Effect)
    (hc : AtStage stage c)
    (hP : P stage past ∧ HasRead transaction actor binding past) :
    φ past c ∧ ∀ r, P stage (past ++ [⟨c, r⟩]) ∧
      HasRead transaction actor binding (past ++ [⟨c, r⟩]) :=
  ⟨(h.call stage past c hc hP.1).1, fun r => ⟨(h.call stage past c hc hP.1).2 r, hP.2.append _⟩⟩

theorem raise_read (h : Steps svc listener transaction φ ψ P) (actor : Actor)
    (binding : DeviceBinding) (stage : Stage) (past : List (Handled Services)) (e : ServiceError)
    (hP : P stage past ∧ HasRead transaction actor binding past) : ψ past (.error e) :=
  h.raise stage past e hP.1

theorem advance_read (h : Steps svc listener transaction φ ψ P) {stage : Stage} (stage' : Stage)
    (later : stage.position ≤ stage'.position)
    (hP : P stage past ∧ HasRead transaction actor binding past) :
    P stage' past ∧ HasRead transaction actor binding past :=
  ⟨h.advance _ _ _ later hP.1, hP.2⟩

theorem collectAndDecide (h : Steps svc listener transaction φ ψ P) (now : DateTime)
    (plan : ValidatedEvidencePlan)
    (hP : P .validate past ∧ HasRead transaction actor binding past) :
    (svc.collectAndDecide listener transaction now actor binding plan).Upholds φ ψ past := by
  have running {status : StageStatus} (hs : status ≠ .failed) (stage : Stage) (detail : String) :=
    emit_atStage listener stage hs detail
  have keeps := h.call_read actor binding
  have raise := h.raise_read actor binding
  simp only [AuthorizationService.collectAndDecide, Prog.perform_eq, Prog.call_bind, Prog.ret_bind]
  refine .call (P := fun past => P .validate past ∧ HasRead transaction actor binding past)
    (keeps _ _ _ trivial hP) (fun e => raise _ _ e hP) fun _ hP => ?_
  refine .bind_callsOnly (running (by decide) ..) (keeps _) (raise _) hP fun _ _ hP => ?_
  have hP := h.advance_read .evidence (by decide) hP
  refine .bind_callsOnly (running (by decide) ..) (keeps _) (raise _) hP fun _ _ hP => ?_
  by_cases mismatched : Mismatched actor binding
  · obtain ⟨e, refused⟩ := collectEvidence_mismatched svc.zoneRegistry transaction plan mismatched
    rw [refused]
    rcases e with m | m | m <;> exact h.refuse _ _ _ _ _ hP.1
  refine .bind_callsOnly (collectEvidence_atStage ..) (keeps _) (raise _) hP
    fun past outcome hP => ?_
  rcases outcome with (m | m | m) | evidence
  · exact h.refuse _ _ _ _ _ hP.1
  · exact h.refuse _ _ _ _ _ hP.1
  · exact h.refuse _ _ _ _ _ hP.1
  refine .call (P := fun past => P .evidence past ∧ HasRead transaction actor binding past)
    (keeps _ _ _ trivial hP) (fun e => raise _ _ e hP) fun _ hP => ?_
  refine .bind_callsOnly (running (by decide) ..) (keeps _) (raise _) hP fun _ _ hP => ?_
  have hP := h.advance_read .context (by decide) hP
  refine .bind_callsOnly (svc.assessContext_atStage ..) (keeps _) (raise _) hP
    fun _ context hP => ?_
  have hP := h.advance_read .policy (by decide) hP
  exact h.decide _ _ _ _ _ _ _ hP.1 hP.2 mismatched

theorem planAndCollect (h : Steps svc listener transaction φ ψ P) (now : DateTime)
    (hP : P .identity past ∧ HasRead transaction actor binding past) :
    (svc.planAndCollect listener transaction now actor binding).Upholds φ ψ past := by
  have keeps := h.call_read actor binding
  have raise := h.raise_read actor binding
  unfold AuthorizationService.planAndCollect
  rcases getWorkflowPolicy transaction.action with message | policy
  · exact h.refuse _ _ _ _ _ (h.advance_read .validate (by decide) hP).1
  have hP := h.advance_read .plan (by decide) hP
  refine .bind_callsOnly (svc.planEvidence_atStage ..) (keeps _) (raise _) hP
    fun _ proposed hP => ?_
  have hP := h.advance_read .validate (by decide) hP
  refine .bind_callsOnly (emit_atStage listener .validate (by decide) _) (keeps _) (raise _) hP
    fun _ _ hP => ?_
  rcases validate svc.attestable transaction.action proposed with (m | m | m) | plan
  · exact h.raise _ _ _ hP.1
  · exact h.refuse _ _ _ _ _ hP.1
  · exact h.refuse _ _ _ _ _ hP.1
  · exact h.collectAndDecide now plan hP

/-- What an authorization upholds. -/
theorem authorizeTransaction (h : Steps svc listener transaction φ ψ P) (start : P .identity []) :
    (svc.authorizeTransaction listener transaction).Upholds φ ψ [] := by
  have keeps := h.call .identity
  have raise := h.raise .identity
  simp only [AuthorizationService.authorizeTransaction, Prog.perform_eq, Prog.call_bind,
    Prog.ret_bind]
  refine .call (keeps _ _ trivial start) (fun e => raise _ e start) fun now hP => ?_
  refine .call (keeps _ _ trivial hP) (fun e => raise _ e hP) fun _ hP => ?_
  refine .bind_callsOnly (emit_atStage listener .identity (by decide) _) keeps raise hP
    fun past _ hP => ?_
  refine .call (keeps _ _ trivial hP) (fun e => raise _ e hP) fun found hP => ?_
  rcases found with _ | actor
  · exact h.refuse _ _ _ _ _ hP
  have readActor : (⟨Effect.store (.getActor transaction.actorId), some actor⟩ :
      Handled Services) ∈ past ++ [⟨Effect.store (.getActor transaction.actorId), some actor⟩] :=
    List.mem_append_right _ (List.mem_singleton.2 rfl)
  refine .call (keeps _ _ trivial hP) (fun e => raise _ e hP) fun found hP => ?_
  rcases found with _ | binding
  · exact h.refuse _ _ _ _ _ hP
  have read : HasRead transaction actor binding _ :=
    ⟨List.mem_append_left _ readActor, List.mem_append_right _ (List.mem_singleton.2 rfl)⟩
  refine .bind_callsOnly (emit_atStage listener .identity (by decide) _)
    (h.call_read actor binding _) (h.raise_read actor binding _) ⟨hP, read⟩ fun _ _ hP => ?_
  exact h.planAndCollect now hP

end Steps

end Rule

end AuthorizationService

end ZoneGate
