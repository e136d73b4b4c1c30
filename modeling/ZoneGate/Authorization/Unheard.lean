import ZoneGate.Authorization.Service
import ZoneGate.Library.Silence

/-!
# Calls that change nothing

The listener is told about the pipeline and is never asked, and an agent that is down has nothing to
say.  With or without them, the pipeline makes the same other calls and ends with the same verdict.
-/

namespace ZoneGate

open Py Effects

namespace AuthorizationService

/-- The calls of the listener and of the agents, when the agents bring neither a plan nor an
evaluation. -/
def unheard : Silence Services where
  call
    | .notify _ | .plan .. | .evaluateContext .. => True
    | _ => False
  reply
    | .plan .., reply => ∀ plan, reply ≠ .returned (some plan)
    | .evaluateContext .., reply => contextOf reply = none
    | _, _ => True

/-- The service with the agents attached or not. -/
def withAgents (svc : AuthorizationService) (planner evaluator : Bool) : AuthorizationService :=
  { svc with
    planner := planner
    evaluator := evaluator }

@[simp] theorem withAgents_attestable (svc : AuthorizationService) (planner evaluator : Bool) :
    (svc.withAgents planner evaluator).attestable = svc.attestable := rfl

/-! ## What is said to nobody -/

section Left

variable {α β : Type} {R : Except ServiceError α → Except ServiceError β → Prop}
  {svc : AuthorizationService} {listener : Bool} {q : Service β}

open Prog

theorem emit_alike {f : Unit → Service α} (rest : Alike unheard R (f ()) q) (stage : Stage)
    (status : StageStatus) (detail : String) :
    Alike unheard R (emit listener stage status detail >>= f) q := by
  cases listener with
  | false => exact rest
  | true => exact .left trivial fun _ _ => rest

theorem planEvidence_alike {f : Option EvidencePlan → Service α}
    (rest : Alike unheard R (f none) q) (transaction : TransactionRequest)
    (policy : WorkflowEvidencePolicy) :
    Alike unheard R (svc.planEvidence listener transaction policy >>= f) q := by
  have skipped (detail : String) : Alike unheard R
      ((emit listener .plan .skipped detail >>= fun _ => pure none) >>= f) q := by
    rw [bind_assoc]
    exact emit_alike (f := fun _ => f none) rest ..
  rw [planEvidence]
  split_ifs
  · rw [bind_assoc]
    refine emit_alike ?_ ..
    refine .left trivial fun reply nothing => ?_
    rcases reply with (_ | plan) | message | message
    · exact skipped _
    · exact absurd rfl (nothing plan)
    · exact skipped _
    · exact skipped _
  · exact skipped _

theorem assessContext_alike {f : Option ContextEvaluation → Service α}
    (rest : Alike unheard R (f none) q) (transaction : TransactionRequest)
    (evidence : CanonicalEvidence) :
    Alike unheard R (svc.assessContext listener transaction evidence >>= f) q := by
  have skipped : Alike unheard R ((emit listener .context .skipped
      "No evaluating agent is attached" >>= fun _ => pure none) >>= f) q := by
    rw [bind_assoc]
    exact emit_alike (f := fun _ => f none) rest ..
  rw [assessContext, askEvaluator, bind_assoc]
  split_ifs
  · rw [bind_assoc]
    refine emit_alike ?_ ..
    refine .left trivial fun reply nothing => ?_
    dsimp only [Prog.bind, Prog.pure_eq]
    rw [nothing]
    exact skipped
  · exact skipped

end Left

/-! ## The pipeline -/

section Pipeline

open Prog

variable [Unicode] {svc : AuthorizationService} {listener listener' planner evaluator : Bool}
  {transaction : TransactionRequest} {now : DateTime}

omit [Unicode] in
/-- A listener makes no difference to what follows. -/
theorem emit_alike_emit {α β : Type} {R : Except ServiceError α → Except ServiceError β → Prop}
    {f : Unit → Service α} {g : Unit → Service β} (rest : Alike unheard R (f ()) (g ()))
    {stage stage' : Stage} {status status' : StageStatus} {detail detail' : String} :
    Alike unheard R (emit listener stage status detail >>= f)
      (emit listener' stage' status' detail' >>= g) :=
  emit_alike (emit_alike rest.symm ..).symm ..

omit [Unicode] in
theorem refuse_alike (stage : Stage) (detail reason : String) :
    Alike unheard Eq (refuse listener transaction now stage detail reason)
      (refuse listener' transaction now stage detail reason) :=
  emit_alike_emit (.refl (fun _ => rfl) _)

theorem decideAndPersist_alike (actor : Actor) (plan : ValidatedEvidencePlan)
    (evidence : CanonicalEvidence) (context : Option ContextEvaluation) :
    Alike unheard Eq
      (svc.decideAndPersist listener transaction now actor plan evidence context)
      ((svc.withAgents planner evaluator).decideAndPersist listener' transaction now actor plan
        evidence context) := by
  refine emit_alike_emit ?_
  refine (Alike.refl (fun _ => rfl) _).bind (fun decision => ?_) fun _ => rfl
  exact emit_alike_emit (.refl (fun _ => rfl) _)

theorem collectAndDecide_alike (actor : Actor) (binding : DeviceBinding)
    (plan : ValidatedEvidencePlan) :
    Alike unheard Eq (svc.collectAndDecide listener transaction now actor binding plan)
      ((svc.withAgents planner evaluator).collectAndDecide listener' transaction now actor binding
        plan) := by
  refine (Alike.refl (fun _ => rfl) _).bind (fun _ => ?_) fun _ => rfl
  refine emit_alike_emit (emit_alike_emit ?_)
  refine (Alike.refl (fun _ => rfl) _).bind (fun outcome => ?_) fun _ => rfl
  rcases outcome with (message | message | message) | evidence
  · exact refuse_alike ..
  · exact refuse_alike ..
  · exact refuse_alike ..
  refine (Alike.refl (fun _ => rfl) _).bind (fun _ => ?_) fun _ => rfl
  refine emit_alike_emit ?_
  refine assessContext_alike ?_ ..
  exact (assessContext_alike (decideAndPersist_alike ..).symm ..).symm

theorem planAndCollect_alike (actor : Actor) (binding : DeviceBinding) :
    Alike unheard Eq (svc.planAndCollect listener transaction now actor binding)
      ((svc.withAgents planner evaluator).planAndCollect listener' transaction now actor
        binding) := by
  rw [planAndCollect, planAndCollect]
  rcases getWorkflowPolicy transaction.action with message | policy
  · exact refuse_alike ..
  dsimp only
  refine planEvidence_alike (.symm (planEvidence_alike (.symm ?_) ..)) ..
  refine emit_alike_emit ?_
  rw [withAgents_attestable]
  rcases validate svc.attestable transaction.action none with (message | message | message) | plan
  · exact .refl (fun _ => rfl) _
  · exact refuse_alike ..
  · exact refuse_alike ..
  · exact collectAndDecide_alike ..

theorem authorizeTransaction_alike :
    Alike unheard Eq (svc.authorizeTransaction listener transaction)
      ((svc.withAgents planner evaluator).authorizeTransaction listener' transaction) := by
  refine (Alike.refl (fun _ => rfl) _).bind (fun now => ?_) fun _ => rfl
  refine (Alike.refl (fun _ => rfl) _).bind (fun _ => ?_) fun _ => rfl
  refine emit_alike_emit ?_
  refine (Alike.refl (fun _ => rfl) _).bind (fun actor => ?_) fun _ => rfl
  rcases actor with _ | actor
  · exact refuse_alike ..
  refine (Alike.refl (fun _ => rfl) _).bind (fun binding => ?_) fun _ => rfl
  rcases binding with _ | binding
  · exact refuse_alike ..
  · exact emit_alike_emit (planAndCollect_alike ..)

end Pipeline

end AuthorizationService

end ZoneGate
