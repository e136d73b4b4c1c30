import ZoneGate.Authorization.Pipeline
import ZoneGate.Authorization.Events
import ZoneGate.Library.Monitor

/-!
# Every stage in its turn

The listener should hear of every stage before the next, and of its start before its end.
`progressMonitor` accepts the streams that do so; the pipeline keeps to it for every action that has
an evidence policy.  For any other it reports a failed validation without a word on the planning.
-/

namespace ZoneGate

open Py Effects

/-! ## The stream -/

/-- Every stage is finished before the next is heard of, started before it is done or has failed,
and finished once. -/
structure InTurn (events : List StageEvent) : Prop where
  preceded : ∀ before e after, events = before ++ e :: after →
    ∀ stage : Stage, stage.position < e.stage.position →
      ∃ e' ∈ before, e'.stage = stage ∧ (e'.status = .done ∨ e'.status = .skipped)
  started : ∀ before e after, events = before ++ e :: after →
    e.status = .done ∨ e.status = .failed →
      ∃ e' ∈ before, e'.stage = e.stage ∧ e'.status = .started
  once : events.Pairwise fun e e' =>
    e.stage = e'.stage → e.status = .started ∨ e'.status = .started

/-- What the stage after the finished ones is doing. -/
inductive Phase
  | idle | begun | failed
deriving DecidableEq, Repr

structure Progress where
  finished : ℕ := 0
  phase : Phase := .idle
deriving DecidableEq, Repr

/-- A stage is started and then done, skipped or failed, or it is skipped at once; nothing follows
a failure. -/
def progressMonitor : Monitor Progress StageEvent where
  start := {}
  next p e :=
    if e.stage.position = p.finished then
      match p.phase, e.status with
      | .idle, .started => some { p with phase := .begun }
      | .idle, .skipped | .begun, .skipped | .begun, .done => some { finished := p.finished + 1 }
      | .begun, .failed => some { p with phase := .failed }
      | _, _ => none
    else none

theorem Stage.position_injective : Function.Injective Stage.position := by
  intro a b
  cases a <;> cases b <;> decide

/-- What the events say when the monitor has accepted them. -/
structure Heard (p : Progress) (events : List StageEvent) : Prop where
  inTurn : InTurn events
  finished : ∀ stage : Stage, stage.position < p.finished →
    ∃ e ∈ events, e.stage = stage ∧ (e.status = .done ∨ e.status = .skipped)
  begun : p.phase ≠ .idle →
    ∃ e ∈ events, e.stage.position = p.finished ∧ e.status = .started
  unfinished : p.phase ≠ .failed → ∀ e ∈ events, e.status ≠ .started → e.stage.position < p.finished

/-- One more event, at the end. -/
theorem InTurn.snoc {events : List StageEvent} {e : StageEvent} (h : InTurn events)
    (preceded : ∀ stage : Stage, stage.position < e.stage.position →
      ∃ e' ∈ events, e'.stage = stage ∧ (e'.status = .done ∨ e'.status = .skipped))
    (started : e.status = .done ∨ e.status = .failed →
      ∃ e' ∈ events, e'.stage = e.stage ∧ e'.status = .started)
    (once : e.status = .started ∨ ∀ e' ∈ events, e'.stage = e.stage → e'.status = .started) :
    InTurn (events ++ [e]) := by
  have split {P : List StageEvent → StageEvent → Prop}
      (old : ∀ before e' after, events = before ++ e' :: after → P before e') (new : P events e)
      (before : List StageEvent) (e' : StageEvent) (after : List StageEvent)
      (eq : events ++ [e] = before ++ e' :: after) : P before e' := by
    rcases List.eq_nil_or_concat after with rfl | ⟨after, last, rfl⟩
    · obtain ⟨rfl, same⟩ := List.append_inj' eq rfl
      obtain rfl := List.singleton_injective same
      exact new
    · rw [List.concat_eq_append, ← List.cons_append, ← List.append_assoc] at eq
      exact old before e' after (List.append_inj' eq rfl).1
  refine ⟨split h.preceded preceded, split h.started started, ?_⟩
  refine List.pairwise_append.2 ⟨h.once, List.pairwise_singleton .., fun e' he' last mem same => ?_⟩
  obtain rfl := List.mem_singleton.1 mem
  exact once.symm.imp_left fun only => only e' he' same

/-- What an event can do to a stream that is in turn. -/
theorem progress_step {p p' : Progress} {e : StageEvent}
    (h : progressMonitor.next p e = some p') : e.stage.position = p.finished ∧
      ((p.phase = .idle ∧ e.status = .started ∧ p' = { p with phase := .begun }) ∨
        (p.phase = .begun ∧ e.status = .failed ∧ p' = { p with phase := .failed }) ∨
        (p.phase ≠ .failed ∧ (e.status = .skipped ∨ e.status = .done ∧ p.phase = .begun) ∧
          p' = { finished := p.finished + 1 })) := by
  simp only [progressMonitor] at h
  split_ifs at h with here
  refine ⟨here, ?_⟩
  cases hphase : p.phase <;> cases hstatus : e.status <;> simp_all

theorem Heard.step {p p' : Progress} {events : List StageEvent} {e : StageEvent}
    (h : Heard p events) (step : progressMonitor.next p e = some p') :
    Heard p' (events ++ [e]) := by
  obtain ⟨here, cases⟩ := progress_step step
  have preceded : ∀ stage : Stage, stage.position < e.stage.position →
      ∃ e' ∈ events, e'.stage = stage ∧ (e'.status = .done ∨ e'.status = .skipped) :=
    fun stage earlier => h.finished stage (here ▸ earlier)
  have began (running : p.phase ≠ .idle) :
      ∃ e' ∈ events, e'.stage = e.stage ∧ e'.status = .started := by
    obtain ⟨e', mem, same, started⟩ := h.begun running
    exact ⟨e', mem, Stage.position_injective (same.trans here.symm), started⟩
  have only (running : p.phase ≠ .failed) : ∀ e' ∈ events, e'.stage = e.stage →
      e'.status = .started := by
    intro e' mem same
    by_contra ended
    have earlier := h.unfinished running e' mem ended
    rw [same, here] at earlier
    exact lt_irrefl _ earlier
  have more {Q : StageEvent → Prop} : (∃ e' ∈ events, Q e') → ∃ e' ∈ events ++ [e], Q e' :=
    fun ⟨e', mem, hq⟩ => ⟨e', List.mem_append_left _ mem, hq⟩
  have last : e ∈ events ++ [e] := List.mem_append_right _ (List.mem_singleton_self e)
  rcases cases with ⟨idle, status, rfl⟩ | ⟨begun, status, rfl⟩ | ⟨running, status, rfl⟩
  · refine ⟨h.inTurn.snoc preceded (by simp [status]) (.inl status), ?_, ?_, ?_⟩
    · exact fun stage earlier => more (h.finished stage earlier)
    · exact fun _ => ⟨e, last, here, status⟩
    · intro _ e' mem ended
      rcases List.mem_append.1 mem with mem | mem
      · exact h.unfinished (by simp [idle]) e' mem ended
      · rw [List.mem_singleton.1 mem] at ended
        exact absurd status ended
  · refine ⟨h.inTurn.snoc preceded (fun _ => began (by simp [begun]))
      (.inr (only (by simp [begun]))), ?_, ?_, ?_⟩
    · exact fun stage earlier => more (h.finished stage earlier)
    · exact fun _ => more (h.begun (by simp [begun]))
    · exact fun running => absurd rfl running
  · refine ⟨h.inTurn.snoc preceded ?_ (.inr (only running)), ?_, ?_, ?_⟩
    · intro ended
      refine began fun idle => ?_
      rcases status with skipped | ⟨-, begun⟩
      · simp [skipped] at ended
      · simp [idle] at begun
    · intro stage earlier
      rcases Nat.lt_succ_iff_lt_or_eq.1 earlier with earlier | same
      · exact more (h.finished stage earlier)
      · exact ⟨e, last, Stage.position_injective (here.trans same.symm),
          (status.imp_right And.left).symm⟩
    · exact fun begun => absurd rfl begun
    · intro _ e' mem ended
      rcases List.mem_append.1 mem with mem | mem
      · exact Nat.lt_succ_of_lt (h.unfinished running e' mem ended)
      · rw [List.mem_singleton.1 mem, here]
        exact Nat.lt_succ_self _

/-- The streams that the monitor accepts are in turn. -/
theorem heard_of_after {p : Progress} {events : List StageEvent}
    (h : progressMonitor.after events = some p) : Heard p events := by
  refine Monitor.induct (P := Heard) ⟨⟨?_, ?_, List.Pairwise.nil⟩, ?_, ?_, ?_⟩
    (fun p events e p' heard step => heard.step step) h
  · simp
  · simp
  · simp [progressMonitor]
  · simp [progressMonitor]
  · simp

/-! ## The pipeline reports in turn -/

/-- The calls that neither tell the listener anything nor are about the evaluation. -/
def Unheard : Effect → Prop
  | .notify _ | .evaluateContext _ _ | .store (.saveContextEvaluation _ _) => False
  | _ => True

namespace AuthorizationService

section Rule

variable [Unicode]

/-- An assertion `P` on the history at every point of the progress is kept by the calls nobody hears,
is moved on by what the listener is told, and is enough for a run that raises. -/
structure Keeps (listener : Bool) (φ : List (Handled Services) → Effect → Prop)
    (ψ : List (Handled Services) → Except ServiceError (PolicyDecision × Receipt) → Prop)
    (P : Progress → List (Handled Services) → Prop) : Prop where
  unheard : ∀ p past c, Unheard c → P p past → φ past c ∧ ∀ r, P p (past ++ [⟨c, r⟩])
  tell : listener = true → ∀ p p' past event, progressMonitor.next p event = some p' → P p past →
    φ past (.notify event) ∧ ∀ r, P p' (past ++ [⟨.notify event, r⟩])
  silent : listener = false → ∀ p p' past, P p past → P p' past
  raise : ∀ p past e, P p past → ψ past (.error e)

namespace Keeps

variable {listener : Bool} {φ : List (Handled Services) → Effect → Prop}
  {ψ : List (Handled Services) → Except ServiceError (PolicyDecision × Receipt) → Prop}
  {P : Progress → List (Handled Services) → Prop} {p q : Progress}
  {past : List (Handled Services)} (h : Keeps listener φ ψ P)
include h

omit [Unicode] in
/-- One report, before the rest of the program. -/
theorem emit_bind {stage : Stage} {status : StageStatus} {detail : String}
    {f : Unit → Service (PolicyDecision × Receipt)} (hP : P p past)
    (next : progressMonitor.next p ⟨stage, status, stage.label, detail⟩ = some q)
    (rest : ∀ past, P q past → (f ()).Upholds φ ψ past) :
    (emit listener stage status detail >>= f).Upholds φ ψ past := by
  cases hl : listener
  · exact rest past (h.silent hl p q past hP)
  · have told := h.tell hl p q past _ next hP
    exact .call told (fun e => h.raise p past e hP) fun r hQ => rest _ hQ

omit [Unicode] in
/-- One call that nobody hears. -/
theorem call {c : Effect} {f : c.Reply → Service (PolicyDecision × Receipt)} (hP : P p past)
    (hc : Unheard c) (rest : ∀ past r, P p past → (f r).Upholds φ ψ past) :
    (Prog.call c f : Service (PolicyDecision × Receipt)).Upholds φ ψ past :=
  .call (h.unheard p past c hc hP) (fun e => h.raise p past e hP) fun r hP' => rest _ r hP'

omit [Unicode] in
/-- A refusal at the stage that has begun. -/
theorem refuse {tx : TransactionRequest} {now : DateTime} {reason : String} {stage : Stage}
    (hP : P p past) (here : stage.position = p.finished) (begun : p.phase = .begun)
    (detail : String) (refused : ∀ past hex receipt, P { p with phase := .failed } past →
      ψ past (.ok (denial tx now hex reason, receipt))) :
    (AuthorizationService.refuse listener tx now stage detail reason).Upholds φ ψ past := by
  simp only [AuthorizationService.refuse, Prog.perform_eq, Prog.call_bind, Prog.ret_bind]
  refine h.emit_bind (q := { p with phase := .failed }) hP ?_ fun past hP => ?_
  · simp [progressMonitor, here, begun]
  refine h.call hP trivial fun past hex hP => ?_
  refine h.call hP trivial fun past _ hP => ?_
  refine h.call hP trivial fun past _ hP => ?_
  exact refused past hex _ hP

end Keeps

/-- What is needed besides: what follows from the assertion at a refusal, at an action without a
policy and at the evaluation. -/
structure Walk (svc : AuthorizationService) (listener : Bool) (tx : TransactionRequest)
    (φ : List (Handled Services) → Effect → Prop)
    (ψ : List (Handled Services) → Except ServiceError (PolicyDecision × Receipt) → Prop)
    (P : Progress → List (Handled Services) → Prop) : Prop extends Keeps listener φ ψ P where
  refused : ∀ p past now hex reason receipt, P p past →
    ψ past (.ok (denial tx now hex reason, receipt))
  unsupported : ∀ past now detail reason, (∀ policy, getWorkflowPolicy tx.action ≠ .ok policy) →
    P { finished := 1 } past →
    (refuse listener tx now .validate detail reason).Upholds φ ψ past
  assess : ∀ past now actor plan evidence, P { finished := 4 } past →
    (svc.assessContext listener tx evidence >>= fun context =>
      svc.decideAndPersist listener tx now actor plan evidence context).Upholds φ ψ past

namespace Walk

variable {svc : AuthorizationService} {listener : Bool} {tx : TransactionRequest}
  {φ : List (Handled Services) → Effect → Prop}
  {ψ : List (Handled Services) → Except ServiceError (PolicyDecision × Receipt) → Prop}
  {P : Progress → List (Handled Services) → Prop} {p : Progress}
  {past : List (Handled Services)} (h : Walk svc listener tx φ ψ P)
include h

theorem refuse {stage : Stage} (hP : P p past) (here : stage.position = p.finished)
    (begun : p.phase = .begun) (now : DateTime) (detail reason : String) :
    (refuse listener tx now stage detail reason).Upholds φ ψ past :=
  h.toKeeps.refuse hP here begun detail fun past hex receipt hP =>
    h.refused _ past now hex reason receipt hP

theorem collectAndDecide (hP : P { finished := 2, phase := .begun } past) (now : DateTime)
    (actor : Actor) (binding : DeviceBinding) (plan : ValidatedEvidencePlan) :
    (svc.collectAndDecide listener tx now actor binding plan).Upholds φ ψ past := by
  simp only [AuthorizationService.collectAndDecide, Prog.perform_eq, Prog.call_bind, Prog.ret_bind]
  refine h.call hP trivial fun past _ hP => ?_
  refine h.emit_bind (q := { finished := 3 }) hP (by simp [progressMonitor, Stage.position])
    fun past hP => ?_
  refine h.emit_bind (q := { finished := 3, phase := .begun }) hP
    (by simp [progressMonitor, Stage.position]) fun past hP => ?_
  have gateway : Prog.CallsOnly Unheard
      (collectEvidence svc.zoneRegistry actor binding tx plan).run := by
    refine (collectEvidence_callsOnly svc.zoneRegistry actor binding tx plan).mono fun e he => ?_
    cases e with
    | carrier => trivial
    | utcnow => trivial
    | _ => exact he.elim
  refine .bind_callsOnly gateway (h.unheard _) (h.raise _) hP fun past outcome hP => ?_
  rcases outcome with (m | m | m) | evidence
  · exact h.refuse hP rfl rfl ..
  · exact h.refuse hP rfl rfl ..
  · exact h.refuse hP rfl rfl ..
  refine h.call hP trivial fun past _ hP => ?_
  refine h.emit_bind (q := { finished := 4 }) hP (by simp [progressMonitor, Stage.position])
    fun past hP => ?_
  exact h.assess past now actor plan evidence hP

theorem planEvidence_bind {policy : WorkflowEvidencePolicy}
    {f : Option EvidencePlan → Service (PolicyDecision × Receipt)} (hP : P { finished := 1 } past)
    (rest : ∀ past plan, P { finished := 2 } past → (f plan).Upholds φ ψ past) :
    (svc.planEvidence listener tx policy >>= f).Upholds φ ψ past := by
  simp only [planEvidence, Prog.perform_eq]
  split_ifs
  · simp only [Prog.bind_assoc, Prog.call_bind, Prog.ret_bind]
    refine h.emit_bind (q := { finished := 1, phase := .begun }) hP
      (by simp [progressMonitor, Stage.position]) fun past hP => ?_
    refine h.call hP trivial fun past reply hP => ?_
    rcases reply with (_ | plan) | m | m <;> simp only [Prog.bind_assoc, Prog.pure_eq, Prog.ret_bind]
    all_goals
      refine h.emit_bind (q := { finished := 2 }) hP (by simp [progressMonitor, Stage.position])
        fun past hP => rest past _ hP
  · simp only [Prog.bind_assoc, Prog.pure_eq, Prog.ret_bind]
    exact h.emit_bind (q := { finished := 2 }) hP (by simp [progressMonitor, Stage.position])
      fun past hP => rest past _ hP

theorem planAndCollect (hP : P { finished := 1 } past) (now : DateTime) (actor : Actor)
    (binding : DeviceBinding) :
    (svc.planAndCollect listener tx now actor binding).Upholds φ ψ past := by
  unfold AuthorizationService.planAndCollect
  rcases hpolicy : getWorkflowPolicy tx.action with message | policy
  · exact h.unsupported past now _ _ (by simp [hpolicy]) hP
  refine h.planEvidence_bind hP fun past proposed hP => ?_
  refine h.emit_bind (q := { finished := 2, phase := .begun }) hP
    (by simp [progressMonitor, Stage.position]) fun past hP => ?_
  rcases validate svc.attestable tx.action proposed with (m | m | m) | plan
  · exact h.raise _ past _ hP
  · exact h.refuse hP rfl rfl ..
  · exact h.refuse hP rfl rfl ..
  · exact h.collectAndDecide hP now actor binding plan

theorem authorizeTransaction (start : P {} []) :
    (svc.authorizeTransaction listener tx).Upholds φ ψ [] := by
  simp only [AuthorizationService.authorizeTransaction, Prog.perform_eq, Prog.call_bind,
    Prog.ret_bind]
  refine h.call start trivial fun past now hP => ?_
  refine h.call hP trivial fun past _ hP => ?_
  refine h.emit_bind (q := { phase := .begun }) hP (by simp [progressMonitor, Stage.position])
    fun past hP => ?_
  refine h.call hP trivial fun past actor hP => ?_
  rcases actor with _ | actor
  · exact h.refuse hP rfl rfl ..
  refine h.call hP trivial fun past binding hP => ?_
  rcases binding with _ | binding
  · exact h.refuse hP rfl rfl ..
  refine h.emit_bind (q := { finished := 1 }) hP (by simp [progressMonitor, Stage.position])
    fun past hP => ?_
  exact h.planAndCollect hP now actor binding

end Walk

/-- What is needed for an assertion `P` on the history, given what the evaluation of the request has
come to, from the evaluation to the end. -/
structure Finish (listener : Bool) (tx : TransactionRequest)
    (φ : List (Handled Services) → Effect → Prop)
    (ψ : List (Handled Services) → Except ServiceError (PolicyDecision × Receipt) → Prop)
    (P : Option ContextEvaluation → Progress → List (Handled Services) → Prop) : Prop where
  keeps : ∀ context, Keeps listener φ ψ (P context)
  ask : ∀ p past evidence, (∀ context, P context p past) →
    φ past (.evaluateContext tx evidence) ∧
      ∀ reply, P (contextOf reply) p (past ++ [⟨.evaluateContext tx evidence, reply⟩])
  save : ∀ evaluation p past, P (some evaluation) p past →
    φ past (.store (.saveContextEvaluation tx.transactionId evaluation)) ∧
      ∀ r, P (some evaluation) p
        (past ++ [⟨.store (.saveContextEvaluation tx.transactionId evaluation), r⟩])
  decided : ∀ p past d r, P d.contextEvaluation p past → ψ past (.ok (d, r))

omit [Unicode] in
theorem issueIfApproved_unheard (svc : AuthorizationService) (tx : TransactionRequest)
    (actor : Actor) (decision : PolicyDecision) :
    (svc.issueIfApproved tx actor decision).CallsOnly Unheard := by
  simp only [issueIfApproved, TokenService.issueToken, Prog.perform_eq, Prog.call_bind,
    Prog.ret_bind, Prog.pure_eq]
  split_ifs
  · exact ⟨trivial, fun _ => ⟨trivial, fun _ => ⟨trivial, fun _ => trivial⟩⟩⟩
  · trivial

namespace Finish

variable {svc : AuthorizationService} {listener : Bool} {tx : TransactionRequest}
  {φ : List (Handled Services) → Effect → Prop}
  {ψ : List (Handled Services) → Except ServiceError (PolicyDecision × Receipt) → Prop}
  {P : Option ContextEvaluation → Progress → List (Handled Services) → Prop} {p q : Progress}
  {past : List (Handled Services)} {context : Option ContextEvaluation}
  (h : Finish listener tx φ ψ P)
include h

omit [Unicode] in
/-- Until the evaluation, the assertion has to hold for whatever it may come to. -/
theorem keeps_all : Keeps listener φ ψ fun p past => ∀ context, P context p past where
  unheard p past c hc hP :=
    ⟨((h.keeps none).unheard p past c hc (hP none)).1,
      fun r context => ((h.keeps context).unheard p past c hc (hP context)).2 r⟩
  tell hl p p' past event next hP :=
    ⟨((h.keeps none).tell hl p p' past event next (hP none)).1,
      fun r context => ((h.keeps context).tell hl p p' past event next (hP context)).2 r⟩
  silent hl p p' past hP context := (h.keeps context).silent hl p p' past (hP context)
  raise p past e hP := (h.keeps none).raise p past e (hP none)

variable (svc) in
/-- The decision of the engine carries the evaluation it is given. -/
theorem decideAndPersist (hP : P context { finished := 5 } past) (now : DateTime) (actor : Actor)
    (plan : ValidatedEvidencePlan) (evidence : CanonicalEvidence) :
    (svc.decideAndPersist listener tx now actor plan evidence context).Upholds φ ψ past := by
  have keeps := h.keeps context
  simp only [AuthorizationService.decideAndPersist, PolicyEngine.evaluate, Prog.perform_eq,
    Prog.call_bind, Prog.ret_bind, Prog.pure_eq]
  refine keeps.emit_bind (q := { finished := 5, phase := .begun }) hP
    (by simp [progressMonitor, Stage.position]) fun past hP => ?_
  refine keeps.call hP trivial fun past hex hP => ?_
  refine keeps.call hP trivial fun past time hP => ?_
  refine keeps.call hP trivial fun past config hP => ?_
  refine keeps.emit_bind (q := { finished := 6 }) hP (by simp [progressMonitor, Stage.position])
    fun past hP => ?_
  refine .bind_callsOnly (svc.issueIfApproved_unheard tx actor _) (keeps.unheard _)
    (keeps.raise _) hP fun past token hP => ?_
  refine keeps.call hP trivial fun past _ hP => ?_
  refine keeps.call hP trivial fun past _ hP => ?_
  apply h.decided { finished := 6 }
  obtain ⟨outcome, reasons, authority, shape⟩ := PolicyEngine.decide_shape config
    (PolicyEngine.newDecisionId hex) time tx actor evidence svc.attestable
    (some plan.mandatory.toFinset)
  rw [shape]
  exact hP

theorem assess (hP : ∀ context, P context { finished := 4 } past) (now : DateTime) (actor : Actor)
    (plan : ValidatedEvidencePlan) (evidence : CanonicalEvidence) :
    (svc.assessContext listener tx evidence >>= fun context =>
      svc.decideAndPersist listener tx now actor plan evidence context).Upholds φ ψ past := by
  have decide (context : Option ContextEvaluation) (past : List (Handled Services))
      (hP : P context { finished := 5 } past) :=
    h.decideAndPersist svc hP now actor plan evidence
  simp only [assessContext, askEvaluator, Prog.perform_eq, Prog.call_bind, Prog.ret_bind]
  split_ifs
  · simp only [Prog.bind_assoc, Prog.call_bind, Prog.pure_eq, Prog.ret_bind]
    refine h.keeps_all.emit_bind (q := { finished := 4, phase := .begun }) hP
      (by simp [progressMonitor, Stage.position]) fun past hP => ?_
    obtain ⟨may, asked⟩ := h.ask _ past evidence hP
    refine ⟨may, fun e => h.keeps_all.raise _ past e hP, fun reply => ?_⟩
    have asked := asked reply
    dsimp only
    generalize contextOf reply = context at asked ⊢
    rcases context with _ | evaluation
    · simp only [Prog.bind_assoc, Prog.ret_bind]
      exact (h.keeps none).emit_bind asked (by simp [progressMonitor, Stage.position])
        (decide none)
    · have keeps := h.keeps (some evaluation)
      obtain ⟨may, saved⟩ := h.save evaluation _ _ asked
      simp only [Prog.bind_assoc, Prog.call_bind, Prog.ret_bind]
      refine ⟨may, fun e => keeps.raise _ _ e asked, fun r => ?_⟩
      exact keeps.emit_bind (saved r) (by simp [progressMonitor, Stage.position])
        (decide (some evaluation))
  · simp only [Prog.bind_assoc, Prog.pure_eq, Prog.ret_bind]
    exact (h.keeps none).emit_bind (hP none) (by simp [progressMonitor, Stage.position])
      (decide none)

/-- The whole run, from what happens at its end. -/
theorem walk (unsupported : ∀ past now detail reason,
      (∀ policy, getWorkflowPolicy tx.action ≠ .ok policy) →
        (∀ context, P context { finished := 1 } past) →
          (AuthorizationService.refuse listener tx now .validate detail reason).Upholds φ ψ past) :
    Walk svc listener tx φ ψ fun p past => ∀ context, P context p past where
  toKeeps := h.keeps_all
  refused p past _ _ _ _ hP := h.decided p past _ _ (hP none)
  unsupported := unsupported
  assess _ now actor plan evidence hP := h.assess hP now actor plan evidence

end Finish

end Rule

section InTurn

variable [Unicode] (svc : AuthorizationService) (tx : TransactionRequest)
  {past : List (Handled Services)} {p q : Progress}

/-- The monitor has accepted what the listener was told, and come to `p`. -/
def Reported (p : Progress) (past : List (Handled Services)) : Prop :=
  progressMonitor.after (told past) = some p

omit [Unicode] in
theorem Reported.other (h : Reported p past) {c : Effect} (hc : ∀ event, c ≠ .notify event)
    (r : c.Reply) : Reported p (past ++ [⟨c, r⟩]) := by
  have same : told [(⟨c, r⟩ : Handled Services)] = [] := by
    cases c with
    | notify event => exact absurd rfl (hc event)
    | _ => rfl
  rwa [Reported, told_append, same, List.append_nil]

omit [Unicode] in
theorem Reported.tell (h : Reported p past) {event : StageEvent}
    (next : progressMonitor.next p event = some q) (r : Unit) :
    Reported q (past ++ [⟨Effect.notify event, r⟩]) := by
  rw [Reported, told_append]
  exact Monitor.after_snoc_of h next

omit [Unicode] in
theorem keeps_reported :
    Keeps true (fun _ _ => True) (fun past _ => InTurn (told past)) Reported where
  unheard _ _ _ hc h := ⟨trivial, fun r => h.other (by rintro event rfl; exact hc) r⟩
  tell _ _ _ _ _ next h := ⟨trivial, h.tell next⟩
  silent := by simp
  raise _ _ _ h := (heard_of_after h).inTurn

omit [Unicode] in
theorem finish_reported : Finish true tx (fun _ _ => True) (fun past _ => InTurn (told past))
    fun _ => Reported where
  keeps _ := keeps_reported
  ask _ _ evidence h :=
    ⟨trivial, fun reply => (h none).other (c := .evaluateContext tx evidence) (by simp) reply⟩
  save evaluation _ _ h := ⟨trivial, fun r =>
    h.other (c := .store (.saveContextEvaluation tx.transactionId evaluation)) (by simp) r⟩
  decided _ _ _ _ h := (heard_of_after h).inTurn

/-- For an action with an evidence policy, every stage is reported in its turn, whatever the store,
the carrier and the agents answer and wherever the run ends. -/
theorem authorizeTransaction_inTurn {policy : WorkflowEvidencePolicy}
    (hp : getWorkflowPolicy tx.action = .ok policy) :
    (svc.authorizeTransaction true tx).Upholds (fun _ _ => True)
      (fun past _ => InTurn (told past)) [] := by
  refine Walk.authorizeTransaction ((finish_reported tx).walk ?_) fun _ => rfl
  intro past now detail reason unsupported _
  exact absurd hp (unsupported policy)

/-! ### An action without a policy -/

omit [Unicode] in
theorem told_unheard {σ α : Type} {h : Handler Services ServiceError σ} {p : Service α}
    (unheard : p.CallsOnly Unheard) (s : σ) : told (p.answers h s) = [] := by
  induction p generalizing s with
  | ret a => rfl
  | raise e => rfl
  | call c next ih =>
    rw [Prog.answers_call]
    rcases h c s with ⟨e | r, s'⟩
    · rfl
    · have rest := ih r (unheard.2 r) s'
      cases c with
      | notify event => exact unheard.1.elim
      | _ => exact rest

variable {env : Env} {peers : Peers} {fails : ℕ → Option String} {w : World} {n : ℕ}

section Events

variable {α : Type}

omit [Unicode] in
theorem events_notify (event : StageEvent) (f : Unit → Service α) :
    told ((Prog.call (Effect.notify event) f : Service α).answers (handleFailing fails env peers)
      (w, n)) = event :: told ((f ()).answers (handleFailing fails env peers) (w, n)) := rfl

omit [Unicode] in
theorem events_utcnow (f : DateTime → Service α) :
    told ((Prog.call Effect.utcnow f : Service α).answers (handleFailing fails env peers) (w, n)) =
      told ((f (env.clock w.readings)).answers (handleFailing fails env peers) (w.tick, n)) := rfl

omit [Unicode] in
theorem events_store (c : StoreCall) (f : c.Reply → Service α) :
    told ((Prog.call (Effect.store c) f : Service α).answers (handleFailing fails env peers)
      (w, n)) = if fails n = none then
        told ((f (c.answer w.kv)).answers (handleFailing fails env peers) (w.after c, n + 1))
      else [] := by
  rw [Prog.answers_call]
  simp only [handleFailing]
  cases fails n <;> rfl

end Events

omit [Unicode] in
theorem refuse_events (now : DateTime) (stage : Stage) (detail reason : String) :
    told ((refuse true tx now stage detail reason).answers (handleFailing fails env peers) (w, n)) =
      [⟨stage, .failed, stage.label, detail⟩] := by
  refine congrArg (⟨stage, .failed, stage.label, detail⟩ :: ·) (told_unheard ?_ (w, n))
  exact ⟨trivial, fun hex => ⟨trivial, fun _ => ⟨trivial, fun _ => trivial⟩⟩⟩

/-- The store calls of an authorization before it plans all complete and find the actor and the
binding. -/
def Identified (fails : ℕ → Option String) (tx : TransactionRequest) (w : World) (n : ℕ) : Prop :=
  w.kv (.actors tx.actorId) ≠ none ∧ w.kv (.deviceBindings tx.actorId) ≠ none ∧
    ∀ k < 3, fails (n + k) = none

theorem unsupported_inTurn_iff
    (unsupported : ∀ policy, getWorkflowPolicy tx.action ≠ .ok policy) :
    InTurn (told ((svc.authorizeTransaction true tx).answers (handleFailing fails env peers)
      (w, n))) ↔ ¬ Identified fails tx w n := by
  obtain ⟨message, hp⟩ : ∃ message, getWorkflowPolicy tx.action = .error message := by
    rcases hp : getWorkflowPolicy tx.action with message | policy
    · exact ⟨message, rfl⟩
    · exact absurd hp (unsupported policy)
  have accepted {events : List StageEvent} {p : Progress} (h : progressMonitor.after events = some p)
      (bad : ¬ Identified fails tx w n) : InTurn events ↔ ¬ Identified fails tx w n :=
    iff_of_true (heard_of_after h).inTurn bad
  simp only [authorizeTransaction, emit, if_true, Prog.perform_eq, Prog.call_bind, Prog.ret_bind,
    events_utcnow, events_store, events_notify]
  split_ifs with first second
  rotate_left
  · exact accepted (p := { phase := .begun }) rfl fun h => second (h.2.2 1 (by omega))
  · exact accepted (p := {}) rfl fun h => first (h.2.2 0 (by omega))
  rw [show (StoreCall.getActor tx.actorId).answer (w.tick.after (.saveTransaction tx)).kv =
    w.kv (.actors tx.actorId) from rfl]
  rcases ha : w.kv (.actors tx.actorId) with _ | actor
  · dsimp only
    rw [refuse_events]
    exact accepted (p := { phase := .failed }) rfl fun h => h.1 ha
  dsimp only
  rw [events_store]
  split_ifs with third
  swap
  · exact accepted (p := { phase := .begun }) rfl fun h => third (h.2.2 2 (by omega))
  rw [show (StoreCall.getDeviceBinding tx.actorId).answer
    ((w.tick.after (.saveTransaction tx)).after (.getActor tx.actorId)).kv =
      w.kv (.deviceBindings tx.actorId) from rfl]
  rcases hb : w.kv (.deviceBindings tx.actorId) with _ | binding
  · dsimp only
    rw [refuse_events]
    exact accepted (p := { phase := .failed }) rfl fun h => h.2.1 hb
  dsimp only
  rw [events_notify, planAndCollect, hp]
  dsimp only
  rw [refuse_events]
  -- the validation fails, and nothing was heard of the planning
  refine iff_of_false (fun inTurn => ?_) (not_not.2 ⟨by simp [ha], by simp [hb], fun k hk => ?_⟩)
  · obtain ⟨e, mem, planning, -⟩ := inTurn.preceded [_, _] _ [] rfl .plan
      (by simp [Stage.position])
    simp only [List.mem_cons, List.not_mem_nil, or_false] at mem
    rcases mem with rfl | rfl <;> cases planning
  · obtain rfl | rfl | rfl : k = 0 ∨ k = 1 ∨ k = 2 := by omega
    · exact first
    · exact second
    · exact third

/-- Every stage is reported in its turn exactly when the action has an evidence policy, or the run
ends before it has identified the actor and the device. -/
theorem stages_in_turn_iff (svc : AuthorizationService) (env : Env) (peers : Peers)
    (fails : ℕ → Option String) (w : World) (n : ℕ) (tx : TransactionRequest) :
    InTurn (told ((svc.authorizeTransaction true tx).answers (handleFailing fails env peers)
        (w, n))) ↔
      (∃ policy, getWorkflowPolicy tx.action = .ok policy) ∨ ¬ Identified fails tx w n := by
  by_cases supported : ∃ policy, getWorkflowPolicy tx.action = .ok policy
  · obtain ⟨policy, hp⟩ := supported
    have inTurn := (svc.authorizeTransaction_inTurn tx hp).run (h := handleFailing fails env peers)
      (w, n)
    exact iff_of_true inTurn (.inl ⟨policy, hp⟩)
  · rw [svc.unsupported_inTurn_iff tx fun policy hp => supported ⟨policy, hp⟩]
    simp [supported]

end InTurn

end AuthorizationService

/-- A request for an action without a policy. -/
def Sample.scrap : TransactionRequest := { Sample.general with action := "SCRAP_CARGO" }

/-- The identified operator hears of a failed validation, and of no planning and no start. -/
theorem unsupported_out_of_turn :
    let _ := Sample.unicode
    ¬ InTurn (told ((Sample.service.authorizeTransaction true Sample.scrap).answers
      (handleFailing (fun _ => none) Sample.env Sample.peers) (Sample.world, 0))) := by
  intro _
  have heard : (told ((Sample.service.authorizeTransaction true Sample.scrap).answers
      (handleFailing (fun _ => none) Sample.env Sample.peers) (Sample.world, 0))).map
        (fun e => (e.stage, e.status)) =
      [(.identity, .started), (.identity, .done), (.validate, .failed)] := by decide +kernel
  intro inTurn
  obtain ⟨before, rest, split, first, last⟩ := List.map_eq_append_iff.1
    (heard.trans (show _ = [(Stage.identity, StageStatus.started), (.identity, .done)] ++
      [(.validate, .failed)] from rfl))
  obtain ⟨e, after, rfl, failed, -⟩ := List.map_eq_cons_iff.1 last
  obtain ⟨e', mem, planning, -⟩ := inTurn.preceded before e after split .plan
    (by rw [(Prod.mk.inj failed).1]; decide)
  have said : (e'.stage, e'.status) ∈ before.map fun e => (e.stage, e.status) :=
    List.mem_map_of_mem mem
  rw [first, planning] at said
  simp at said

end ZoneGate
