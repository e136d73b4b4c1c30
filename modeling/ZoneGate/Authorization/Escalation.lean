import ZoneGate.Authorization.Grounds
import ZoneGate.Authorization.Scope

/-!
# Who releases a restricted category

A request about a restricted category is never approved by the engine.  It is held for the authority
of the category, or for the security officer where a recent SIM swap was found, and its token comes
with the approval of somebody in that role.
-/

namespace ZoneGate

open Py Effects

/-- The evidence of the decision shows a recent SIM swap. -/
def ShowsSwap (d : PolicyDecision) : Prop :=
  (d.evidenceSummary.bind EvidenceSummary.recentSimSwap) = some true

instance (d : PolicyDecision) : Decidable (ShowsSwap d) := by unfold ShowsSwap; infer_instance

/-- Whom a hold on a category with the authority goes to. -/
def escalatesTo (d : PolicyDecision) (authority : String) : String :=
  if ShowsSwap d then simSwapAuthority else authority

/-- If the configuration restricts the category, then the decision does not approve, and a hold is
for the authority of the category or on a SIM swap. -/
def Escalated (config : PolicyConfig) (category : String) (d : PolicyDecision) : Prop :=
  ∀ a, config.authorityFor category = some a →
    d.decision ≠ .approve ∧ (d.decision = .hold → d.requiredAuthority = some (escalatesTo d a))

/-- A resolution has no part in it. -/
theorem Escalated.resolved {config : PolicyConfig} {category : String} {d : PolicyDecision}
    (h : Escalated config category d) (outcome : DecisionOutcome) (resolvedBy note : String)
    (now : DateTime) :
    Escalated config category (AuthorizationService.resolve d outcome resolvedBy note now) := h

namespace AuthorizationService

variable [Unicode] (svc : AuthorizationService) {env : Env} {peers : Peers} {w : World}
  {listener : Bool} {tx : TransactionRequest}

theorem verdict_escalated (plan : ValidatedEvidencePlan) (actor : Actor)
    (evidence : CanonicalEvidence) (context : Option ContextEvaluation) :
    Escalated w.config tx.category (svc.verdict env w tx actor plan evidence context) := by
  have rules := PolicyEngine.decide_rules w.config (PolicyEngine.newDecisionId (w.nextHex env))
    (env.clock w.readings) tx actor evidence context svc.attestable plan.mandatory.toFinset
  change PolicyEngine.Rules _ _ _ _ _
    (svc.verdict env w tx actor plan evidence context).decision
    (svc.verdict env w tx actor plan evidence context).requiredAuthority at rules
  have shown : ShowsSwap (svc.verdict env w tx actor plan evidence context) ↔
      evidence.recentSimSwap = some true := by
    obtain ⟨outcome, reasons, authority, shape⟩ := PolicyEngine.decide_shape w.config
      (PolicyEngine.newDecisionId (w.nextHex env)) (env.clock w.readings) tx actor evidence
      svc.attestable (some plan.mandatory.toFinset)
    rw [verdict, shape]
    rfl
  intro a restricted
  simp only [escalatesTo, shown]
  generalize (svc.verdict env w tx actor plan evidence context).decision = outcome,
    (svc.verdict env w tx actor plan evidence context).requiredAuthority = authority at rules ⊢
  cases rules with
  | deny => simp
  | simSwap _ swapped => simp [swapped]
  | restricted a' _ swapped found =>
    obtain rfl := Option.some.inj (restricted.symm.trans found)
    simp [swapped]
  | approve _ _ unrestricted =>
    rw [restricted] at unrestricted
    cases unrestricted

/-- Every decision on a request escalates as the configuration in force says. -/
theorem authorize_escalated {d : PolicyDecision} {r : Receipt}
    (h : ((svc.authorizeTransaction listener tx).run (handle env peers) w).1 = .ok (d, r)) :
    Escalated w.config tx.category d := by
  cases authorize_answered h with
  | refused => exact fun a _ => ⟨by simp [denial], by simp [denial]⟩
  | evaluated context _ _ _ _ _ config =>
    rw [← config]
    exact svc.verdict_escalated _ _ _ _

end AuthorizationService

/-! ## Runs -/

theorem judgedAnswer_eq_ok {result : Except ServiceError (PolicyDecision × Receipt)}
    {d : PolicyDecision} {r : Receipt} :
    judgedAnswer result = .ok (.judged d r) ↔ result = .ok (d, r) := by
  rcases result with e | ⟨d', r'⟩ <;> simp [judgedAnswer, Except.map]

/-- The transaction id that a request uses. -/
def Request.transactionId? : Request → Option String
  | .authorize _ tx => some tx.transactionId
  | _ => none

/-- At most one request of a list is its own kind of something. -/
theorem split_unique {requests before before' after after' : List Request} {x x' : Request}
    {id : String} (once : (requests.filterMap Request.transactionId?).Nodup)
    (eq : requests = before ++ x :: after) (eq' : requests = before' ++ x' :: after')
    (hx : x.transactionId? = some id) (hx' : x'.transactionId? = some id) :
    before = before' ∧ x = x' := by
  have absent {before after : List Request} {x : Request}
      (once : ((before ++ x :: after).filterMap Request.transactionId?).Nodup)
      (hx : x.transactionId? = some id) {y : Request} (hy : y ∈ before)
      (hid : y.transactionId? = some id) : False := by
    rw [List.filterMap_append, List.filterMap_cons_some hx, List.nodup_append] at once
    exact once.2.2 id (List.mem_filterMap.2 ⟨y, hy, hid⟩) id List.mem_cons_self rfl
  rw [eq] at once
  rcases List.append_eq_append_iff.1 (eq.symm.trans eq') with ⟨l, rfl, h⟩ | ⟨l, rfl, h⟩
  · cases l with
    | nil =>
      obtain ⟨rfl, -⟩ := List.cons.inj h
      exact ⟨by simp, rfl⟩
    | cons y l =>
      obtain ⟨rfl, -⟩ := List.cons.inj h
      rw [← eq, eq'] at once
      exact (absent once hx' (by simp) hx).elim
  · cases l with
    | nil =>
      obtain ⟨rfl, -⟩ := List.cons.inj h
      exact ⟨by simp, rfl⟩
    | cons y l =>
      obtain ⟨rfl, -⟩ := List.cons.inj h
      exact (absent once hx (by simp) hx').elim

section Runs

variable [Unicode] (svc : AuthorizationService) (env : Env) (peers : ℕ → Peers)
  (config : PolicyConfig)

/-- The decision was made on a request of the run, and escalates as the configuration then in force
says. -/
def MadeOn (requests : List Request) (d : PolicyDecision) : Prop :=
  ∃ before listener tx after, requests = before ++ .authorize listener tx :: after ∧
    d.transactionId = tx.transactionId ∧
    Escalated ((Served.start config).serve svc env peers before).world.config tx.category d

/-- A resolution that approves was put on the decision by a request of the run whose role, if it
gave one, holds the authority of the decision. -/
def SettledBy (requests : List Request) (id : String) (d : PolicyDecision) : Prop :=
  ∀ r, d.resolution = some r → r.outcome = .approve →
    r.authorityRole = (d.requiredAuthority.filter (· ≠ "")).getD "UNSPECIFIED_AUTHORITY" ∧
    ∃ note role, .resolve id .approve r.resolvedBy note role ∈ requests ∧
      ∀ passed, role = some passed → holdsAuthority (some passed) d.requiredAuthority = true

variable {svc env peers config}

theorem MadeOn.snoc {requests : List Request} {d : PolicyDecision} (request : Request)
    (h : MadeOn svc env peers config requests d) :
    MadeOn svc env peers config (requests ++ [request]) d := by
  obtain ⟨before, listener, tx, after, rfl, rest⟩ := h
  exact ⟨before, listener, tx, after ++ [request], by simp, rest⟩

theorem SettledBy.unresolved {requests : List Request} {id : String} {d : PolicyDecision}
    (h : d.resolution = none) : SettledBy requests id d := by
  intro r hr
  rw [h] at hr
  cases hr

theorem SettledBy.snoc {requests : List Request} {id : String} {d : PolicyDecision}
    (request : Request) (h : SettledBy requests id d) : SettledBy (requests ++ [request]) id d := by
  intro r hr approve
  obtain ⟨role, note, passed, mem, holds⟩ := h r hr approve
  exact ⟨role, note, passed, List.mem_append_left _ mem, holds⟩

variable (svc env peers config) in
/-- Every decision on record was made on a request of the run, and settled by one. -/
structure Escalations (requests : List Request) (l : Ledger) : Prop where
  made : ∀ id d, l.decisions id = some d → MadeOn svc env peers config requests d
  settled : ∀ id d, l.decisions id = some d → SettledBy requests id d

namespace Escalations

variable {requests : List Request} {l l' : Ledger} {request : Request}

theorem snoc (h : Escalations svc env peers config requests l)
    (same : l'.decisions = l.decisions) (request : Request) :
    Escalations svc env peers config (requests ++ [request]) l' :=
  ⟨fun id d hd => (h.made id d (same ▸ hd)).snoc request,
    fun id d hd => (h.settled id d (same ▸ hd)).snoc request⟩

theorem withDecision (h : Escalations svc env peers config requests l) {d : PolicyDecision}
    (same : l'.decisions = (l.withDecision d).decisions)
    (made : MadeOn svc env peers config (requests ++ [request]) d)
    (settled : SettledBy (requests ++ [request]) d.decisionId d) :
    Escalations svc env peers config (requests ++ [request]) l' := by
  refine ⟨fun id d' hd => ?_, fun id d' hd => ?_⟩ <;>
    rw [same, Ledger.withDecision_decisions] at hd <;> split_ifs at hd with hid
  · cases hd
    exact made
  · exact (h.made id d' hd).snoc request
  · cases hd
    exact hid ▸ settled
  · exact (h.settled id d' hd).snoc request

/-- Every request keeps the record. -/
theorem step {answer : Except ServiceError Answer}
    (h : Escalations svc env peers config requests l) (sound : Sound l)
    (step : l.Step request answer l')
    (new : ∀ listener tx d r, request = .authorize listener tx → answer = .ok (.judged d r) →
      d.transactionId = tx.transactionId → MadeOn svc env peers config (requests ++ [request]) d) :
    Escalations svc env peers config (requests ++ [request]) l' := by
  -- a resolution is recorded in the place of the hold it resolves
  have resolved {decisionId : String} {outcome verdict : DecisionOutcome} {role : Option String}
      {d : PolicyDecision} (isOpen : Open l decisionId outcome role d) (resolvedBy note : String)
      (now : DateTime) : MadeOn svc env peers config (requests ++ [request])
        (AuthorizationService.resolve d verdict resolvedBy note now) :=
    (h.made decisionId d isOpen.stored).snoc request
  have approves {decisionId by' note : String} {role : Option String} {d : PolicyDecision}
      (isOpen : Open l decisionId .approve role d)
      (asked : request = .resolve decisionId .approve by' note role) (now : DateTime) :
      SettledBy (requests ++ [request]) d.decisionId
        (AuthorizationService.resolve d .approve by' note now) := by
    rintro _ ⟨⟩ -
    obtain ⟨-, -, holds, -⟩ := AuthorizationService.ineligible_eq_none.1 isOpen.eligible
    refine ⟨rfl, note, role, List.mem_append_right _ ?_, holds⟩
    rw [sound.decisions_named _ _ isOpen.stored, asked]
    exact List.mem_singleton_self _
  cases step with
  | withheld _ about unresolved =>
    exact h.withDecision rfl (new _ _ _ _ rfl rfl about) (.unresolved unresolved)
  | approved _ about unresolved =>
    exact h.withDecision rfl (new _ _ _ _ rfl rfl about) (.unresolved unresolved)
  | unfinished =>
    refine h.snoc ?_ _
    rfl
  | denied isOpen deny =>
    refine h.withDecision rfl (resolved isOpen _ _ _) ?_
    rintro _ ⟨⟩ approve
    exact absurd approve deny
  | released isOpen => exact h.withDecision rfl (resolved isOpen _ _ _) (approves isOpen rfl _)
  | stranded isOpen => exact h.withDecision rfl (resolved isOpen _ _ _) (approves isOpen rfl _)
  | claimed =>
    refine h.snoc ?_ _
    rfl
  | idle => exact h.snoc rfl _

end Escalations

variable (svc env peers) in
theorem Served.serve_escalations (requests : List Request)
    (fresh : Fresh ((Served.start config).serve svc env peers requests).world.drawn) :
    Escalations svc env peers config requests
      ((Served.start config).serve svc env peers requests).world.ledger := by
  induction requests using List.reverseRecOn with
  | nil => constructor <;> intros <;> contradiction
  | append_singleton requests request ih =>
    have before := fresh_prefix svc env peers fresh rfl
    have stored := serve_stored svc env peers (s := Served.start config) .empty requests
    have sound := serve_sound svc env peers config requests before
    rw [serve_snoc]
    have step := request.ledger_step svc env (peers
      ((Served.start config).serve svc env peers requests).history.length) stored.keyed
    refine (ih before).step sound step fun listener tx d r asked answered about => ?_
    subst asked
    refine ⟨requests, listener, tx, [], rfl, about, ?_⟩
    rw [Request.program, run_judged] at answered
    exact svc.authorize_escalated (judgedAnswer_eq_ok.1 answered)

/-- In a run of requests in which every resolution gives a role and no transaction id is reused, the
token of a restricted category is that of a decision that somebody approved whose role holds the
authority of the category, or the one for SIM swaps where the decision shows one. -/
theorem restricted_released_by (svc : AuthorizationService) (env : Env) (peers : ℕ → Peers)
    (config : PolicyConfig) (requests : List Request)
    (fresh : Fresh ((Served.start config).serve svc env peers requests).world.drawn)
    (roles : ∀ id outcome resolvedBy note, .resolve id outcome resolvedBy note none ∉ requests)
    (once : (requests.filterMap Request.transactionId?).Nodup) :
    let kv := ((Served.start config).serve svc env peers requests).world.kv
    ∀ id t, kv (.tokens id) = some t → ∃ d, kv (.decisions t.decisionId) = some d ∧
      ∀ before listener tx after a, requests = before ++ .authorize listener tx :: after →
        tx.transactionId = d.transactionId →
        ((Served.start config).serve svc env peers before).world.config.authorityFor tx.category =
          some a →
        ∃ r note role, d.resolution = some r ∧ r.outcome = .approve ∧
          r.authorityRole = escalatesTo d a ∧
          .resolve t.decisionId .approve r.resolvedBy note (some role) ∈ requests ∧
          holdsAuthority (some role) (some (escalatesTo d a)) = true := by
  intro kv id t ht
  have sound := Served.serve_sound svc env peers config requests fresh
  have recorded := Served.serve_escalations svc env peers requests fresh
  obtain ⟨d, hd, approved⟩ := sound.earned id t ht
  refine ⟨d, hd, fun before listener tx after a eq same restricted => ?_⟩
  -- the request the decision was made on is the one with its transaction id
  obtain ⟨before', listener', tx', after', eq', about, escalated⟩ := recorded.made _ d hd
  obtain ⟨rfl, same'⟩ := split_unique once eq eq' (congrArg some same) (congrArg some about.symm)
  cases same'
  obtain ⟨held, authority⟩ := escalated a restricted
  rcases approved with approve | ⟨hold, r, hr, approve⟩
  · exact absurd approve held
  obtain ⟨named, note, role, asked, holds⟩ := recorded.settled _ d hd r hr approve
  rw [authority hold] at named holds
  have nonempty : escalatesTo d a ≠ "" := by
    unfold escalatesTo
    split_ifs
    · decide
    · exact PolicyConfig.authorityFor_ne_empty restricted
  cases role with
  | none => exact absurd asked (roles _ _ _ _)
  | some role =>
    refine ⟨r, note, role, hr, approve, ?_, asked, holds role rfl⟩
    simpa [Option.filter, nonempty] using named

end Runs

/-! ## A hold for the security officer -/

/-- Agents that propose the SIM swap check, and a carrier that finds one. -/
def Sample.swappedPeers : Peers :=
  { Sample.peers with
    carrier := fun
      | .checkSimSwap _ => .answered true
      | call => Sample.peers.carrier call
    planner := fun _ _ _ => .returned (some { optionalEvidence := [.simSwap] }) }

def Sample.plannedService : AuthorizationService := { Sample.service with planner := true }

/-- The small deployment with a planner, on a line that was swapped. -/
def Sample.servedSwapped (requests : List Request) : Served :=
  @Served.serve Sample.unicode Sample.plannedService Sample.env
    (fun _ => Sample.swappedPeers) (Served.start PolicyConfig.default) requests

/-- A release of hazardous cargo is held, and the security officer approves it. -/
def swappedRequests : List Request :=
  [.enroll Sample.operator, .bindDevice Sample.binding,
    .authorize false (Sample.hazardous "r"),
    .resolve "dec_000000000000" .approve "Officer" "" (some "SECURITY_OFFICER")]

theorem swapped_fresh : Fresh (Sample.servedSwapped swappedRequests).world.drawn := by
  unfold Fresh
  decide +kernel

theorem restricted_released_by_swapped :
    ∃ id t d, (Sample.servedSwapped swappedRequests).world.kv (.tokens id) = some t ∧
      (Sample.servedSwapped swappedRequests).world.kv (.decisions t.decisionId) = some d ∧
      ∃ r, d.resolution = some r ∧ r.authorityRole = escalatesTo d "ROLE_SAFETY_OFFICER" := by
  have issued : ((Sample.servedSwapped swappedRequests).world.kv
      (.tokens "tok_000000000001")).bind (fun t =>
        ((Sample.servedSwapped swappedRequests).world.kv (.decisions t.decisionId)).map
          PolicyDecision.transactionId) = some "tx" := by decide +kernel
  obtain ⟨t, ht, about⟩ := Option.bind_eq_some_iff.1 issued
  have fresh := swapped_fresh
  unfold Sample.servedSwapped at ht about fresh ⊢
  obtain ⟨d, hd, released⟩ := @restricted_released_by Sample.unicode
    Sample.plannedService Sample.env (fun _ => Sample.swappedPeers)
    PolicyConfig.default swappedRequests fresh (by simp [swappedRequests]) (by decide) _ t ht
  have made : d.transactionId = "tx" := by
    rw [hd] at about
    exact Option.some.inj about
  obtain ⟨r, -, -, hr, -, role, -⟩ := released [.enroll Sample.operator, .bindDevice Sample.binding]
    false (Sample.hazardous "r")
    [.resolve "dec_000000000000" .approve "Officer" "" (some "SECURITY_OFFICER")]
    "ROLE_SAFETY_OFFICER" rfl made.symm (by decide +kernel)
  exact ⟨_, t, d, ht, hd, r, hr, role⟩

/-- The configuration names the safety officer for the category, and the token comes with the
approval of the security officer. -/
theorem released_by_security_officer :
    Fresh (Sample.servedSwapped swappedRequests).world.drawn ∧
      (Sample.servedSwapped [.enroll Sample.operator, .bindDevice Sample.binding]).world.config.authorityFor
        (Sample.hazardous "r").category = some "ROLE_SAFETY_OFFICER" ∧
      ((Sample.servedSwapped swappedRequests).world.kv (.tokens "tok_000000000001")).map
        (·.decisionId) = some "dec_000000000000" ∧
      ((Sample.servedSwapped swappedRequests).world.kv (.decisions "dec_000000000000")).map
        (fun d => (d.transactionId, d.resolution.map (·.authorityRole))) =
          some ((Sample.hazardous "r").transactionId, some "ROLE_SECURITY_OFFICER") ∧
      @holdsAuthority Sample.unicode (some "SECURITY_OFFICER") (some "ROLE_SAFETY_OFFICER") =
        false :=
  ⟨swapped_fresh, by decide +kernel, by decide +kernel, by decide +kernel, by decide +kernel⟩

end ZoneGate
