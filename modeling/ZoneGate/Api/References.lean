import ZoneGate.Api.Filing

/-!
# References across requests

Requests to all endpoints overlap, call by call.  As long as new identifiers are new, no reference in
the store ever dangles: each save rests on what its request has read or saved before.
-/

namespace ZoneGate

open Py Effects

/-! ## Runs -/

section Runs

variable {ι : Type} [DecidableEq ι] {env : Env} {peers : ι → Peers}

/-- A new decision and a new token take identifiers under which nothing is on record. -/
structure NewIds (trace : HttpTrace ι) : Prop where
  decisions : ∀ e ∈ trace, ∀ d, e.call = .store (.saveDecision d) → d.resolution = none →
    e.state.kv (.decisions d.decisionId) = none
  tokens : ∀ e ∈ trace, ∀ t, e.call = .store (.saveToken t) → t.claimed = false →
    e.state.kv (.tokens t.tokenId) = none

omit [DecidableEq ι] in
theorem NewIds.of_append {first last : HttpTrace ι} (h : NewIds (first ++ last)) :
    NewIds first :=
  ⟨fun e mem => h.decisions e (List.mem_append_left _ mem),
    fun e mem => h.tokens e (List.mem_append_left _ mem)⟩

/-- The references of the store are sound, as they were for every call so far, and what was on
record before and after that call still is. -/
structure SoundSince (env : Env) (peers : ι → Peers) (kv : Kv) (trace : HttpTrace ι) : Prop where
  consistent : kv.Consistent
  earlier : ∀ e ∈ trace, e.state.kv.Consistent
  since : ∀ e ∈ trace, e.state.kv.Extends kv
  after : ∀ e ∈ trace, (handleAll env peers e.thread e.call e.state).2.kv.Extends kv

/-- What the calls of the history were answered on the states they found. -/
def AnsweredBy (env : Env) (peers : ι → Peers) (trace : HttpTrace ι) : Prop :=
  ∀ e ∈ trace, e.reply = (handleAll env peers e.thread e.call e.state).1

omit [DecidableEq ι] in
theorem AnsweredBy.snoc {trace : HttpTrace ι} (h : AnsweredBy env peers trace) (i : ι) (c : Effect)
    (w : World) : AnsweredBy env peers (trace ++ [⟨i, c, w, (handleAll env peers i c w).1⟩]) := by
  intro e mem
  rcases List.mem_append.1 mem with before | last
  · exact h e before
  · obtain rfl := List.mem_singleton.1 last
    rfl

/-- A save that rests on the history of its request respects the references. -/
theorem SoundSince.respects {svc : AuthorizationService} {asked : TransactionRequest → Prop}
    {kv : Kv} {trace : HttpTrace ι} {i : ι}
    (h : SoundSince env peers kv trace) (answered : AnsweredBy env peers trace) {c : StoreCall}
    (justified : Justified svc asked (history i trace) (.store c))
    (newDecision : ∀ d, c = .saveDecision d → d.resolution = none →
      kv (.decisions d.decisionId) = none)
    (newToken : ∀ t, c = .saveToken t → t.claimed = false → kv (.tokens t.tokenId) = none) :
    c.Respects kv := by
  have found {call : StoreCall} {r : call.Reply}
      (mem : (⟨Effect.store call, r⟩ : Handled Services) ∈ history i trace) :
      ∃ e ∈ trace, e.call = .store call ∧ call.answer e.state.kv = r := by
    obtain ⟨e, there, -, answer⟩ := mem_history.1 mem
    exact ⟨e, there, Event.call_of_answered answer,
      Except.ok.inj (Event.reply_of_answered (answered e there) answer)⟩
  cases c with
  | saveDecision d =>
    rcases justified with new | ⟨-, id, held, mem, same⟩
    · refine ⟨fun old stored => ?_, ?_⟩
      · rw [newDecision d rfl new.open_] at stored
        cases stored
      · obtain ⟨tx, mem, about⟩ := new.filed
        obtain ⟨e, there, saves, -⟩ := found mem
        rw [about]
        refine (h.after e there).transactions _ ?_
        rw [saves]
        change (StoreCall.saveTransaction tx).exec e.state.kv (.transactions tx.transactionId) ≠ none
        simp [StoreCall.saveTransaction_transactions]
    · obtain ⟨e, there, -, answer⟩ := found mem
      have answer : e.state.kv (.decisions id) = some held := answer
      obtain rfl : held.decisionId = id := (h.earlier e there).keyed (.decisions id) held answer
      obtain ⟨d', stored', same'⟩ := (h.since e there).decisions _ held answer
      obtain ⟨ids, transactions, -⟩ := PolicyDecision.eq_of_core same
      refine ⟨fun old stored => ?_, ?_⟩
      · rw [ids, stored] at stored'
        obtain rfl := Option.some.inj stored'
        exact same'.trans same
      · rw [← transactions]
        exact (h.since e there).transactions _ ((h.earlier e there).filed _ held answer)
  | saveReceipt r =>
    rcases justified with ⟨d, mem, fits⟩ | ⟨tx, receipt, mem, fits⟩
    · obtain ⟨e, there, saves, -⟩ := found mem
      have stored : (handleAll env peers e.thread e.call e.state).2.kv (.decisions d.decisionId) =
          some d := by
        rw [saves]
        exact (StoreCall.saveDecision_decisions e.state.kv d d.decisionId).trans (if_pos rfl)
      have backed : r.Backed (handleAll env peers e.thread e.call e.state).2.kv := ⟨d, stored, fits⟩
      exact backed.extends (h.after e there)
    · obtain ⟨e, there, -, answer⟩ := found mem
      obtain ⟨id, -, stored⟩ := Option.bind_eq_some_iff.1
        (show e.state.kv.getReceiptByTx tx = some receipt from answer)
      obtain ⟨d, on, same⟩ := (h.earlier e there).backed id receipt stored
      have backed : r.Backed e.state.kv := ⟨d, on, fits d same⟩
      exact backed.extends (h.since e there)
  | saveToken t =>
    rcases justified with ⟨unclaimed, -⟩ | ⟨identifier, token, now, mem, rfl⟩ <;> intro old stored
    · rw [newToken t rfl unclaimed] at stored
      cases stored
    · obtain ⟨e, there, -, answer⟩ := found mem
      have kept := Kv.tokens_of_getToken (h.earlier e there).keyed
        (show e.state.kv.getToken identifier = some token from answer)
      obtain ⟨t', stored', same⟩ := (h.since e there).tokens _ token kept
      obtain rfl := Option.some.inj (stored.symm.trans stored')
      exact same
  | _ => trivial

/-- A call that rests on the history of its request keeps the references sound. -/
theorem SoundSince.call {svc : AuthorizationService} {asked : TransactionRequest → Prop}
    {w : World} {trace : HttpTrace ι} {i : ι} {c : Effect}
    (h : SoundSince env peers w.kv trace) (answered : AnsweredBy env peers trace)
    (justified : Justified svc asked (history i trace) c)
    (fresh : NewIds (trace ++ [⟨i, c, w, (handleAll env peers i c w).1⟩])) :
    w.kv.Extends (handleAll env peers i c w).2.kv ∧ SoundSince env peers
      (handleAll env peers i c w).2.kv (trace ++ [⟨i, c, w, (handleAll env peers i c w).1⟩]) := by
  obtain ⟨grows, consistent⟩ : w.kv.Extends (handleAll env peers i c w).2.kv ∧
      (handleAll env peers i c w).2.kv.Consistent := by
    cases c with
    | store c =>
      have last : (⟨i, .store c, w, (handleAll env peers i (.store c) w).1⟩ :
          Event Services ServiceError World ι) ∈ trace ++ [_] :=
        List.mem_append_right _ (List.mem_singleton.2 rfl)
      have respects : c.Respects w.kv := by
        refine h.respects answered justified (fun d saves new => ?_) fun t saves new => ?_
        · exact fresh.decisions _ last d (congrArg Effect.store saves) new
        · exact fresh.tokens _ last t (congrArg Effect.store saves) new
      exact ⟨StoreCall.exec_extends respects, StoreCall.exec_consistent h.consistent respects⟩
    | _ => exact ⟨.refl w.kv, h.consistent⟩
  refine ⟨grows, consistent, fun e mem => ?_, fun e mem => ?_, fun e mem => ?_⟩
  all_goals rcases List.mem_append.1 mem with before | last
  · exact h.earlier e before
  · obtain rfl := List.mem_singleton.1 last
    exact h.consistent
  · exact (h.since e before).trans grows
  · obtain rfl := List.mem_singleton.1 last
    exact grows
  · exact (h.after e before).trans grows
  · obtain rfl := List.mem_singleton.1 last
    exact .refl _

variable [Unicode] [UnicodeDigits] (svc : AuthorizationService) (console : ConsoleAuthService)
  (settings : Settings)

/-- What every call of a run keeps, as long as new decisions and tokens take new identifiers. -/
theorem sound_since (env : Env) (peers : ι → Peers) (requests : ι → HttpRequest) {w : World}
    (consistent : w.kv.Consistent) (schedule : List ι)
    (fresh : NewIds
      ((serving svc console settings requests w).trace (handleAll env peers) schedule)) :
    let kv := ((serving svc console settings requests w).run (handleAll env peers)
      schedule).state.kv
    w.kv.Extends kv ∧ SoundSince env peers kv
      ((serving svc console settings requests w).trace (handleAll env peers) schedule) := by
  have start : (serving svc console settings requests w).AllUphold
      (fun i => Justified svc (requests i).AsksFor) (fun _ _ _ => True) [] := fun i =>
    (requests i).program_justified svc console settings
  have sound := (start.induct (h := handleAll env peers) (P := fun s trace => NewIds trace →
    AnsweredBy env peers trace ∧ w.kv.Extends s.kv ∧ SoundSince env peers s.kv trace) ?_ ?_
    schedule).2
  · rw [List.nil_append] at sound
    exact (sound fresh).2
  · refine fun _ => ⟨fun e mem => ?_, .refl _, consistent, fun e mem => ?_, fun e mem => ?_,
      fun e mem => ?_⟩ <;> cases mem
  · intro s trace i c justified ih fresh
    obtain ⟨answered, grows, sound⟩ := ih fresh.of_append
    obtain ⟨grows', sound'⟩ := sound.call answered justified fresh
    exact ⟨answered.snoc i c s, grows.trans grows', sound'⟩

/-- However the requests to the endpoints overlap, and wherever they stop, the lists and the indexes
of the store lead to records that fit them and every receipt is about a decision on record, as long
as new decisions and tokens take new identifiers; and what was on record, but for the sessions, still
is. -/
theorem references_sound (env : Env) (peers : ι → Peers) (requests : ι → HttpRequest) {w : World}
    (consistent : w.kv.Consistent) (schedule : List ι)
    (fresh : NewIds
      ((serving svc console settings requests w).trace (handleAll env peers) schedule)) :
    let kv := ((serving svc console settings requests w).run (handleAll env peers)
      schedule).state.kv
    kv.Consistent ∧ w.kv.Extends kv := by
  obtain ⟨grows, sound⟩ := sound_since svc console settings env peers requests consistent schedule
    fresh
  exact ⟨sound.consistent, grows⟩

end Runs

/-! ## A release that is approved -/

namespace Sample

theorem world_consistent : world.kv.Consistent :=
  StoreCall.exec_consistent (StoreCall.exec_consistent Kv.consistent_empty
    (c := .saveActor operator) trivial) (c := .saveDeviceBinding binding) trivial

def releasing : HttpRequests Unit :=
  @serving unicode unicodeDigits Unit service console {} (fun _ => .requestAuthorization general)
    world

def releasingTrace : HttpTrace Unit :=
  releasing.trace (handleAll env fun _ => peers) (List.replicate 25 ())

/-- What the call saves is under no identifier in use. -/
def takesNew (e : Event Services ServiceError World Unit) : Bool :=
  match e.call with
  | .store (.saveDecision d) => (e.state.kv (.decisions d.decisionId)).isNone
  | .store (.saveToken t) => (e.state.kv (.tokens t.tokenId)).isNone
  | _ => true

theorem newIds_of_takesNew {trace : HttpTrace Unit} (all : trace.all takesNew = true) :
    NewIds trace := by
  refine ⟨fun e mem d saves _ => ?_, fun e mem t saves _ => ?_⟩
  · have new := List.all_eq_true.1 all e mem
    rw [takesNew, saves] at new
    simpa using new
  · have new := List.all_eq_true.1 all e mem
    rw [takesNew, saves] at new
    simpa using new

theorem releasing_fresh : NewIds releasingTrace := newIds_of_takesNew (by decide +kernel)

end Sample

theorem references_sound_release :
    let kv := (Sample.releasing.run (handleAll Sample.env fun _ => Sample.peers)
      (List.replicate 25 ())).state.kv
    kv.decisionIds = ["dec_000000000000"] ∧ kv.Consistent ∧ Sample.world.kv.Extends kv :=
  ⟨by decide +kernel, @references_sound Unit _ Sample.unicode Sample.unicodeDigits
    Sample.service Sample.console {} Sample.env (fun _ => Sample.peers)
    (fun _ => .requestAuthorization Sample.general) Sample.world Sample.world_consistent
    (List.replicate 25 ()) Sample.releasing_fresh⟩

end ZoneGate
