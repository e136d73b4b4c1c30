import ZoneGate.Authorization.Events
import ZoneGate.Library.Channel

/-!
# The event stream of an authorization

The stream endpoint runs the pipeline as a task that puts a message for every event into a queue,
and at the end the result and a sentinel.  The response yields the messages as it gets them.
-/

namespace ZoneGate

open Py Effects

/-- A server-sent event: its kind with the payload. -/
inductive ServerSentEventMessage
  | stage (event : StageEvent)
  | result (decision : PolicyDecision) (receipt : Receipt)
  | error (e : ServiceError)
deriving DecidableEq

/-- The message the task puts into the queue when the pipeline is over. -/
def ServerSentEventMessage.closing :
    Except ServiceError (PolicyDecision × Receipt) → ServerSentEventMessage
  | .ok (decision, receipt) => .result decision receipt
  | .error e => .error e

/-- The task, until it is over, and the queue between it and the response. -/
structure Stream where
  task : Option (Service (PolicyDecision × Receipt))
  world : World
  channel : Channel ServerSentEventMessage := {}

inductive StreamStep
  | produce | consume
deriving DecidableEq, Repr

/-- `on_stage`, called for an event; no other call reaches the queue. -/
def heard : Effect → Channel ServerSentEventMessage → Channel ServerSentEventMessage
  | .notify event, channel => channel.put (some (.stage event))
  | _, channel => channel

namespace Stream

variable (env : Env) (peers : Peers)

/-- The task makes its next call, or puts its last message and the sentinel. -/
def produce (s : Stream) : Stream :=
  match s.task with
  | none => s
  | some (.ret verdict) =>
      { s with
        task := none
        channel := (s.channel.put (some (.closing (.ok verdict)))).put none }
  | some (.raise e) =>
      { s with
        task := none
        channel := (s.channel.put (some (.closing (.error e)))).put none }
  | some (.call c next) =>
      match handle env peers c s.world with
      | (.ok r, w) => { task := some (next r), world := w, channel := heard c s.channel }
      | (.error e, w) => { s with task := some (.raise e), world := w }

def step (s : Stream) : StreamStep → Stream
  | .produce => s.produce env peers
  | .consume => { s with channel := s.channel.get }

/-- The task and the response take turns as the schedule says. -/
def run (s : Stream) (schedule : List StreamStep) : Stream := schedule.foldl (step env peers) s

theorem run_append (s : Stream) (first last : List StreamStep) :
    s.run env peers (first ++ last) = (s.run env peers first).run env peers last :=
  List.foldl_append ..

/-! ## What is put into the queue -/

/-- The messages of a pipeline that runs to its end. -/
def messages (p : Service (PolicyDecision × Receipt)) (w : World) : List ServerSentEventMessage :=
  (told (p.answers (handle env peers) w)).map .stage ++ [.closing (p.run (handle env peers) w).1]

/-- What the task still puts into the queue. -/
def rest (s : Stream) : List (Option ServerSentEventMessage) :=
  match s.task with
  | none => []
  | some p => (messages env peers p s.world).map some ++ [none]

/-- The calls the task still makes, and its end. -/
def work (s : Stream) : ℕ :=
  match s.task with
  | none => 0
  | some p => (p.answers (handle env peers) s.world).length + 1

variable {env peers}

theorem messages_call (c : Effect) (next : c.Reply → Service (PolicyDecision × Receipt))
    {w w' : World} {r : c.Reply} (hc : handle env peers c w = (.ok r, w')) :
    messages env peers (.call c next) w =
      (told [⟨c, r⟩]).map .stage ++ messages env peers (next r) w' := by
  rw [messages, Prog.answers_call, Prog.run_call, hc, messages, ← List.append_assoc,
    ← List.map_append, ← told_append]
  rfl

theorem content_heard (c : Effect) (r : c.Reply) (channel : Channel ServerSentEventMessage) :
    (heard c channel).content =
      channel.content ++ ((told [⟨c, r⟩]).map ServerSentEventMessage.stage).map some := by
  cases c with
  | notify event => exact Channel.content_put ..
  | _ => exact (List.append_nil _).symm

theorem produce_spec (s : Stream) :
    (s.produce env peers).channel.content ++ (s.produce env peers).rest env peers =
        s.channel.content ++ s.rest env peers ∧
      (s.produce env peers).work env peers = s.work env peers - 1 := by
  obtain ⟨task, w, channel⟩ := s
  rcases task with _ | verdict | e | ⟨c, next⟩
  · exact ⟨rfl, rfl⟩
  · exact ⟨by simp [produce, rest, messages, Prog.answers, told], rfl⟩
  · exact ⟨by simp [produce, rest, messages, Prog.answers, told], rfl⟩
  obtain ⟨r, w', hc⟩ := handle_ok env peers c w
  refine ⟨?_, ?_⟩
  · simp only [produce, rest, hc]
    rw [content_heard c r, messages_call c next hc, List.map_append, List.append_assoc,
      List.append_assoc]
  · simp only [produce, work, hc, Prog.answers_call, List.length_cons, Nat.add_sub_cancel]

/-- Nothing is lost and nothing is put twice. -/
theorem run_content (s : Stream) (schedule : List StreamStep) :
    (s.run env peers schedule).channel.content ++ (s.run env peers schedule).rest env peers =
      s.channel.content ++ s.rest env peers := by
  induction schedule generalizing s with
  | nil => rfl
  | cons turn schedule ih =>
    refine (ih _).trans ?_
    cases turn with
    | produce => exact (produce_spec s).1
    | consume => exact congrArg (· ++ s.rest env peers) (Channel.content_get s.channel)

/-- The task is over when it has had enough turns. -/
theorem run_work (s : Stream) (schedule : List StreamStep) :
    (s.run env peers schedule).work env peers ≤
      s.work env peers - schedule.count .produce := by
  induction schedule generalizing s with
  | nil => exact Nat.le_refl _
  | cons turn schedule ih =>
    refine (ih _).trans ?_
    cases turn with
    | produce =>
      rw [List.count_cons_self, step, (produce_spec s).2]
      omega
    | consume =>
      rw [List.count_cons_of_ne (by decide)]
      exact Nat.le_refl _

/-- Once the task is over, the response empties the queue. -/
theorem run_pending {s : Stream} (ended : s.task = none) (schedule : List StreamStep) :
    (s.run env peers schedule).task = none ∧
      (s.run env peers schedule).channel.pending ≤
        s.channel.pending - schedule.count .consume := by
  induction schedule generalizing s with
  | nil => exact ⟨ended, Nat.le_refl _⟩
  | cons turn schedule ih =>
    cases turn with
    | produce =>
      have idle : s.step env peers .produce = s := by simp only [step, produce, ended]
      rw [List.count_cons_of_ne (by decide), run, List.foldl_cons, idle]
      exact ih ended
    | consume =>
      obtain ⟨ended', pending⟩ := ih (s := s.step env peers .consume) ended
      refine ⟨ended', pending.trans ?_⟩
      have := s.channel.pending_get
      rw [List.count_cons_self, step]
      dsimp only
      omega

theorem task_eq_none {s : Stream} (done : s.work env peers = 0) : s.task = none := by
  unfold work at done
  split at done
  · assumption
  · omega

/-- The response yields these messages, in any order of the turns: never another one, all of them
when it ends, and it ends when both sides have had enough turns. -/
structure Tells (env : Env) (peers : Peers) (s : Stream) (messages : List ServerSentEventMessage) :
    Prop where
  sofar : ∀ schedule, (s.run env peers schedule).channel.yielded <+: messages
  ended : ∀ schedule, (s.run env peers schedule).channel.closed = true →
    (s.run env peers schedule).channel.yielded = messages
  ends : ∃ n, ∀ first last, n ≤ first.count .produce → n ≤ last.count .consume →
    (s.run env peers (first ++ last)).channel.closed = true

theorem tells_messages (p : Service (PolicyDecision × Receipt)) (w : World) :
    Tells env peers { task := some p, world := w } (messages env peers p w) := by
  set s : Stream := { task := some p, world := w } with hs
  have put (schedule : List StreamStep) :
      (s.run env peers schedule).channel.content ++ (s.run env peers schedule).rest env peers =
        (messages env peers p w).map some ++ [none] := s.run_content schedule
  refine ⟨fun schedule => Channel.yielded_prefix (put schedule),
    fun schedule closed => Channel.yielded_of_closed (put schedule) closed,
    s.work env peers + ((messages env peers p w).map some ++ [none]).length,
    fun first last produced consumed => ?_⟩
  have ended : (s.run env peers first).task = none := by
    have work : (s.run env peers first).work env peers ≤
        s.work env peers - first.count .produce := s.run_work first
    have done : (s.run env peers first).work env peers = 0 := by omega
    exact task_eq_none done
  have drained : ((s.run env peers first).run env peers last).task = none ∧
      ((s.run env peers first).run env peers last).channel.pending ≤
        (s.run env peers first).channel.pending - last.count .consume := run_pending ended last
  rw [← run_append] at drained
  obtain ⟨ended', drained⟩ := drained
  have done : (s.run env peers (first ++ last)).channel.content =
      (messages env peers p w).map some ++ [none] := by
    have all := put (first ++ last)
    rwa [rest, ended', List.append_nil] at all
  refine Channel.closed_of_drained done ?_
  have bound : (s.run env peers first).channel.pending ≤
      ((messages env peers p w).map some ++ [none]).length := by
    refine (Channel.pending_le _).trans ?_
    rw [← put first, List.length_append]
    exact Nat.le_add_right ..
  omega

end Stream

/-- The stream of a request, about to start. -/
def streamAuthorization [Unicode] (svc : AuthorizationService) (data : TransactionRequest)
    (w : World) : Stream where
  task := some (svc.authorizeTransaction true data)
  world := w

/-- The events agree with the decision, without a listener the decision is the same, and the stream
tells the events and then the decision and the receipt.  Only a zone without any geofence makes the
pipeline raise. -/
theorem events_agree [Unicode] (svc : AuthorizationService) (env : Env) (peers : Peers) (w : World)
    (transaction : TransactionRequest) :
    let program := svc.authorizeTransaction true transaction
    let events := told (program.answers (handle env peers) w)
    program.run (handle env peers) w =
        (svc.authorizeTransaction false transaction).run (handle env peers) w ∧
      (areaOf svc.zoneRegistry transaction.zone ≠ none →
        ∃ decision receipt, (program.run (handle env peers) w).1 = .ok (decision, receipt)) ∧
      ∀ decision receipt, (program.run (handle env peers) w).1 = .ok (decision, receipt) →
        Agrees events decision receipt ∧
          (streamAuthorization svc transaction w).Tells env peers
            (events.map .stage ++ [.result decision receipt]) := by
  intro program events
  refine ⟨svc.authorizeTransaction_listener transaction w true false, fun zoned => ?_,
    fun decision receipt returned => ⟨?_, ?_⟩⟩
  · obtain ⟨area, harea⟩ := Option.ne_none_iff_exists'.1 zoned
    have judged : AuthorizationService.ReturnsJudged svc peers w transaction area
        (program.run (handle env peers) w).1 := AuthorizationService.authorize_judged harea true
    obtain ⟨decision, receipt, returned, -⟩ := judged
    exact ⟨decision, receipt, returned⟩
  · have agrees := (svc.authorizeTransaction_told transaction).run (h := handle env peers) w
    rwa [returned] at agrees
  · have tells : Stream.Tells env peers { task := some program, world := w }
        (Stream.messages env peers program w) := Stream.tells_messages program w
    rwa [Stream.messages, returned] at tells

end ZoneGate
