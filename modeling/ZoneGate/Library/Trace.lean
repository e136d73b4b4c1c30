import ZoneGate.Library.Pool
import Mathlib.Data.List.Induction

/-!
# Histories and traces

The history of a program is the list of the calls it has made, each with its reply.  `Upholds`
says what a program does in terms of its own history alone, whatever the replies are.  The trace of
an interleaved run lists the calls of all threads, each with the state it found; `Pool.upholds_run`
says that what a thread upholds on its own it upholds in every trace.
-/

namespace Effects

variable {I : Interface} {ε α β σ ι : Type}

/-- A call with the reply to it. -/
abbrev Handled (I : Interface) := (c : I.Call) × I.Reply c

namespace Prog

/-- Every call the program makes satisfies `φ` and its end satisfies `ψ`, each in the light of the
calls made so far, oldest first, and whatever the replies. -/
def Upholds (φ : List (Handled I) → I.Call → Prop) (ψ : List (Handled I) → Except ε α → Prop) :
    Prog I ε α → List (Handled I) → Prop
  | .ret a, past => ψ past (.ok a)
  | .raise e, past => ψ past (.error e)
  | .call c next, past => φ past c ∧ (∀ e, ψ past (.error e)) ∧
      ∀ r, (next r).Upholds φ ψ (past ++ [⟨c, r⟩])

variable {φ : List (Handled I) → I.Call → Prop} {ψ : List (Handled I) → Except ε α → Prop}
  {χ : I.Call → Prop} {P : List (Handled I) → Prop} {past : List (Handled I)}

@[simp] theorem upholds_ret (a : α) :
    (Prog.ret a : Prog I ε α).Upholds φ ψ past ↔ ψ past (.ok a) := Iff.rfl

@[simp] theorem upholds_raise (e : ε) :
    (Prog.raise e : Prog I ε α).Upholds φ ψ past ↔ ψ past (.error e) := Iff.rfl

theorem Upholds.mono {φ' : List (Handled I) → I.Call → Prop}
    {ψ' : List (Handled I) → Except ε α → Prop} {p : Prog I ε α} (hp : p.Upholds φ ψ past)
    (hφ : ∀ past c, φ past c → φ' past c) (hψ : ∀ past r, ψ past r → ψ' past r) :
    p.Upholds φ' ψ' past := by
  induction p generalizing past with
  | ret a => exact hψ _ _ hp
  | raise e => exact hψ _ _ hp
  | call c next ih =>
    obtain ⟨first, error, rest⟩ := hp
    exact ⟨hφ _ _ first, fun e => hψ _ _ (error e), fun r => ih r (rest r)⟩

/-- A program of which nothing is asked. -/
theorem upholds_of_forall (hφ : ∀ past c, φ past c) (hψ : ∀ past r, ψ past r) (p : Prog I ε α)
    (past : List (Handled I)) : p.Upholds φ ψ past := by
  induction p generalizing past with
  | ret a => exact hψ _ _
  | raise e => exact hψ _ _
  | call c next ih => exact ⟨hφ _ _, fun e => hψ _ _, fun r => ih r _⟩

theorem Upholds.bind {ρ : List (Handled I) → Except ε β → Prop} {p : Prog I ε β}
    {f : β → Prog I ε α} (hp : p.Upholds φ ρ past)
    (hf : ∀ past b, ρ past (.ok b) → (f b).Upholds φ ψ past)
    (he : ∀ past e, ρ past (.error e) → ψ past (.error e)) : (p >>= f).Upholds φ ψ past := by
  induction p generalizing past with
  | ret b => exact hf past b hp
  | raise e => exact he past e hp
  | call c next ih =>
    obtain ⟨first, error, rest⟩ := hp
    exact ⟨first, fun e => he past e (error e), fun r => ih r (rest r)⟩

/-- Sequencing when the exceptions `δ` of the first program are caught further up. -/
theorem Upholds.except_bind {δ : Type} {ψ : List (Handled I) → Except ε (Except δ α) → Prop}
    {ρ : List (Handled I) → Except ε (Except δ β) → Prop} {p : ExceptT δ (Prog I ε) β}
    {f : β → ExceptT δ (Prog I ε) α} (hp : Upholds φ ρ p.run past)
    (hf : ∀ past b, ρ past (.ok (.ok b)) → Upholds φ ψ (f b).run past)
    (hd : ∀ past d, ρ past (.ok (.error d)) → ψ past (.ok (.error d)))
    (he : ∀ past e, ρ past (.error e) → ψ past (.error e)) : Upholds φ ψ (p >>= f).run past := by
  refine Upholds.bind hp (fun past result h => ?_) he
  rcases result with d | b
  · exact hd past d h
  · exact hf past b h

/-- Handling exceptions changes no call. -/
theorem Upholds.catching {δ : Type} {ψ' : List (Handled I) → Except ε (Except δ α) → Prop}
    (caught : ε → Option δ) {p : Prog I ε α} (hp : p.Upholds φ ψ past)
    (hψ : ∀ past r, ψ past r → ψ' past (caughtAs caught r))
    (he : ∀ past e, ψ past (.error e) → ψ' past (.error e)) :
    (p.catching caught).Upholds φ ψ' past := by
  induction p generalizing past with
  | ret a => exact hψ past (.ok a) hp
  | raise e =>
    have handled := hψ past (.error e) hp
    rw [caughtAs] at handled
    rw [Prog.catching]
    cases hc : caught e <;> rw [hc] at handled <;> exact handled
  | call c next ih =>
    obtain ⟨first, error, rest⟩ := hp
    exact ⟨first, fun e => he past e (error e), fun r => ih r (rest r)⟩

/-- A program whose calls all keep an assertion on the history ends with it. -/
theorem Upholds.of_callsOnly {p : Prog I ε α} (hp : p.CallsOnly χ)
    (step : ∀ past c, χ c → P past → φ past c ∧ ∀ r, P (past ++ [⟨c, r⟩])) (start : P past) :
    p.Upholds φ (fun past _ => P past) past := by
  induction p generalizing past with
  | ret a => exact start
  | raise e => exact start
  | call c next ih =>
    obtain ⟨here, after⟩ := step past c hp.1 start
    exact ⟨here, fun _ => start, fun r => ih r (hp.2 r) (after r)⟩

/-- A program whose calls all keep an assertion on the history, before another one. -/
theorem Upholds.bind_callsOnly {p : Prog I ε β} {f : β → Prog I ε α} (hp : p.CallsOnly χ)
    (step : ∀ past c, χ c → P past → φ past c ∧ ∀ r, P (past ++ [⟨c, r⟩]))
    (raise : ∀ past e, P past → ψ past (.error e)) (start : P past)
    (rest : ∀ past b, P past → (f b).Upholds φ ψ past) : (p >>= f).Upholds φ ψ past :=
  (of_callsOnly hp step start).bind rest raise

/-- The history that a program ends with extends the one it starts with. -/
theorem Upholds.extends_past {p : Prog I ε α} (hp : p.Upholds φ ψ past) :
    p.Upholds φ (fun past' r => ψ past' r ∧ past <+: past') past := by
  induction p generalizing past with
  | ret a => exact ⟨hp, List.prefix_rfl⟩
  | raise e => exact ⟨hp, List.prefix_rfl⟩
  | call c next ih =>
    obtain ⟨first, error, rest⟩ := hp
    refine ⟨first, fun e => ⟨error e, List.prefix_rfl⟩, fun r => ?_⟩
    exact (ih r (rest r)).mono (fun _ _ h => h)
      fun _ _ h => ⟨h.1, (List.prefix_append ..).trans h.2⟩

/-- A program that upholds two things upholds both. -/
theorem Upholds.and {φ' : List (Handled I) → I.Call → Prop}
    {ψ' : List (Handled I) → Except ε α → Prop} {p : Prog I ε α} (hp : p.Upholds φ ψ past)
    (hp' : p.Upholds φ' ψ' past) :
    p.Upholds (fun past c => φ past c ∧ φ' past c) (fun past r => ψ past r ∧ ψ' past r) past := by
  induction p generalizing past with
  | ret a => exact ⟨hp, hp'⟩
  | raise e => exact ⟨hp, hp'⟩
  | call c next ih =>
    exact ⟨⟨hp.1, hp'.1⟩, fun e => ⟨hp.2.1 e, hp'.2.1 e⟩, fun r => ih r (hp.2.2 r) (hp'.2.2 r)⟩

/-- One call that keeps the assertion, before the rest of the program. -/
theorem Upholds.call {c : I.Call} {next : I.Reply c → Prog I ε α}
    (step : φ past c ∧ ∀ r, P (past ++ [⟨c, r⟩])) (raise : ∀ e, ψ past (.error e))
    (rest : ∀ r, P (past ++ [⟨c, r⟩]) → (next r).Upholds φ ψ (past ++ [⟨c, r⟩])) :
    (Prog.call c next).Upholds φ ψ past :=
  ⟨step.1, raise, fun r => rest r (step.2 r)⟩

/-- The calls that a run makes, with the replies, oldest first. -/
def answers (h : Handler I ε σ) : Prog I ε α → σ → List (Handled I)
  | .ret _, _ => []
  | .raise _, _ => []
  | .call c next, s =>
      match h c s with
      | (.ok r, s') => ⟨c, r⟩ :: (next r).answers h s'
      | (.error _, _) => []

theorem answers_call (h : Handler I ε σ) (c : I.Call) (next : I.Reply c → Prog I ε α) (s : σ) :
    (Prog.call c next).answers h s =
      match h c s with
      | (.ok r, s') => ⟨c, r⟩ :: (next r).answers h s'
      | (.error _, _) => [] := by
  rw [answers]

theorem answers_bind (h : Handler I ε σ) (p : Prog I ε β) (f : β → Prog I ε α) (s : σ) :
    (p >>= f).answers h s = p.answers h s ++
      match p.run h s with
      | (.ok b, s') => (f b).answers h s'
      | (.error _, _) => [] := by
  induction p generalizing s with
  | ret b => rfl
  | raise e => rfl
  | call c next ih =>
    rw [call_bind, answers_call, answers_call, run_call]
    rcases h c s with ⟨e | r, s'⟩
    · rfl
    · exact congrArg (⟨c, r⟩ :: ·) (ih r s')

/-- Sequencing when the exceptions `δ` of the first program are caught further up. -/
theorem answers_except_bind {δ : Type} (h : Handler I ε σ) (p : ExceptT δ (Prog I ε) β)
    (f : β → ExceptT δ (Prog I ε) α) (s : σ) :
    Prog.answers h (p >>= f).run s = Prog.answers h p.run s ++
      match Prog.run h p.run s with
      | (.ok (.ok b), s') => Prog.answers h (f b).run s'
      | _ => [] := by
  change Prog.answers h (p.run >>= ExceptT.bindCont f) s = _
  rw [answers_bind]
  rcases Prog.run h p.run s with ⟨e | (e | b), s'⟩ <;> rfl

/-- What the handler answers a call is what is in the history of a run. -/
theorem handled_of_mem_answers {h : Handler I ε σ} {R : (c : I.Call) → I.Reply c → Prop}
    (step : ∀ c s r s', h c s = (.ok r, s') → R c r) {p : Prog I ε α} {s : σ} {x : Handled I}
    (mem : x ∈ p.answers h s) : R x.1 x.2 := by
  induction p generalizing s with
  | ret a => cases mem
  | raise e => cases mem
  | call c next ih =>
    rw [answers_call] at mem
    rcases hc : h c s with ⟨e | r, s'⟩ <;> rw [hc] at mem
    · cases mem
    · rcases List.mem_cons.1 mem with rfl | mem
      · exact step c s r s' hc
      · exact ih r mem

/-- A run ends as the program promises. -/
theorem Upholds.run {h : Handler I ε σ} {p : Prog I ε α} (hp : p.Upholds φ ψ past) (s : σ) :
    ψ (past ++ p.answers h s) (p.run h s).1 := by
  induction p generalizing past s with
  | ret a => simpa [answers] using hp
  | raise e => simpa [answers] using hp
  | call c next ih =>
    rw [run_call, answers_call]
    rcases h c s with ⟨e | r, s'⟩
    · simpa using hp.2.1 e
    · have rest := ih r (hp.2.2 r) s'
      rwa [List.append_assoc] at rest

/-- What the calls that a program upholds keep, its run keeps. -/
theorem Upholds.run_keeps {h : Handler I ε σ} {P : σ → Prop} {p : Prog I ε α}
    (hp : p.Upholds φ ψ past) (step : ∀ past c s, φ past c → P s → P (h c s).2) {s : σ}
    (hs : P s) : P (p.run h s).2 := by
  induction p generalizing past s with
  | ret a => exact hs
  | raise e => exact hs
  | call c next ih =>
    have first := step past c s hp.1 hs
    rw [run_call]
    rcases hc : h c s with ⟨e | r, s'⟩ <;> rw [hc] at first
    · exact first
    · exact ih r (hp.2.2 r) first

/-- The program makes `n` calls at most and returns, whatever the replies of the kind `φ`. -/
def Within (φ : Handled I → Prop) : Prog I ε α → ℕ → Prop
  | .ret _, _ => True
  | .raise _, _ => False
  | .call _ _, 0 => False
  | .call c next, n + 1 => ∀ r, φ ⟨c, r⟩ → (next r).Within φ n

theorem within_zero {φ : Handled I → Prop} {p : Prog I ε α} (h : p.Within φ 0) :
    ∃ a, p = .ret a := by
  cases p with
  | ret a => exact ⟨a, rfl⟩
  | raise e => exact h.elim
  | call c next => exact h.elim

end Prog

/-! ## Traces -/

/-- A call as it was handled: by whom it was made, the state it found, and the reply. -/
structure Event (I : Interface) (ε σ ι : Type) where
  thread : ι
  call : I.Call
  state : σ
  reply : Except ε (I.Reply call)

/-- The call with its reply, if it did not raise. -/
def Event.answered (e : Event I ε σ ι) : Option (Handled I) :=
  e.reply.toOption.map fun r => ⟨e.call, r⟩

theorem Event.call_of_answered {e : Event I ε σ ι} {x : Handled I} (h : e.answered = some x) :
    e.call = x.1 := by
  obtain ⟨r, -, rfl⟩ := Option.map_eq_some_iff.1 h
  rfl

/-- The answer is the reply of the handler. -/
theorem Event.reply_of_answered {e : Event I ε σ ι} {h : ι → Handler I ε σ}
    (handled : e.reply = (h e.thread e.call e.state).1) {x : Handled I}
    (answered : e.answered = some x) : (h e.thread x.1 e.state).1 = .ok x.2 := by
  obtain ⟨i, c, s, reply⟩ := e
  obtain ⟨r, hr, rfl⟩ := Option.map_eq_some_iff.1 answered
  dsimp only at handled ⊢
  rw [← handled]
  cases reply with
  | error e => cases hr
  | ok r' => exact congrArg _ (Option.some.inj hr)

theorem mem_of_split {trace before after : List (Event I ε σ ι)} {e e' : Event I ε σ ι}
    (split : trace = before ++ e :: after) (earlier : e' ∈ before) : e' ∈ trace := by
  rw [split]
  exact List.mem_append_left _ earlier

/-- What thread `i` has been answered, oldest first. -/
def history [DecidableEq ι] (i : ι) (trace : List (Event I ε σ ι)) : List (Handled I) :=
  trace.filterMap fun e => if e.thread = i then e.answered else none

section History

variable [DecidableEq ι] {i : ι}

@[simp] theorem history_nil : history i ([] : List (Event I ε σ ι)) = [] := rfl

@[simp] theorem history_append (first last : List (Event I ε σ ι)) :
    history i (first ++ last) = history i first ++ history i last := List.filterMap_append ..

theorem history_snoc_ok {trace : List (Event I ε σ ι)} {e : Event I ε σ ι} {r : I.Reply e.call}
    (mine : e.thread = i) (answered : e.reply = .ok r) :
    history i (trace ++ [e]) = history i trace ++ [⟨e.call, r⟩] := by
  rw [history_append]
  simp [history, mine, Event.answered, answered, Except.toOption]

theorem history_snoc_error {trace : List (Event I ε σ ι)} {e : Event I ε σ ι} {x : ε}
    (raised : e.reply = .error x) : history i (trace ++ [e]) = history i trace := by
  rw [history_append]
  simp [history, Event.answered, raised, Except.toOption]

theorem history_snoc_of_ne {trace : List (Event I ε σ ι)} {e : Event I ε σ ι}
    (other : e.thread ≠ i) : history i (trace ++ [e]) = history i trace := by
  rw [history_append]
  simp [history, other]

theorem mem_history_snoc {trace : List (Event I ε σ ι)} {e : Event I ε σ ι} {x : Handled I} :
    x ∈ history i (trace ++ [e]) ↔
      x ∈ history i trace ∨ e.thread = i ∧ e.answered = some x := by
  rw [history_append, List.mem_append]
  simp [history]

/-- Whatever is in the history of a thread was answered to it in the trace. -/
theorem mem_history {trace : List (Event I ε σ ι)} {x : Handled I} :
    x ∈ history i trace ↔ ∃ e ∈ trace, e.thread = i ∧ e.answered = some x := by
  simp [history, List.mem_filterMap]

/-- The first answer of a thread, with what is answered to it after that. -/
theorem history_eq_cons {trace : List (Event I ε σ ι)} {x : Handled I} {rest : List (Handled I)}
    (h : history i trace = x :: rest) : ∃ before e after, trace = before ++ e :: after ∧
      e.thread = i ∧ e.answered = some x ∧ history i after = rest := by
  obtain ⟨before, e, after, split, -, first, last⟩ := List.filterMap_eq_cons_iff.1 h
  rcases Option.ite_none_right_eq_some.1 first with ⟨mine, answered⟩
  exact ⟨before, e, after, split, mine, answered, last⟩

/-- An answer of a thread, with what was answered to it before that. -/
theorem history_eq_append_cons {trace : List (Event I ε σ ι)} {x : Handled I}
    {past rest : List (Handled I)} (h : history i trace = past ++ x :: rest) :
    ∃ before e after, trace = before ++ e :: after ∧ e.thread = i ∧ e.answered = some x ∧
      history i before = past := by
  obtain ⟨first, last, rfl, past_eq, later⟩ := List.filterMap_eq_append_iff.1 h
  obtain ⟨skipped, e, after, rfl, silent, answers, -⟩ := List.filterMap_eq_cons_iff.1 later
  obtain ⟨mine, answered⟩ := Option.ite_none_right_eq_some.1 answers
  refine ⟨first ++ skipped, e, after, (List.append_assoc ..).symm, mine, answered, ?_⟩
  rw [history_append, history, past_eq, history, List.filterMap_eq_nil_iff.2 silent,
    List.append_nil]

end History

namespace Pool

variable [DecidableEq ι] {h : ι → Handler I ε σ} {c : Pool I ε α σ ι}

/-- The call that thread `i` makes next, as it is handled now. -/
def event (h : ι → Handler I ε σ) (c : Pool I ε α σ ι) (i : ι) : Option (Event I ε σ ι) :=
  match c.threads i with
  | .call op _ => some ⟨i, op, c.state, (h i op c.state).1⟩
  | _ => none

/-- The calls that are handled in a run. -/
def trace (h : ι → Handler I ε σ) (c : Pool I ε α σ ι) : List ι → List (Event I ε σ ι)
  | [] => []
  | i :: schedule => (c.event h i).toList ++ (c.step h i).trace h schedule

@[simp] theorem trace_nil : c.trace h [] = [] := rfl

theorem trace_append (first last : List ι) :
    c.trace h (first ++ last) = c.trace h first ++ (c.run h first).trace h last := by
  induction first generalizing c with
  | nil => rfl
  | cons i first ih => rw [List.cons_append, trace, ih, trace, List.append_assoc, run_cons]

theorem trace_snoc (first : List ι) (i : ι) :
    c.trace h (first ++ [i]) = c.trace h first ++ ((c.run h first).event h i).toList := by
  rw [trace_append]
  simp [trace]

/-- A step either handles a call, which is the event, or does nothing. -/
theorem step_cases (h : ι → Handler I ε σ) (c : Pool I ε α σ ι) (i : ι) :
    (c.event h i = none ∧ c.step h i = c) ∨
      ∃ op next, c.threads i = .call op next ∧
        c.event h i = some ⟨i, op, c.state, (h i op c.state).1⟩ := by
  cases hi : c.threads i with
  | ret a => exact .inl ⟨by simp only [event, hi], step_of_ret hi⟩
  | raise e => exact .inl ⟨by simp only [event, hi], step_of_raise hi⟩
  | call op next => exact .inr ⟨op, next, rfl, by simp only [event, hi]⟩

/-- What holds at the start and is kept by every call that is handled holds of the state and the
trace of every run. -/
theorem trace_induct {P : σ → List (Event I ε σ ι) → Prop} (start : P c.state [])
    (step : ∀ s trace i op, P s trace → P (h i op s).2 (trace ++ [⟨i, op, s, (h i op s).1⟩]))
    (schedule : List ι) : P (c.run h schedule).state (c.trace h schedule) := by
  induction schedule using List.reverseRecOn with
  | nil => exact start
  | append_singleton schedule i ih =>
    rw [run_append, trace_snoc, run_cons, run_nil]
    rcases step_cases h (c.run h schedule) i with ⟨none, same⟩ | ⟨op, next, hi, event⟩
    · rw [none, same]
      simpa using ih
    · rw [event, step_state hi]
      exact step _ _ i op ih

/-- An event of a trace is the next call of its thread after some part of the schedule. -/
theorem trace_split {schedule : List ι} {before after : List (Event I ε σ ι)} {e : Event I ε σ ι}
    (split : c.trace h schedule = before ++ e :: after) :
    ∃ first last, schedule = first ++ e.thread :: last ∧ c.trace h first = before ∧
      (c.run h first).event h e.thread = some e ∧
      (c.run h (first ++ [e.thread])).trace h last = after := by
  induction schedule generalizing c before with
  | nil => simp at split
  | cons i schedule ih =>
    rw [trace] at split
    rcases step_cases h c i with ⟨idle, same⟩ | ⟨op, next, hi, event⟩
    · rw [idle, same] at split
      obtain ⟨first, last, rfl, htrace, hevent, hafter⟩ := ih split
      refine ⟨i :: first, last, rfl, ?_, ?_, ?_⟩
      · rw [trace, idle, same]
        exact htrace
      · rw [run_cons, same]
        exact hevent
      · rw [List.cons_append, run_cons, same]
        exact hafter
    · rw [event] at split
      cases before with
      | nil =>
        obtain ⟨rfl, rest⟩ := List.cons.inj split
        exact ⟨[], schedule, rfl, rfl, event, rest⟩
      | cons e' before =>
        obtain ⟨rfl, rest⟩ := List.cons.inj split
        obtain ⟨first, last, rfl, htrace, hevent, hafter⟩ := ih rest
        refine ⟨i :: first, last, rfl, ?_, hevent, hafter⟩
        rw [trace, event, htrace]
        rfl

theorem event_eq_some {i : ι} {e : Event I ε σ ι} (he : c.event h i = some e) :
    e.thread = i ∧ e.state = c.state ∧ e.reply = (h e.thread e.call e.state).1 := by
  rcases step_cases h c i with ⟨none, -⟩ | ⟨op, next, hi, event⟩
  · rw [none] at he
    cases he
  · rw [event] at he
    cases he
    exact ⟨rfl, rfl, rfl⟩

/-- The call that a thread makes after some part of the schedule is an event of the trace. -/
theorem trace_of_event {first : List ι} {i : ι} {e : Event I ε σ ι}
    (event : (c.run h first).event h i = some e) (last : List ι) :
    ∃ after, c.trace h (first ++ i :: last) = c.trace h first ++ e :: after :=
  ⟨_, by rw [trace_append, trace, event]; rfl⟩

/-- Every call of a trace was answered by its handler, on the state it found. -/
theorem reply_of_mem_trace {schedule : List ι} {e : Event I ε σ ι} (mem : e ∈ c.trace h schedule) :
    e.reply = (h e.thread e.call e.state).1 := by
  obtain ⟨before, after, split⟩ := List.append_of_mem mem
  obtain ⟨first, last, -, -, event, -⟩ := trace_split split
  exact (event_eq_some event).2.2

/-- What every call keeps holds of the state that any call of a trace has found. -/
theorem state_of_mem_trace {P : σ → Prop} (start : P c.state)
    (step : ∀ i op s, P s → P (h i op s).2) {schedule : List ι} {e : Event I ε σ ι}
    (mem : e ∈ c.trace h schedule) : P e.state := by
  obtain ⟨before, after, split⟩ := List.append_of_mem mem
  obtain ⟨first, last, -, -, event, -⟩ := trace_split split
  rw [(event_eq_some event).2.1]
  exact trace_induct (P := fun s _ => P s) start (fun s _ i op hs => step i op s hs) first

/-- A thread that is not scheduled has made no call. -/
theorem run_of_notMem {i : ι} {schedule : List ι} (hi : i ∉ schedule) :
    (c.run h schedule).threads i = c.threads i ∧ history i (c.trace h schedule) = [] := by
  induction schedule using List.reverseRecOn with
  | nil => exact ⟨rfl, rfl⟩
  | append_singleton schedule j ih =>
    rw [List.mem_append, List.mem_singleton, not_or] at hi
    obtain ⟨threads, none⟩ := ih hi.1
    rw [run_append, trace_snoc, run_cons, run_nil]
    refine ⟨(step_threads_of_ne hi.2).trans threads, ?_⟩
    rcases step_cases h (c.run h schedule) j with ⟨idle, -⟩ | ⟨op, next, -, event⟩
    · rw [idle]
      simpa using none
    · rw [event, Option.toList_some, history_snoc_of_ne (Ne.symm hi.2)]
      exact none

/-- A thread that has not started makes all of its calls after that. -/
theorem event_after {i : ι} {first last : List ι} (late : i ∉ first) {x : Handled I}
    (mem : x ∈ history i (c.trace h (first ++ last))) :
    ∃ part rest e, last = part ++ i :: rest ∧ (c.run h (first ++ part)).event h i = some e ∧
      e.answered = some x := by
  rw [trace_append, history_append, (run_of_notMem late).2, List.nil_append] at mem
  obtain ⟨e, there, rfl, answered⟩ := mem_history.1 mem
  obtain ⟨before, after, split⟩ := List.append_of_mem there
  obtain ⟨part, rest, eq, -, event, -⟩ := trace_split split
  exact ⟨part, rest, e, eq, by rwa [run_append], answered⟩

/-! ## What the threads uphold -/

variable {φ : ι → List (Handled I) → I.Call → Prop} {ψ : ι → List (Handled I) → Except ε α → Prop}

/-- Every thread upholds what it must, from the history it has in the trace on. -/
def AllUphold (φ : ι → List (Handled I) → I.Call → Prop)
    (ψ : ι → List (Handled I) → Except ε α → Prop) (c : Pool I ε α σ ι)
    (trace : List (Event I ε σ ι)) : Prop :=
  ∀ i, (c.threads i).Upholds (φ i) (ψ i) (history i trace)

theorem AllUphold.step {trace : List (Event I ε σ ι)} (all : AllUphold φ ψ c trace) (i : ι) :
    AllUphold φ ψ (c.step h i) (trace ++ (c.event h i).toList) := by
  rcases step_cases h c i with ⟨none, same⟩ | ⟨op, next, hi, event⟩
  · rw [none, same]
    simpa using all
  rw [event, Option.toList_some]
  have mine := all i
  rw [hi] at mine
  obtain ⟨-, raise, answered⟩ := mine
  intro j
  by_cases hj : j = i
  · subst hj
    rcases hr : h j op c.state with ⟨e | r, s⟩
    · rw [step_of_error hi hr, history_snoc_error (e := ⟨j, op, c.state, .error e⟩) rfl]
      simpa using raise e
    · rw [step_of_ok hi hr, history_snoc_ok (e := ⟨j, op, c.state, .ok r⟩) rfl rfl]
      simpa using answered r
  · rw [history_snoc_of_ne (Ne.symm hj), step_threads_of_ne hj]
    exact all j

/-- An assertion that is kept by every call of which the threads uphold what they must, in every
run from a state and a trace on. -/
theorem AllUphold.induct {trace : List (Event I ε σ ι)} (all : AllUphold φ ψ c trace)
    {P : σ → List (Event I ε σ ι) → Prop} (start : P c.state trace)
    (step : ∀ s trace i op, φ i (history i trace) op → P s trace →
      P (h i op s).2 (trace ++ [⟨i, op, s, (h i op s).1⟩])) (schedule : List ι) :
    AllUphold φ ψ (c.run h schedule) (trace ++ c.trace h schedule) ∧
      P (c.run h schedule).state (trace ++ c.trace h schedule) := by
  induction schedule using List.reverseRecOn with
  | nil =>
    rw [run_nil, trace_nil, List.append_nil]
    exact ⟨all, start⟩
  | append_singleton schedule i ih =>
    obtain ⟨all, here⟩ := ih
    rw [run_append, trace_snoc, run_cons, run_nil, ← List.append_assoc]
    refine ⟨all.step i, ?_⟩
    rcases step_cases h (c.run h schedule) i with ⟨none, same⟩ | ⟨op, next, hi, event⟩
    · rw [none, same]
      simpa using here
    · have mine := all i
      rw [hi] at mine
      rw [event, step_state hi]
      exact step _ _ i op mine.1 here

/-- What the threads uphold on their own they uphold in every interleaving. -/
theorem upholds_run (start : ∀ i, (c.threads i).Upholds (φ i) (ψ i) []) (schedule : List ι) :
    AllUphold φ ψ (c.run h schedule) (c.trace h schedule) := by
  have all : AllUphold φ ψ c [] := start
  exact (all.induct (P := fun _ _ => True) trivial (fun _ _ _ _ _ _ => trivial) schedule).1

/-- So every call of a trace satisfies what its thread promises of it. -/
theorem upholds_event (start : ∀ i, (c.threads i).Upholds (φ i) (ψ i) []) {schedule : List ι}
    {before after : List (Event I ε σ ι)} {e : Event I ε σ ι}
    (split : c.trace h schedule = before ++ e :: after) :
    φ e.thread (history e.thread before) e.call := by
  obtain ⟨first, last, -, rfl, hevent, -⟩ := trace_split split
  have all := upholds_run (h := h) start first e.thread
  rcases step_cases h (c.run h first) e.thread with ⟨none, -⟩ | ⟨op, next, hi, event⟩
  · rw [none] at hevent
    cases hevent
  · rw [hi] at all
    have same : op = e.call := congrArg Event.call (Option.some.inj (event.symm.trans hevent))
    exact same ▸ all.1

/-- What holds of every history that a thread passes through holds of the one it has. -/
theorem AllUphold.passes {Q : ι → List (Handled I) → Prop} {trace : List (Event I ε σ ι)}
    (all : AllUphold (fun i past _ => Q i past) (fun i past _ => Q i past) c trace) (i : ι) :
    Q i (history i trace) := by
  have mine := all i
  cases hi : c.threads i with
  | ret a => rwa [hi] at mine
  | raise e => rwa [hi] at mine
  | call op next =>
    rw [hi] at mine
    exact mine.1

/-- And a thread that has ended has ended as it promises. -/
theorem AllUphold.of_ret {trace : List (Event I ε σ ι)} (all : AllUphold φ ψ c trace) {i : ι}
    {a : α} (hi : c.threads i = .ret a) : ψ i (history i trace) (.ok a) := by
  have mine := all i
  rwa [hi] at mine

/-- A thread that makes `n` calls at most has returned after `n` turns, when no call raises and its
replies are of the kind supposed. -/
theorem ret_of_within (ok : ∀ i op s, ∃ r s', h i op s = (.ok r, s')) {φ : Handled I → Prop}
    {i : ι} {n : ℕ} (within : (c.threads i).Within φ n) {schedule : List ι}
    (replies : ∀ x ∈ history i (c.trace h schedule), φ x) (turns : n ≤ schedule.count i) :
    ∃ a, (c.run h schedule).threads i = .ret a := by
  induction schedule generalizing c n with
  | nil =>
    obtain rfl : n = 0 := Nat.le_zero.1 turns
    exact Prog.within_zero within
  | cons j schedule ih =>
    rw [trace, history_append] at replies
    have later := fun x mem => replies x (List.mem_append_right _ mem)
    rw [run_cons]
    by_cases hj : j = i
    · subst hj
      rw [List.count_cons_self] at turns
      cases hi : c.threads j with
      | ret a => exact ih (n := 0) (by rw [step_of_ret hi, hi]; trivial) later (Nat.zero_le _)
      | raise e =>
        rw [hi] at within
        exact within.elim
      | call op next =>
        rw [hi] at within
        cases n with
        | zero => exact within.elim
        | succ n =>
          obtain ⟨r, s, hr⟩ := ok j op c.state
          have reply : φ ⟨op, r⟩ := replies _ (List.mem_append_left _
            (by simp [event, hi, history, Event.answered, hr, Except.toOption]))
          refine ih ?_ later (Nat.le_of_succ_le_succ turns)
          rw [step_of_ok hi hr]
          simpa using within r reply
    · rw [List.count_cons_of_ne hj] at turns
      refine ih ?_ later turns
      rwa [step_threads_of_ne (Ne.symm hj)]

end Pool

end Effects
