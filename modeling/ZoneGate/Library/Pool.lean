import ZoneGate.Library.Prog
import Mathlib.Logic.Function.Basic

/-!
# Interleaved programs and rely/guarantee contracts

A pool is a family of programs on one shared state.  A schedule names, one after the other, the
threads whose next call is handled; between two calls of a thread any number of calls of the
others may fall.

`Safe h C Q p s` says that the program `p`, from the state `s` and under interference within
`C.rely`, keeps `C.inv`, changes the state within `C.guar`, satisfies `C.running` as long as it
has not ended, and ends with `Q`.  `Pool.safe_run` is the composition rule: threads that are safe
on their own, each guaranteeing what the others rely on, are safe in every interleaving.
-/

namespace Effects

variable {I : Interface} {ε α β σ ι : Type}

/-! ## Pools -/

/-- Programs that run interleaved on one state. -/
structure Pool (I : Interface) (ε α σ ι : Type) where
  threads : ι → Prog I ε α
  state : σ

namespace Pool

variable [DecidableEq ι]

/-- Thread `i` makes its next call; a thread that has ended does nothing. -/
def step (h : ι → Handler I ε σ) (c : Pool I ε α σ ι) (i : ι) : Pool I ε α σ ι :=
  match c.threads i with
  | .ret _ => c
  | .raise _ => c
  | .call op next =>
      match h i op c.state with
      | (.ok r, s) => ⟨Function.update c.threads i (next r), s⟩
      | (.error e, s) => ⟨Function.update c.threads i (.raise e), s⟩

theorem step_of_ret {h : ι → Handler I ε σ} {c : Pool I ε α σ ι} {i : ι} {a : α}
    (hi : c.threads i = .ret a) : c.step h i = c := by
  simp only [step, hi]

theorem step_of_raise {h : ι → Handler I ε σ} {c : Pool I ε α σ ι} {i : ι} {e : ε}
    (hi : c.threads i = .raise e) : c.step h i = c := by
  simp only [step, hi]

theorem step_of_ok {h : ι → Handler I ε σ} {c : Pool I ε α σ ι} {i : ι} {op : I.Call}
    {next : I.Reply op → Prog I ε α} {r : I.Reply op} {s : σ} (hi : c.threads i = .call op next)
    (hr : h i op c.state = (.ok r, s)) :
    c.step h i = ⟨Function.update c.threads i (next r), s⟩ := by
  simp only [step, hi, hr]

theorem step_of_error {h : ι → Handler I ε σ} {c : Pool I ε α σ ι} {i : ι} {op : I.Call}
    {next : I.Reply op → Prog I ε α} {e : ε} {s : σ} (hi : c.threads i = .call op next)
    (hr : h i op c.state = (.error e, s)) :
    c.step h i = ⟨Function.update c.threads i (.raise e), s⟩ := by
  simp only [step, hi, hr]

theorem step_state {h : ι → Handler I ε σ} {c : Pool I ε α σ ι} {i : ι} {op : I.Call}
    {next : I.Reply op → Prog I ε α} (hi : c.threads i = .call op next) :
    (c.step h i).state = (h i op c.state).2 := by
  rcases hr : h i op c.state with ⟨e | r, s⟩
  · rw [step_of_error hi hr]
  · rw [step_of_ok hi hr]

/-- Let the threads named by the schedule make their next calls, in that order. -/
def run (h : ι → Handler I ε σ) (c : Pool I ε α σ ι) (schedule : List ι) : Pool I ε α σ ι :=
  schedule.foldl (step h) c

@[simp] theorem run_nil (h : ι → Handler I ε σ) (c : Pool I ε α σ ι) : c.run h [] = c := rfl

@[simp] theorem run_cons (h : ι → Handler I ε σ) (c : Pool I ε α σ ι) (i : ι) (schedule : List ι) :
    c.run h (i :: schedule) = (c.step h i).run h schedule := rfl

theorem run_append (h : ι → Handler I ε σ) (c : Pool I ε α σ ι) (first last : List ι) :
    c.run h (first ++ last) = (c.run h first).run h last := List.foldl_append ..

/-- A step changes no other thread. -/
theorem step_threads_of_ne {h : ι → Handler I ε σ} {c : Pool I ε α σ ι} {i j : ι} (hj : j ≠ i) :
    (c.step h i).threads j = c.threads j := by
  cases hi : c.threads i with
  | ret a => rw [step_of_ret hi]
  | raise e => rw [step_of_raise hi]
  | call op next =>
    rcases hr : h i op c.state with ⟨e | r, s⟩
    · rw [step_of_error hi hr]
      exact Function.update_of_ne hj ..
    · rw [step_of_ok hi hr]
      exact Function.update_of_ne hj ..

end Pool

/-! ## Contracts -/

/-- What a thread keeps (`inv`), tolerates (`rely`), promises (`guar`) and satisfies at every
call it still has to make (`running`). -/
structure Contract (σ : Type) where
  inv : σ → Prop
  rely : σ → σ → Prop
  guar : σ → σ → Prop
  running : σ → Prop
  rely_refl : ∀ s, rely s s
  rely_trans : ∀ s t u, rely s t → rely t u → rely s u

/-- The result `r` satisfies `Q` now and after any further interference. -/
def Settles (C : Contract σ) (Q : Except ε α → σ → Prop) (r : Except ε α) (s : σ) : Prop :=
  ∀ s', C.rely s s' → C.inv s' → Q r s'

/-- The program meets the contract `C` and ends with `Q`, under interference before each call. -/
def Safe (h : Handler I ε σ) (C : Contract σ) (Q : Except ε α → σ → Prop) :
    Prog I ε α → σ → Prop
  | .ret a, s => Settles C Q (.ok a) s
  | .raise e, s => Settles C Q (.error e) s
  | .call c next, s => ∀ s', C.rely s s' → C.inv s' →
      C.running s' ∧ C.inv (h c s').2 ∧ C.guar s' (h c s').2 ∧
        match (h c s').1 with
        | .ok r => Safe h C Q (next r) (h c s').2
        | .error e => Settles C Q (.error e) (h c s').2

section Rules

variable {h : Handler I ε σ} {C : Contract σ} {Q : Except ε α → σ → Prop}

@[simp] theorem safe_ret (a : α) (s : σ) :
    Safe h C Q (.ret a : Prog I ε α) s ↔ Settles C Q (.ok a) s := Iff.rfl

@[simp] theorem safe_raise (e : ε) (s : σ) :
    Safe h C Q (.raise e : Prog I ε α) s ↔ Settles C Q (.error e) s := Iff.rfl

theorem Settles.weaken {r : Except ε α} {s s' : σ} (hr : Settles C Q r s) (rely : C.rely s s') :
    Settles C Q r s' :=
  fun t ht => hr t (C.rely_trans _ _ _ rely ht)

/-- Safety is stable under the interference the contract tolerates. -/
theorem Safe.weaken {p : Prog I ε α} {s s' : σ} (hp : Safe h C Q p s) (rely : C.rely s s') :
    Safe h C Q p s' := by
  cases p with
  | ret a => exact Settles.weaken hp rely
  | raise e => exact Settles.weaken hp rely
  | call c next => exact fun t ht => hp t (C.rely_trans _ _ _ rely ht)

/-- It suffices to be safe in the states that interference can lead to. -/
theorem safe_of_stable {p : Prog I ε α} {s : σ}
    (hp : ∀ s', C.rely s s' → C.inv s' → Safe h C Q p s') : Safe h C Q p s := by
  cases p with
  | ret a => exact fun s' rely inv => hp s' rely inv s' (C.rely_refl _) inv
  | raise e => exact fun s' rely inv => hp s' rely inv s' (C.rely_refl _) inv
  | call c next => exact fun s' rely inv => hp s' rely inv s' (C.rely_refl _) inv

/-- One call that is answered: what it must keep, and the rest of the program after it. -/
theorem safe_call {c : I.Call} {next : I.Reply c → Prog I ε α} {s : σ}
    (hc : ∀ s', C.rely s s' → C.inv s' → C.running s' ∧ ∃ r t, h c s' = (.ok r, t) ∧
      C.inv t ∧ C.guar s' t ∧ Safe h C Q (next r) t) :
    Safe h C Q (.call c next) s := by
  intro s' rely inv
  obtain ⟨run, r, t, eq, hinv, guar, rest⟩ := hc s' rely inv
  rw [eq]
  exact ⟨run, hinv, guar, rest⟩

theorem Safe.mono {Q' : Except ε α → σ → Prop} {p : Prog I ε α} {s : σ} (hp : Safe h C Q p s)
    (hQ : ∀ r s, C.inv s → Q r s → Q' r s) : Safe h C Q' p s := by
  induction p generalizing s with
  | ret a => exact fun s' rely inv => hQ _ _ inv (hp s' rely inv)
  | raise e => exact fun s' rely inv => hQ _ _ inv (hp s' rely inv)
  | call c next ih =>
    intro s' rely inv
    obtain ⟨run, hinv, guar, rest⟩ := hp s' rely inv
    refine ⟨run, hinv, guar, ?_⟩
    split at rest
    · exact ih _ rest
    · exact fun t ht it => hQ _ _ it (rest t ht it)

/-- Sequencing: the first program ends with `Q₁`, from which the second is safe. -/
theorem Safe.bind {Q₁ : Except ε β → σ → Prop} {p : Prog I ε β} {f : β → Prog I ε α} {s : σ}
    (hp : Safe h C Q₁ p s) (hf : ∀ b t, C.inv t → Q₁ (.ok b) t → Safe h C Q (f b) t)
    (he : ∀ e t, C.inv t → Q₁ (.error e) t → Q (.error e) t) : Safe h C Q (p >>= f) s := by
  induction p generalizing s with
  | ret b => exact safe_of_stable fun s' rely inv => hf b s' inv (hp s' rely inv)
  | raise e => exact fun s' rely inv => he e s' inv (hp s' rely inv)
  | call c next ih =>
    intro s' rely inv
    obtain ⟨run, hinv, guar, rest⟩ := hp s' rely inv
    refine ⟨run, hinv, guar, ?_⟩
    split at rest
    · exact ih _ rest
    · exact fun t ht it => he _ _ it (rest t ht it)

/-- A program whose calls all keep the contract and an assertion `P` ends with `P`. -/
theorem Safe.of_callsOnly {φ : I.Call → Prop} {P : σ → Prop} {p : Prog I ε β} {s : σ}
    (hp : p.CallsOnly φ) (stable : ∀ s s', C.rely s s' → C.inv s' → P s → P s')
    (step : ∀ c s, φ c → C.inv s → P s →
      C.running s ∧ C.inv (h c s).2 ∧ C.guar s (h c s).2 ∧ P (h c s).2) (hs : P s) :
    Safe h C (fun _ => P) p s := by
  induction p generalizing s with
  | ret b => exact fun s' rely inv => stable _ _ rely inv hs
  | raise e => exact fun s' rely inv => stable _ _ rely inv hs
  | call c next ih =>
    intro s' rely inv
    obtain ⟨run, hinv, guar, hP⟩ := step c s' hp.1 inv (stable _ _ rely inv hs)
    refine ⟨run, hinv, guar, ?_⟩
    split
    · exact ih _ (hp.2 _) hP
    · exact fun t ht it => stable _ _ ht it hP

end Rules

/-! ## Composition -/

namespace Pool

variable [DecidableEq ι] {h : ι → Handler I ε σ} {C : ι → Contract σ}
  {Q : ι → Except ε α → σ → Prop}

/-- Every thread is safe from the current state, and all invariants hold in it. -/
def AllSafe (h : ι → Handler I ε σ) (C : ι → Contract σ) (Q : ι → Except ε α → σ → Prop)
    (c : Pool I ε α σ ι) : Prop :=
  ∀ i, (C i).inv c.state ∧ Safe (h i) (C i) (Q i) (c.threads i) c.state

/-- A step of one thread keeps all threads safe, and stays within that thread's guarantee. -/
theorem safe_step (compat : ∀ i j, i ≠ j → ∀ s s', (C i).guar s s' → (C j).rely s s')
    (shared : ∀ i j s, (C i).inv s → (C j).inv s) {c : Pool I ε α σ ι} (hc : AllSafe h C Q c)
    (i : ι) :
    AllSafe h C Q (c.step h i) ∧
      ((C i).guar c.state (c.step h i).state ∨ c.step h i = c) := by
  obtain ⟨inv, safe⟩ := hc i
  cases hi : c.threads i with
  | ret a => exact ⟨by rwa [step_of_ret hi], .inr (step_of_ret hi)⟩
  | raise e => exact ⟨by rwa [step_of_raise hi], .inr (step_of_raise hi)⟩
  | call op next =>
    rw [hi] at safe
    obtain ⟨-, inv', guar, rest⟩ := safe c.state ((C i).rely_refl _) inv
    have others : ∀ t : Prog I ε α, Safe (h i) (C i) (Q i) t (h i op c.state).2 →
        AllSafe h C Q ⟨Function.update c.threads i t, (h i op c.state).2⟩ := by
      intro t ht j
      refine ⟨shared i j _ inv', ?_⟩
      by_cases hj : j = i
      · subst hj
        simpa using ht
      · simpa [Function.update_of_ne hj] using (hc j).2.weaken (compat i j (Ne.symm hj) _ _ guar)
    rcases hr : h i op c.state with ⟨e | r, s⟩ <;> rw [hr] at rest guar others
    · rw [step_of_error hi hr]
      exact ⟨others (.raise e) rest, .inl guar⟩
    · rw [step_of_ok hi hr]
      exact ⟨others (next r) rest, .inl guar⟩

/-- Threads that are safe on their own are safe in every interleaving. -/
theorem safe_run (compat : ∀ i j, i ≠ j → ∀ s s', (C i).guar s s' → (C j).rely s s')
    (shared : ∀ i j s, (C i).inv s → (C j).inv s) {c : Pool I ε α σ ι} (hc : AllSafe h C Q c)
    (schedule : List ι) : AllSafe h C Q (c.run h schedule) := by
  induction schedule generalizing c with
  | nil => exact hc
  | cons i schedule ih => exact ih (safe_step compat shared hc i).1

omit [DecidableEq ι] in
/-- A thread of a safe pool that has returned satisfies its postcondition. -/
theorem AllSafe.of_ret {c : Pool I ε α σ ι} (hc : AllSafe h C Q c) {i : ι} {a : α}
    (hi : c.threads i = .ret a) : Q i (.ok a) c.state := by
  obtain ⟨inv, safe⟩ := hc i
  rw [hi] at safe
  exact safe _ ((C i).rely_refl _) inv

omit [DecidableEq ι] in
theorem AllSafe.of_raise {c : Pool I ε α σ ι} (hc : AllSafe h C Q c) {i : ι} {e : ε}
    (hi : c.threads i = .raise e) : Q i (.error e) c.state := by
  obtain ⟨inv, safe⟩ := hc i
  rw [hi] at safe
  exact safe _ ((C i).rely_refl _) inv

omit [DecidableEq ι] in
theorem AllSafe.of_call {c : Pool I ε α σ ι} (hc : AllSafe h C Q c) {i : ι} {op : I.Call}
    {next : I.Reply op → Prog I ε α} (hi : c.threads i = .call op next) :
    (C i).running c.state := by
  obtain ⟨inv, safe⟩ := hc i
  rw [hi] at safe
  exact (safe _ ((C i).rely_refl _) inv).1

end Pool

/-! ## Logged calls -/

/-- A state together with the calls that led to it, oldest first, each with its thread. -/
structure Logged (σ ι Call : Type) where
  state : σ
  log : List (ι × Call)

/-- Handle a call of thread `i` and write it to the log. -/
def logged (h : ι → Handler I ε σ) (i : ι) : Handler I ε (Logged σ ι I.Call) := fun c s =>
  ((h i c s.state).1, ⟨(h i c s.state).2, s.log ++ [(i, c)]⟩)

theorem logged_ok {h : ι → Handler I ε σ} {i : ι} {c : I.Call} {s : Logged σ ι I.Call}
    {r : I.Reply c} {t : σ} (hc : h i c s.state = (.ok r, t)) :
    logged h i c s = (.ok r, ⟨t, s.log ++ [(i, c)]⟩) := by
  simp [logged, hc]

section Logged

variable {Call : Type}

/-- The contract of thread `i` on a logged state: the others write none of its log entries, and it
writes none of theirs. -/
def Contract.logging (inv running : Logged σ ι Call → Prop) (i : ι) :
    Contract (Logged σ ι Call) where
  inv := inv
  rely s s' := ∃ more, s'.log = s.log ++ more ∧ ∀ e ∈ more, e.1 ≠ i
  guar s s' := ∃ more, s'.log = s.log ++ more ∧ ∀ e ∈ more, e.1 = i
  running := running
  rely_refl s := ⟨[], by simp, by simp⟩
  rely_trans := by
    rintro s t u ⟨more, ht, first⟩ ⟨more', hu, last⟩
    refine ⟨more ++ more', by rw [hu, ht, List.append_assoc], fun e he => ?_⟩
    exact (List.mem_append.1 he).elim (first e) (last e)

/-- One call that is answered, under such a contract. -/
theorem safe_call_logging {h : ι → Handler I ε σ} {i : ι}
    {inv running : Logged σ ι I.Call → Prop} {Q : Except ε α → Logged σ ι I.Call → Prop}
    {c : I.Call} {next : I.Reply c → Prog I ε α} {s : Logged σ ι I.Call}
    (hc : ∀ s', (Contract.logging inv running i).rely s s' → inv s' →
      running s' ∧ ∃ r t, h i c s'.state = (.ok r, t) ∧ inv ⟨t, s'.log ++ [(i, c)]⟩ ∧
        Safe (logged h i) (.logging inv running i) Q (next r) ⟨t, s'.log ++ [(i, c)]⟩) :
    Safe (logged h i) (.logging inv running i) Q (.call c next) s := by
  refine safe_call fun s' rely hinv => ?_
  obtain ⟨run, r, t, eq, hinv', rest⟩ := hc s' rely hinv
  exact ⟨run, r, _, logged_ok eq, hinv', ⟨[(i, c)], rfl, by simp⟩, rest⟩

/-- Threads that are safe under such contracts are safe in every interleaving. -/
theorem Pool.safe_run_logging [DecidableEq ι] {h : ι → Handler I ε (Logged σ ι Call)}
    {inv : Logged σ ι Call → Prop} {running : ι → Logged σ ι Call → Prop}
    {Q : ι → Except ε α → Logged σ ι Call → Prop} {c : Pool I ε α (Logged σ ι Call) ι}
    (hc : Pool.AllSafe h (fun i => .logging inv (running i) i) Q c) (schedule : List ι) :
    Pool.AllSafe h (fun i => .logging inv (running i) i) Q (c.run h schedule) := by
  refine Pool.safe_run ?_ (fun _ _ _ hinv => hinv) hc schedule
  rintro i j hij s s' ⟨more, hlog, own⟩
  exact ⟨more, hlog, fun e he => own e he ▸ hij⟩

end Logged

namespace Pool

variable [DecidableEq ι] {h : ι → Handler I ε σ}

/-- The log only grows, and what no call but those in `writes` changes stays as long as none of
them is made. -/
theorem logged_run {β : Type} (writes : I.Call → Prop) (view : σ → β)
    (frame : ∀ i op s, ¬ writes op → view (h i op s).2 = view s)
    (c : Pool I ε α (Logged σ ι I.Call) ι) (schedule : List ι) :
    ∃ more, (c.run (logged h) schedule).state.log = c.state.log ++ more ∧
      ((∀ e ∈ more, ¬ writes e.2) →
        view (c.run (logged h) schedule).state.state = view c.state.state) := by
  induction schedule generalizing c with
  | nil => exact ⟨[], by simp, fun _ => rfl⟩
  | cons i schedule ih =>
    obtain ⟨more, hlog, hview⟩ := ih (c.step (logged h) i)
    cases hi : c.threads i with
    | ret a =>
      rw [step_of_ret hi] at hlog hview
      exact ⟨more, by rw [run_cons, step_of_ret hi, hlog],
        fun quiet => by rw [run_cons, step_of_ret hi, hview quiet]⟩
    | raise e =>
      rw [step_of_raise hi] at hlog hview
      exact ⟨more, by rw [run_cons, step_of_raise hi, hlog],
        fun quiet => by rw [run_cons, step_of_raise hi, hview quiet]⟩
    | call op next =>
      rw [step_state hi] at hlog hview
      refine ⟨(i, op) :: more, by rw [run_cons, hlog]; simp [logged], fun quiet => ?_⟩
      rw [run_cons, hview fun e he => quiet e (List.mem_cons_of_mem _ he)]
      exact frame i op _ (quiet (i, op) List.mem_cons_self)

/-- The log only grows. -/
theorem log_run (h : ι → Handler I ε σ) (c : Pool I ε α (Logged σ ι I.Call) ι)
    (schedule : List ι) : ∃ more, (c.run (logged h) schedule).state.log = c.state.log ++ more := by
  obtain ⟨more, hlog, -⟩ := logged_run (h := h) (fun _ => False) (fun _ => ())
    (fun _ _ _ _ => rfl) c schedule
  exact ⟨more, hlog⟩

end Pool

end Effects
