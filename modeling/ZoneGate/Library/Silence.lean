import ZoneGate.Library.Pool

/-!
# Programs that differ in silent calls

A call is silent when its handler leaves the state alone.  Two programs that make the same other
calls, and go on alike after whatever a silent call is answered, cannot be told apart by what they
do: `Pool.run_alike` turns an interleaved run of the one kind into a run of the other kind that
leads to the same state.
-/

namespace Effects

variable {I : Interface} {ε α β γ δ σ ι : Type}

/-- The calls that are silent, and what can be answered to them. -/
structure Silence (I : Interface) where
  call : I.Call → Prop
  reply : (c : I.Call) → I.Reply c → Prop

namespace Prog

/-- How the program has ended, if it has. -/
def ended : Prog I ε α → Option (Except ε α)
  | .ret a => some (.ok a)
  | .raise e => some (.error e)
  | .call _ _ => none

/-- The two programs make the same calls up to silent ones, and end with related results. -/
inductive Alike (S : Silence I) (R : Except ε α → Except ε β → Prop) :
    Prog I ε α → Prog I ε β → Prop
  | done {p : Prog I ε α} {q : Prog I ε β} {r : Except ε α} {r' : Except ε β}
      (left : p.ended = some r) (right : q.ended = some r') (related : R r r') : Alike S R p q
  | call (c : I.Call) {next : I.Reply c → Prog I ε α} {next' : I.Reply c → Prog I ε β}
      (error : ∀ e, R (.error e) (.error e)) (rest : ∀ r, Alike S R (next r) (next' r)) :
      Alike S R (.call c next) (.call c next')
  | left {c : I.Call} {next : I.Reply c → Prog I ε α} {q : Prog I ε β} (silent : S.call c)
      (rest : ∀ r, S.reply c r → Alike S R (next r) q) : Alike S R (.call c next) q
  | right {c : I.Call} {p : Prog I ε α} {next : I.Reply c → Prog I ε β} (silent : S.call c)
      (rest : ∀ r, S.reply c r → Alike S R p (next r)) : Alike S R p (.call c next)

variable {S : Silence I} {R : Except ε α → Except ε β → Prop}

namespace Alike

theorem refl {R : Except ε α → Except ε α → Prop} (hR : ∀ r, R r r) (p : Prog I ε α) :
    Alike S R p p := by
  induction p with
  | ret a => exact .done rfl rfl (hR _)
  | raise e => exact .done rfl rfl (hR _)
  | call c next ih => exact .call c (fun e => hR _) ih

theorem symm {p : Prog I ε α} {q : Prog I ε β} (h : Alike S R p q) :
    Alike S (fun r' r => R r r') q p := by
  induction h with
  | done left right related => exact .done right left related
  | call c error rest ih => exact .call c error ih
  | left silent rest ih => exact .right silent ih
  | right silent rest ih => exact .left silent ih

end Alike

/-- Go on after the end of the program, however it has ended. -/
def andThen (f : Except ε α → Prog I ε β) : Prog I ε α → Prog I ε β
  | .ret a => f (.ok a)
  | .raise e => f (.error e)
  | .call c next => .call c fun r => (next r).andThen f

/-- Go on after a value. -/
def onValue (f : α → Prog I ε β) : Except ε α → Prog I ε β
  | .ok a => f a
  | .error e => .raise e

theorem bind_eq_andThen (p : Prog I ε α) (f : α → Prog I ε β) : p >>= f = p.andThen (onValue f) := by
  induction p with
  | ret a => rfl
  | raise e => rfl
  | call c next ih => exact congrArg (Prog.call c) (funext ih)

/-- Go on after a value, or after an exception that is handled. -/
def onCaught (caught : ε → Option δ) (f : Except δ α → Prog I ε β) : Except ε α → Prog I ε β
  | .ok a => f (.ok a)
  | .error e => match caught e with
      | some d => f (.error d)
      | none => .raise e

theorem catching_bind_eq_andThen (caught : ε → Option δ) (p : Prog I ε α)
    (f : Except δ α → Prog I ε β) :
    p.catching caught >>= f = p.andThen (onCaught caught f) := by
  induction p with
  | ret a => rfl
  | raise e =>
    rw [catching, andThen, onCaught]
    cases caught e <;> rfl
  | call c next ih => exact congrArg (Prog.call c) (funext ih)

theorem andThen_of_ended {p : Prog I ε α} {r : Except ε α} (h : p.ended = some r)
    (f : Except ε α → Prog I ε β) : p.andThen f = f r := by
  cases p with
  | ret a =>
    obtain rfl := Option.some.inj h
    rfl
  | raise e =>
    obtain rfl := Option.some.inj h
    rfl
  | call c next => cases h

namespace Alike

variable {f : Except ε α → Prog I ε γ} {g : Except ε β → Prog I ε δ}
  {Q : Except ε γ → Except ε δ → Prop}

/-- Sequencing: programs that go on alike after related results. -/
theorem andThen {p : Prog I ε α} {q : Prog I ε β} (h : Alike S R p q)
    (rest : ∀ r r', R r r' → Alike S Q (f r) (g r')) (error : ∀ e, Q (.error e) (.error e)) :
    Alike S Q (p.andThen f) (q.andThen g) := by
  induction h with
  | done left right related =>
    rw [andThen_of_ended left, andThen_of_ended right]
    exact rest _ _ related
  | call c _ _ ih => exact .call c error ih
  | left silent _ ih => exact .left silent ih
  | right silent _ ih => exact .right silent ih

theorem bind {p q : Prog I ε α} {f : α → Prog I ε β} {g : α → Prog I ε γ}
    {Q : Except ε β → Except ε γ → Prop} (h : Alike S Eq p q)
    (rest : ∀ a, Alike S Q (f a) (g a)) (error : ∀ e, Q (.error e) (.error e)) :
    Alike S Q (p >>= f) (q >>= g) := by
  rw [bind_eq_andThen, bind_eq_andThen]
  refine h.andThen ?_ error
  rintro r _ rfl
  rcases r with e | a
  · exact .done rfl rfl (error e)
  · exact rest a

end Alike

end Prog

/-! ## Interleaved runs -/

namespace Pool

open Prog

variable [DecidableEq ι] {S : Silence I} {R : ι → Except ε α → Except ε β → Prop}
  {h : ι → Handler I ε σ}

/-- The handlers answer silent calls, and leave the state alone. -/
def Hushed (S : Silence I) (h : ι → Handler I ε σ) : Prop :=
  ∀ i c s, S.call c → ∃ r, h i c s = (.ok r, s) ∧ S.reply c r

/-- The pools are in the same state, and their threads have yet to do the same. -/
structure SameSoFar (S : Silence I) (R : ι → Except ε α → Except ε β → Prop) (c : Pool I ε α σ ι)
    (d : Pool I ε β σ ι) : Prop where
  state : d.state = c.state
  threads : ∀ i, Alike S (R i) (c.threads i) (d.threads i)

omit [DecidableEq ι] in
theorem SameSoFar.symm {c : Pool I ε α σ ι} {d : Pool I ε β σ ι} (same : SameSoFar S R c d) :
    SameSoFar S (fun i r' r => R i r r') d c :=
  ⟨same.state.symm, fun i => (same.threads i).symm⟩

theorem step_of_ended {c : Pool I ε α σ ι} {i : ι} {r : Except ε α}
    (hi : (c.threads i).ended = some r) : c.step h i = c := by
  cases hp : c.threads i with
  | ret a => exact step_of_ret hp
  | raise e => exact step_of_raise hp
  | call op next =>
    rw [hp] at hi
    cases hi

/-- A thread that has ended stays as it is. -/
theorem run_of_ended {c : Pool I ε α σ ι} {i : ι} {r : Except ε α}
    (hi : (c.threads i).ended = some r) (schedule : List ι) :
    ((c.run h schedule).threads i).ended = some r := by
  induction schedule generalizing c with
  | nil => exact hi
  | cons j schedule ih =>
    refine ih ?_
    by_cases hj : i = j
    · subst hj
      rwa [step_of_ended hi]
    · rwa [step_threads_of_ne hj]

/-- One thread of each pool has moved on. -/
theorem SameSoFar.update {c : Pool I ε α σ ι} {d : Pool I ε β σ ι}
    (same : SameSoFar S R c d) {i : ι} {p : Prog I ε α} {q : Prog I ε β}
    (alike : Alike S (R i) p q) (s : σ) :
    SameSoFar S R ⟨Function.update c.threads i p, s⟩ ⟨Function.update d.threads i q, s⟩ := by
  refine ⟨rfl, fun j => ?_⟩
  by_cases hj : j = i
  · subst hj
    simpa using alike
  · simpa [Function.update_of_ne hj] using same.threads j

/-- A step of the one pool is matched by some steps of the same thread of the other one. -/
theorem SameSoFar.step (hushed : Hushed S h) {c : Pool I ε α σ ι} {d : Pool I ε β σ ι}
    (same : SameSoFar S R c d) (i : ι) :
    ∃ turns, SameSoFar S R (c.step h i) (d.run h turns) := by
  obtain ⟨p, hp⟩ : ∃ p, c.threads i = p := ⟨_, rfl⟩
  obtain ⟨q, hq⟩ : ∃ q, d.threads i = q := ⟨_, rfl⟩
  have alike := same.threads i
  rw [hp, hq] at alike
  induction alike generalizing d with
  | done left right related =>
    rw [step_of_ended (hp ▸ left)]
    exact ⟨[], same⟩
  | call op error rest ih =>
    refine ⟨[i], ?_⟩
    rw [run_cons, run_nil]
    rcases hr : h i op c.state with ⟨e | r, s⟩
    · rw [step_of_error hp hr, step_of_error hq (same.state ▸ hr)]
      exact same.update (.done rfl rfl (error e)) s
    · rw [step_of_ok hp hr, step_of_ok hq (same.state ▸ hr)]
      exact same.update (rest r) s
  | left silent rest ih =>
    refine ⟨[], ?_⟩
    obtain ⟨r, hr, replied⟩ := hushed i _ c.state silent
    have next := (same.update (rest r replied) c.state).threads
    rw [← hq, Function.update_eq_self] at next
    rw [step_of_ok hp hr]
    exact ⟨same.state, next⟩
  | right silent rest ih =>
    obtain ⟨r, hr, replied⟩ := hushed i _ d.state silent
    have next := (same.update (rest r replied) d.state).threads
    rw [← hp, Function.update_eq_self] at next
    have moved := step_of_ok hq hr
    obtain ⟨turns, same'⟩ := ih r replied (d := d.step h i) (by rw [moved]; exact ⟨same.state, next⟩)
      hp (by rw [moved]; simp)
    exact ⟨i :: turns, same'⟩

theorem SameSoFar.run (hushed : Hushed S h) {c : Pool I ε α σ ι} {d : Pool I ε β σ ι}
    (same : SameSoFar S R c d) (schedule : List ι) :
    ∃ schedule', SameSoFar S R (c.run h schedule) (d.run h schedule') := by
  induction schedule generalizing c d with
  | nil => exact ⟨[], same⟩
  | cons i schedule ih =>
    obtain ⟨turns, step⟩ := same.step hushed i
    obtain ⟨schedule', rest⟩ := ih step
    exact ⟨turns ++ schedule', by rwa [run_append]⟩

/-- When a thread of the one pool has ended, the same thread of the other one is about to. -/
theorem SameSoFar.settle (hushed : Hushed S h) {c : Pool I ε α σ ι} {d : Pool I ε β σ ι}
    (same : SameSoFar S R c d) {i : ι} {r : Except ε α} (ended : (c.threads i).ended = some r) :
    ∃ turns r', SameSoFar S R c (d.run h turns) ∧
      ((d.run h turns).threads i).ended = some r' ∧ R i r r' := by
  obtain ⟨p, hp⟩ : ∃ p, c.threads i = p := ⟨_, rfl⟩
  obtain ⟨q, hq⟩ : ∃ q, d.threads i = q := ⟨_, rfl⟩
  have alike := same.threads i
  rw [hp, hq] at alike
  rw [hp] at ended
  induction alike generalizing d with
  | done left right related =>
    obtain rfl := Option.some.inj (left.symm.trans ended)
    exact ⟨[], _, same, hq ▸ right, related⟩
  | call op error rest ih => cases ended
  | left silent rest ih => cases ended
  | right silent rest ih =>
    obtain ⟨reply, hr, replied⟩ := hushed i _ d.state silent
    have next := (same.update (rest reply replied) d.state).threads
    rw [← hp, Function.update_eq_self] at next
    have moved := step_of_ok hq hr
    obtain ⟨turns, r', rest⟩ := ih reply replied (d := d.step h i)
      (by rw [moved]; exact ⟨same.state, next⟩) ended hp (by rw [moved]; simp)
    exact ⟨i :: turns, r', rest⟩

theorem SameSoFar.settle_all (hushed : Hushed S h) {c : Pool I ε α σ ι} {d : Pool I ε β σ ι}
    (same : SameSoFar S R c d) (threads : List ι) :
    ∃ turns, SameSoFar S R c (d.run h turns) ∧
      ∀ i ∈ threads, ∀ r, (c.threads i).ended = some r →
        ∃ r', ((d.run h turns).threads i).ended = some r' ∧ R i r r' := by
  induction threads with
  | nil => exact ⟨[], same, nofun⟩
  | cons i threads ih =>
    obtain ⟨turns, same', settled⟩ := ih
    rcases hi : (c.threads i).ended with _ | r
    · refine ⟨turns, same', fun j mem r' ended => ?_⟩
      rcases List.mem_cons.1 mem with rfl | mem
      · rw [hi] at ended
        cases ended
      · exact settled j mem r' ended
    · obtain ⟨more, r', same'', ended', related⟩ := same'.settle hushed hi
      rw [← run_append] at same'' ended'
      refine ⟨turns ++ more, same'', fun j mem r₀ ended => ?_⟩
      rcases List.mem_cons.1 mem with rfl | mem
      · obtain rfl := Option.some.inj (hi.symm.trans ended)
        exact ⟨r', ended', related⟩
      · obtain ⟨r₁, ended₁, related₁⟩ := settled j mem r₀ ended
        rw [run_append]
        exact ⟨r₁, run_of_ended ended₁ more, related₁⟩

/-- Pools that differ in silent calls: every run of the one is matched by a run of the other that
leads to the same state, and in which the threads that have ended have ended alike. -/
theorem run_alike (hushed : Hushed S h) {c : Pool I ε α σ ι} {d : Pool I ε β σ ι}
    (same : SameSoFar S R c d) (schedule : List ι) :
    ∃ schedule', (d.run h schedule').state = (c.run h schedule).state ∧
      ∀ i ∈ schedule, ∀ r, ((c.run h schedule).threads i).ended = some r →
        ∃ r', ((d.run h schedule').threads i).ended = some r' ∧ R i r r' := by
  obtain ⟨first, reached⟩ := same.run hushed schedule
  obtain ⟨turns, settled, ended⟩ := reached.settle_all hushed schedule
  rw [← run_append] at settled ended
  exact ⟨first ++ turns, settled.state, ended⟩

end Pool

end Effects
