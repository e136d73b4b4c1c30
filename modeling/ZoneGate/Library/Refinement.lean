import ZoneGate.Library.Pool

/-!
# Handlers on two kinds of state

Two handlers match when, from related states, they give every call the same reply and lead to
related states.  Programs cannot tell them apart: a pool that runs under the one makes the calls,
and comes to the results, that it makes and comes to under the other.
-/

namespace Effects

variable {I : Interface} {ε α σ σ' ι : Type}

/-- From related states, the same reply and related states. -/
def Matches (R : σ' → σ → Prop) (h' : Handler I ε σ') (h : Handler I ε σ) : Prop :=
  ∀ c s' s, R s' s → (h' c s').1 = (h c s).1 ∧ R (h' c s').2 (h c s).2

namespace Pool

variable [DecidableEq ι] {R : σ' → σ → Prop} {h' : ι → Handler I ε σ'} {h : ι → Handler I ε σ}
  {c' : Pool I ε α σ' ι} {c : Pool I ε α σ ι}

/-- The same threads on related states. -/
structure Mirrors (R : σ' → σ → Prop) (c' : Pool I ε α σ' ι) (c : Pool I ε α σ ι) : Prop where
  threads : c'.threads = c.threads
  state : R c'.state c.state

theorem Mirrors.step (matching : ∀ i, Matches R (h' i) (h i)) (m : Mirrors R c' c) (i : ι) :
    Mirrors R (c'.step h' i) (c.step h i) := by
  obtain ⟨threads, state⟩ := m
  cases hi : c.threads i with
  | ret a =>
    rw [step_of_ret hi, step_of_ret (threads ▸ hi)]
    exact ⟨threads, state⟩
  | raise e =>
    rw [step_of_raise hi, step_of_raise (threads ▸ hi)]
    exact ⟨threads, state⟩
  | call op next =>
    obtain ⟨same, after⟩ := matching i op c'.state c.state state
    have hi' : c'.threads i = .call op next := by rw [threads, hi]
    rcases answered : h i op c.state with ⟨e | r, s⟩ <;>
      rcases answered' : h' i op c'.state with ⟨e' | r', s'⟩ <;>
      rw [answered, answered'] at same after <;> cases same
    · rw [step_of_error hi answered, step_of_error hi' answered']
      exact ⟨congrArg (Function.update · i _) threads, after⟩
    · rw [step_of_ok hi answered, step_of_ok hi' answered']
      exact ⟨congrArg (Function.update · i _) threads, after⟩

/-- Matching handlers lead the same threads through the same calls. -/
theorem Mirrors.run (matching : ∀ i, Matches R (h' i) (h i)) (m : Mirrors R c' c)
    (schedule : List ι) : Mirrors R (c'.run h' schedule) (c.run h schedule) := by
  induction schedule generalizing c' c with
  | nil => exact m
  | cons i schedule ih => exact ih (m.step matching i)

end Pool

end Effects
