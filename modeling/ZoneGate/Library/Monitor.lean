import Mathlib.Data.List.Induction

/-!
# Monitors

A monitor reads the events of a run one by one and stops at the first that it does not expect.
What holds at its start and is kept by every step of it holds of all the events that it accepts.

A run that expects every event is a fold.  `foldl_always_iff` compares a property of all of its
states with a condition on each of its steps.
-/

structure Monitor (σ ε : Type) where
  start : σ
  next : σ → ε → Option σ

namespace Monitor

variable {σ ε : Type} (m : Monitor σ ε)

/-- The state after the events, if all of them were expected. -/
def after (events : List ε) : Option σ := events.foldlM m.next m.start

@[simp] theorem after_nil : m.after [] = some m.start := rfl

theorem after_snoc (events : List ε) (e : ε) :
    m.after (events ++ [e]) = (m.after events).bind fun s => m.next s e := by
  simp [after, List.foldlM_append]

variable {m}

theorem after_snoc_of {events : List ε} {e : ε} {s s' : σ} (h : m.after events = some s)
    (step : m.next s e = some s') : m.after (events ++ [e]) = some s' := by
  rw [after_snoc, h]
  exact step

theorem induct {P : σ → List ε → Prop} (start : P m.start [])
    (step : ∀ s events e s', P s events → m.next s e = some s' → P s' (events ++ [e]))
    {events : List ε} {s : σ} (h : m.after events = some s) : P s events := by
  induction events using List.reverseRecOn generalizing s with
  | nil =>
    obtain rfl := Option.some.inj h
    exact start
  | append_singleton events e ih =>
    rw [after_snoc] at h
    obtain ⟨s', before, next⟩ := Option.bind_eq_some_iff.1 h
    exact step s' events e s (ih before) next

end Monitor

/-- Every state of a run is good exactly when every step of it meets the condition, if a step from
a good state leads to a good state exactly when it meets the condition. -/
theorem List.foldl_always_iff {σ ε : Type*} {next : σ → ε → σ} {s : σ} {events : List ε}
    {G : σ → Prop} {C : σ → ε → Prop} (start : G s)
    (step : ∀ before e after, events = before ++ e :: after → G (before.foldl next s) →
      (G (next (before.foldl next s) e) ↔ C (before.foldl next s) e)) :
    (∀ before after, events = before ++ after → G (before.foldl next s)) ↔
      ∀ before e after, events = before ++ e :: after → C (before.foldl next s) e := by
  constructor
  · intro good before e after eq
    refine (step before e after eq (good before _ eq)).1 ?_
    have next := good (before ++ [e]) after (by rw [eq, List.append_assoc]; rfl)
    rwa [List.foldl_append] at next
  · intro cond before
    induction before using List.reverseRecOn with
    | nil => exact fun _ _ => start
    | append_singleton before e ih =>
      intro after eq
      rw [List.append_assoc, List.singleton_append] at eq
      rw [List.foldl_append]
      exact (step before e after eq (ih _ eq)).2 (cond before e after eq)
