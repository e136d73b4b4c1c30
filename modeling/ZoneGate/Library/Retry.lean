import ZoneGate.Library.Prog

/-!
# Bounded retries

A client sends a request that it makes of its state.  The reply ends the exchange, or the attempt
has failed and leaves the state for the next one, while attempts are left.  Against a peer that
replies by a script, `before` is the state that an attempt starts from, and a run ends with the
first attempt that does not fail.
-/

namespace Effects

/-- The interface of requests whose replies are all of one type. -/
abbrev Requests (C ρ : Type) : Interface := ⟨C, fun _ => ρ⟩

/-- A peer that gives its replies in order, and the requests that it has received. -/
def scripted {C ρ ε : Type} (replies : ℕ → ρ) : Handler (Requests C ρ) ε (List C) :=
  fun c sent => (.ok (replies sent.length), sent ++ [c])

/-- What a reply makes of an attempt. -/
inductive Attempt (ε α σ : Type)
  | returned (a : α)
  | stopped (e : ε)
  | failed (s : σ)

structure Retry (C ρ ε α σ : Type) where
  request : σ → C
  judge : σ → ρ → Attempt ε α σ
  exhausted : σ → ε

namespace Retry

variable {C ρ ε α σ : Type}

/-- The client with so many attempts left. -/
def program (R : Retry C ρ ε α σ) : ℕ → σ → Prog (Requests C ρ) ε α
  | 0, s => .raise (R.exhausted s)
  | left + 1, s => .call (R.request s) fun reply =>
      match R.judge s reply with
      | .returned a => .ret a
      | .stopped e => .raise e
      | .failed s' => R.program left s'

variable (R : Retry C ρ ε α σ) (replies : ℕ → ρ) (s : σ)

/-- The state before an attempt, if all earlier ones fail. -/
def before : ℕ → Option σ
  | 0 => some s
  | k + 1 => (before k).bind fun s' =>
      match R.judge s' (replies k) with
      | .failed s'' => some s''
      | _ => none

/-- The requests of the first attempts. -/
def requests (k : ℕ) : List C :=
  (List.range k).filterMap fun j => (R.before replies s j).map R.request

variable {R replies s} {k n : ℕ} {s' : σ}

theorem before_succ {s'' : σ} (reached : R.before replies s k = some s')
    (judged : R.judge s' (replies k) = .failed s'') : R.before replies s (k + 1) = some s'' := by
  rw [before, reached, Option.bind_some, judged]

theorem exists_before {s'' : σ} (reached : R.before replies s (k + 1) = some s'') :
    ∃ s', R.before replies s k = some s' ∧ R.judge s' (replies k) = .failed s'' := by
  rw [before] at reached
  obtain ⟨s', earlier, judged⟩ := Option.bind_eq_some_iff.1 reached
  refine ⟨s', earlier, ?_⟩
  cases judgement : R.judge s' (replies k) with
  | failed s₁ =>
    rw [judgement] at judged
    rw [Option.some.inj judged]
  | _ =>
    rw [judgement] at judged
    cases judged

theorem exists_before_of_le {j : ℕ} (reached : R.before replies s k = some s') (le : j ≤ k) :
    ∃ s'', R.before replies s j = some s'' := by
  induction k generalizing s' with
  | zero =>
    obtain rfl := Nat.le_zero.1 le
    exact ⟨s', reached⟩
  | succ k ih =>
    rcases Nat.le_succ_iff.1 le with le | rfl
    · obtain ⟨s₁, earlier, -⟩ := exists_before reached
      exact ih earlier le
    · exact ⟨s', reached⟩

theorem requests_succ (reached : R.before replies s k = some s') :
    R.requests replies s (k + 1) = R.requests replies s k ++ [R.request s'] := by
  rw [requests, List.range_succ, List.filterMap_append, requests]
  simp [reached]

theorem length_requests (reached : R.before replies s k = some s') :
    (R.requests replies s k).length = k := by
  induction k generalizing s' with
  | zero => rfl
  | succ k ih =>
    obtain ⟨s₁, earlier, -⟩ := exists_before reached
    rw [requests_succ earlier, List.length_append, ih earlier, List.length_singleton]

theorem length_requests_succ (reached : R.before replies s k = some s') :
    (R.requests replies s (k + 1)).length = k + 1 := by
  rw [requests_succ reached, List.length_append, length_requests reached, List.length_singleton]

/-- Every request is made of the state that its attempt starts from. -/
theorem getElem?_requests (reached : R.before replies s k = some s') {j : ℕ} {c : C} :
    (R.requests replies s (k + 1))[j]? = some c ↔
      j ≤ k ∧ ∃ s'', R.before replies s j = some s'' ∧ R.request s'' = c := by
  induction k generalizing s' with
  | zero =>
    rw [requests_succ reached]
    cases j with
    | zero => simp [requests, reached]
    | succ j => simp [requests]
  | succ k ih =>
    obtain ⟨s₁, earlier, -⟩ := exists_before reached
    rw [requests_succ reached]
    rcases Nat.lt_or_ge j (k + 1) with lt | ge
    · rw [List.getElem?_append_left (by rw [length_requests reached]; exact lt), ih earlier]
      simp only [Nat.le_of_lt_succ lt, Nat.le_of_lt lt, true_and]
    · rw [List.getElem?_append_right (by rw [length_requests reached]; exact ge),
        length_requests reached]
      rcases Nat.eq_or_lt_of_le ge with rfl | gt
      · simp [reached]
      · have none : j - (k + 1) ≠ 0 := by omega
        simp [none, Nat.not_le.2 gt]

/-! ## How a run ends -/

/-- One attempt. -/
theorem run_attempt (reached : R.before replies s k = some s') (left : ℕ) :
    (R.program (left + 1) s').run (scripted replies) (R.requests replies s k) =
      match R.judge s' (replies k) with
      | .returned a => (.ok a, R.requests replies s (k + 1))
      | .stopped e => (.error e, R.requests replies s (k + 1))
      | .failed s'' =>
          (R.program left s'').run (scripted replies) (R.requests replies s (k + 1)) := by
  rw [program, Prog.run_call, requests_succ reached]
  simp only [scripted, length_requests reached]
  cases R.judge s' (replies k) <;> rfl

/-- While the attempts fail, a run is the run of what is left of it. -/
theorem run_before (reached : R.before replies s k = some s') (le : k ≤ n) :
    (R.program n s).run (scripted replies) [] =
      (R.program (n - k) s').run (scripted replies) (R.requests replies s k) := by
  induction k generalizing s' with
  | zero =>
    obtain rfl := Option.some.inj reached
    rfl
  | succ k ih =>
    obtain ⟨s₁, earlier, judged⟩ := exists_before reached
    have left : n - k = n - (k + 1) + 1 := by omega
    rw [ih earlier (Nat.le_of_succ_le le), left, run_attempt earlier, judged]

theorem run_returned {a : α} (lt : k < n) (reached : R.before replies s k = some s')
    (judged : R.judge s' (replies k) = .returned a) :
    (R.program n s).run (scripted replies) [] = (.ok a, R.requests replies s (k + 1)) := by
  have left : n - k = n - (k + 1) + 1 := by omega
  rw [run_before reached (Nat.le_of_lt lt), left, run_attempt reached, judged]

theorem run_stopped {e : ε} (lt : k < n) (reached : R.before replies s k = some s')
    (judged : R.judge s' (replies k) = .stopped e) :
    (R.program n s).run (scripted replies) [] = (.error e, R.requests replies s (k + 1)) := by
  have left : n - k = n - (k + 1) + 1 := by omega
  rw [run_before reached (Nat.le_of_lt lt), left, run_attempt reached, judged]

theorem run_exhausted (reached : R.before replies s n = some s') :
    (R.program n s).run (scripted replies) [] =
      (.error (R.exhausted s'), R.requests replies s n) := by
  rw [run_before reached (Nat.le_refl n), Nat.sub_self, program, Prog.run_raise]

/-- All attempts fail, or one that is made does not. -/
theorem ends (R : Retry C ρ ε α σ) (replies : ℕ → ρ) (s : σ) (n : ℕ) :
    (∃ s', R.before replies s n = some s') ∨ ∃ k < n, ∃ s', R.before replies s k = some s' ∧
      ((∃ a, R.judge s' (replies k) = .returned a) ∨
        ∃ e, R.judge s' (replies k) = .stopped e) := by
  induction n with
  | zero => exact .inl ⟨s, rfl⟩
  | succ n ih =>
    rcases ih with ⟨s', reached⟩ | ⟨k, lt, ended⟩
    · cases judged : R.judge s' (replies n) with
      | failed s'' => exact .inl ⟨s'', before_succ reached judged⟩
      | returned a => exact .inr ⟨n, n.lt_succ_self, s', reached, .inl ⟨a, judged⟩⟩
      | stopped e => exact .inr ⟨n, n.lt_succ_self, s', reached, .inr ⟨e, judged⟩⟩
    · exact .inr ⟨k, Nat.lt_succ_of_lt lt, ended⟩

/-- No attempt starts after one that does not fail. -/
theorem le_of_judged {j : ℕ} {s'' : σ} (later : R.before replies s j = some s'')
    (reached : R.before replies s k = some s')
    (ended : ∀ s₁, R.judge s' (replies k) ≠ .failed s₁) : j ≤ k := by
  by_contra gt
  obtain ⟨s₁, next⟩ := exists_before_of_le later (Nat.lt_of_not_le gt)
  obtain ⟨s₂, earlier, judged⟩ := exists_before next
  rw [reached] at earlier
  rw [← Option.some.inj earlier] at judged
  exact ended s₁ judged

/-- A run makes one request for every attempt that it reaches. -/
theorem getElem?_sent (R : Retry C ρ ε α σ) (replies : ℕ → ρ) (s : σ) (n j : ℕ) (c : C) :
    ((R.program (n + 1) s).run (scripted replies) []).2[j]? = some c ↔
      j ≤ n ∧ ∃ s', R.before replies s j = some s' ∧ R.request s' = c := by
  have ended {k : ℕ} {s' : σ} (lt : k < n + 1) (reached : R.before replies s k = some s')
      (judged : ∀ s₁, R.judge s' (replies k) ≠ .failed s₁) :
      (R.requests replies s (k + 1))[j]? = some c ↔
        j ≤ n ∧ ∃ s', R.before replies s j = some s' ∧ R.request s' = c := by
    rw [getElem?_requests reached]
    constructor
    · exact fun h => ⟨Nat.le_trans h.1 (Nat.le_of_lt_succ lt), h.2⟩
    · rintro ⟨-, s'', later, made⟩
      exact ⟨le_of_judged later reached judged, s'', later, made⟩
  rcases R.ends replies s (n + 1) with
    ⟨s', reached⟩ | ⟨k, lt, s', reached, ⟨a, judged⟩ | ⟨e, judged⟩⟩
  · obtain ⟨s₁, earlier, -⟩ := exists_before reached
    rw [run_exhausted reached, getElem?_requests earlier]
  · rw [run_returned lt reached judged]
    exact ended lt reached (by simp [judged])
  · rw [run_stopped lt reached judged]
    exact ended lt reached (by simp [judged])

theorem length_sent_le (R : Retry C ρ ε α σ) (replies : ℕ → ρ) (s : σ) (n : ℕ) :
    ((R.program (n + 1) s).run (scripted replies) []).2.length ≤ n + 1 := by
  by_contra gt
  have sent := List.getElem?_eq_getElem (Nat.lt_of_not_le gt)
  exact Nat.not_succ_le_self n ((R.getElem?_sent replies s n _ _).1 sent).1

end Retry

end Effects
