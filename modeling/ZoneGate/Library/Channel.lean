import Mathlib.Data.List.Basic

/-!
# A channel that is closed by a sentinel

A producer puts messages into an unbounded queue and at last the sentinel `none`; a consumer yields
the messages as it gets them and stops at the sentinel.
-/

namespace Effects

/-- The queue, what the consumer has yielded, and whether it has met the sentinel. -/
structure Channel (M : Type) where
  queue : List (Option M) := []
  yielded : List M := []
  closed : Bool := false

namespace Channel

variable {M : Type}

def put (c : Channel M) (m : Option M) : Channel M := { c with queue := c.queue ++ [m] }

/-- The consumer gets what is next; it waits if there is nothing, and stops at the sentinel. -/
def get (c : Channel M) : Channel M :=
  if c.closed then c
  else match c.queue with
    | [] => c
    | none :: queue => { c with queue := queue, closed := true }
    | some m :: queue => { c with queue := queue, yielded := c.yielded ++ [m] }

/-- Everything that was put into the channel so far. -/
def content (c : Channel M) : List (Option M) :=
  c.yielded.map some ++ (if c.closed then [none] else []) ++ c.queue

@[simp] theorem content_put (c : Channel M) (m : Option M) :
    (c.put m).content = c.content ++ [m] := by
  obtain ⟨queue, yielded, closed⟩ := c
  cases closed <;> simp [content, put]

@[simp] theorem content_get (c : Channel M) : c.get.content = c.content := by
  obtain ⟨queue, yielded, closed⟩ := c
  cases closed with
  | true => rfl
  | false => rcases queue with _ | ⟨_ | m, queue⟩ <;> simp [content, get]

/-- What the consumer still has to get. -/
def pending (c : Channel M) : ℕ := if c.closed then 0 else c.queue.length

theorem pending_get (c : Channel M) : c.get.pending ≤ c.pending - 1 := by
  obtain ⟨queue, yielded, closed⟩ := c
  cases closed with
  | true => exact Nat.le_refl 0
  | false => rcases queue with _ | ⟨_ | m, queue⟩ <;> simp [pending, get]

theorem pending_le (c : Channel M) : c.pending ≤ c.content.length := by
  simp only [pending, content, List.length_append]
  split_ifs <;> omega

theorem prefix_of_sentinel {xs ms : List M} {rest : List (Option M)}
    (h : xs.map some ++ rest = ms.map some ++ [none]) : xs <+: ms := by
  induction xs generalizing ms with
  | nil => exact List.nil_prefix
  | cons x xs ih =>
    cases ms with
    | nil => simp at h
    | cons m ms =>
      simp only [List.map_cons, List.cons_append, List.cons.injEq, Option.some.injEq] at h
      exact List.cons_prefix_cons.2 ⟨h.1, ih h.2⟩

/-- Messages up to the first sentinel. -/
theorem eq_of_sentinel {xs ms : List M} {rest : List (Option M)}
    (h : xs.map some ++ none :: rest = ms.map some ++ [none]) : xs = ms ∧ rest = [] := by
  obtain ⟨ys, rfl⟩ := prefix_of_sentinel h
  rw [List.map_append, List.append_assoc] at h
  have left := List.append_cancel_left h
  cases ys with
  | nil => simpa using left
  | cons y ys => simp at left

section Messages

variable {c : Channel M} {messages : List M} {rest : List (Option M)}

/-- The consumer yields no other messages than those that are put, in their order. -/
theorem yielded_prefix (h : c.content ++ rest = messages.map some ++ [none]) :
    c.yielded <+: messages := by
  rw [content, List.append_assoc, List.append_assoc] at h
  exact prefix_of_sentinel h

/-- And it stops when it has yielded them all. -/
theorem yielded_of_closed (h : c.content ++ rest = messages.map some ++ [none])
    (closed : c.closed = true) : c.yielded = messages := by
  rw [content, if_pos closed, List.append_assoc, List.append_assoc] at h
  exact (eq_of_sentinel h).1

/-- Once everything has been put, a consumer that has nothing to get has stopped. -/
theorem closed_of_drained (h : c.content = messages.map some ++ [none]) (drained : c.pending = 0) :
    c.closed = true := by
  by_contra hopen
  have empty : c.queue = [] := by simpa [pending, hopen] using drained
  have : none ∈ c.yielded.map some := by
    rw [content, if_neg hopen, empty, List.append_nil, List.append_nil] at h
    rw [h]
    simp
  simp at this

end Messages

end Channel

end Effects
