import ZoneGate.Library.Pool

/-!
# Check, then act

Threads that first read a shared record and later write it, each only when its own read found the
record unwritten.  The log lists who made which call.  Such a protocol lets two threads write
exactly when one thread's write falls between the read and the write of another: `Overtaken`.
-/

namespace Effects

variable {ι Call : Type} (reads writes : Call → Prop)

/-- Somebody else's write falls between a thread's read and that thread's write. -/
def Overtaken (log : List (ι × Call)) : Prop :=
  ∃ i k a b c, i ≠ k ∧ reads a ∧ writes b ∧ writes c ∧ [(i, a), (k, b), (i, c)].Sublist log

/-- Thread `i` has read before anything was written. -/
def ReadFirst (i : ι) (log : List (ι × Call)) : Prop :=
  ∃ before a after, log = before ++ (i, a) :: after ∧ reads a ∧ ∀ e ∈ before, ¬ writes e.2

/-- Every write is by a thread that had read before anything was written. -/
def Guarded (log : List (ι × Call)) : Prop :=
  ∀ before i c after, log = before ++ (i, c) :: after → writes c → ReadFirst reads writes i before

/-- Thread `i` has written. -/
def Wrote (i : ι) (log : List (ι × Call)) : Prop := ∃ c, writes c ∧ (i, c) ∈ log

/-- No thread writes twice. -/
def WritesOnce (log : List (ι × Call)) : Prop :=
  ∀ before i c after, log = before ++ (i, c) :: after → writes c → ¬ Wrote writes i before

variable {reads writes} {log : List (ι × Call)}

theorem ReadFirst.append {i : ι} (h : ReadFirst reads writes i log) (more : List (ι × Call)) :
    ReadFirst reads writes i (log ++ more) := by
  obtain ⟨before, a, after, rfl, ha, hb⟩ := h
  exact ⟨before, a, after ++ more, by simp, ha, hb⟩

/-- A read of a log without writes comes first. -/
theorem readFirst_snoc {i : ι} {a : Call} (ha : reads a) (hlog : ∀ e ∈ log, ¬ writes e.2) :
    ReadFirst reads writes i (log ++ [(i, a)]) :=
  ⟨log, a, [], rfl, ha, hlog⟩

theorem wrote_append {i : ι} {more : List (ι × Call)} :
    Wrote writes i (log ++ more) ↔ Wrote writes i log ∨ Wrote writes i more := by
  constructor
  · rintro ⟨c, hc, hm⟩
    rcases List.mem_append.1 hm with h | h
    · exact .inl ⟨c, hc, h⟩
    · exact .inr ⟨c, hc, h⟩
  · rintro (⟨c, hc, hm⟩ | ⟨c, hc, hm⟩)
    · exact ⟨c, hc, List.mem_append_left _ hm⟩
    · exact ⟨c, hc, List.mem_append_right _ hm⟩

theorem wrote_singleton {i k : ι} {c : Call} : Wrote writes i [(k, c)] ↔ k = i ∧ writes c := by
  simp only [Wrote, List.mem_singleton, Prod.mk.injEq]
  constructor
  · rintro ⟨_, hc, rfl, rfl⟩
    exact ⟨rfl, hc⟩
  · rintro ⟨rfl, hc⟩
    exact ⟨c, hc, rfl, rfl⟩

theorem not_wrote_append {i : ι} {more : List (ι × Call)} (h : ¬ Wrote writes i log)
    (others : ∀ e ∈ more, e.1 ≠ i) : ¬ Wrote writes i (log ++ more) := by
  rw [wrote_append]
  rintro (hw | ⟨c, -, hm⟩)
  · exact h hw
  · exact others _ hm rfl

theorem not_wrote_snoc {i : ι} {c : Call} (h : ¬ Wrote writes i log) (hc : ¬ writes c) :
    ¬ Wrote writes i (log ++ [(i, c)]) := by
  rw [wrote_append, wrote_singleton]
  rintro (hw | ⟨-, hw⟩)
  · exact h hw
  · exact hc hw

section Rely

variable {σ : Type} {inv running : Logged σ ι Call → Prop} {i : ι} {s s' : Logged σ ι Call}

/-- A thread that has not written stays so while the others go on. -/
theorem not_wrote_rely (rely : (Contract.logging inv running i).rely s s')
    (h : ¬ Wrote writes i s.log) : ¬ Wrote writes i s'.log := by
  obtain ⟨more, hlog, others⟩ := rely
  rw [hlog]
  exact not_wrote_append h others

theorem ReadFirst.rely (rely : (Contract.logging inv running i).rely s s')
    (h : ReadFirst reads writes i s.log) : ReadFirst reads writes i s'.log := by
  obtain ⟨more, hlog, -⟩ := rely
  rw [hlog]
  exact h.append more

end Rely

/-- The entries of a log with one more call: those before, and the new one. -/
theorem snoc_eq_append_cons {before after : List (ι × Call)} {e e' : ι × Call}
    (h : log ++ [e] = before ++ e' :: after) :
    (after = [] ∧ log = before ∧ e = e') ∨
      ∃ after', after = after' ++ [e] ∧ log = before ++ e' :: after' := by
  rcases List.eq_nil_or_concat after with rfl | ⟨after', last, rfl⟩
  · obtain ⟨h1, h2⟩ := List.append_inj' h rfl
    exact .inl ⟨rfl, h1, by simpa using h2⟩
  · have h' : log ++ [e] = (before ++ e' :: after') ++ [last] := by simpa using h
    obtain ⟨h1, h2⟩ := List.append_inj' h' rfl
    simp only [List.cons.injEq, and_true] at h2
    exact .inr ⟨after', by rw [h2, List.concat_eq_append], h1⟩

theorem Guarded.snoc (h : Guarded reads writes log) {i : ι} {c : Call}
    (hc : writes c → ReadFirst reads writes i log) : Guarded reads writes (log ++ [(i, c)]) := by
  intro before k b after eq hb
  rcases snoc_eq_append_cons eq with ⟨-, rfl, he⟩ | ⟨after', -, rfl⟩
  · obtain ⟨rfl, rfl⟩ := Prod.mk.inj he
    exact hc hb
  · exact h _ _ _ _ rfl hb

theorem WritesOnce.snoc (h : WritesOnce writes log) {i : ι} {c : Call}
    (hc : writes c → ¬ Wrote writes i log) : WritesOnce writes (log ++ [(i, c)]) := by
  intro before k b after eq hb
  rcases snoc_eq_append_cons eq with ⟨-, rfl, he⟩ | ⟨after', -, rfl⟩
  · obtain ⟨rfl, rfl⟩ := Prod.mk.inj he
    exact hc hb
  · exact h _ _ _ _ rfl hb

theorem guarded_nil : Guarded reads writes ([] : List (ι × Call)) := by
  intro before i c after h
  simp at h

theorem writesOnce_nil : WritesOnce writes ([] : List (ι × Call)) := by
  intro before i c after h
  simp at h

theorem Overtaken.append (h : Overtaken reads writes log) (more : List (ι × Call)) :
    Overtaken reads writes (log ++ more) := by
  obtain ⟨i, k, a, b, c, hik, ha, hb, hc, hs⟩ := h
  exact ⟨i, k, a, b, c, hik, ha, hb, hc, hs.trans (List.sublist_append_left _ _)⟩

/-- Overtaking takes two threads, one of them before and after the other. -/
theorem Overtaken.threads (h : Overtaken reads writes log) :
    ∃ i k, i ≠ k ∧ [i, k, i].Sublist (log.map Prod.fst) := by
  obtain ⟨i, k, a, b, c, differ, -, -, -, order⟩ := h
  exact ⟨i, k, differ, order.map Prod.fst⟩

/-- A write that comes after a write of another thread overtakes a read. -/
theorem overtaken_of_wrote_before (hg : Guarded reads writes log) {i k : ι} (hik : i ≠ k)
    {before after : List (ι × Call)} {c : Call} (hlog : log = before ++ (i, c) :: after)
    (hc : writes c) (hk : Wrote writes k before) : Overtaken reads writes log := by
  obtain ⟨first, a, last, rfl, ha, hfirst⟩ := hg before i c after hlog hc
  obtain ⟨b, hb, hmem⟩ := hk
  -- the other write is neither among the entries before the read nor the read itself
  have hlast : (k, b) ∈ last := by
    rcases List.mem_append.1 hmem with h | h
    · exact absurd hb (hfirst _ h)
    · rcases List.mem_cons.1 h with h | h
      · exact absurd (Prod.mk.inj h).1.symm hik
      · exact h
  refine ⟨i, k, a, b, c, hik, ha, hb, hc, ?_⟩
  rw [hlog, List.append_assoc, List.cons_append]
  refine (List.Sublist.cons_cons _ ?_).trans (List.sublist_append_right _ _)
  have pair := List.Sublist.append (List.singleton_sublist.2 hlast)
    (List.Sublist.cons_cons (i, c) (List.nil_sublist after))
  exact pair

/-- Two threads write exactly when one overtakes the other. -/
theorem exists_two_writers_iff (hg : Guarded reads writes log) :
    (∃ i k, i ≠ k ∧ Wrote writes i log ∧ Wrote writes k log) ↔ Overtaken reads writes log := by
  constructor
  · rintro ⟨i, k, hik, ⟨c, hc, hi⟩, ⟨b, hb, hk⟩⟩
    obtain ⟨before, after, rfl⟩ := List.append_of_mem hi
    rcases List.mem_append.1 hk with h | h
    · exact overtaken_of_wrote_before hg hik rfl hc ⟨b, hb, h⟩
    · rcases List.mem_cons.1 h with h | h
      · exact absurd (Prod.mk.inj h).1.symm hik
      · obtain ⟨mid, after', rfl⟩ := List.append_of_mem h
        have hlog : before ++ (i, c) :: (mid ++ (k, b) :: after') =
            (before ++ (i, c) :: mid) ++ (k, b) :: after' := by simp
        exact overtaken_of_wrote_before hg hik.symm hlog hb ⟨c, hc, by simp⟩
  · rintro ⟨i, k, a, b, c, hik, ha, hb, hc, hs⟩
    exact ⟨i, k, hik, ⟨c, hc, hs.subset (by simp)⟩, ⟨b, hb, hs.subset (by simp)⟩⟩

/-- Without overtaking, nothing was written before a write. -/
theorem not_wrote_before (hg : Guarded reads writes log) (ho : WritesOnce writes log)
    (hn : ¬ Overtaken reads writes log) {before after : List (ι × Call)} {i : ι} {c : Call}
    (hlog : log = before ++ (i, c) :: after) (hc : writes c) (k : ι) : ¬ Wrote writes k before := by
  intro hk
  by_cases hik : i = k
  · subst hik
    exact ho before i c after hlog hc hk
  · exact hn (overtaken_of_wrote_before hg hik hlog hc hk)

end Effects
