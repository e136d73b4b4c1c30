import ZoneGate.Library.Trace

/-!
# Registers

A register is a part of the state that some calls overwrite and no other call touches: it has what
was written last.  Where the threads of a pool write a value into one register and then into a
second one, and none of them is in between, the two agree unless two writers have crossed.
-/

namespace Effects

variable {I : Interface} {ε α σ ι V : Type}

/-- A part of the state, and what the calls write there. -/
structure Register (h : ι → Handler I ε σ) (V : Type) where
  read : σ → V
  writes : I.Call → Option V
  read_after : ∀ i c s, read (h i c s).2 = (writes c).getD (read s)

namespace Register

variable {h : ι → Handler I ε σ}

/-- The event writes the value. -/
def Puts (R : Register h V) (e : Event I ε σ ι) (v : V) : Prop := R.writes e.call = some v

/-- Thread `i` writes `v`, and later thread `j` writes `v'`. -/
def Before (R : Register h V) (trace : List (Event I ε σ ι)) (i : ι) (v : V) (j : ι) (v' : V) :
    Prop :=
  ∃ t₁ e t₂ e' t₃, trace = t₁ ++ e :: (t₂ ++ e' :: t₃) ∧ e.thread = i ∧ R.Puts e v ∧
    e'.thread = j ∧ R.Puts e' v'

/-- The last write of the trace. -/
structure Last (R : Register h V) (before : List (Event I ε σ ι)) (e : Event I ε σ ι)
    (after : List (Event I ε σ ι)) (v : V) : Prop where
  puts : R.Puts e v
  last : ∀ e' ∈ after, R.writes e'.call = none

/-- A write of another value comes before the last one. -/
theorem Last.before {R : Register h V} {before after : List (Event I ε σ ι)}
    {e e' : Event I ε σ ι} {v v' : V} (last : R.Last before e after v)
    (mem : e' ∈ before ++ e :: after) (puts : R.Puts e' v') (other : v' ≠ v) :
    R.Before (before ++ e :: after) e'.thread v' e.thread v := by
  rcases List.mem_append.1 mem with earlier | later
  · obtain ⟨t₁, t₂, rfl⟩ := List.append_of_mem earlier
    exact ⟨t₁, e', t₂, e, after, by simp, rfl, puts, rfl, last.puts⟩
  · rcases List.mem_cons.1 later with rfl | later
    · exact absurd (Option.some.inj (puts.symm.trans last.puts)) other
    · cases (last.last e' later).symm.trans puts

variable [DecidableEq ι] {c : Pool I ε α σ ι}

/-- A register has what it had at the start, or what was written last. -/
theorem origin (R : Register h V) (c : Pool I ε α σ ι) (schedule : List ι) :
    (R.read (c.run h schedule).state = R.read c.state ∧
      ∀ e ∈ c.trace h schedule, R.writes e.call = none) ∨
    ∃ before e after, c.trace h schedule = before ++ e :: after ∧
      R.Last before e after (R.read (c.run h schedule).state) := by
  refine Pool.trace_induct (P := fun s trace => (R.read s = R.read c.state ∧
    ∀ e ∈ trace, R.writes e.call = none) ∨
    ∃ before e after, trace = before ++ e :: after ∧ R.Last before e after (R.read s))
    (.inl ⟨rfl, by simp⟩) (fun s trace i op ih => ?_) schedule
  rcases written : R.writes op with _ | v
  · have same : R.read (h i op s).2 = R.read s := by rw [R.read_after, written]; rfl
    rw [same]
    rcases ih with ⟨start, none⟩ | ⟨before, e, after, rfl, puts, last⟩
    · refine .inl ⟨start, fun e mem => ?_⟩
      rcases List.mem_append.1 mem with earlier | new
      · exact none e earlier
      · obtain rfl := List.mem_singleton.1 new
        exact written
    · refine .inr ⟨before, e, after ++ [_], by rw [List.append_assoc]; rfl, puts,
        fun e' mem => ?_⟩
      rcases List.mem_append.1 mem with earlier | new
      · exact last e' earlier
      · obtain rfl := List.mem_singleton.1 new
        exact written
  · refine .inr ⟨trace, _, [], rfl, ?_, by simp⟩
    rw [Puts, R.read_after, written]
    rfl

/-- Every thread that writes the second register has written the same into the first one before, and
every thread that has written the first one has written the same into the second one. -/
structure Mirrors (first second : Register h V) (trace : List (Event I ε σ ι)) : Prop where
  backed : ∀ before e after v, trace = before ++ e :: after → second.Puts e v →
    ∃ e' ∈ before, e'.thread = e.thread ∧ first.Puts e' v
  finished : ∀ e ∈ trace, ∀ v, first.Puts e v →
    ∃ e' ∈ trace, e'.thread = e.thread ∧ second.Puts e' v

/-- Two threads have written the first register in one order and the second one in the other. -/
def Crossed (first second : Register h V) (trace : List (Event I ε σ ι)) (i : ι) (v : V) (j : ι)
    (v' : V) : Prop :=
  v ≠ v' ∧ first.Before trace i v j v' ∧ second.Before trace j v' i v

/-- Registers that were the same at the start and are not at the end have been crossed. -/
theorem Mirrors.crossed {first second : Register h V} {schedule : List ι}
    (mirrors : Mirrors first second (c.trace h schedule))
    (start : first.read c.state = second.read c.state)
    (differ : first.read (c.run h schedule).state ≠ second.read (c.run h schedule).state) :
    ∃ i j, Crossed first second (c.trace h schedule) i (second.read (c.run h schedule).state) j
      (first.read (c.run h schedule).state) := by
  rcases second.origin c schedule with ⟨same, none⟩ | ⟨before, e, after, split, last⟩
  · -- then nothing was written into the first register either
    rcases first.origin c schedule with ⟨same', -⟩ | ⟨before, e, after, split, last⟩
    · exact absurd ((same'.trans start).trans same.symm) differ
    · obtain ⟨e', mem, -, puts⟩ := mirrors.finished e (by simp [split]) _ last.puts
      cases (none e' mem).symm.trans puts
  · obtain ⟨e₁, mem₁, thread₁, puts₁⟩ := mirrors.backed before e after _ split last.puts
    have mem₁ : e₁ ∈ c.trace h schedule := by simp [split, mem₁]
    rcases first.origin c schedule with ⟨-, none⟩ | ⟨before', e', after', split', last'⟩
    · cases (none e₁ mem₁).symm.trans puts₁
    obtain ⟨e₂, mem₂, thread₂, puts₂⟩ := mirrors.finished e' (by simp [split']) _ last'.puts
    refine ⟨e.thread, e'.thread, differ.symm, ?_, ?_⟩
    · rw [← thread₁]
      rw [split'] at mem₁ ⊢
      exact last'.before mem₁ puts₁ differ.symm
    · rw [← thread₂]
      rw [split] at mem₂ ⊢
      exact last.before mem₂ puts₂ differ

end Register

end Effects
