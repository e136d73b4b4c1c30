import ZoneGate.Library.Pool
import Mathlib.Data.Set.Lattice

/-!
# Programs that own resources

Programs that run interleaved may each own resources, the right to make a certain call once for
instance, and learn facts that no program undoes.  A `Discipline` says which calls may be made by
whom: a call may need facts that the program has learned, and may spend resources that the program
owns.  If the calls that are made so keep the facts and the resources of everybody else, then so
does every interleaved run, in which no resource ever has two owners.
-/

namespace Effects

variable {I : Interface} {ε α β σ ι R K : Type}

/-- Which calls a program may make, and what it learns from the replies. -/
structure Discipline (I : Interface) (R K : Type) where
  /-- The call may be made with these facts known, and spends these resources. -/
  may : I.Call → Set K → Set R → Prop
  learns : (c : I.Call) → I.Reply c → Set K
  mono : ∀ c known known' spent, known ⊆ known' → may c known spent → may c known' spent

/-! ## Programs -/

namespace Prog

variable {D : Discipline I R K}

/-- The program keeps to the discipline from these resources and facts on, whatever the replies. -/
def Obeys (D : Discipline I R K) : Prog I ε α → Set R → Set K → Prop
  | .ret _, _, _ => True
  | .raise _, _, _ => True
  | .call c next, owned, known => ∃ spent ⊆ owned, D.may c known spent ∧
      ∀ r, (next r).Obeys D (owned \ spent) (known ∪ D.learns c r)

theorem Obeys.mono {p : Prog I ε α} {owned owned' : Set R} {known known' : Set K}
    (h : p.Obeys D owned known) (more : owned ⊆ owned') (more' : known ⊆ known') :
    p.Obeys D owned' known' := by
  induction p generalizing owned owned' known known' with
  | ret a => trivial
  | raise e => trivial
  | call c next ih =>
    obtain ⟨spent, own, may, rest⟩ := h
    exact ⟨spent, own.trans more, D.mono _ _ _ _ more' may, fun r => ih r (rest r)
      (Set.sdiff_subset_sdiff_left more)
      (Set.union_subset_union_left _ more')⟩

/-- A call that spends nothing. -/
theorem obeys_call {c : I.Call} {next : I.Reply c → Prog I ε α} {owned : Set R} {known : Set K}
    (may : D.may c known ∅)
    (rest : ∀ r, (next r).Obeys D owned (known ∪ D.learns c r)) :
    (Prog.call c next).Obeys D owned known :=
  ⟨∅, Set.empty_subset _, may, fun r => by rw [Set.sdiff_empty]; exact rest r⟩

/-- A call that anybody may make, whose reply is not used. -/
theorem obeys_free {c : I.Call} {next : I.Reply c → Prog I ε α} {owned : Set R} {known : Set K}
    (may : D.may c known ∅) (rest : ∀ r, (next r).Obeys D owned known) :
    (Prog.call c next).Obeys D owned known :=
  obeys_call may fun r => (rest r).mono subset_rfl Set.subset_union_left

/-- A program before another one that needs nothing. -/
theorem Obeys.bind {p : Prog I ε α} {f : α → Prog I ε β} {owned : Set R} {known : Set K}
    (hp : p.Obeys D owned known) (hf : ∀ a, (f a).Obeys D ∅ ∅) : (p >>= f).Obeys D owned known := by
  induction p generalizing owned known with
  | ret a => exact (hf a).mono (Set.empty_subset _) (Set.empty_subset _)
  | raise e => trivial
  | call c next ih =>
    obtain ⟨spent, own, may, rest⟩ := hp
    exact ⟨spent, own, may, fun r => ih r (rest r)⟩

variable {φ : I.Call → Prop}

/-- A program that makes only calls that anybody may make, before another one. -/
theorem Obeys.bind_free {p : Prog I ε α} {f : α → Prog I ε β} {owned : Set R} {known : Set K}
    (free : ∀ c known, φ c → D.may c known ∅) (hp : p.CallsOnly φ)
    (hf : ∀ a, (f a).Obeys D owned known) : (p >>= f).Obeys D owned known := by
  induction p with
  | ret a => exact hf a
  | raise e => trivial
  | call c next ih => exact obeys_free (free c known hp.1) fun r => ih r (hp.2 r)

theorem Obeys.of_free {p : Prog I ε α} {owned : Set R} {known : Set K}
    (free : ∀ c known, φ c → D.may c known ∅) (hp : p.CallsOnly φ) : p.Obeys D owned known := by
  induction p with
  | ret a => trivial
  | raise e => trivial
  | call c next ih => exact obeys_free (free c known hp.1) fun r => ih r (hp.2 r)

end Prog

/-! ## States -/

/-- What a state makes of a discipline: the resources that are still to be spent, the facts that
hold, and an invariant; all of it is claimed of good states only. -/
structure Reading (σ R K : Type) where
  live : σ → Set R
  holds : σ → Set K
  inv : σ → Prop
  good : σ → Prop

/-- What the call keeps: the facts, and the resources it does not spend; what it teaches holds. -/
structure Kept (D : Discipline I R K) (M : Reading σ R K) (h : Handler I ε σ) (c : I.Call) (s : σ)
    (spent : Set R) : Prop where
  inv : M.inv (h c s).2
  holds : M.holds s ⊆ M.holds (h c s).2
  live : M.live s \ spent ⊆ M.live (h c s).2
  learns : ∀ r, (h c s).1 = .ok r → D.learns c r ⊆ M.holds (h c s).2

/-- Every call that the discipline allows keeps what it must. -/
structure Keeps (D : Discipline I R K) (M : Reading σ R K) (h : Handler I ε σ) : Prop where
  good : ∀ c s, M.good (h c s).2 → M.good s
  kept : ∀ c s known spent, D.may c known spent → known ⊆ M.holds s → spent ⊆ M.live s →
    M.inv s → M.good (h c s).2 → Kept D M h c s spent

/-! ## Pools -/

namespace Pool

variable {D : ι → Discipline I R K} {M : Reading σ R K} {h : ι → Handler I ε σ}

/-- Every thread obeys its discipline from what it owns and knows; no resource has two owners. -/
structure Owners (D : ι → Discipline I R K) (M : Reading σ R K) (c : Pool I ε α σ ι)
    (owned : ι → Set R) (known : ι → Set K) : Prop where
  obeys : ∀ i, (c.threads i).Obeys (D i) (owned i) (known i)
  live : ∀ i, owned i ⊆ M.live c.state
  holds : ∀ i, known i ⊆ M.holds c.state
  apart : ∀ i j, i ≠ j → ∀ r ∈ owned i, r ∉ owned j
  inv : M.inv c.state

variable [DecidableEq ι] {c : Pool I ε α σ ι} {owned : ι → Set R} {known : ι → Set K}

/-- One thread goes on, with what it then owns and knows. -/
theorem Owners.update (o : Owners D M c owned known) {i : ι} {t : Prog I ε α} {s : σ}
    {mine : Set R} {facts : Set K} (obeys : t.Obeys (D i) mine facts) (inv : M.inv s)
    (holds : M.holds c.state ⊆ M.holds s) (live : mine ⊆ M.live s) (facts_hold : facts ⊆ M.holds s)
    (others : ∀ j, j ≠ i → owned j ⊆ M.live s) (apart : ∀ j, j ≠ i → ∀ r ∈ mine, r ∉ owned j) :
    Owners D M ⟨Function.update c.threads i t, s⟩ (Function.update owned i mine)
      (Function.update known i facts) := by
  refine ⟨fun j => ?_, fun j => ?_, fun j => ?_, fun j k hjk => ?_, inv⟩
  · by_cases hj : j = i
    · subst hj
      simpa only [Function.update_self] using obeys
    · simpa only [Function.update_of_ne hj] using o.obeys j
  · by_cases hj : j = i
    · subst hj
      simpa only [Function.update_self] using live
    · simpa only [Function.update_of_ne hj] using others j hj
  · by_cases hj : j = i
    · subst hj
      simpa only [Function.update_self] using facts_hold
    · simpa only [Function.update_of_ne hj] using (o.holds j).trans holds
  · by_cases hj : j = i
    · subst hj
      simpa only [Function.update_self, Function.update_of_ne (Ne.symm hjk)] using
        apart k (Ne.symm hjk)
    · by_cases hk : k = i
      · subst hk
        simpa only [Function.update_self, Function.update_of_ne hj] using
          fun r hr hm => apart j hj r hm hr
      · simpa only [Function.update_of_ne hj, Function.update_of_ne hk] using o.apart j k hjk

/-- A step keeps every fact that holds, and resources and facts have their owners again. -/
theorem Owners.step (o : Owners D M c owned known) (keeps : ∀ i, Keeps (D i) M (h i)) (i : ι)
    (good : M.good (c.step h i).state) :
    (∃ owned' known', Owners D M (c.step h i) owned' known') ∧
      M.holds c.state ⊆ M.holds (c.step h i).state := by
  have idle (same : c.step h i = c) : (∃ owned' known', Owners D M (c.step h i) owned' known') ∧
      M.holds c.state ⊆ M.holds (c.step h i).state := by
    rw [same]
    exact ⟨⟨owned, known, o⟩, subset_rfl⟩
  cases hi : c.threads i with
  | ret a => exact idle (step_of_ret hi)
  | raise e => exact idle (step_of_raise hi)
  | call op next =>
    have obeys := o.obeys i
    rw [hi] at obeys
    obtain ⟨spent, own, may, rest⟩ := obeys
    rw [step_state hi] at good ⊢
    have kept := (keeps i).kept op c.state _ _ may (o.holds i) (own.trans (o.live i)) o.inv good
    refine ⟨?_, kept.holds⟩
    -- what the others own is not spent by this call
    have others (j : ι) (hj : j ≠ i) : owned j ⊆ M.live (h i op c.state).2 := fun r hr =>
      kept.live ⟨o.live j hr, fun mem => o.apart i j hj.symm r (own mem) hr⟩
    have mine : owned i \ spent ⊆ M.live (h i op c.state).2 :=
      (Set.sdiff_subset_sdiff_left (o.live i)).trans kept.live
    have apart (j : ι) (hj : j ≠ i) (r : R) (hr : r ∈ owned i \ spent) : r ∉ owned j :=
      o.apart i j hj.symm r hr.1
    rcases hr : (h i op c.state).1 with e | r
    · rw [step_of_error hi (Prod.ext hr rfl)]
      exact ⟨_, _, o.update trivial kept.inv kept.holds mine ((o.holds i).trans kept.holds) others
        apart⟩
    · rw [step_of_ok hi (Prod.ext hr rfl)]
      exact ⟨_, _, o.update (rest r) kept.inv kept.holds mine
        (Set.union_subset ((o.holds i).trans kept.holds) (kept.learns r hr)) others apart⟩

theorem good_of_step (keeps : ∀ i, Keeps (D i) M (h i)) (i : ι)
    (good : M.good (c.step h i).state) : M.good c.state := by
  cases hi : c.threads i with
  | ret a => rwa [step_of_ret hi] at good
  | raise e => rwa [step_of_raise hi] at good
  | call op next =>
    rw [step_state hi] at good
    exact (keeps i).good op c.state good

/-- Every state on the way to a good one is good. -/
theorem good_of_run (keeps : ∀ i, Keeps (D i) M (h i)) (schedule : List ι)
    (good : M.good (c.run h schedule).state) : M.good c.state := by
  induction schedule generalizing c with
  | nil => exact good
  | cons i schedule ih => exact good_of_step keeps i (ih good)

/-- In every interleaved run that ends well, facts that hold keep holding, and no resource has two
owners. -/
theorem Owners.run (o : Owners D M c owned known) (keeps : ∀ i, Keeps (D i) M (h i))
    (schedule : List ι) (good : M.good (c.run h schedule).state) :
    (∃ owned' known', Owners D M (c.run h schedule) owned' known') ∧
      M.holds c.state ⊆ M.holds (c.run h schedule).state := by
  induction schedule generalizing c owned known with
  | nil => exact ⟨⟨owned, known, o⟩, subset_rfl⟩
  | cons i schedule ih =>
    obtain ⟨⟨owned', known', o'⟩, holds⟩ := o.step keeps i (good_of_run keeps schedule good)
    obtain ⟨owners, holds'⟩ := ih o' good
    exact ⟨owners, holds.trans holds'⟩

end Pool

end Effects
