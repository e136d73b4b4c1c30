import Mathlib.Data.Fintype.Card
import Mathlib.Data.Set.Finite.Basic
import Mathlib.Logic.Relation

/-!
# Acyclic graphs of names

Names refer to names, finitely many of them to any at all.  Without a cycle there is a value for
every name that is computed from the values of the names it refers to.
-/

namespace Acyclic

variable {α β : Type} {r : α → α → Prop}

theorem wellFounded (finite : {a | ∃ b, r a b}.Finite)
    (acyclic : ∀ a, ¬ Relation.TransGen r a a) : WellFounded (flip r) := by
  let sources := {a | ∃ b, r a b}
  have : Finite sources := finite
  have trans : IsTrans sources fun a b => Relation.TransGen r b a :=
    ⟨fun _ _ _ hab hbc => hbc.trans hab⟩
  have irrefl : Std.Irrefl fun a b : sources => Relation.TransGen r b a :=
    ⟨fun a => acyclic a⟩
  have wf : WellFounded fun a b : sources => Relation.TransGen r b a :=
    Finite.wellFounded_of_trans_of_irrefl _
  have source (a : sources) : Acc (flip r) a := by
    induction a using wf.induction with
    | _ a ih =>
      refine ⟨_, fun b hb => ?_⟩
      by_cases hs : b ∈ sources
      · exact ih ⟨b, hs⟩ (.single hb)
      · exact ⟨_, fun c hc => absurd ⟨c, hc⟩ hs⟩
  refine ⟨fun a => ⟨_, fun b hb => ?_⟩⟩
  by_cases hs : b ∈ sources
  · exact source ⟨b, hs⟩
  · exact ⟨_, fun c hc => absurd ⟨c, hc⟩ hs⟩

/-- The values of the names when `step` computes each from those it refers to. -/
theorem exists_fixed (wf : WellFounded (flip r)) (step : (α → β) → α → β)
    (reads : ∀ values values' a, (∀ b, r a b → values b = values' b) →
      step values a = step values' a) (default : β) :
    ∃ values : α → β, ∀ a, values a = step values a := by
  classical
  let body (a : α) (below : ∀ b, flip r b a → β) : β :=
    step (fun b => if h : flip r b a then below b h else default) a
  refine ⟨wf.fix body, fun a => (wf.fix_eq body a).trans ?_⟩
  exact reads _ _ a fun b hb => dif_pos hb

end Acyclic
