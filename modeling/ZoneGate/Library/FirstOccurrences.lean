import Mathlib.Data.List.Nodup

/-!
# The first occurrences in a list

`List.eraseDups` keeps the first occurrence of every element.  A loop that appends what it has not
seen yet computes it.
-/

namespace FirstOccurrences

variable {α : Type} [DecidableEq α]

/-- Nothing is erased from a list without repetitions. -/
theorem eraseDups_of_nodup {as : List α} (h : as.Nodup) : as.eraseDups = as := by
  induction as with
  | nil => rfl
  | cons a as ih =>
    obtain ⟨new, rest⟩ := List.nodup_cons.1 h
    rw [List.eraseDups_cons, List.filter_eq_self.2, ih rest]
    intro b hb
    have other : b ≠ a := fun same => new (same ▸ hb)
    simpa using other

/-- A list without repetitions comes first when more is added to it. -/
theorem prefix_eraseDups_append {as : List α} (h : as.Nodup) (bs : List α) :
    as <+: (as ++ bs).eraseDups := by
  rw [List.eraseDups_append, eraseDups_of_nodup h]
  exact List.prefix_append ..

/-- One step of the loop. -/
def addNew (seen : List α) (a : α) : List α := if a ∈ seen then seen else seen ++ [a]

theorem removeAll_cons (a : α) (as seen : List α) :
    (a :: as).removeAll seen = if a ∈ seen then as.removeAll seen else a :: as.removeAll seen := by
  by_cases h : a ∈ seen <;> simp [List.removeAll, h]

theorem foldl_addNew (as seen : List α) :
    as.foldl addNew seen = seen ++ (as.removeAll seen).eraseDups := by
  induction as generalizing seen with
  | nil => simp [List.removeAll]
  | cons a as ih =>
    rw [List.foldl_cons, ih, removeAll_cons, addNew]
    split_ifs with h
    · rfl
    · have rest : as.removeAll (seen ++ [a]) = (as.removeAll seen).filter fun b => !b == a := by
        simp only [List.removeAll, List.filter_filter]
        apply List.filter_congr
        intro b _
        by_cases same : b = a <;> simp [same]
      rw [List.append_assoc, List.singleton_append, List.eraseDups_cons, rest]

/-- The loop, from nothing on. -/
theorem foldl_addNew_nil (as : List α) : as.foldl addNew [] = as.eraseDups := by
  rw [foldl_addNew, List.nil_append]
  simp [List.removeAll]

theorem nodup_addNew {seen : List α} (h : seen.Nodup) (a : α) : (addNew seen a).Nodup := by
  unfold addNew
  split_ifs with old
  · exact h
  · refine List.nodup_append.2 ⟨h, List.nodup_singleton a, fun b hb c hc same => ?_⟩
    obtain rfl := List.mem_singleton.1 hc
    exact old (same ▸ hb)

theorem nodup_foldl_addNew (as : List α) {seen : List α} (h : seen.Nodup) :
    (as.foldl addNew seen).Nodup := by
  induction as generalizing seen with
  | nil => exact h
  | cons a as ih => exact ih (nodup_addNew h a)

theorem nodup_eraseDups (as : List α) : as.eraseDups.Nodup :=
  foldl_addNew_nil as ▸ nodup_foldl_addNew as List.nodup_nil

end FirstOccurrences
