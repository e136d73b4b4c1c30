import Mathlib.Data.List.Basic
import Mathlib.Data.List.Nodup

/-!
# Lists and indexes of keyed records

Records are kept under keys.  Next to them a store may keep the list of the keys in use, and an
index from a field of the records to a key.  `Listed` and `IndexedBy` say that these agree with
the records; saving a record with its key on the list and in the index keeps both.
-/

namespace Indexes

variable {K A R : Type}

/-- The list holds the keys under which a record is kept, each once. -/
structure Listed (records : K → Option R) (keys : List K) : Prop where
  nodup : keys.Nodup
  mem_iff : ∀ k, k ∈ keys ↔ records k ≠ none

theorem Listed.empty : Listed (fun _ => none : K → Option R) [] :=
  ⟨List.nodup_nil, fun _ => by simp⟩

/-- A record is saved, and its key goes to the head of the list. -/
theorem Listed.save [BEq K] [LawfulBEq K] [DecidableEq K] {records records' : K → Option R}
    {keys : List K} (h : Listed records keys) {k : K} {r : R}
    (saved : ∀ k', records' k' = if k' = k then some r else records k') :
    Listed records' (k :: keys.erase k) := by
  refine ⟨List.nodup_cons.2 ⟨h.nodup.not_mem_erase, h.nodup.erase k⟩, fun k' => ?_⟩
  rw [saved, List.mem_cons]
  split_ifs with same
  · simp [same]
  · rw [List.mem_erase_of_ne same, h.mem_iff]
    simp [same]

/-- The index leads from a field to a record that has it, and knows the field of every
record. -/
structure IndexedBy (records : K → Option R) (index : A → Option K) (field : R → A) : Prop where
  sound : ∀ a k, index a = some k → ∃ r, records k = some r ∧ field r = a
  complete : ∀ k r, records k = some r → index (field r) ≠ none

variable {records records' : K → Option R} {index index' : A → Option K} {field : R → A}

theorem IndexedBy.empty : IndexedBy (fun _ => none : K → Option R) (fun _ => none) field :=
  ⟨fun _ _ h => (by cases h), fun _ _ h => (by cases h)⟩

/-- A record is saved and indexed, in place of none or of one with the same field. -/
theorem IndexedBy.save [DecidableEq K] [DecidableEq A] (h : IndexedBy records index field) {k : K}
    {r : R} (replaces : ∀ old, records k = some old → field old = field r)
    (saved : ∀ k', records' k' = if k' = k then some r else records k')
    (indexed : ∀ a, index' a = if a = field r then some k else index a) :
    IndexedBy records' index' field := by
  refine ⟨fun a k' found => ?_, fun k' r' stored => ?_⟩
  · rw [indexed] at found
    split_ifs at found with same
    · obtain rfl := Option.some.inj found
      exact ⟨r, by rw [saved, if_pos rfl], same.symm⟩
    · obtain ⟨r', stored, has⟩ := h.sound a k' found
      refine ⟨r', ?_, has⟩
      -- the saved record has another field than the one that is looked up
      have other : k' ≠ k := by
        rintro rfl
        exact same (has.symm.trans (replaces r' stored))
      rw [saved, if_neg other, stored]
  · rw [indexed]
    split_ifs with same
    · exact Option.some_ne_none k
    · rw [saved] at stored
      split_ifs at stored
      · exact absurd (congrArg field (Option.some.inj stored)).symm same
      · exact h.complete k' r' stored

end Indexes
