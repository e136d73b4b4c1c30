import ZoneGate.Py.Str
import ZoneGate.Library.Trim

/-!
# Upper case and whitespace

What `str.upper` and `str.strip` do to each other.  The upper-case mappings beyond ASCII are assumed
to behave as the Unicode database documents them: no mapping is empty, whitespace maps to itself and
nothing else to whitespace, and what is mapped is in upper case.
-/

namespace Py

open Trim

theorem toList_strip (s : String) : (strip s).toList = trim isSpace s.toList := by
  simp [strip, trim, List.rdropWhile]

theorem strip_eq_empty_iff {s : String} : strip s = "" ↔ ∀ c ∈ s.toList, isSpace c = true := by
  rw [← trim_eq_nil_iff, ← toList_strip, String.toList_eq_nil_iff]

/-- Stripping twice is stripping once. -/
theorem strip_strip (s : String) : strip (strip s) = strip s := by
  rw [← String.toList_inj, toList_strip, toList_strip, trim_trim]

/-! ## ASCII -/

/-- A decidable property of the characters below 128 is checked on each of them. -/
theorem forall_ascii {P : Char → Prop} (h : ∀ n : Fin 128, P (Char.ofNat n)) {c : Char}
    (hc : c.val < 0x80) : P c := by
  have small : c.toNat < 128 := hc
  simpa using h ⟨c.toNat, small⟩

theorem isSpace_toUpper {c : Char} (h : c.val < 0x80) : isSpace c.toUpper = isSpace c :=
  forall_ascii (P := fun c => isSpace c.toUpper = isSpace c) (by decide) h

theorem toUpper_of_isSpace {c : Char} (h : c.val < 0x80) : isSpace c = true → c.toUpper = c :=
  forall_ascii (P := fun c => isSpace c = true → c.toUpper = c) (by decide) h

theorem toUpper_ascii {c : Char} (h : c.val < 0x80) : c.toUpper.val < 0x80 :=
  forall_ascii (P := fun c => c.toUpper.val < 0x80) (by decide) h

theorem toUpper_toUpper {c : Char} (h : c.val < 0x80) : c.toUpper.toUpper = c.toUpper :=
  forall_ascii (P := fun c => c.toUpper.toUpper = c.toUpper) (by decide) h

/-! ## The upper case of a string -/

variable [Unicode]

/-- What the Unicode database says of upper case beyond ASCII. -/
structure UpperCaseLaws : Prop where
  ne_nil : ∀ c : Char, ¬ c.val < 0x80 → Unicode.upper c ≠ []
  space : ∀ c : Char, ¬ c.val < 0x80 → isSpace c = true → Unicode.upper c = [c]
  not_space : ∀ c : Char, ¬ c.val < 0x80 → isSpace c = false → ∀ d ∈ Unicode.upper c,
    isSpace d = false
  fixed : ∀ c : Char, ¬ c.val < 0x80 → ∀ d ∈ Unicode.upper c, upperChar d = [d]

theorem toList_upper (s : String) : (upper s).toList = s.toList.flatMap upperChar := by
  simp [upper]

theorem flatMap_upperChar_of_fixed {l : List Char} (h : ∀ c ∈ l, upperChar c = [c]) :
    l.flatMap upperChar = l := by
  induction l with
  | nil => rfl
  | cons c l ih =>
    rw [List.flatMap_cons, h c List.mem_cons_self,
      ih fun d hd => h d (List.mem_cons_of_mem _ hd)]
    rfl

/-- An ASCII text in upper case. -/
theorem upper_eq_self {s : String} (h : ∀ c ∈ s.toList, c.val < 0x80 ∧ c.toUpper = c) :
    upper s = s := by
  rw [← String.toList_inj, toList_upper]
  refine flatMap_upperChar_of_fixed fun c hc => ?_
  rw [upperChar, if_pos (h c hc).1, (h c hc).2]

namespace UpperCaseLaws

variable (lawful : UpperCaseLaws)
include lawful

theorem upperChar_ne_nil (c : Char) : upperChar c ≠ [] := by
  unfold upperChar
  split_ifs with ascii
  · exact List.cons_ne_nil _ _
  · exact lawful.ne_nil c ascii

theorem upperChar_space {c : Char} (h : isSpace c = true) : upperChar c = [c] := by
  unfold upperChar
  split_ifs with ascii
  · rw [toUpper_of_isSpace ascii h]
  · exact lawful.space c ascii h

theorem upperChar_not_space {c : Char} (h : isSpace c = false) : ∀ d ∈ upperChar c,
    isSpace d = false := by
  unfold upperChar
  split_ifs with ascii
  · intro d hd
    rw [List.mem_singleton.1 hd, isSpace_toUpper ascii, h]
  · exact lawful.not_space c ascii h

/-- An upper-case character is its own upper case. -/
theorem upperChar_fixed {c d : Char} (h : d ∈ upperChar c) : upperChar d = [d] := by
  by_cases ascii : c.val < 0x80
  · rw [upperChar, if_pos ascii, List.mem_singleton] at h
    rw [h, upperChar, if_pos (toUpper_ascii ascii), toUpper_toUpper ascii]
  · rw [upperChar, if_neg ascii] at h
    exact lawful.fixed c ascii d h

/-- To strip the upper case is to take the upper case of what is stripped. -/
theorem strip_upper (s : String) : strip (upper s) = upper (strip s) := by
  rw [← String.toList_inj, toList_strip, toList_upper, toList_upper, toList_strip]
  refine trim_flatMap (fun c hc d hd => ?_) (fun c hc => ⟨lawful.upperChar_ne_nil c, ?_⟩) _
  · rw [lawful.upperChar_space hc, List.mem_singleton] at hd
    rw [hd, hc]
  · exact lawful.upperChar_not_space hc

theorem upper_upper (s : String) : upper (upper s) = upper s := by
  rw [← String.toList_inj, toList_upper, toList_upper]
  refine flatMap_upperChar_of_fixed fun d hd => ?_
  obtain ⟨c, -, hd⟩ := List.mem_flatMap.1 hd
  exact lawful.upperChar_fixed hd

theorem upper_eq_empty_iff {s : String} : upper s = "" ↔ s = "" := by
  rw [← String.toList_eq_nil_iff, ← String.toList_eq_nil_iff, toList_upper,
    List.flatMap_eq_nil_iff]
  constructor
  · intro none
    by_contra nonempty
    obtain ⟨c, hc⟩ := List.exists_mem_of_ne_nil _ nonempty
    exact lawful.upperChar_ne_nil c (none c hc)
  · intro empty c hc
    rw [empty] at hc
    cases hc

end UpperCaseLaws

end Py
