import Mathlib.Data.List.DropRight

/-!
# Trimming lists

`trim p l` is the list without the letters at its two ends that satisfy `p`.  A list is its trimmed
part between two runs of such letters, and that determines the trimmed part.
-/

namespace Trim

variable {α β : Type} (p : α → Bool)

def trim (l : List α) : List α := (l.dropWhile p).rdropWhile p

/-- Neither end is to be trimmed. -/
structure Trimmed (l : List α) : Prop where
  head : ∀ x ∈ l.head?, p x = false
  last : ∀ x ∈ l.getLast?, p x = false

variable {p} {l a b : List α}

theorem trim_append_left (h : ∀ x ∈ a, p x = true) : trim p (a ++ l) = trim p l := by
  rw [trim, List.dropWhile_append_of_pos h, trim]

theorem rdropWhile_append_of_pos (h : ∀ x ∈ b, p x = true) :
    (l ++ b).rdropWhile p = l.rdropWhile p := by
  rw [List.rdropWhile, List.reverse_append, List.dropWhile_append_of_pos (by simpa using h),
    List.rdropWhile]

theorem Trimmed.trim_eq (h : Trimmed p l) : trim p l = l := by
  have front : l.dropWhile p = l := by
    rw [List.dropWhile_eq_self_iff]
    intro nonempty
    simpa using h.head l[0] (by rw [List.head?_eq_getElem?, List.getElem?_eq_getElem nonempty]; rfl)
  rw [trim, front, List.rdropWhile_eq_self_iff]
  intro nonempty
  simpa using h.last _ (List.getLast?_eq_some_getLast nonempty)

/-- The letters before the trimmed part, and those after it. -/
theorem exists_trim (p : α → Bool) (l : List α) :
    ∃ a b, l = a ++ trim p l ++ b ∧ (∀ x ∈ a, p x = true) ∧ ∀ x ∈ b, p x = true := by
  refine ⟨l.takeWhile p, (l.dropWhile p).rtakeWhile p, ?_, fun x hx => List.mem_takeWhile_imp hx,
    fun x hx => List.mem_rtakeWhile_imp hx⟩
  rw [trim, List.append_assoc, List.rdropWhile_append_rtakeWhile, List.takeWhile_append_dropWhile]

theorem trim_isInfix (p : α → Bool) (l : List α) : trim p l <:+: l := by
  obtain ⟨a, b, whole, -, -⟩ := exists_trim p l
  exact ⟨a, b, whole.symm⟩

theorem trimmed_trim (p : α → Bool) (l : List α) : Trimmed p (trim p l) := by
  have last (x : α) (hx : x ∈ (trim p l).getLast?) : p x = false := by
    obtain ⟨nonempty, rfl⟩ := List.mem_getLast?_eq_getLast hx
    exact Bool.eq_false_iff.2 (List.rdropWhile_last_not p (l.dropWhile p) nonempty)
  refine ⟨fun x hx => ?_, last⟩
  obtain ⟨rest, hrest⟩ := List.head?_eq_some_iff.1 (Option.mem_def.1 hx)
  have front : trim p l <+: l.dropWhile p := List.rdropWhile_prefix p _
  obtain ⟨rest', whole⟩ := front
  rw [hrest, List.cons_append] at whole
  have := List.head?_dropWhile_not p l
  rw [← whole] at this
  simpa using this

theorem trim_append_right (h : ∀ x ∈ b, p x = true) : trim p (l ++ b) = trim p l := by
  rw [trim, trim, List.dropWhile_append]
  split_ifs with blank
  · have front : l.dropWhile p = [] := by simpa using blank
    have back : b.dropWhile p = [] := List.dropWhile_eq_nil_iff.2 h
    rw [front, back]
  · exact rdropWhile_append_of_pos h

/-- What stands between two runs of trimmed letters, and is not to be trimmed, is the trimmed
part. -/
theorem trim_eq_of_append (ha : ∀ x ∈ a, p x = true) (hb : ∀ x ∈ b, p x = true)
    (h : Trimmed p l) : trim p (a ++ l ++ b) = l := by
  rw [trim_append_right hb, trim_append_left ha, h.trim_eq]

theorem trim_trim (p : α → Bool) (l : List α) : trim p (trim p l) = trim p l :=
  (trimmed_trim p l).trim_eq

theorem trim_eq_nil_iff : trim p l = [] ↔ ∀ x ∈ l, p x = true := by
  constructor
  · intro empty
    obtain ⟨a, b, whole, ha, hb⟩ := exists_trim p l
    rw [whole, empty]
    intro x hx
    rcases List.mem_append.1 hx with hx | hx
    · exact ha x (by simpa using hx)
    · exact hb x hx
  · intro blank
    rw [trim, List.dropWhile_eq_nil_iff.2 blank]
    rfl

theorem takeWhile_append_trim (h : trim p l ≠ []) :
    l.rdropWhile p = l.takeWhile p ++ trim p l := by
  have front : l.reverse.dropWhile p = (l.dropWhile p).reverse.dropWhile p ++
      (l.takeWhile p).reverse := by
    conv_lhs => rw [← List.takeWhile_append_dropWhile (p := p) (l := l)]
    rw [List.reverse_append, List.dropWhile_append, if_neg]
    simpa [trim, List.rdropWhile] using h
  rw [List.rdropWhile, front, List.reverse_append, List.reverse_reverse, trim, List.rdropWhile]

/-- After a word with such ends, only the end of a text is trimmed. -/
theorem Trimmed.trim_append (h : Trimmed p a) (word : a ≠ []) (l : List α) :
    trim p (a ++ l) = a ++ l.rdropWhile p := by
  obtain ⟨x, a', rfl⟩ := List.exists_cons_of_ne_nil word
  have first : p x = false := h.head x rfl
  have back : (x :: a').rdropWhile p = x :: a' := by
    rw [List.rdropWhile_eq_self_iff]
    intro nonempty
    simpa using h.last _ (List.getLast?_eq_some_getLast nonempty)
  rw [trim, List.cons_append, List.dropWhile_cons_of_neg (by simp [first]), ← List.cons_append]
  by_cases blank : ∀ y ∈ l, p y = true
  · rw [rdropWhile_append_of_pos blank, List.rdropWhile_eq_nil_iff.2 blank, back, List.append_nil]
  · rw [List.rdropWhile, List.reverse_append, List.dropWhile_append, if_neg, List.reverse_append,
      List.reverse_reverse, List.rdropWhile]
    simpa using blank

/-- Letters that are replaced by words of their own kind can be replaced before or after. -/
theorem trim_flatMap {q : β → Bool} {f : α → List β} (blank : ∀ x, p x = true → ∀ y ∈ f x, q y = true)
    (kept : ∀ x, p x = false → f x ≠ [] ∧ ∀ y ∈ f x, q y = false) (l : List α) :
    trim q (l.flatMap f) = (trim p l).flatMap f := by
  obtain ⟨a, b, whole, ha, hb⟩ := exists_trim p l
  have image : l.flatMap f = a.flatMap f ++ (trim p l).flatMap f ++ b.flatMap f := by
    conv_lhs => rw [whole]
    rw [List.flatMap_append, List.flatMap_append]
  have runs (c : List α) (hc : ∀ x ∈ c, p x = true) : ∀ y ∈ c.flatMap f, q y = true := by
    intro y hy
    obtain ⟨x, hx, hy⟩ := List.mem_flatMap.1 hy
    exact blank x (hc x hx) y hy
  have ends := trimmed_trim p l
  rw [image]
  refine trim_eq_of_append (runs a ha) (runs b hb) ⟨fun y hy => ?_, fun y hy => ?_⟩
  · rcases hl : trim p l with _ | ⟨x, rest⟩
    · simp [hl] at hy
    · obtain ⟨nonempty, keeps⟩ := kept x (ends.head x (by rw [hl]; rfl))
      obtain ⟨z, word, hz⟩ := List.exists_cons_of_ne_nil nonempty
      rw [hl, List.flatMap_cons, hz, List.cons_append] at hy
      obtain rfl : z = y := by simpa using hy
      exact keeps z (by simp [hz])
  · rcases (trim p l).eq_nil_or_concat with hl | ⟨rest, x, hl⟩
    · simp [hl] at hy
    · obtain ⟨nonempty, keeps⟩ := kept x (ends.last x (by simp [hl]))
      rw [hl, List.concat_eq_append, List.flatMap_append, List.flatMap_singleton,
        List.getLast?_append_of_ne_nil _ nonempty] at hy
      exact keeps y (List.mem_of_mem_getLast? hy)

end Trim
