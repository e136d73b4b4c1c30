import Mathlib.Data.List.Flatten

/-!
# Prefix codes

A prefix code writes each value as a word so that no text begins with the words of two values: the
value at the front of a text, and the rest of the text, are determined.  The words of a prefix code
can be put one after another, into a frame or into a list with a terminator, and the result is a
prefix code again.
-/

namespace Coding

variable {α β γ : Type}

/-- The value at the front of a text and the rest of the text are determined by the text. -/
def PrefixCode (code : α → List γ) : Prop :=
  ∀ a b xs ys, code a ++ xs = code b ++ ys → a = b ∧ xs = ys

namespace PrefixCode

variable {code : α → List γ}

theorem injective (h : PrefixCode code) : Function.Injective code := fun a b e =>
  (h a b [] [] (by rw [e])).1

/-- It suffices to have a reader that finds each value at the front of a text. -/
theorem of_reader {read : List γ → Option (α × List γ)}
    (h : ∀ a xs, read (code a ++ xs) = some (a, xs)) : PrefixCode code := by
  intro a b xs ys e
  have same : some (a, xs) = some (b, ys) := by rw [← h a xs, ← h b ys, e]
  simpa using same

/-- A word before every word of the code. -/
theorem prepend (h : PrefixCode code) (front : List γ) : PrefixCode fun a => front ++ code a := by
  intro a b xs ys e
  rw [List.append_assoc, List.append_assoc] at e
  exact h a b xs ys (List.append_cancel_left e)

/-- A word after every word of the code. -/
theorem append (h : PrefixCode code) (back : List γ) : PrefixCode fun a => code a ++ back := by
  intro a b xs ys e
  rw [List.append_assoc, List.append_assoc] at e
  obtain ⟨rfl, rest⟩ := h a b _ _ e
  exact ⟨rfl, List.append_cancel_left rest⟩

theorem pair {code' : β → List γ} (h : PrefixCode code) (h' : PrefixCode code') :
    PrefixCode fun p : α × β => code p.1 ++ code' p.2 := by
  rintro ⟨a, a'⟩ ⟨b, b'⟩ xs ys e
  rw [List.append_assoc, List.append_assoc] at e
  obtain ⟨first, rest⟩ := h a b _ _ e
  obtain ⟨second, same⟩ := h' a' b' _ _ rest
  exact ⟨Prod.ext first second, same⟩

/-- Where the first letter of another kind stands is determined by the text. -/
theorem eq_of_letters {p : γ → Prop} {w w' xs ys : List γ} {s s' : γ} (hw : ∀ c ∈ w, p c)
    (hw' : ∀ c ∈ w', p c) (hs : ¬ p s) (hs' : ¬ p s') (e : w ++ s :: xs = w' ++ s' :: ys) :
    w = w' ∧ s = s' ∧ xs = ys := by
  induction w generalizing w' with
  | nil =>
    cases w' with
    | nil => simpa using e
    | cons c w' =>
      have first : s = c := by simp_all
      exact absurd (hw' c List.mem_cons_self) (first ▸ hs)
  | cons c w ih =>
    cases w' with
    | nil =>
      have first : c = s' := by simp_all
      exact absurd (hw c List.mem_cons_self) (first ▸ hs')
    | cons c' w' =>
      obtain ⟨rfl, tail⟩ := List.cons.inj e
      obtain ⟨rfl, same⟩ := ih (fun c hc => hw c (List.mem_cons_of_mem _ hc))
        (fun c hc => hw' c (List.mem_cons_of_mem _ hc)) tail
      exact ⟨rfl, same⟩

/-- Letters of one kind up to a letter of another kind. -/
theorem of_letters {p : γ → Prop} {stop : γ} (inj : Function.Injective code)
    (letters : ∀ a, ∀ c ∈ code a, p c) (hstop : ¬ p stop) :
    PrefixCode fun a => code a ++ [stop] := by
  intro a b xs ys e
  rw [List.append_assoc, List.append_assoc] at e
  obtain ⟨same, -, rest⟩ := eq_of_letters (letters a) (letters b) hstop hstop e
  exact ⟨inj same, rest⟩

/-! ## Lists with a terminator -/

section Terminated

variable {stop : γ}

/-- No word is empty or begins with the terminator. -/
def Avoids (code : α → List γ) (stop : γ) : Prop := ∀ a, ∃ c word, code a = c :: word ∧ c ≠ stop

/-- The words of a list, one after another, and the terminator. -/
theorem flatMap_stop (h : PrefixCode code) (avoids : Avoids code stop) :
    PrefixCode fun l : List α => l.flatMap code ++ [stop] := by
  intro l
  induction l with
  | nil =>
    rintro (_ | ⟨b, l'⟩) xs ys e
    · simpa using e
    · obtain ⟨c, word, hc, hne⟩ := avoids b
      simp [hc, Ne.symm hne] at e
  | cons a l ih =>
    rintro (_ | ⟨b, l'⟩) xs ys e
    · obtain ⟨c, word, hc, hne⟩ := avoids a
      simp [hc, hne] at e
    · simp only [List.flatMap_cons, List.append_assoc] at e
      obtain ⟨rfl, rest⟩ := h a b _ _ e
      obtain ⟨rfl, same⟩ := ih l' xs ys (by simpa using rest)
      exact ⟨rfl, same⟩

/-- The words of a list with a separator between them, and the terminator. -/
theorem intercalate_stop (h : PrefixCode code) (avoids : Avoids code stop) {s : γ} {sep : List γ}
    (hs : s ≠ stop) : PrefixCode fun l : List α => (s :: sep).intercalate (l.map code) ++ [stop] := by
  -- a list that is not empty is its first word, and each other word with the separator before it
  have spread (a : α) (l : List α) : (s :: sep).intercalate ((a :: l).map code) =
      code a ++ l.flatMap fun b => (s :: sep) ++ code b := by
    induction l generalizing a with
    | nil => simp
    | cons b l ih =>
      rw [List.flatMap_cons, List.append_assoc, ← ih b]
      simp [List.intercalate]
  have separated : Avoids (fun b => (s :: sep) ++ code b) stop :=
    fun a => ⟨s, sep ++ code a, rfl, hs⟩
  have rest := (h.prepend (s :: sep)).flatMap_stop separated
  rintro (_ | ⟨a, l⟩) (_ | ⟨b, l'⟩) xs ys e
  · simpa using e
  · obtain ⟨c, word, hc, hne⟩ := avoids b
    simp [hc, Ne.symm hne] at e
  · obtain ⟨c, word, hc, hne⟩ := avoids a
    simp [hc, hne] at e
  · simp only [spread, List.append_assoc] at e
    obtain ⟨rfl, e⟩ := h a b _ _ e
    obtain ⟨rfl, same⟩ := rest l l' xs ys (by simpa using e)
    exact ⟨rfl, same⟩

end Terminated

end PrefixCode

end Coding
