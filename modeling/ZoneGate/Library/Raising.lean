import Mathlib.Data.List.Forall2

/-!
# Computations that raise

What a bind, a map or a traversal in `Except` returns is what its parts return, and what it raises
one of them does.
-/

namespace Raising

variable {ε ε' α β : Type}

section Bind

variable {x : Except ε α} {f : α → Except ε β}

theorem bind_eq_ok {b : β} : x >>= f = .ok b ↔ ∃ a, x = .ok a ∧ f a = .ok b := by
  cases x with
  | ok a =>
    constructor
    · exact fun h => ⟨a, rfl, h⟩
    · rintro ⟨_, ⟨⟩, h⟩
      exact h
  | error e => exact iff_of_false nofun (by simp)

theorem bind_eq_error {e : ε} :
    x >>= f = .error e ↔ x = .error e ∨ ∃ a, x = .ok a ∧ f a = .error e := by
  cases x with
  | ok a =>
    constructor
    · exact fun h => .inr ⟨a, rfl, h⟩
    · rintro (h | ⟨_, ⟨⟩, h⟩)
      · cases h
      · exact h
  | error e' =>
    constructor
    · exact fun h => .inl (congrArg _ (Except.error.inj h))
    · rintro (h | ⟨_, h, _⟩)
      · exact congrArg _ (Except.error.inj h)
      · cases h

theorem bind_ne_error {e : ε} (hx : x ≠ .error e) (hf : ∀ a, f a ≠ .error e) :
    x >>= f ≠ .error e := by
  rw [Ne, bind_eq_error]
  rintro (h | ⟨a, -, h⟩)
  · exact hx h
  · exact hf a h

theorem map_eq_ok {g : α → β} {b : β} : g <$> x = .ok b ↔ ∃ a, x = .ok a ∧ g a = b := by
  cases x with
  | ok a => exact ⟨fun h => ⟨a, rfl, Except.ok.inj h⟩, by rintro ⟨_, ⟨⟩, rfl⟩; rfl⟩
  | error e => exact iff_of_false nofun (by simp)

theorem map_eq_error {g : α → β} {e : ε} : g <$> x = .error e ↔ x = .error e := by
  cases x with
  | ok a => exact iff_of_false nofun nofun
  | error e' =>
    exact ⟨fun h => congrArg _ (Except.error.inj h), fun h => congrArg _ (Except.error.inj h)⟩

theorem mapError_eq_ok {g : ε → ε'} {a : α} : x.mapError g = .ok a ↔ x = .ok a := by
  cases x with
  | ok a' => exact ⟨fun h => congrArg _ (Except.ok.inj h), fun h => congrArg _ (Except.ok.inj h)⟩
  | error e => exact iff_of_false nofun nofun

theorem mapError_eq_error {g : ε → ε'} {e : ε'} :
    x.mapError g = .error e ↔ ∃ e', x = .error e' ∧ g e' = e := by
  cases x with
  | ok a => exact iff_of_false nofun (by simp)
  | error e' =>
    exact ⟨fun h => ⟨e', rfl, Except.error.inj h⟩, by rintro ⟨_, ⟨⟩, rfl⟩; rfl⟩

end Bind

section Traversal

variable {f g : α → Except ε β} {as : List α}

theorem mapM_eq_ok {bs : List β} :
    as.mapM f = .ok bs ↔ List.Forall₂ (fun a b => f a = .ok b) as bs := by
  induction as generalizing bs with
  | nil =>
    rw [List.mapM_nil, List.forall₂_nil_left_iff]
    exact ⟨fun h => (Except.ok.inj h).symm, fun h => congrArg _ h.symm⟩
  | cons a as ih =>
    rw [List.mapM_cons, bind_eq_ok, List.forall₂_cons_left_iff]
    constructor
    · rintro ⟨b, hb, h⟩
      obtain ⟨rest, hrest, h⟩ := bind_eq_ok.1 h
      exact ⟨b, rest, hb, ih.1 hrest, (Except.ok.inj h).symm⟩
    · rintro ⟨b, rest, hb, hrest, rfl⟩
      exact ⟨b, hb, bind_eq_ok.2 ⟨rest, ih.2 hrest, rfl⟩⟩

theorem mem_of_mapM_eq_ok {bs : List β} {b : β} (h : as.mapM f = .ok bs) (mem : b ∈ bs) :
    ∃ a ∈ as, f a = .ok b := by
  have pairs := mapM_eq_ok.1 h
  clear h
  induction pairs with
  | nil => cases mem
  | cons here _ ih =>
    rcases List.mem_cons.1 mem with rfl | mem
    · exact ⟨_, List.mem_cons_self, here⟩
    · obtain ⟨a, ha, returned⟩ := ih mem
      exact ⟨a, List.mem_cons_of_mem _ ha, returned⟩

theorem exists_of_mapM_eq_ok {bs : List β} {a : α} (h : as.mapM f = .ok bs) (mem : a ∈ as) :
    ∃ b, (a, b) ∈ as.zip bs ∧ f a = .ok b := by
  obtain ⟨length, each⟩ := List.forall₂_iff_zip.1 (mapM_eq_ok.1 h)
  obtain ⟨i, hi, rfl⟩ := List.getElem_of_mem mem
  have pair : (as[i], bs[i]) ∈ as.zip bs := by
    rw [← List.getElem_zip (h := by simp [← length, hi])]
    exact List.getElem_mem _
  exact ⟨bs[i], pair, each pair⟩

theorem exists_of_mapM_error {e : ε} (h : as.mapM f = .error e) : ∃ a ∈ as, f a = .error e := by
  induction as with
  | nil => cases h
  | cons a as ih =>
    rw [List.mapM_cons] at h
    rcases bind_eq_error.1 h with h | ⟨b, -, h⟩
    · exact ⟨a, List.mem_cons_self, h⟩
    · rcases bind_eq_error.1 h with h | ⟨rest, -, h⟩
      · obtain ⟨a', ha', h⟩ := ih h
        exact ⟨a', List.mem_cons_of_mem _ ha', h⟩
      · cases h

theorem mapM_of_forall (h : ∀ a ∈ as, ∃ b, f a = .ok b) : ∃ bs, as.mapM f = .ok bs := by
  rcases run : as.mapM f with e | bs
  · obtain ⟨a, ha, raised⟩ := exists_of_mapM_error run
    obtain ⟨b, returned⟩ := h a ha
    cases raised.symm.trans returned
  · exact ⟨bs, rfl⟩

theorem mapM_congr (h : ∀ a ∈ as, f a = g a) : as.mapM f = as.mapM g := by
  induction as with
  | nil => rfl
  | cons a as ih =>
    rw [List.mapM_cons, List.mapM_cons, h a List.mem_cons_self,
      ih fun a' ha' => h a' (List.mem_cons_of_mem _ ha')]

end Traversal

end Raising
