import Mathlib.Algebra.GroupWithZero.Nat
import Mathlib.Algebra.Order.BigOperators.Group.List
import Mathlib.Algebra.Order.Group.Nat
import Mathlib.Data.List.Nodup
import ZoneGate.Library.Raising

/-!
# Dictionaries

A dictionary is the list of its items, in the order in which their keys came in.  What is inserted
under a key that is there takes the place of its value.
-/

namespace Dict

variable {α β γ : Type} [DecidableEq α]

/-! ## Lookup -/

theorem lookup_cons_ite (e : α × β) (rest : List (α × β)) (k : α) :
    (e :: rest).lookup k = if k = e.1 then some e.2 else rest.lookup k := by
  rw [List.lookup_cons]
  by_cases hk : k = e.1
  · simp [hk]
  · simp [hk, beq_false_of_ne hk]

theorem mem_of_lookup {d : List (α × β)} {k : α} {v : β} (h : d.lookup k = some v) :
    (k, v) ∈ d := by
  obtain ⟨before, after, rfl, -⟩ := List.lookup_eq_some_iff.1 h
  exact List.mem_append_right _ List.mem_cons_self

theorem lookup_eq_none {d : List (α × β)} {k : α} : d.lookup k = none ↔ k ∉ d.map Prod.fst := by
  rw [List.lookup_eq_none_iff]
  constructor
  · intro h hk
    obtain ⟨e, he, rfl⟩ := List.mem_map.1 hk
    simpa using h e he
  · intro h e he
    have other : k ≠ e.1 := fun same => h (same ▸ List.mem_map_of_mem he)
    simpa using other

/-- Keys are distinct, so an item is what its key leads to. -/
theorem lookup_of_mem {d : List (α × β)} {k : α} {v : β} (distinct : (d.map Prod.fst).Nodup)
    (h : (k, v) ∈ d) : d.lookup k = some v := by
  induction d with
  | nil => cases h
  | cons e rest ih =>
    rw [List.map_cons, List.nodup_cons] at distinct
    rw [lookup_cons_ite]
    rcases List.mem_cons.1 h with rfl | h
    · rw [if_pos rfl]
    · have other : k ≠ e.1 := fun same => distinct.1 (same ▸ List.mem_map_of_mem h)
      rw [if_neg other, ih distinct.2 h]

/-! ## Selection -/

/-- `{k: v for k, v in d.items() if p(k)}` -/
def select (p : α → Bool) (d : List (α × β)) : List (α × β) := d.filter fun e => p e.1

omit [DecidableEq α] in
theorem mem_select {p : α → Bool} {d : List (α × β)} {e : α × β} :
    e ∈ select p d ↔ e ∈ d ∧ p e.1 = true := List.mem_filter

omit [DecidableEq α] in
theorem nodup_select (p : α → Bool) {d : List (α × β)} (distinct : (d.map Prod.fst).Nodup) :
    ((select p d).map Prod.fst).Nodup :=
  distinct.sublist (List.filter_sublist.map Prod.fst)

theorem lookup_select (p : α → Bool) (d : List (α × β)) (k : α) :
    (select p d).lookup k = if p k then d.lookup k else none := by
  unfold select
  induction d with
  | nil => simp
  | cons e rest ih =>
    rw [lookup_cons_ite, List.filter_cons]
    by_cases hk : k = e.1
    · subst hk
      rw [if_pos rfl]
      by_cases he : p e.1 = true
      · rw [if_pos he, if_pos he, lookup_cons_ite, if_pos rfl]
      · rw [if_neg he, ih, if_neg he, if_neg he]
    · rw [if_neg hk, ← ih]
      split_ifs
      · rw [lookup_cons_ite, if_neg hk]
      · rfl

omit [DecidableEq α] in
/-- What is selected weighs no more than what is left when an item is not. -/
theorem sum_select_add_le (weight : α × β → ℕ) {p : α → Bool} {d : List (α × β)} {e : α × β}
    (mem : e ∈ d) (out : p e.1 = false) :
    weight e + ((select p d).map weight).sum ≤ (d.map weight).sum := by
  induction d with
  | nil => cases mem
  | cons a rest ih =>
    rw [select, List.filter_cons]
    rcases List.mem_cons.1 mem with rfl | mem
    · have fewer := (List.filter_sublist (p := fun e => p e.1) (l := rest)).map weight
      have lighter := fewer.sum_le_sum fun _ _ => Nat.zero_le _
      rw [if_neg (by simp [out]), List.map_cons, List.sum_cons]
      omega
    · have lighter := ih mem
      rw [select] at lighter
      split_ifs <;> simp only [List.map_cons, List.sum_cons] <;> omega

/-! ## Insertion -/

/-- `d[key] = value`: a key that is there keeps its place. -/
def insert (key : α) (value : β) : List (α × β) → List (α × β)
  | [] => [(key, value)]
  | e :: rest => if e.1 = key then (key, value) :: rest else e :: insert key value rest

section Insert

variable (key : α) (value : β)

theorem mem_insert {d : List (α × β)} {e : α × β} (h : e ∈ insert key value d) :
    e = (key, value) ∨ e ∈ d := by
  induction d with
  | nil => simpa [insert] using h
  | cons a rest ih =>
    rw [insert] at h
    split_ifs at h with ha
    · rcases List.mem_cons.1 h with h | h
      · exact .inl h
      · exact .inr (List.mem_cons_of_mem _ h)
    · rcases List.mem_cons.1 h with rfl | h
      · exact .inr List.mem_cons_self
      · exact (ih h).imp id (List.mem_cons_of_mem _)

/-- A new key comes last. -/
theorem insert_of_not_mem {d : List (α × β)} (h : key ∉ d.map Prod.fst) :
    insert key value d = d ++ [(key, value)] := by
  induction d with
  | nil => rfl
  | cons a rest ih =>
    rw [List.map_cons, List.mem_cons, not_or] at h
    rw [insert, if_neg (Ne.symm h.1), ih h.2, List.cons_append]

theorem nodup_insert {d : List (α × β)} (h : (d.map Prod.fst).Nodup) :
    ((insert key value d).map Prod.fst).Nodup := by
  induction d with
  | nil => simp [insert]
  | cons a rest ih =>
    rw [List.map_cons, List.nodup_cons] at h
    rw [insert]
    split_ifs with ha
    · rw [List.map_cons, List.nodup_cons]
      exact ⟨by simpa [ha] using h.1, h.2⟩
    · rw [List.map_cons, List.nodup_cons]
      refine ⟨fun hm => ?_, ih h.2⟩
      obtain ⟨e, he, hk⟩ := List.mem_map.1 hm
      rcases mem_insert key value he with rfl | he
      · exact ha hk.symm
      · exact h.1 (hk ▸ List.mem_map_of_mem he)

theorem lookup_insert (k : α) (d : List (α × β)) :
    (insert key value d).lookup k = if k = key then some value else d.lookup k := by
  induction d with
  | nil => rw [insert, lookup_cons_ite]
  | cons e rest ih =>
    rw [insert]
    by_cases he : e.1 = key
    · rw [if_pos he, lookup_cons_ite, lookup_cons_ite, he]
      by_cases hk : k = key <;> simp [hk]
    · rw [if_neg he, lookup_cons_ite, lookup_cons_ite, ih]
      by_cases hk : k = e.1
      · have hne : k ≠ key := fun h => he (hk.symm.trans h)
        rw [if_pos hk, if_neg hne, if_pos hk]
      · rw [if_neg hk, if_neg hk]

/-- What the items weigh together grows by no more than the new one. -/
theorem sum_insert_le (weight : α × β → ℕ) (d : List (α × β)) :
    ((insert key value d).map weight).sum ≤ weight (key, value) + (d.map weight).sum := by
  induction d with
  | nil => simp [insert]
  | cons e rest ih =>
    rw [insert]
    split_ifs <;> simp only [List.map_cons, List.sum_cons] <;> omega

end Insert

/-! ## Merging -/

/-- `{**base, **above}` -/
def merge (base above : List (α × β)) : List (α × β) :=
  above.foldl (fun d e => insert e.1 e.2 d) base

theorem mem_merge {base above : List (α × β)} {e : α × β} (h : e ∈ merge base above) :
    e ∈ base ∨ e ∈ above := by
  induction above generalizing base with
  | nil => exact .inl h
  | cons a above ih =>
    rcases ih h with h | h
    · rcases mem_insert a.1 a.2 h with rfl | h
      · exact .inr List.mem_cons_self
      · exact .inl h
    · exact .inr (List.mem_cons_of_mem _ h)

theorem nodup_merge {base : List (α × β)} (distinct : (base.map Prod.fst).Nodup)
    (above : List (α × β)) : ((merge base above).map Prod.fst).Nodup := by
  induction above generalizing base with
  | nil => exact distinct
  | cons a above ih => exact ih (nodup_insert a.1 a.2 distinct)

theorem lookup_merge (base : List (α × β)) {above : List (α × β)}
    (distinct : (above.map Prod.fst).Nodup) (k : α) :
    (merge base above).lookup k = (above.lookup k).or (base.lookup k) := by
  induction above generalizing base with
  | nil => rfl
  | cons a above ih =>
    rw [List.map_cons, List.nodup_cons] at distinct
    change (merge (insert a.1 a.2 base) above).lookup k = _
    rw [ih _ distinct.2, lookup_insert, lookup_cons_ite]
    by_cases hk : k = a.1
    · rw [if_pos hk, if_pos hk, hk, lookup_eq_none.2 distinct.1]
      rfl
    · rw [if_neg hk, if_neg hk]

theorem sum_merge_le (weight : α × β → ℕ) (base above : List (α × β)) :
    ((merge base above).map weight).sum ≤ (base.map weight).sum + (above.map weight).sum := by
  induction above generalizing base with
  | nil => exact Nat.le_refl _
  | cons a above ih =>
    have rest := ih (insert a.1 a.2 base)
    have one : _ ≤ weight a + _ := sum_insert_le a.1 a.2 weight base
    change ((merge (insert a.1 a.2 base) above).map weight).sum ≤ _
    rw [List.map_cons, List.sum_cons]
    omega

/-! ## Mapping the values -/

/-- `{k: f(v) for k, v in d.items()}`, where `f` may raise. -/
def mapValuesM {ε : Type} (f : β → Except ε γ) (d : List (α × β)) : Except ε (List (α × γ)) :=
  d.mapM fun e => (e.1, ·) <$> f e.2

section MapValues

variable {ε : Type} {f : β → Except ε γ} {d : List (α × β)} {mapped : List (α × γ)}

omit [DecidableEq α] in
theorem mapValuesM_eq_ok : mapValuesM f d = .ok mapped ↔
    List.Forall₂ (fun e e' => e.1 = e'.1 ∧ f e.2 = .ok e'.2) d mapped := by
  have item (e : α × β) (e' : α × γ) :
      (e.1, ·) <$> f e.2 = .ok e' ↔ e.1 = e'.1 ∧ f e.2 = .ok e'.2 := by
    rw [Raising.map_eq_ok]
    constructor
    · rintro ⟨v, hv, rfl⟩
      exact ⟨rfl, hv⟩
    · rintro ⟨hk, hv⟩
      exact ⟨e'.2, hv, Prod.ext hk rfl⟩
  rw [mapValuesM, Raising.mapM_eq_ok]
  exact ⟨fun h => h.imp fun e e' => (item e e').1, fun h => h.imp fun e e' => (item e e').2⟩

omit [DecidableEq α] in
theorem keys_mapValuesM (h : mapValuesM f d = .ok mapped) :
    mapped.map Prod.fst = d.map Prod.fst := by
  have pairs := mapValuesM_eq_ok.1 h
  clear h
  induction pairs with
  | nil => rfl
  | cons here _ ih => rw [List.map_cons, List.map_cons, here.1, ih]

omit [DecidableEq α] in
theorem mem_of_mapValuesM {e' : α × γ} (h : mapValuesM f d = .ok mapped) (mem : e' ∈ mapped) :
    ∃ e ∈ d, e.1 = e'.1 ∧ f e.2 = .ok e'.2 := by
  obtain ⟨e, he, returned⟩ := Raising.mem_of_mapM_eq_ok h mem
  obtain ⟨v, hv, rfl⟩ := Raising.map_eq_ok.1 returned
  exact ⟨e, he, rfl, hv⟩

omit [DecidableEq α] in
theorem exists_of_mapValuesM {e : α × β} (h : mapValuesM f d = .ok mapped) (mem : e ∈ d) :
    ∃ e' ∈ mapped, f e.2 = .ok e'.2 := by
  obtain ⟨e', pair, returned⟩ := Raising.exists_of_mapM_eq_ok h mem
  obtain ⟨v, hv, rfl⟩ := Raising.map_eq_ok.1 returned
  exact ⟨(e.1, v), (List.of_mem_zip pair).2, hv⟩

theorem lookup_mapValuesM (h : mapValuesM f d = .ok mapped) {k : α} {v' : γ} :
    mapped.lookup k = some v' ↔ ∃ v, d.lookup k = some v ∧ f v = .ok v' := by
  have pairs := mapValuesM_eq_ok.1 h
  clear h
  induction pairs with
  | nil => simp
  | @cons e e' rest rest' here _ ih =>
    rw [lookup_cons_ite, lookup_cons_ite, ← here.1]
    by_cases hk : k = e.1
    · simp [hk, here.2]
    · simpa only [if_neg hk] using ih

omit [DecidableEq α] in
theorem exists_of_mapValuesM_error {e : ε} (h : mapValuesM f d = .error e) :
    ∃ a ∈ d, f a.2 = .error e := by
  obtain ⟨a, ha, raised⟩ := Raising.exists_of_mapM_error h
  exact ⟨a, ha, Raising.map_eq_error.1 raised⟩

omit [DecidableEq α] in
theorem mapValuesM_congr {g : β → Except ε γ} (h : ∀ e ∈ d, f e.2 = g e.2) :
    mapValuesM f d = mapValuesM g d := by
  refine Raising.mapM_congr fun e he => ?_
  rw [h e he]

end MapValues

end Dict
