import Mathlib.Data.List.Nodup

/-!
# Logs of keyed records

A log lists records newest first, each with a key.  `latest` is the newest record with a key and
`recent` lists the newest record of every key, newest first.
-/

namespace KeyedLog

variable {α κ : Type} [DecidableEq κ] (key : α → κ)

/-- The newest record with the key `k`. -/
def latest (log : List α) (k : κ) : Option α := log.find? fun a => key a = k

/-- The newest record of every key, newest first. -/
def recent : List α → List α
  | [] => []
  | a :: log => a :: (recent log).filter fun b => key b ≠ key a

@[simp] theorem latest_nil (k : κ) : latest key [] k = none := rfl

theorem latest_cons (a : α) (log : List α) (k : κ) :
    latest key (a :: log) k = if key a = k then some a else latest key log k := by
  by_cases h : key a = k <;> simp [latest, h]

theorem latest_cons_self (a : α) (log : List α) : latest key (a :: log) (key a) = some a := by
  rw [latest_cons, if_pos rfl]

theorem latest_cons_ne (a : α) (log : List α) {k : κ} (h : key a ≠ k) :
    latest key (a :: log) k = latest key log k := by
  rw [latest_cons, if_neg h]

variable {key}

theorem key_of_latest {log : List α} {k : κ} {a : α} (h : latest key log k = some a) :
    key a = k := by
  simpa using List.find?_some h

theorem mem_of_latest {log : List α} {k : κ} {a : α} (h : latest key log k = some a) :
    a ∈ log :=
  List.mem_of_find?_eq_some h

/-- Lookups that answer as a log does, answer as the longer log once the new record is put under
its key. -/
theorem latest_map_of_put {β : Type} {g : α → β} {log : List α} {find find' : κ → Option β}
    (h : ∀ k, find k = (latest key log k).map g) {a : α}
    (put : ∀ k, find' k = if k = key a then some (g a) else find k) (k : κ) :
    find' k = (latest key (a :: log) k).map g := by
  rw [put, latest_cons, h]
  by_cases hk : k = key a
  · rw [if_pos hk, if_pos hk.symm]
    rfl
  · rw [if_neg hk, if_neg (Ne.symm hk)]

theorem latest_of_put {log : List α} {find find' : κ → Option α}
    (h : ∀ k, find k = latest key log k) {a : α}
    (put : ∀ k, find' k = if k = key a then some a else find k) (k : κ) :
    find' k = latest key (a :: log) k := by
  simpa using latest_map_of_put (g := id) (fun k => by simpa using h k) put k

variable (key)

theorem latest_isSome_of_mem {log : List α} {a : α} (h : a ∈ log) :
    ∃ b, latest key log (key a) = some b := by
  induction log with
  | nil => simp at h
  | cons b log ih =>
    rw [latest_cons]
    split_ifs with hb
    · exact ⟨b, rfl⟩
    · rcases List.mem_cons.1 h with rfl | h
      · exact absurd rfl hb
      · exact ih h

/-- The keys of the recent records: a new record moves its key to the front. -/
theorem map_key_recent_cons (a : α) (log : List α) :
    (recent key (a :: log)).map key = key a :: ((recent key log).map key).filter (· ≠ key a) := by
  rw [recent, List.map_cons, List.filter_map]
  rfl

theorem nodup_keys_recent (log : List α) : ((recent key log).map key).Nodup := by
  induction log with
  | nil => exact List.nodup_nil
  | cons a log ih =>
    rw [map_key_recent_cons, List.nodup_cons]
    exact ⟨by simp, ih.filter _⟩

/-- Moving a key to the front is erasing it and consing it. -/
theorem map_key_recent_cons_erase (a : α) (log : List α) :
    (recent key (a :: log)).map key = key a :: ((recent key log).map key).erase (key a) := by
  rw [map_key_recent_cons, (nodup_keys_recent key log).erase_eq_filter]
  congr 1
  refine List.filter_congr fun k _ => ?_
  by_cases h : k = key a <;> simp [h]

theorem mem_recent_iff (log : List α) (a : α) :
    a ∈ recent key log ↔ latest key log (key a) = some a := by
  induction log with
  | nil => simp [recent]
  | cons b log ih =>
    by_cases h : key b = key a
    · rw [latest_cons, if_pos h, recent, List.mem_cons]
      simp [h, eq_comm]
    · rw [latest_cons_ne key b log h, recent, List.mem_cons, ← ih]
      have hne : a ≠ b := fun e => h (by rw [e])
      simp [hne, Ne.symm h]

/-- Looking up the keys of the recent records gives these records back. -/
theorem filterMap_latest_recent (log : List α) :
    ((recent key log).map key).filterMap (latest key log) = recent key log := by
  rw [List.filterMap_map]
  refine (List.filterMap_congr fun a ha => ?_).trans List.filterMap_some
  exact (mem_recent_iff key log a).1 ha

/-- The recent records stand in the order of their saves. -/
theorem recent_sublist (log : List α) : (recent key log).Sublist log := by
  induction log with
  | nil => exact List.Sublist.refl _
  | cons a log ih => exact (List.filter_sublist.trans ih).cons_cons a

/-- The list has every key of the log once, with its newest record, in the order of the log. -/
structure ListsLatest (log list : List α) : Prop where
  nodup : (list.map key).Nodup
  ordered : list.Sublist log
  complete : ∀ a ∈ log, ∃ b ∈ list, latest key log (key a) = some b

theorem recent_listsLatest (log : List α) : ListsLatest key log (recent key log) := by
  refine ⟨nodup_keys_recent key log, recent_sublist key log, fun a ha => ?_⟩
  obtain ⟨b, hb⟩ := latest_isSome_of_mem key ha
  exact ⟨b, (mem_recent_iff key log b).2 ((key_of_latest hb).symm ▸ hb), hb⟩

variable {κ' : Type} [DecidableEq κ'] {key} {key' : α → κ'}

/-- When the first key determines the second, the newest record with a second key is also the
newest with its own first key. -/
theorem latest_of_latest {log : List α}
    (determined : ∀ a ∈ log, ∀ b ∈ log, key a = key b → key' a = key' b) {k : κ'} {a : α}
    (h : latest key' log k = some a) : latest key log (key a) = some a := by
  induction log with
  | nil => simp at h
  | cons b log ih =>
    by_cases hb : key' b = k
    · rw [latest_cons, if_pos hb] at h
      obtain rfl := Option.some.inj h
      exact latest_cons_self key b log
    · rw [latest_cons_ne key' b log hb] at h
      have hne : key b ≠ key a := fun e => hb <|
        (determined b List.mem_cons_self a (List.mem_cons_of_mem _ (mem_of_latest h)) e).trans
          (key_of_latest h)
      rw [latest_cons_ne key b log hne]
      exact ih (fun x hx y hy => determined x (List.mem_cons_of_mem _ hx) y
        (List.mem_cons_of_mem _ hy)) h

end KeyedLog
