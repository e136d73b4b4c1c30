import Mathlib.Logic.Function.Basic
import Mathlib.Data.List.Basic

/-!
# Transactional stores of typed cells

A store maps every cell to the value kept in it, if any; the type of the value depends on the
cell.  `Database` adds transactions: writes inside an open transaction are seen only once it is
committed, and a rollback drops them.  Any single write or commit may fail, as a fault schedule
says.  `transact_run` shows that a block of writes is done completely or not at all.
-/

namespace Cells

variable {K : Type} {V : K → Type}

/-- The values kept in the cells. -/
abbrev Store (V : K → Type) := (c : K) → Option (V c)

/-- One write: a new value for a cell, or `none` to delete what it holds. -/
structure Write (V : K → Type) where
  cell : K
  value : Option (V cell)

/-- A write that puts a value. -/
abbrev Write.put (c : K) (v : V c) : Write V := ⟨c, some v⟩

namespace Store

variable [DecidableEq K]

/-- Do one write. -/
def write (s : Store V) (w : Write V) : Store V := Function.update s w.cell w.value

/-- Do the writes of a list, in order. -/
def writes (s : Store V) (ws : List (Write V)) : Store V := ws.foldl write s

@[simp] theorem writes_nil (s : Store V) : s.writes [] = s := rfl

@[simp] theorem writes_cons (s : Store V) (w : Write V) (ws : List (Write V)) :
    s.writes (w :: ws) = (s.write w).writes ws := rfl

@[simp] theorem write_self (s : Store V) (c : K) (v : Option (V c)) :
    s.write ⟨c, v⟩ c = v := Function.update_self ..

@[simp] theorem write_of_ne (s : Store V) (w : Write V) {c : K} (h : c ≠ w.cell) :
    s.write w c = s c := Function.update_of_ne h ..

/-- A cell that no write names keeps its value. -/
theorem writes_of_ne (s : Store V) (ws : List (Write V)) {c : K} (h : ∀ w ∈ ws, c ≠ w.cell) :
    s.writes ws c = s c := by
  induction ws generalizing s with
  | nil => rfl
  | cons w ws ih =>
    rw [writes_cons, ih _ fun w' mem => h w' (List.mem_cons_of_mem _ mem)]
    exact s.write_of_ne w (h w List.mem_cons_self)

/-- A cell that only the first write names has the value of that. -/
theorem writes_cons_self (s : Store V) (c : K) (v : Option (V c)) (ws : List (Write V))
    (h : ∀ w ∈ ws, c ≠ w.cell) : s.writes (⟨c, v⟩ :: ws) c = v :=
  (writes_of_ne _ ws h).trans (s.write_self c v)

/-- A cell that is never deleted is not emptied. -/
theorem writes_ne_none {s : Store V} {ws : List (Write V)} {c : K} (there : s c ≠ none)
    (puts : ∀ w ∈ ws, w.cell = c → w.value ≠ none) : s.writes ws c ≠ none := by
  induction ws generalizing s with
  | nil => exact there
  | cons w ws ih =>
    refine ih ?_ fun w' mem => puts w' (List.mem_cons_of_mem _ mem)
    by_cases named : w.cell = c
    · subst named
      rw [show s.write w w.cell = w.value from s.write_self ..]
      exact puts w List.mem_cons_self rfl
    · rwa [write_of_ne s w (Ne.symm named)]

/-- What a cell has after writes that name it under a condition. -/
theorem writes_eq_ite (s : Store V) (ws : List (Write V)) {c : K} {v : Option (V c)} {p : Prop}
    [Decidable p] (written : p → s.writes ws c = v) (others : ¬ p → ∀ w ∈ ws, c ≠ w.cell) :
    s.writes ws c = if p then v else s c := by
  split_ifs with h
  · exact written h
  · exact writes_of_ne s ws (others h)

/-- Every value that is kept satisfies `P`. -/
def All (P : (c : K) → V c → Prop) (s : Store V) : Prop := ∀ c v, s c = some v → P c v

theorem All.write {P : (c : K) → V c → Prop} {s : Store V} (hs : s.All P) {w : Write V}
    (hw : ∀ v, w.value = some v → P w.cell v) : (s.write w).All P := by
  intro c v hv
  by_cases hc : c = w.cell
  · subst hc
    exact hw v (by rwa [← write_self s w.cell w.value])
  · exact hs c v (by rwa [write_of_ne s w hc] at hv)

theorem All.writes {P : (c : K) → V c → Prop} {s : Store V} (hs : s.All P) {ws : List (Write V)}
    (hws : ∀ w ∈ ws, ∀ v, w.value = some v → P w.cell v) : (s.writes ws).All P := by
  induction ws generalizing s with
  | nil => exact hs
  | cons w ws ih =>
    exact ih (hs.write (hws w List.mem_cons_self)) fun w' hw' => hws w' (List.mem_cons_of_mem _ hw')

end Store

/-! ## Transactions -/

/-- The committed store, the store as seen inside an open transaction, and the number of writes
and commits tried so far. -/
structure Database (V : K → Type) where
  committed : Store V
  working : Option (Store V) := none
  attempts : ℕ := 0

/-- A write or a commit that failed. -/
structure Fault where
  attempt : ℕ
deriving DecidableEq

/-- Computations on a database that may fail; what was done before a failure stays. -/
def Session (V : K → Type) (α : Type) := Database V → Except Fault α × Database V

namespace Session

variable {α β : Type}

/-- Run a session from a database. -/
def on (m : Session V α) (db : Database V) : Except Fault α × Database V := m db

instance : Monad (Session V) where
  pure a := fun db => (.ok a, db)
  bind m f := fun db =>
    match m db with
    | (.ok a, db') => f a db'
    | (.error e, db') => (.error e, db')

/-- Fail. -/
def raise (e : Fault) : Session V α := fun db => (.error e, db)

/-- Run `m`; if it fails, run the handler on the database it left. -/
def tryExcept (m : Session V α) (handler : Fault → Session V α) : Session V α := fun db =>
  match m db with
  | (.ok a, db') => (.ok a, db')
  | (.error e, db') => handler e db'

theorem on_bind_ok {m : Session V α} {db db' : Database V} {a : α} (hm : m.on db = (.ok a, db'))
    (f : α → Session V β) : (m >>= f).on db = (f a).on db' := by
  simp only [on] at hm
  simp only [on, bind, hm]

theorem on_bind_error {m : Session V α} {db db' : Database V} {e : Fault}
    (hm : m.on db = (.error e, db')) (f : α → Session V β) :
    (m >>= f).on db = (.error e, db') := by
  simp only [on] at hm
  simp only [on, bind, hm]

theorem on_tryExcept_ok {m : Session V α} {db db' : Database V} {a : α}
    (hm : m.on db = (.ok a, db')) (handler : Fault → Session V α) :
    (tryExcept m handler).on db = (.ok a, db') := by
  simp only [on] at hm
  simp only [on, tryExcept, hm]

theorem on_tryExcept_error {m : Session V α} {db db' : Database V} {e : Fault}
    (hm : m.on db = (.error e, db')) (handler : Fault → Session V α) :
    (tryExcept m handler).on db = (handler e).on db' := by
  simp only [on] at hm
  simp only [on, tryExcept, hm]

/-- Read a cell, inside the open transaction if there is one. -/
def get (c : K) : Session V (Option (V c)) := fun db =>
  (.ok ((db.working.getD db.committed) c), db)

/-- Open a transaction. -/
def begin : Session V Unit := fun db => (.ok (), { db with working := some db.committed })

/-- Make the writes of the open transaction permanent. -/
def commit (faults : ℕ → Bool) : Session V Unit := fun db =>
  if faults db.attempts then
    (.error ⟨db.attempts⟩, { db with attempts := db.attempts + 1 })
  else
    (.ok (), ⟨db.working.getD db.committed, none, db.attempts + 1⟩)

/-- Drop the open transaction. -/
def rollback : Session V Unit := fun db => (.ok (), { db with working := none })

@[simp] theorem get_on (c : K) (s : Store V) (n : ℕ) :
    (get c : Session V _).on ⟨s, none, n⟩ = (.ok (s c), ⟨s, none, n⟩) := rfl

theorem commit_on_ok {faults : ℕ → Bool} {n : ℕ} (hn : faults n = false) (s t : Store V) :
    (commit faults).on ⟨s, some t, n⟩ = (.ok (), ⟨t, none, n + 1⟩) := by
  simp [on, commit, hn]

theorem commit_on_error {faults : ℕ → Bool} {n : ℕ} (hn : faults n = true) (s t : Store V) :
    (commit faults).on ⟨s, some t, n⟩ = (.error ⟨n⟩, ⟨s, some t, n + 1⟩) := by
  simp [on, commit, hn]

variable [DecidableEq K]

/-- Write a cell: in the open transaction, or directly when none is open. -/
def write (faults : ℕ → Bool) (w : Write V) : Session V Unit := fun db =>
  if faults db.attempts then
    (.error ⟨db.attempts⟩, { db with attempts := db.attempts + 1 })
  else
    (.ok (), match db.working with
      | some s => { db with working := some (s.write w), attempts := db.attempts + 1 }
      | none => { db with committed := db.committed.write w, attempts := db.attempts + 1 })

/-- Do the writes of a list, in order. -/
def writeAll (faults : ℕ → Bool) : List (Write V) → Session V Unit
  | [] => pure ()
  | w :: ws => do
      write faults w
      writeAll faults ws

/-- Do the writes in one transaction; a failure rolls it back and is raised again. -/
def transact (faults : ℕ → Bool) (ws : List (Write V)) : Session V Unit := do
  begin
  tryExcept
    (do writeAll faults ws
        commit faults)
    fun e => do
      rollback
      raise e

section Runs

variable {faults : ℕ → Bool} {n : ℕ}

theorem write_on_error (hn : faults n = true) (w : Write V) (s : Store V) (t : Option (Store V)) :
    (write faults w).on ⟨s, t, n⟩ = (.error ⟨n⟩, ⟨s, t, n + 1⟩) := by
  simp [on, write, hn]

theorem write_on_some (hn : faults n = false) (w : Write V) (s t : Store V) :
    (write faults w).on ⟨s, some t, n⟩ = (.ok (), ⟨s, some (t.write w), n + 1⟩) := by
  simp [on, write, hn]

theorem write_on_none (hn : faults n = false) (w : Write V) (s : Store V) :
    (write faults w).on ⟨s, none, n⟩ = (.ok (), ⟨s.write w, none, n + 1⟩) := by
  simp [on, write, hn]

/-- How a block of writes from the store `s` can end: all done and committed, or a fault among
the attempts `n`, `n + 1`, … and the committed store unchanged. -/
inductive Ended (faults : ℕ → Bool) (s done : Store V) (n : ℕ) :
    Except Fault Unit × Database V → Prop
  | done (m : ℕ) (quiet : ∀ k, n ≤ k → faults k = true → m ≤ k) :
      Ended faults s done n (.ok (), ⟨done, none, m⟩)
  | failed (e : Fault) (t : Option (Store V)) (m k : ℕ) (from_n : n ≤ k) (fault : faults k = true) :
      Ended faults s done n (.error e, ⟨s, t, m⟩)

/-- Writing and committing either succeeds with all writes or fails with the transaction open. -/
theorem writeAll_commit_on (faults : ℕ → Bool) (ws : List (Write V)) (s t : Store V) (n : ℕ) :
    Ended faults s (t.writes ws) n
      ((do writeAll faults ws; commit faults : Session V Unit).on ⟨s, some t, n⟩) := by
  induction ws generalizing t n with
  | nil =>
    change Ended _ _ _ _ ((commit faults).on _)
    cases hn : faults n with
    | true =>
      rw [commit_on_error hn]
      exact .failed _ _ _ n (Nat.le_refl n) hn
    | false =>
      rw [commit_on_ok hn]
      refine .done _ fun k hk fault => ?_
      rcases Nat.eq_or_lt_of_le hk with rfl | hk
      · simp [hn] at fault
      · exact hk
  | cons w ws ih =>
    cases hn : faults n with
    | true =>
      rw [on_bind_error (m := writeAll faults (w :: ws))
        (on_bind_error (write_on_error hn w s (some t)) fun _ => writeAll faults ws)]
      exact .failed _ _ _ n (Nat.le_refl n) hn
    | false =>
      have first : (do writeAll faults (w :: ws); commit faults : Session V Unit).on
            ⟨s, some t, n⟩ =
          (do writeAll faults ws; commit faults : Session V Unit).on
            ⟨s, some (t.write w), n + 1⟩ := by
        have := write_on_some hn w s t
        simp only [on] at this
        simp only [on, writeAll, bind, this]
      rw [first]
      have rest := ih (t.write w) (n + 1)
      revert rest
      generalize (do writeAll faults ws; commit faults : Session V Unit).on _ = r
      rintro (⟨m, quiet⟩ | ⟨e, t', m, k, hk, fault⟩)
      · refine .done m fun k hk fault => ?_
        rcases Nat.eq_or_lt_of_le hk with rfl | hk
        · simp [hn] at fault
        · exact quiet k hk fault
      · exact .failed e t' m k (by omega) fault

/-- A transaction does all its writes, or it fails and leaves the store as it was; either way it
is closed. -/
theorem transact_on (faults : ℕ → Bool) (ws : List (Write V)) (s : Store V) (n : ℕ) :
    (∃ m, (transact faults ws).on ⟨s, none, n⟩ = (.ok (), ⟨s.writes ws, none, m⟩)) ∨
      ∃ e m k, n ≤ k ∧ faults k = true ∧
        (transact faults ws).on ⟨s, none, n⟩ = (.error e, ⟨s, none, m⟩) := by
  have opened : (transact faults ws).on ⟨s, none, n⟩ =
      (tryExcept (do writeAll faults ws; commit faults)
        (fun e => do rollback; raise e) : Session V Unit).on ⟨s, some s, n⟩ := rfl
  rw [opened]
  have ended := writeAll_commit_on faults ws s s n
  generalize hr : (do writeAll faults ws; commit faults : Session V Unit).on _ = r at ended
  rcases ended with ⟨m, quiet⟩ | ⟨e, t', m, k, hk, fault⟩
  · exact .inl ⟨m, on_tryExcept_ok hr _⟩
  · exact .inr ⟨e, m, k, hk, fault, on_tryExcept_error hr _⟩

end Runs

end Session

end Cells
