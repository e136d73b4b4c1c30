import ZoneGate.Library.Cells
import Mathlib.Data.Option.Basic

/-!
# Encoded stores

A store of typed cells kept in a store of raw values: every cell has an address of its own, and what
is written of a value is read as that value.  A raw store represents a typed one when every address
reads as its cell.  `Session.Follows` says that a session on the raw store goes as one on the typed
store, faults included; `Decodes` says the same of a session that decodes what it reads, and that
everything it reads is decoded.
-/

namespace Cells

variable {K L T : Type} {V : K → Type} {α β δ : Type}

/-- A store of raw values. -/
abbrev Raw (L T : Type) := fun _ : L => T

/-- Where a cell is kept, and how its values are written there and read. -/
structure Encoding (V : K → Type) (L T : Type) where
  address : K → L
  write : (c : K) → V c → T
  read : (c : K) → T → Option (V c)
  address_injective : Function.Injective address
  read_write : ∀ c v, read c (write c v) = some v

namespace Encoding

variable (E : Encoding V L T)

/-- Every address reads as the cell that is kept there. -/
def Represents (raw : Store (Raw L T)) (s : Store V) : Prop :=
  ∀ c, (raw (E.address c)).map (E.read c) = (s c).map some

/-- The write of the raw store that does the write of the typed one. -/
def encode (w : Write V) : Write (Raw L T) := ⟨E.address w.cell, w.value.map (E.write w.cell)⟩

variable {E} {raw : Store (Raw L T)} {s : Store V}

/-- What is found at the address of a cell. -/
def decode (E : Encoding V L T) (error : δ) (c : K) : Option T → Except δ (Option (V c))
  | none => .ok none
  | some t => (E.read c t).elim (.error error) fun v => .ok (some v)

/-- What is found is decoded, to what the cell holds. -/
theorem Represents.decode (h : E.Represents raw s) (error : δ) (c : K) :
    E.decode error c (raw (E.address c)) = .ok (s c) := by
  have here := h c
  generalize raw (E.address c) = found at here
  rcases found with _ | t
  · rw [Option.map_none] at here
    rw [Option.map_eq_none_iff.1 here.symm, Encoding.decode]
  · obtain ⟨v, stored, read⟩ := Option.map_eq_some_iff.1 here.symm
    rw [stored, Encoding.decode, ← read, Option.elim_some]

/-- A store without any value represents the store without any. -/
theorem represents_none : E.Represents (fun _ => none) (fun _ => none) := fun _ => rfl

variable [DecidableEq K] [DecidableEq L]

theorem Represents.write (h : E.Represents raw s) (w : Write V) :
    E.Represents (raw.write (E.encode w)) (s.write w) := by
  intro c
  by_cases same : c = w.cell
  · subst same
    rw [show (raw.write (E.encode w)) (E.address w.cell) = w.value.map (E.write w.cell) from
      Store.write_self .., Store.write_self, Option.map_map]
    exact Option.map_congr fun v _ => E.read_write w.cell v
  · have other : E.address c ≠ (E.encode w).cell := fun e => same (E.address_injective e)
    rw [Store.write_of_ne _ _ other, Store.write_of_ne _ _ same]
    exact h c

end Encoding

/-! ## Databases -/

/-- The raw database represents the typed one, in the open transaction too. -/
structure Encoding.Mirrors (E : Encoding V L T) (raw : Database (Raw L T)) (db : Database V) :
    Prop where
  committed : E.Represents raw.committed db.committed
  working : Option.Rel E.Represents raw.working db.working
  attempts : raw.attempts = db.attempts

namespace Encoding.Mirrors

variable {E : Encoding V L T} {raw : Database (Raw L T)} {db : Database V}

/-- What a read sees is represented. -/
theorem seen (h : E.Mirrors raw db) :
    E.Represents (raw.working.getD raw.committed) (db.working.getD db.committed) := by
  rcases raw with ⟨rawCommitted, rawWorking, _⟩
  rcases db with ⟨dbCommitted, dbWorking, _⟩
  cases h.working with
  | some open' => exact open'
  | none => exact h.committed

end Encoding.Mirrors

namespace Session

/-- The session on the raw store goes as the one on the typed store. -/
def Follows (E : Encoding V L T) (m' : Session (Raw L T) α) (m : Session V α) : Prop :=
  ∀ raw db, E.Mirrors raw db → (m'.on raw).1 = (m.on db).1 ∧ E.Mirrors (m'.on raw).2 (m.on db).2

/-- The same, for a session that may fail to decode what it reads: it decodes everything. -/
def Decodes (E : Encoding V L T) (m' : ExceptT δ (Session (Raw L T)) α) (m : Session V α) : Prop :=
  ∀ raw db, E.Mirrors raw db → (on m'.run raw).1 = (m.on db).1.map .ok ∧
    E.Mirrors (on m'.run raw).2 (m.on db).2

variable {E : Encoding V L T}

section Follows

theorem Follows.pure (a : α) : Follows E (Pure.pure a) (Pure.pure a) := fun _ _ h => ⟨rfl, h⟩

theorem Follows.raise (e : Fault) : Follows E (raise e : Session _ α) (raise e) :=
  fun _ _ h => ⟨rfl, h⟩

/-- Both sessions fail, or both return. -/
theorem Follows.outcome {m' : Session (Raw L T) α} {m : Session V α} (h : Follows E m' m)
    {raw : Database (Raw L T)} {db : Database V} (mirrors : E.Mirrors raw db) :
    ∃ raw' db', E.Mirrors raw' db' ∧
      ((∃ e, m'.on raw = (.error e, raw') ∧ m.on db = (.error e, db')) ∨
        ∃ a, m'.on raw = (.ok a, raw') ∧ m.on db = (.ok a, db')) := by
  obtain ⟨same, after⟩ := h raw db mirrors
  refine ⟨_, _, after, ?_⟩
  rcases outcome : (m.on db).1 with e | a
  · exact .inl ⟨e, Prod.ext (same.trans outcome) rfl, Prod.ext outcome rfl⟩
  · exact .inr ⟨a, Prod.ext (same.trans outcome) rfl, Prod.ext outcome rfl⟩

theorem Follows.bind {m' : Session (Raw L T) α} {m : Session V α} {f' : α → Session (Raw L T) β}
    {f : α → Session V β} (hm : Follows E m' m) (hf : ∀ a, Follows E (f' a) (f a)) :
    Follows E (m' >>= f') (m >>= f) := by
  intro raw db mirrors
  obtain ⟨raw', db', after, ⟨e, h', h⟩ | ⟨a, h', h⟩⟩ := hm.outcome mirrors
  · rw [on_bind_error h', on_bind_error h]
    exact ⟨rfl, after⟩
  · rw [on_bind_ok h', on_bind_ok h]
    exact hf a raw' db' after

theorem Follows.tryExcept {m' : Session (Raw L T) α} {m : Session V α}
    {handler' : Fault → Session (Raw L T) α} {handler : Fault → Session V α} (hm : Follows E m' m)
    (hh : ∀ e, Follows E (handler' e) (handler e)) :
    Follows E (tryExcept m' handler') (tryExcept m handler) := by
  intro raw db mirrors
  obtain ⟨raw', db', after, ⟨e, h', h⟩ | ⟨a, h', h⟩⟩ := hm.outcome mirrors
  · rw [on_tryExcept_error h', on_tryExcept_error h]
    exact hh e raw' db' after
  · rw [on_tryExcept_ok h', on_tryExcept_ok h]
    exact ⟨rfl, after⟩

theorem Follows.begin : Follows E Session.begin Session.begin := fun _ _ h =>
  ⟨rfl, h.committed, .some h.committed, h.attempts⟩

theorem Follows.rollback : Follows E Session.rollback Session.rollback := fun _ _ h =>
  ⟨rfl, h.committed, .none, h.attempts⟩

theorem Follows.commit (faults : ℕ → Bool) : Follows E (commit faults) (commit faults) := by
  intro raw db mirrors
  have next : raw.attempts + 1 = db.attempts + 1 := congrArg (· + 1) mirrors.attempts
  simp only [on, Session.commit, mirrors.attempts]
  split_ifs
  · exact ⟨rfl, mirrors.committed, mirrors.working, rfl⟩
  · exact ⟨rfl, mirrors.seen, .none, rfl⟩

variable [DecidableEq K] [DecidableEq L]

theorem Follows.write (faults : ℕ → Bool) (w : Write V) :
    Follows E (write faults (E.encode w)) (write faults w) := by
  intro raw db mirrors
  obtain ⟨committed, working, attempts⟩ := mirrors
  simp only [on, Session.write, attempts]
  split_ifs
  · exact ⟨rfl, committed, working, rfl⟩
  · rcases raw with ⟨rawCommitted, rawWorking, rawAttempts⟩
    rcases db with ⟨dbCommitted, dbWorking, dbAttempts⟩
    cases working with
    | some open' => exact ⟨rfl, committed, .some (open'.write w), rfl⟩
    | none => exact ⟨rfl, committed.write w, .none, rfl⟩

theorem Follows.writeAll (faults : ℕ → Bool) (ws : List (Write V)) :
    Follows E (writeAll faults (ws.map E.encode)) (writeAll faults ws) := by
  induction ws with
  | nil => exact .pure ()
  | cons w ws ih => exact .bind (.write faults w) fun _ => ih

theorem Follows.transact (faults : ℕ → Bool) (ws : List (Write V)) :
    Follows E (transact faults (ws.map E.encode)) (transact faults ws) :=
  .bind .begin fun _ => .tryExcept
    (.bind (.writeAll faults ws) fun _ => .commit faults)
    fun e => .bind .rollback fun _ => .raise e

end Follows

/-! ## Sessions that decode -/

/-- Read an address and decode what is found there. -/
def fetch (E : Encoding V L T) (error : δ) (c : K) :
    ExceptT δ (Session (Raw L T)) (Option (V c)) := ExceptT.mk do
  let found ← get (E.address c)
  return E.decode error c found

/-- A session that decodes nothing. -/
def plain (m : Session V α) : ExceptT δ (Session V) α := ExceptT.mk do
  let a ← m
  return .ok a

theorem Decodes.pure (a : α) :
    Decodes E (Pure.pure a : ExceptT δ (Session (Raw L T)) α) (Pure.pure a) :=
  fun _ _ h => ⟨rfl, h⟩

/-- Both sessions fail, or both return; nothing fails to be decoded. -/
theorem Decodes.outcome {m' : ExceptT δ (Session (Raw L T)) α} {m : Session V α}
    (h : Decodes E m' m) {raw : Database (Raw L T)} {db : Database V} (mirrors : E.Mirrors raw db) :
    ∃ raw' db', E.Mirrors raw' db' ∧
      ((∃ e, on m'.run raw = (.error e, raw') ∧ m.on db = (.error e, db')) ∨
        ∃ a, on m'.run raw = (.ok (.ok a), raw') ∧ m.on db = (.ok a, db')) := by
  obtain ⟨same, after⟩ := h raw db mirrors
  refine ⟨_, _, after, ?_⟩
  rcases outcome : (m.on db).1 with e | a <;> rw [outcome] at same
  · exact .inl ⟨e, Prod.ext same rfl, Prod.ext outcome rfl⟩
  · exact .inr ⟨a, Prod.ext same rfl, Prod.ext outcome rfl⟩

theorem Decodes.bind {m' : ExceptT δ (Session (Raw L T)) α} {m : Session V α}
    {f' : α → ExceptT δ (Session (Raw L T)) β} {f : α → Session V β} (hm : Decodes E m' m)
    (hf : ∀ a, Decodes E (f' a) (f a)) : Decodes E (m' >>= f') (m >>= f) := by
  intro raw db mirrors
  change (on (m'.run >>= ExceptT.bindCont f') raw).1 = _ ∧
    E.Mirrors (on (m'.run >>= ExceptT.bindCont f') raw).2 _
  obtain ⟨raw', db', after, ⟨e, h', h⟩ | ⟨a, h', h⟩⟩ := hm.outcome mirrors
  · rw [on_bind_error h', on_bind_error h]
    exact ⟨rfl, after⟩
  · rw [on_bind_ok h', on_bind_ok h]
    exact hf a raw' db' after

theorem Follows.decodes {m' : Session (Raw L T) α} {m : Session V α} (hm : Follows E m' m) :
    Decodes E (plain m' : ExceptT δ (Session (Raw L T)) α) m := by
  intro raw db mirrors
  change (on (m' >>= fun a => Pure.pure (Except.ok a : Except δ α)) raw).1 = _ ∧
    E.Mirrors (on (m' >>= fun a => Pure.pure (Except.ok a : Except δ α)) raw).2 _
  obtain ⟨raw', db', after, ⟨e, h', h⟩ | ⟨a, h', h⟩⟩ := hm.outcome mirrors
  · rw [on_bind_error h', h]
    exact ⟨rfl, after⟩
  · rw [on_bind_ok h', h]
    exact ⟨rfl, after⟩

/-- Everything that is read is decoded. -/
theorem Decodes.fetch (error : δ) (c : K) : Decodes E (Session.fetch E error c) (get c) :=
  fun _ _ mirrors => ⟨congrArg Except.ok (mirrors.seen.decode error c), mirrors⟩

end Session

end Cells
