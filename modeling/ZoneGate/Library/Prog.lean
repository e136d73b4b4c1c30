import Mathlib.Data.List.Basic

/-!
# Programs over an effect interface

A program is a tree of calls to an interface `I`, each followed by a continuation on the reply.
It ends with a value or with an exception that no caller inside the program handles.  A handler
interprets one call on a state; `Prog.run` interprets a whole program by handling its calls in
order.
-/

namespace Effects

/-- The calls a program can make, and the type of the reply to each. -/
structure Interface where
  Call : Type
  Reply : Call → Type

/-- A program that calls `I`, raises `ε` and returns `α`. -/
inductive Prog (I : Interface) (ε α : Type) : Type
  | ret (a : α)
  | raise (e : ε)
  | call (c : I.Call) (next : I.Reply c → Prog I ε α)

/-- One call on a state: the reply or an exception, and the state left behind. -/
abbrev Handler (I : Interface) (ε σ : Type) := (c : I.Call) → σ → Except ε (I.Reply c) × σ

namespace Prog

variable {I : Interface} {ε σ α β : Type}

/-- The program that makes one call and returns its reply. -/
def perform (c : I.Call) : Prog I ε (I.Reply c) := .call c .ret

protected def bind : Prog I ε α → (α → Prog I ε β) → Prog I ε β
  | .ret a, f => f a
  | .raise e, _ => .raise e
  | .call c next, f => .call c fun r => (next r).bind f

instance : Monad (Prog I ε) where
  pure := .ret
  bind := Prog.bind

@[simp] theorem pure_eq (a : α) : (pure a : Prog I ε α) = .ret a := rfl

@[simp] theorem ret_bind (a : α) (f : α → Prog I ε β) : (Prog.ret a >>= f) = f a := rfl

@[simp] theorem raise_bind (e : ε) (f : α → Prog I ε β) : (Prog.raise e >>= f) = .raise e := rfl

@[simp] theorem call_bind (c : I.Call) (next : I.Reply c → Prog I ε α) (f : α → Prog I ε β) :
    (Prog.call c next >>= f) = .call c fun r => next r >>= f := rfl

@[simp] theorem perform_eq (c : I.Call) : (perform c : Prog I ε (I.Reply c)) = .call c .ret := rfl

protected theorem id_map (p : Prog I ε α) : id <$> p = p := by
  induction p with
  | ret a => rfl
  | raise e => rfl
  | call c next ih => exact congrArg (Prog.call c) (funext ih)

protected theorem bind_assoc {γ : Type} (p : Prog I ε α) (f : α → Prog I ε β)
    (g : β → Prog I ε γ) : p >>= f >>= g = p >>= fun a => f a >>= g := by
  induction p with
  | ret a => rfl
  | raise e => rfl
  | call c next ih => exact congrArg (Prog.call c) (funext ih)

instance : LawfulMonad (Prog I ε) := .mk' _ Prog.id_map (fun _ _ => rfl) Prog.bind_assoc

/-- A program without exceptions `δ`, before one that may raise them. -/
theorem run_lift_bind {δ : Type} (p : Prog I ε α) (f : α → ExceptT δ (Prog I ε) β) :
    ((liftM p : ExceptT δ (Prog I ε) α) >>= f).run = p >>= fun a => (f a).run := by
  induction p with
  | ret a => rfl
  | raise e => rfl
  | call c next ih => exact congrArg (Prog.call c) (funext ih)

/-- The value of a program that has returned. -/
def returned : Prog I ε α → Option α
  | .ret a => some a
  | _ => none

theorem eq_ret_of_returned {p : Prog I ε α} {a : α} (h : p.returned = some a) : p = .ret a := by
  cases p <;> simp_all [returned]

/-! ## Running a program -/

/-- Handle the calls of a program in order; the first exception ends it. -/
def run (h : Handler I ε σ) : Prog I ε α → σ → Except ε α × σ
  | .ret a, s => (.ok a, s)
  | .raise e, s => (.error e, s)
  | .call c next, s =>
      match h c s with
      | (.ok r, s') => (next r).run h s'
      | (.error e, s') => (.error e, s')

@[simp] theorem run_ret (h : Handler I ε σ) (a : α) (s : σ) :
    (Prog.ret a : Prog I ε α).run h s = (.ok a, s) := rfl

@[simp] theorem run_raise (h : Handler I ε σ) (e : ε) (s : σ) :
    (Prog.raise e : Prog I ε α).run h s = (.error e, s) := rfl

theorem run_call (h : Handler I ε σ) (c : I.Call) (next : I.Reply c → Prog I ε α) (s : σ) :
    (Prog.call c next).run h s =
      match h c s with
      | (.ok r, s') => (next r).run h s'
      | (.error e, s') => (.error e, s') := by
  rw [run]

theorem run_bind (h : Handler I ε σ) (p : Prog I ε α) (f : α → Prog I ε β) (s : σ) :
    (p >>= f).run h s =
      match p.run h s with
      | (.ok a, s') => (f a).run h s'
      | (.error e, s') => (.error e, s') := by
  induction p generalizing s with
  | ret a => rfl
  | raise e => rfl
  | call c next ih =>
    rw [call_bind, run_call, run_call]
    rcases h c s with ⟨r | r, s'⟩
    · rfl
    · exact ih r s'

/-- Sequencing when the exceptions `δ` of the first program are caught further up. -/
theorem run_except_bind {δ : Type} (h : Handler I ε σ) (p : ExceptT δ (Prog I ε) α)
    (f : α → ExceptT δ (Prog I ε) β) (s : σ) :
    Prog.run h (p >>= f).run s =
      match Prog.run h p.run s with
      | (.ok (.ok a), s') => Prog.run h (f a).run s'
      | (.ok (.error e), s') => (.ok (.error e), s')
      | (.error e, s') => (.error e, s') := by
  change Prog.run h (p.run >>= ExceptT.bindCont f) s = _
  rw [run_bind]
  rcases Prog.run h p.run s with ⟨e | (e | a), s'⟩ <;> rfl

/-! ## Handled exceptions -/

/-- The program, with the exceptions that `caught` knows turned into results; the others leave it
as before. -/
def catching {δ : Type} (caught : ε → Option δ) : Prog I ε α → Prog I ε (Except δ α)
  | .ret a => .ret (.ok a)
  | .raise e => match caught e with
      | some d => .ret (.error d)
      | none => .raise e
  | .call c next => .call c fun r => (next r).catching caught

/-- What is made of an exception. -/
def caughtAs {δ : Type} (caught : ε → Option δ) : Except ε α → Except ε (Except δ α)
  | .ok a => .ok (.ok a)
  | .error e => match caught e with
      | some d => .ok (.error d)
      | none => .error e

/-- A run of which the exceptions are handled, when no call raises. -/
theorem run_catching {δ : Type} {h : Handler I ε σ} (ok : ∀ c s, ∃ r s', h c s = (.ok r, s'))
    (caught : ε → Option δ) (p : Prog I ε α) (s : σ) :
    (p.catching caught).run h s = (caughtAs caught (p.run h s).1, (p.run h s).2) := by
  induction p generalizing s with
  | ret a => rfl
  | raise e => cases hc : caught e <;> simp [catching, caughtAs, hc]
  | call c next ih =>
    obtain ⟨r, s', hr⟩ := ok c s
    rw [catching, run_call, run_call, hr]
    exact ih r s'

/-! ## Calls a program can make -/

/-- Every call the program makes, whatever the replies, satisfies `φ`. -/
def CallsOnly (φ : I.Call → Prop) : Prog I ε α → Prop
  | .ret _ => True
  | .raise _ => True
  | .call c next => φ c ∧ ∀ r, (next r).CallsOnly φ

@[simp] theorem callsOnly_ret (φ : I.Call → Prop) (a : α) :
    (Prog.ret a : Prog I ε α).CallsOnly φ := trivial

@[simp] theorem callsOnly_raise (φ : I.Call → Prop) (e : ε) :
    (Prog.raise e : Prog I ε α).CallsOnly φ := trivial

@[simp] theorem callsOnly_call (φ : I.Call → Prop) (c : I.Call) (next : I.Reply c → Prog I ε α) :
    (Prog.call c next).CallsOnly φ ↔ φ c ∧ ∀ r, (next r).CallsOnly φ := Iff.rfl

theorem callsOnly_true (p : Prog I ε α) : p.CallsOnly fun _ => True := by
  induction p with
  | ret a => trivial
  | raise e => trivial
  | call c next ih => exact ⟨trivial, ih⟩

theorem CallsOnly.bind {φ : I.Call → Prop} {p : Prog I ε α} {f : α → Prog I ε β}
    (hp : p.CallsOnly φ) (hf : ∀ a, (f a).CallsOnly φ) : (p >>= f).CallsOnly φ := by
  induction p with
  | ret a => exact hf a
  | raise e => trivial
  | call c next ih => exact ⟨hp.1, fun r => ih r (hp.2 r)⟩

theorem CallsOnly.except_bind {δ : Type} {φ : I.Call → Prop} {p : ExceptT δ (Prog I ε) α}
    {f : α → ExceptT δ (Prog I ε) β} (hp : CallsOnly φ p.run) (hf : ∀ a, CallsOnly φ (f a).run) :
    CallsOnly φ (p >>= f).run := by
  refine CallsOnly.bind hp fun result => ?_
  rcases result with e | a
  · trivial
  · exact hf a

theorem CallsOnly.catching {δ : Type} {φ : I.Call → Prop} (caught : ε → Option δ)
    {p : Prog I ε α} (hp : p.CallsOnly φ) : (p.catching caught).CallsOnly φ := by
  induction p with
  | ret a => trivial
  | raise e =>
    rw [Prog.catching]
    cases caught e <;> trivial
  | call c next ih => exact ⟨hp.1, fun r => ih r (hp.2 r)⟩

theorem CallsOnly.mono {φ ψ : I.Call → Prop} (h : ∀ c, φ c → ψ c) {p : Prog I ε α}
    (hp : p.CallsOnly φ) : p.CallsOnly ψ := by
  induction p with
  | ret a => trivial
  | raise e => trivial
  | call c next ih => exact ⟨h c hp.1, fun r => ih r (hp.2 r)⟩

/-- What the calls of a program keep, its run keeps. -/
theorem CallsOnly.run_keeps {φ : I.Call → Prop} {h : Handler I ε σ} {P : σ → Prop}
    {p : Prog I ε α} (hp : p.CallsOnly φ) (step : ∀ c s, φ c → P s → P (h c s).2) {s : σ}
    (hs : P s) : P (p.run h s).2 := by
  induction p generalizing s with
  | ret a => exact hs
  | raise e => exact hs
  | call c next ih =>
    have first := step c s hp.1 hs
    rw [run_call]
    rcases hc : h c s with ⟨r | r, s'⟩ <;> rw [hc] at first
    · exact first
    · exact ih r (hp.2 r) first

/-- What every call keeps, a run keeps. -/
theorem run_keeps {h : Handler I ε σ} {P : σ → Prop} (step : ∀ c s, P s → P (h c s).2)
    (p : Prog I ε α) {s : σ} (hs : P s) : P (p.run h s).2 :=
  (callsOnly_true p).run_keeps (fun c s _ => step c s) hs

end Prog

end Effects
