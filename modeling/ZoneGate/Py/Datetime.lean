import Mathlib.Data.List.Basic
import Mathlib.Order.Defs.LinearOrder

/-!
# UTC datetimes

An aware datetime in UTC is the number of microseconds since the start of year 1.  `isoformat`
computes the calendar fields as the standard library does.
-/

namespace Py

/-- A datetime with `tzinfo=timezone.utc`. -/
structure DateTime where
  micros : ℕ
deriving DecidableEq, Repr

namespace DateTime

instance : LE DateTime := ⟨fun a b => a.micros ≤ b.micros⟩

instance : LT DateTime := ⟨fun a b => a.micros < b.micros⟩

instance (a b : DateTime) : Decidable (a ≤ b) := inferInstanceAs (Decidable (a.micros ≤ b.micros))

instance (a b : DateTime) : Decidable (a < b) := inferInstanceAs (Decidable (a.micros < b.micros))

instance : Preorder DateTime where
  le_refl a := Nat.le_refl a.micros
  le_trans _ _ _ := Nat.le_trans
  lt_iff_le_not_ge _ _ := Nat.lt_iff_le_and_not_ge

/-- `self + timedelta(seconds=s)`. -/
def addSeconds (t : DateTime) (s : ℕ) : DateTime := ⟨t.micros + s * 1000000⟩

/-- Days in the months of a year. -/
def monthLengths (leap : Bool) : List ℕ :=
  [31, if leap then 29 else 28, 31, 30, 31, 30, 31, 31, 30, 31, 30, 31]

/-- The month and the day, both from one, of the `n`-th day (from zero) after those months. -/
def monthDay (month n : ℕ) : List ℕ → ℕ × ℕ
  | [] => (month, n + 1)
  | len :: rest => if n < len then (month, n + 1) else monthDay (month + 1) (n - len) rest

/-- Year, month and day of the `n`-th day (from zero) since the start of year 1. -/
def yearMonthDay (n : ℕ) : ℕ × ℕ × ℕ :=
  let n400 := n / 146097
  let r400 := n % 146097
  let n100 := r400 / 36524
  let r100 := r400 % 36524
  let n4 := r100 / 1461
  let r4 := r100 % 1461
  let n1 := r4 / 365
  let year := n400 * 400 + n100 * 100 + n4 * 4 + n1 + 1
  if n1 = 4 ∨ n100 = 4 then (year - 1, 12, 31)
  else (year, monthDay 1 (r4 % 365) (monthLengths (n1 = 3 ∧ (n4 ≠ 24 ∨ n100 = 3))))

/-- A number in decimal, with leading zeros up to the width. -/
def pad (width n : ℕ) : String :=
  .ofList (List.replicate (width - (toString n).length) '0') ++ toString n

/-- `isoformat()`: the fraction is left out when it is zero. -/
def isoformat (t : DateTime) : String :=
  let seconds := t.micros / 1000000
  let fraction := t.micros % 1000000
  let (year, month, day) := yearMonthDay (seconds / 86400)
  pad 4 year ++ "-" ++ pad 2 month ++ "-" ++ pad 2 day ++ "T" ++
    pad 2 (seconds / 3600 % 24) ++ ":" ++ pad 2 (seconds / 60 % 60) ++ ":" ++ pad 2 (seconds % 60) ++
    (if fraction = 0 then "" else "." ++ pad 6 fraction) ++ "+00:00"

example : isoformat ⟨63914345400 * 1000000 + 250⟩ = "2026-05-14T08:50:00.000250+00:00" := by decide

end DateTime

end Py
