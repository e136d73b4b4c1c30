import Mathlib.Algebra.GroupWithZero.Nat
import ZoneGate.Py.Datetime
import ZoneGate.Library.PrefixCode

/-!
# Reading datetimes back

A UTC datetime is determined by its `isoformat()`: the numbers in it are read off up to the
separators after them, and the day is counted back from the year, the month and the day.
-/

namespace Py

namespace DateTime

open Coding

/-! ## The calendar -/

def isLeap (year : ℕ) : Bool := year % 4 = 0 ∧ (year % 100 ≠ 0 ∨ year % 400 = 0)

/-- Days in the years before a year. -/
def daysBeforeYear (year : ℕ) : ℕ :=
  (year - 1) * 365 + (year - 1) / 4 - (year - 1) / 100 + (year - 1) / 400

/-- The number of a day since the start of year 1, from zero. -/
def ordinal (year month day : ℕ) : ℕ :=
  daysBeforeYear year + ((monthLengths (isLeap year)).take (month - 1)).sum + (day - 1)

/-- The month and the day count the days of the months before. -/
theorem monthDay_spec (lengths : List ℕ) (month n : ℕ) :
    month ≤ (monthDay month n lengths).1 ∧
      (lengths.take ((monthDay month n lengths).1 - month)).sum +
        ((monthDay month n lengths).2 - 1) = n := by
  induction lengths generalizing month n with
  | nil => simp [monthDay]
  | cons len rest ih =>
    rw [monthDay]
    split_ifs with h
    · simp
    · obtain ⟨later, count⟩ := ih (month + 1) (n - len)
      refine ⟨by omega, ?_⟩
      rw [show (monthDay (month + 1) (n - len) rest).1 - month =
        (monthDay (month + 1) (n - len) rest).1 - (month + 1) + 1 by omega, List.take_succ_cons,
        List.sum_cons]
      omega

/-- The days before a year, by the cycles of the calendar. -/
theorem daysBeforeYear_cycles (n400 n100 n4 n1 : ℕ) (h100 : n100 < 4) (h4 : n4 < 25)
    (h1 : n1 < 4) : daysBeforeYear (n400 * 400 + n100 * 100 + n4 * 4 + n1 + 1) =
      n400 * 146097 + n100 * 36524 + n4 * 1461 + n1 * 365 := by
  unfold daysBeforeYear
  omega

theorem isLeap_cycles (n400 n100 n4 n1 : ℕ) (h100 : n100 < 4) (h4 : n4 < 25) (h1 : n1 < 4) :
    isLeap (n400 * 400 + n100 * 100 + n4 * 4 + n1 + 1) =
      decide (n1 = 3 ∧ (n4 ≠ 24 ∨ n100 = 3)) := by
  rw [isLeap, decide_eq_decide]
  omega

/-- The last day of a leap year. -/
theorem ordinal_lastDay (n400 n100 n4 : ℕ) (h100 : n100 < 4) (h4 : n4 < 25)
    (leap : n4 ≠ 24 ∨ n100 = 3) :
    ordinal (n400 * 400 + n100 * 100 + n4 * 4 + 3 + 1) 12 31 =
      n400 * 146097 + n100 * 36524 + n4 * 1461 + 1460 := by
  rw [ordinal, isLeap_cycles _ _ _ _ h100 h4 (by decide),
    daysBeforeYear_cycles _ _ _ _ h100 h4 (by decide), decide_eq_true ⟨rfl, leap⟩]
  simp [monthLengths]

/-- The number of a day is counted back from its date. -/
theorem ordinal_yearMonthDay (n : ℕ) :
    ordinal (yearMonthDay n).1 (yearMonthDay n).2.1 (yearMonthDay n).2.2 = n := by
  unfold yearMonthDay
  dsimp only
  split_ifs with last
  · rcases last with h1 | h100
    · have lastDay := ordinal_lastDay (n / 146097) (n % 146097 / 36524)
        (n % 146097 % 36524 / 1461) (by omega) (by omega) (by omega)
      rw [h1, Nat.add_sub_cancel]
      exact lastDay.trans (by omega)
    · have lastDay := ordinal_lastDay (n / 146097) 3 24 (by decide) (by decide) (.inr rfl)
      rw [show n / 146097 * 400 + n % 146097 / 36524 * 100 + n % 146097 % 36524 / 1461 * 4 +
        n % 146097 % 36524 % 1461 / 365 + 1 - 1 = n / 146097 * 400 + 3 * 100 + 24 * 4 + 3 + 1 by
          omega]
      exact lastDay.trans (by omega)
  · have cycles := daysBeforeYear_cycles (n / 146097) (n % 146097 / 36524)
      (n % 146097 % 36524 / 1461) (n % 146097 % 36524 % 1461 / 365) (by omega) (by omega)
      (by omega)
    rw [ordinal, cycles, isLeap_cycles _ _ _ _ (by omega) (by omega) (by omega), Nat.add_assoc,
      (monthDay_spec _ 1 _).2]
    omega

theorem yearMonthDay_injective : Function.Injective yearMonthDay := by
  intro m n e
  rw [← ordinal_yearMonthDay m, ← ordinal_yearMonthDay n, e]

/-! ## Numbers and separators -/

theorem toList_pad (width n : ℕ) :
    (pad width n).toList = List.replicate (width - (toString n).length) '0' ++ Nat.toDigits 10 n := by
  simp [pad, Nat.toString_eq_repr]

/-- The digits of a padded number are those of the number after zeros. -/
theorem pad_injective (width : ℕ) : Function.Injective fun n => (pad width n).toList := by
  intro m n e
  have value (n : ℕ) : Nat.ofDigitChars 10 (pad width n).toList 0 = n := by
    rw [toList_pad, Nat.ofDigitChars_append, Nat.ofDigitChars_replicate_zero, Nat.mul_zero,
      Nat.ofDigitChars_ten_toDigits]
  rw [← value m, ← value n]
  exact congrArg (Nat.ofDigitChars 10 · 0) e

theorem isDigit_of_mem_pad {width n : ℕ} {c : Char} (h : c ∈ (pad width n).toList) :
    c.isDigit = true := by
  rw [toList_pad, List.mem_append] at h
  rcases h with h | h
  · rw [List.eq_of_mem_replicate h]
    decide
  · exact Nat.isDigit_of_mem_toDigits (by decide) (by decide) h

/-- A padded number up to a separator. -/
theorem pad_code (width : ℕ) {stop : Char} (h : stop.isDigit = false) :
    PrefixCode fun n => (pad width n).toList ++ [stop] :=
  .of_letters (p := fun c => c.isDigit = true) (pad_injective width)
    (fun _ _ hc => isDigit_of_mem_pad hc) (by simp [h])

/-- The seconds, the fraction if there is one, and the offset. -/
def secondsText (seconds fraction : ℕ) : List Char :=
  (pad 2 seconds).toList ++
    ((if fraction = 0 then [] else '.' :: (pad 6 fraction).toList) ++ "+00:00".toList)

theorem secondsText_injective {s s' f f' : ℕ} (e : secondsText s f = secondsText s' f') :
    s = s' ∧ f = f' := by
  have split {xs ys : List Char} {c c' : Char} (hc : c.isDigit = false) (hc' : c'.isDigit = false)
      {width m n : ℕ} (e : (pad width m).toList ++ c :: xs = (pad width n).toList ++ c' :: ys) :
      m = n ∧ c = c' ∧ xs = ys := by
    obtain ⟨same, rest⟩ := PrefixCode.eq_of_letters (p := fun c => c.isDigit = true)
      (fun _ hc => isDigit_of_mem_pad hc) (fun _ hc => isDigit_of_mem_pad hc) (by simp [hc])
      (by simp [hc']) e
    exact ⟨pad_injective width same, rest⟩
  unfold secondsText at e
  split_ifs at e with hf hf' hf'
  · exact ⟨(split (by decide) (by decide) e).1, hf.trans hf'.symm⟩
  · exact absurd (split (by decide) (by decide) e).2.1 (by decide)
  · exact absurd (split (by decide) (by decide) e).2.1 (by decide)
  · obtain ⟨rfl, -, rest⟩ := split (by decide) (by decide) e
    exact ⟨rfl, (split (by decide) (by decide) rest).1⟩

theorem toList_isoformat (t : DateTime) :
    t.isoformat.toList =
      (pad 4 (yearMonthDay (t.micros / 1000000 / 86400)).1).toList ++ ['-'] ++
        ((pad 2 (yearMonthDay (t.micros / 1000000 / 86400)).2.1).toList ++ ['-'] ++
          ((pad 2 (yearMonthDay (t.micros / 1000000 / 86400)).2.2).toList ++ ['T'] ++
            ((pad 2 (t.micros / 1000000 / 3600 % 24)).toList ++ [':'] ++
              ((pad 2 (t.micros / 1000000 / 60 % 60)).toList ++ [':'] ++
                secondsText (t.micros / 1000000 % 60) (t.micros % 1000000))))) := by
  unfold isoformat secondsText
  dsimp only
  split_ifs <;> simp

/-- Two datetimes with one text are the same. -/
theorem isoformat_injective : Function.Injective isoformat := by
  intro t u e
  have text := congrArg String.toList e
  rw [toList_isoformat, toList_isoformat] at text
  obtain ⟨year, text⟩ := pad_code 4 (by decide) _ _ _ _ text
  obtain ⟨month, text⟩ := pad_code 2 (by decide) _ _ _ _ text
  obtain ⟨day, text⟩ := pad_code 2 (by decide) _ _ _ _ text
  obtain ⟨hour, text⟩ := pad_code 2 (by decide) _ _ _ _ text
  obtain ⟨minute, text⟩ := pad_code 2 (by decide) _ _ _ _ text
  obtain ⟨second, fraction⟩ := secondsText_injective text
  have date : t.micros / 1000000 / 86400 = u.micros / 1000000 / 86400 :=
    yearMonthDay_injective (Prod.ext year (Prod.ext month day))
  have micros : t.micros = u.micros := by omega
  cases t
  cases u
  exact congrArg DateTime.mk micros

end DateTime

end Py
