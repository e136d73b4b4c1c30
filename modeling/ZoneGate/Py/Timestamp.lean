import ZoneGate.Py.Calendar
import ZoneGate.Py.JsonText
import Mathlib.Data.Nat.Digits.Defs

/-!
# The texts of datetimes

`model_dump_json` writes a UTC datetime as `isoformat()` does, with a `Z` for the offset.
-/

namespace Py

namespace DateTime

/-! ## Writing -/

def fractionText (fraction : ℕ) : List Char :=
  if fraction = 0 then [] else '.' :: (pad 6 fraction).toList

def jsonChars (t : DateTime) : List Char :=
  let seconds := t.micros / 1000000
  let (year, month, day) := yearMonthDay (seconds / 86400)
  (pad 4 year).toList ++ (['-'] ++ ((pad 2 month).toList ++ (['-'] ++ ((pad 2 day).toList ++
    (['T'] ++ ((pad 2 (seconds / 3600 % 24)).toList ++ ([':'] ++
      ((pad 2 (seconds / 60 % 60)).toList ++ ([':'] ++ ((pad 2 (seconds % 60)).toList ++
        (fractionText (t.micros % 1000000) ++ ['Z'])))))))))))

/-- The text of a datetime field. -/
def jsonText (t : DateTime) : String := String.ofList t.jsonChars

example : jsonText ⟨63914345400 * 1000000 + 250⟩ = "2026-05-14T08:50:00.000250Z" := by decide

/-! ## Reading -/

/-- A number that is padded to the width. -/
def readPadded (width : ℕ) (text : List Char) : Option (ℕ × List Char) :=
  let digits := text.takeWhile Char.isDigit
  let n := Nat.ofDigitChars 10 digits 0
  if (pad width n).toList = digits then some (n, text.dropWhile Char.isDigit) else none

/-- The microseconds of a fraction of six digits at most. -/
def readFraction (text : List Char) : Option (ℕ × List Char) :=
  if text.head? = some '.' then
    let digits := text.tail.takeWhile Char.isDigit
    if digits ≠ [] ∧ digits.length ≤ 6 then
      some (Nat.ofDigitChars 10 digits 0 * 10 ^ (6 - digits.length),
        text.tail.dropWhile Char.isDigit)
    else none
  else some (0, text)

/-- The datetime of these fields, if they are in their ranges. -/
def ofFields (year month day hour minute second fraction : ℕ) : Option DateTime :=
  let date := ordinal year month day
  if yearMonthDay date = (year, month, day) ∧ hour < 24 ∧ minute < 60 ∧ second < 60 then
    some ⟨(((date * 24 + hour) * 60 + minute) * 60 + second) * 1000000 + fraction⟩
  else none

def readJson (text : List Char) : Option DateTime := do
  let (year, rest) ← readPadded 4 text
  let rest ← expect ['-'] rest
  let (month, rest) ← readPadded 2 rest
  let rest ← expect ['-'] rest
  let (day, rest) ← readPadded 2 rest
  let rest ← expect ['T'] rest
  let (hour, rest) ← readPadded 2 rest
  let rest ← expect [':'] rest
  let (minute, rest) ← readPadded 2 rest
  let rest ← expect [':'] rest
  let (second, rest) ← readPadded 2 rest
  let (fraction, rest) ← readFraction rest
  if rest = ['Z'] ∨ rest = "+00:00".toList then
    ofFields year month day hour minute second fraction
  else none

/-- The datetime a text stands for, if it stands for one in UTC. -/
def ofJsonText (text : String) : Option DateTime := readJson text.toList

/-! ## What is written is read -/

/-- Digits up to where they end. -/
theorem span_digits {digits rest : List Char} (h : ∀ c ∈ digits, c.isDigit = true)
    (ends : ∀ c ∈ rest.head?, c.isDigit = false) :
    (digits ++ rest).takeWhile Char.isDigit = digits ∧
      (digits ++ rest).dropWhile Char.isDigit = rest := by
  rw [List.takeWhile_append_of_pos h, List.dropWhile_append_of_pos h]
  cases rest with
  | nil => exact ⟨List.append_nil _, rfl⟩
  | cons c rest =>
    have other := ends c rfl
    rw [List.takeWhile_cons_of_neg (by simp [other]), List.dropWhile_cons_of_neg (by simp [other])]
    exact ⟨List.append_nil _, rfl⟩

theorem value_pad (width n : ℕ) : Nat.ofDigitChars 10 (pad width n).toList 0 = n := by
  rw [toList_pad, Nat.ofDigitChars_append, Nat.ofDigitChars_replicate_zero, Nat.mul_zero,
    Nat.ofDigitChars_ten_toDigits]

theorem readPadded_pad (width n : ℕ) {rest : List Char}
    (ends : ∀ c ∈ rest.head?, c.isDigit = false) :
    readPadded width ((pad width n).toList ++ rest) = some (n, rest) := by
  obtain ⟨digits, others⟩ := span_digits (fun _ mem => isDigit_of_mem_pad mem) ends
  rw [readPadded, digits, others, value_pad, if_pos rfl]

theorem length_pad {width n : ℕ} (width_pos : 0 < width) (small : n < 10 ^ width) :
    (pad width n).toList.length = width := by
  have short := Nat.toDigits_length 10 n width width_pos small
  have same : (toString n).length = (Nat.toDigits 10 n).length := by
    rw [Nat.toString_eq_repr, ← String.length_toList, Nat.toList_repr]
  rw [toList_pad, List.length_append, List.length_replicate, same]
  omega

theorem readFraction_fractionText {fraction : ℕ} (small : fraction < 1000000) :
    readFraction (fractionText fraction ++ ['Z']) = some (fraction, ['Z']) := by
  unfold fractionText
  split_ifs with none
  · rw [none]
    rfl
  · have stops : ∀ c ∈ (['Z'] : List Char).head?, c.isDigit = false := by
      rintro c ⟨⟩
      rfl
    have all : ∀ c ∈ (pad 6 fraction).toList, c.isDigit = true := fun _ => isDigit_of_mem_pad
    obtain ⟨digits, others⟩ := span_digits all stops
    have six : (pad 6 fraction).toList.length = 6 := length_pad (by decide) small
    have some' : (pad 6 fraction).toList ≠ [] := by
      intro empty
      rw [empty] at six
      exact absurd six (by decide)
    rw [readFraction, List.cons_append, List.head?_cons, if_pos rfl, List.tail_cons]
    simp only [digits, others, six, value_pad]
    simp [some']

/-- The fields of a datetime are those of that datetime. -/
theorem ofFields_self (t : DateTime) :
    ofFields (yearMonthDay (t.micros / 1000000 / 86400)).1
      (yearMonthDay (t.micros / 1000000 / 86400)).2.1
      (yearMonthDay (t.micros / 1000000 / 86400)).2.2 (t.micros / 1000000 / 3600 % 24)
      (t.micros / 1000000 / 60 % 60) (t.micros / 1000000 % 60) (t.micros % 1000000) = some t := by
  rw [ofFields, ordinal_yearMonthDay]
  have ranges : t.micros / 1000000 / 3600 % 24 < 24 ∧ t.micros / 1000000 / 60 % 60 < 60 ∧
      t.micros / 1000000 % 60 < 60 := by omega
  rw [if_pos ⟨rfl, ranges⟩]
  refine congrArg (fun micros => some (DateTime.mk micros)) (?_ : _ = t.micros)
  omega

/-- What is written of a datetime is read as that datetime. -/
theorem ofJsonText_jsonText (t : DateTime) : ofJsonText t.jsonText = some t := by
  have separated (c : Char) (h : c.isDigit = false) (rest : List Char) :
      ∀ c' ∈ ([c] ++ rest).head?, c'.isDigit = false := by
    rintro c' ⟨⟩
    exact h
  have last : ∀ c ∈ (fractionText (t.micros % 1000000) ++ ['Z']).head?, c.isDigit = false := by
    unfold fractionText
    split_ifs <;> rintro c ⟨⟩ <;> rfl
  have small : t.micros % 1000000 < 1000000 := Nat.mod_lt _ (by decide)
  rw [ofJsonText, jsonText, String.toList_ofList, readJson, jsonChars]
  simp only [Option.bind_eq_bind, Option.bind_some, expect_append,
    readPadded_pad _ _ (separated '-' (by decide) _),
    readPadded_pad _ _ (separated 'T' (by decide) _),
    readPadded_pad _ _ (separated ':' (by decide) _), readPadded_pad _ _ last,
    readFraction_fractionText small, true_or, if_true]
  exact ofFields_self t

end DateTime

end Py
