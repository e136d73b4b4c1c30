import ZoneGate.Domain.Records
import ZoneGate.Py.Timestamp

/-!
# The texts of decimals

`str` of a finite `decimal.Decimal`, and the decimal that a text stands for.  The text keeps sign,
digits and exponent, so a decimal is read back as it was and not only up to its value.
-/

namespace ZoneGate

open Py

namespace Decimal

/-! ## Writing -/

/-- What stands before the point, what stands behind it, and the exponent. -/
structure Parts where
  whole : List Char
  fraction : List Char
  exponent : ℤ

/-- `Decimal.__str__`, up to the point where the parts are put together. -/
def parts (d : Decimal) : Parts :=
  let digits := Nat.toDigits 10 d.coefficient
  let leftDigits := d.exponent + digits.length
  -- without an exponent where that takes few zeros, otherwise behind the first digit
  let dotPlace := if d.exponent ≤ 0 ∧ -6 < leftDigits then leftDigits else 1
  if dotPlace ≤ 0 then
    ⟨['0'], List.replicate (-dotPlace).toNat '0' ++ digits, leftDigits - dotPlace⟩
  else if digits.length ≤ dotPlace then
    ⟨digits ++ List.replicate (dotPlace - digits.length).toNat '0', [], leftDigits - dotPlace⟩
  else ⟨digits.take dotPlace.toNat, digits.drop dotPlace.toNat, leftDigits - dotPlace⟩

/-- `"%+d"` -/
def signedText (v : ℤ) : List Char :=
  (if v < 0 then '-' else '+') :: Nat.toDigits 10 v.natAbs

def exponentText (v : ℤ) : List Char := if v = 0 then [] else 'E' :: signedText v

def pointText : List Char → List Char
  | [] => []
  | fraction => '.' :: fraction

def signText (negative : Bool) : List Char := if negative then ['-'] else []

/-- `str(d)` -/
def text (d : Decimal) : String :=
  String.ofList (signText d.negative ++ (d.parts.whole ++ (pointText d.parts.fraction ++
    exponentText d.parts.exponent)))

example : [text ⟨false, 0, -1⟩, text ⟨true, 1250, -2⟩, text ⟨false, 5, -9⟩, text ⟨false, 12, 3⟩] =
    ["0.0", "-12.50", "5E-9", "1.2E+4"] := by decide

/-! ## Reading -/

def readSigned (text : List Char) : Option ℤ :=
  let digits := if text.head? = some '-' ∨ text.head? = some '+' then text.tail else text
  if digits ≠ [] ∧ digits.all Char.isDigit then
    let value : ℤ := Nat.ofDigitChars 10 digits 0
    some (if text.head? = some '-' then -value else value)
  else none

def readExponent : List Char → Option ℤ
  | [] => some 0
  | c :: rest => if c = 'E' ∨ c = 'e' then readSigned rest else none

/-- The digits behind a point, if there is one. -/
def readFraction (text : List Char) : List Char × List Char :=
  if text.head? = some '.' then
    (text.tail.takeWhile Char.isDigit, text.tail.dropWhile Char.isDigit)
  else ([], text)

def readUnsigned (negative : Bool) (text : List Char) : Option Decimal :=
  let whole := text.takeWhile Char.isDigit
  let (fraction, rest) := readFraction (text.dropWhile Char.isDigit)
  if whole ++ fraction = [] then none
  else (readExponent rest).map fun exponent =>
    ⟨negative, Nat.ofDigitChars 10 (whole ++ fraction) 0, exponent - fraction.length⟩

/-- `Decimal(text)`, for the text of a finite decimal without blanks. -/
def ofText (text : String) : Option Decimal :=
  if text.toList.head? = some '-' then readUnsigned true text.toList.tail
  else if text.toList.head? = some '+' then readUnsigned false text.toList.tail
  else readUnsigned false text.toList

/-! ## What is written is read -/

def Digits (text : List Char) : Prop := ∀ c ∈ text, c.isDigit = true

theorem digits_toDigits (n : ℕ) : Digits (Nat.toDigits 10 n) := fun _ mem =>
  Nat.isDigit_of_mem_toDigits (by decide) (by decide) mem

theorem digits_zeros (n : ℕ) : Digits (List.replicate n '0') := fun c mem => by
  rw [List.eq_of_mem_replicate mem]
  decide

/-- The parts are digits, and they say what the decimal is. -/
structure Parts.Tells (p : Parts) (d : Decimal) : Prop where
  whole_ne_nil : p.whole ≠ []
  whole : Digits p.whole
  fraction : Digits p.fraction
  value : Nat.ofDigitChars 10 (p.whole ++ p.fraction) 0 = d.coefficient
  exponent : p.exponent - p.fraction.length = d.exponent

theorem parts_tells (d : Decimal) : d.parts.Tells d := by
  have all := digits_toDigits d.coefficient
  have value : Nat.ofDigitChars 10 (Nat.toDigits 10 d.coefficient) 0 = d.coefficient :=
    Nat.ofDigitChars_ten_toDigits
  have nonempty := Nat.length_toDigits_pos (b := 10) (n := d.coefficient)
  unfold parts
  generalize Nat.toDigits 10 d.coefficient = digits at all value nonempty ⊢
  dsimp only
  generalize place : (if d.exponent ≤ 0 ∧ -6 < d.exponent + digits.length then
    d.exponent + (digits.length : ℤ) else 1) = dotPlace
  have cases : d.exponent ≤ 0 ∧ dotPlace = d.exponent + digits.length ∨ dotPlace = 1 := by
    split_ifs at place with plain
    · exact .inl ⟨plain.1, place.symm⟩
    · exact .inr place.symm
  split_ifs with early late
  · -- zeros before the digits
    refine ⟨List.cons_ne_nil _ _, by simp [Digits], ?_, ?_, ?_⟩
    · intro c mem
      exact (List.mem_append.1 mem).elim (digits_zeros _ c) (all c)
    · have zeros : Nat.ofDigitChars 10 (['0'] ++ List.replicate (-dotPlace).toNat '0') 0 = 0 := by
        rw [Nat.ofDigitChars_append, Nat.ofDigitChars_replicate_zero]
        exact Nat.mul_zero _
      rw [← List.append_assoc, Nat.ofDigitChars_append, zeros, value]
    · rw [List.length_append, List.length_replicate]
      push_cast
      omega
  · -- every digit stands before the point
    have none : (dotPlace - digits.length).toNat = 0 := by omega
    rw [none, List.replicate_zero, List.append_nil]
    refine ⟨List.length_pos_iff.1 nonempty, all, by simp [Digits], ?_, ?_⟩
    · rw [List.append_nil, value]
    · dsimp only
      rw [List.length_nil]
      omega
  · -- the point divides the digits
    refine ⟨?_, fun c mem => all c (List.mem_of_mem_take mem),
      fun c mem => all c (List.mem_of_mem_drop mem), ?_, ?_⟩
    · rw [← List.length_pos_iff, List.length_take]
      omega
    · rw [List.take_append_drop, value]
    · dsimp only
      rw [List.length_drop]
      omega

theorem readSigned_signedText (v : ℤ) : readSigned (signedText v) = some v := by
  have digits : (Nat.toDigits 10 v.natAbs).all Char.isDigit = true :=
    List.all_eq_true.2 (digits_toDigits _)
  have value : Nat.ofDigitChars 10 (Nat.toDigits 10 v.natAbs) 0 = v.natAbs :=
    Nat.ofDigitChars_ten_toDigits
  unfold signedText
  split_ifs with negative <;> rw [readSigned] <;>
    simp only [List.head?_cons, List.tail_cons, true_or, or_true, if_true, value]
  · rw [if_pos ⟨Nat.toDigits_ne_nil, digits⟩]
    exact congrArg some (by omega)
  · rw [if_pos ⟨Nat.toDigits_ne_nil, digits⟩, if_neg (by decide)]
    exact congrArg some (by omega)

theorem readExponent_exponentText (v : ℤ) : readExponent (exponentText v) = some v := by
  unfold exponentText
  split_ifs with zero
  · rw [zero]
    rfl
  · rw [readExponent, if_pos (.inl rfl), readSigned_signedText]

theorem head?_exponentText (v : ℤ) : ∀ c ∈ (exponentText v).head?, c = 'E' := by
  unfold exponentText
  split_ifs
  · exact nofun
  · rintro c ⟨⟩
    rfl

theorem readFraction_pointText {fraction : List Char} (digits : Digits fraction) (v : ℤ) :
    readFraction (pointText fraction ++ exponentText v) = (fraction, exponentText v) := by
  have exponent : ∀ c ∈ (exponentText v).head?, c.isDigit = false ∧ c ≠ '.' := by
    intro c mem
    rw [head?_exponentText v c mem]
    decide
  cases fraction with
  | nil =>
    have noPoint : (exponentText v).head? ≠ some '.' := fun point => (exponent '.' point).2 rfl
    rw [readFraction, pointText, List.nil_append, if_neg noPoint]
  | cons c fraction =>
    obtain ⟨inside, outside⟩ := DateTime.span_digits digits fun c mem => (exponent c mem).1
    have point : pointText (c :: fraction) = '.' :: (c :: fraction) := rfl
    rw [readFraction, point, List.cons_append, List.head?_cons, if_pos rfl, List.tail_cons, inside,
      outside]

theorem readUnsigned_parts (d : Decimal) (negative : Bool) :
    readUnsigned negative (d.parts.whole ++ (pointText d.parts.fraction ++
      exponentText d.parts.exponent)) = some ⟨negative, d.coefficient, d.exponent⟩ := by
  obtain ⟨nonempty, whole, fraction, value, exponent⟩ := parts_tells d
  have notDigit : ∀ c ∈ (pointText d.parts.fraction ++ exponentText d.parts.exponent).head?,
      c.isDigit = false := by
    generalize d.parts.fraction = digits
    intro c mem
    rcases digits with _ | ⟨c', rest⟩
    · rw [head?_exponentText _ c mem]
      rfl
    · obtain rfl : '.' = c := Option.some.inj mem
      rfl
  obtain ⟨inside, outside⟩ := DateTime.span_digits whole notDigit
  have written : d.parts.whole ++ d.parts.fraction ≠ [] := by simp [nonempty]
  rw [readUnsigned]
  simp only [inside, outside, readFraction_pointText fraction, readExponent_exponentText, value,
    exponent, if_neg written, Option.map_some]

/-- What is written of a decimal is read as that decimal. -/
theorem ofText_text (d : Decimal) : ofText d.text = some d := by
  have parts := readUnsigned_parts d d.negative
  rw [ofText, text, String.toList_ofList]
  rcases h : d.negative with _ | _
  · obtain ⟨first, others, eq⟩ := List.exists_cons_of_ne_nil (parts_tells d).whole_ne_nil
    have digit : first.isDigit = true :=
      (parts_tells d).whole first (by rw [eq]; exact List.mem_cons_self)
    have unsigned (c : Char) (h : c.isDigit = false) : (signText false ++ (d.parts.whole ++
        (pointText d.parts.fraction ++ exponentText d.parts.exponent))).head? ≠ some c := by
      rw [eq]
      rintro ⟨⟩
      simp [digit] at h
    rw [if_neg (unsigned '-' (by decide)), if_neg (unsigned '+' (by decide))]
    rw [h] at parts
    exact parts.trans (congrArg some (by cases d; subst h; rfl))
  · rw [h] at parts
    exact parts.trans (congrArg some (by cases d; subst h; rfl))

end Decimal

end ZoneGate
