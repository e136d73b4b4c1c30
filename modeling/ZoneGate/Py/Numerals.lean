import ZoneGate.Py.Bytes
import ZoneGate.Py.Case
import Mathlib.Tactic.IntervalCases

/-!
# Reading numbers and bytes back

What `bytes.hex` and `str` of an integer print, `bytes.fromhex` and `int` read back, and what is
joined with a separator is split at it.  A JSON literal is ASCII.
-/

namespace Py

open Trim

/-! ## Hexadecimal -/

/-- The value of a hexadecimal digit as it is printed. -/
theorem hexDigit_digitChar {n : ℕ} (h : n < 16) : hexDigit (Nat.digitChar n) = some n := by
  interval_cases n <;> decide

theorem isAsciiSpace_digitChar {n : ℕ} (h : n < 16) : isAsciiSpace (Nat.digitChar n) = false := by
  interval_cases n <;> decide

theorem fromHexChars_hexByte (b : UInt8) (rest : List Char) :
    fromHexChars (hexByte b ++ rest) = (fromHexChars rest).map (b :: ·) := by
  have small : b.toNat < 256 := b.toNat_lt
  have high : b.toNat / 16 < 16 := by omega
  have low : b.toNat % 16 < 16 := Nat.mod_lt _ (by decide)
  have value : UInt8.ofNat (b.toNat / 16 * 16 + b.toNat % 16) = b := by
    rw [Nat.div_add_mod', UInt8.ofNat_toNat]
  rw [hexByte, List.cons_append, List.cons_append, List.nil_append, fromHexChars,
    if_neg (by simp [isAsciiSpace_digitChar high]), hexDigit_digitChar high,
    hexDigit_digitChar low]
  simp only [Option.bind_eq_bind, Option.bind_some, value]
  cases fromHexChars rest <;> rfl

theorem fromHex_hex (bytes : Bytes) : fromHex (hex bytes) = some bytes := by
  rw [fromHex, hex, String.toList_ofList]
  induction bytes with
  | nil => rfl
  | cons b bytes ih => rw [List.flatMap_cons, fromHexChars_hexByte, ih, Option.map_some]

/-- A character that is no digit does not occur in what is printed. -/
theorem not_mem_hex {c : Char} (h : ∀ n < 16, Nat.digitChar n ≠ c) (bytes : Bytes) :
    c ∉ (hex bytes).toList := by
  rw [hex, String.toList_ofList]
  intro mem
  obtain ⟨b, -, digit⟩ := List.mem_flatMap.1 mem
  have small : b.toNat < 256 := b.toNat_lt
  rcases List.mem_cons.1 digit with rfl | digit
  · exact h _ (by omega) rfl
  · exact h (b.toNat % 16) (by omega) (List.mem_singleton.1 digit).symm

/-! ## ASCII -/

/-- The texts that are ASCII are those of code points below 128. -/
theorem isAscii_iff {s : String} : isAscii s = true ↔ ∀ c ∈ s.toList, c.toNat < 128 := by
  have one (c : Char) : (∀ b ∈ String.utf8EncodeChar c, b < 128) ↔ c.toNat < 128 := by
    have value : c.val.toNat = c.toNat := rfl
    unfold String.utf8EncodeChar
    dsimp only
    split_ifs <;> simp [UInt8.lt_iff_toNat_lt] <;> omega
  rw [isAscii, encodeUtf8, ← String.utf8Encode_toList, List.utf8Encode]
  simp [one]

theorem ascii_escapeUnit (n : ℕ) : ∀ c ∈ escapeUnit n, c.toNat < 128 := by
  have digit (k : ℕ) : (Nat.digitChar (k % 16)).toNat < 128 :=
    (by decide : ∀ d < 16, (Nat.digitChar d).toNat < 128) _ (Nat.mod_lt k (by decide))
  simp [escapeUnit, digit]

/-- A literal is written with `ensure_ascii`. -/
theorem isAscii_quote (s : String) : isAscii (quote s) = true := by
  have escaped (c : Char) : ∀ c' ∈ escapeChar c, c'.toNat < 128 := by
    unfold escapeChar
    split_ifs with _ _ _ _ _ _ _ printable
    iterate 7 simp
    · rintro _ (_ | ⟨_, ⟨⟩⟩)
      omega
    · exact ascii_escapeUnit _
    · intro c' mem
      exact (List.mem_append.1 mem).elim (ascii_escapeUnit _ c') (ascii_escapeUnit _ c')
  rw [isAscii_iff, quote, String.toList_ofList]
  intro c' mem
  rcases List.mem_append.1 mem with mem | mem
  · rcases List.mem_cons.1 mem with rfl | mem
    · decide
    · obtain ⟨c, -, mem⟩ := List.mem_flatMap.1 mem
      exact escaped c c' mem
  · obtain rfl := List.mem_singleton.1 mem
    decide

/-! ## Integers -/

section Integers

variable [UnicodeDigits]

omit [UnicodeDigits] in
theorem ascii_of_isDigit {c : Char} (h : c.isDigit = true) :
    ('0' ≤ c ∧ c ≤ '9') ∧ c.val < 0x80 := by
  have digit : '0' ≤ c ∧ c ≤ '9' := by
    simp only [Char.isDigit, Bool.and_eq_true, decide_eq_true_eq] at h
    exact h
  exact ⟨digit, UInt32.lt_of_le_of_lt digit.2 (by decide : '9'.val < 0x80)⟩

theorem decimalDigit_of_isDigit {c : Char} (h : c.isDigit = true) :
    decimalDigit c = some (c.toNat - '0'.toNat) := by
  obtain ⟨digit, ascii⟩ := ascii_of_isDigit h
  rw [decimalDigit, if_pos ascii, if_pos digit]

omit [UnicodeDigits] in
theorem ne_underscore_of_isDigit {c : Char} (h : c.isDigit = true) : c ≠ '_' := by
  rintro rfl
  revert h
  decide

omit [UnicodeDigits] in
theorem isIntSpace_of_isDigit {c : Char} (h : c.isDigit = true) : isIntSpace c = false := by
  have ascii := (ascii_of_isDigit h).2
  revert h
  exact forall_ascii (P := fun c => c.isDigit = true → isIntSpace c = false) (by decide) ascii

/-- A run of decimal digits is read to its end. -/
theorem intDigits_of_isDigit {l : List Char} (h : ∀ c ∈ l, c.isDigit = true) (value count : ℕ) :
    intDigits value count l = some (Nat.ofDigitChars 10 l value, count + l.length) := by
  induction l generalizing value count with
  | nil => rfl
  | cons c l ih =>
    have digit := decimalDigit_of_isDigit (h c List.mem_cons_self)
    have rest := ih (fun d hd => h d (List.mem_cons_of_mem _ hd))
    rw [Nat.ofDigitChars_cons, List.length_cons]
    cases l with
    | nil => simp [intDigits, digit, Nat.mul_comm]
    | cons d l =>
      rw [intDigits, if_neg (ne_underscore_of_isDigit (h c List.mem_cons_self)), digit]
      simp only [Option.bind_eq_bind, Option.bind_some, rest, List.length_cons]
      rw [Nat.mul_comm value 10, Nat.add_right_comm, Nat.add_assoc count]

theorem intUnsigned_toDigits {n : ℕ} (short : (Nat.toDigits 10 n).length ≤ maxStrDigits) :
    intUnsigned (Nat.toDigits 10 n) = some n := by
  have digits (c : Char) (hc : c ∈ Nat.toDigits 10 n) : c.isDigit = true :=
    Nat.isDigit_of_mem_toDigits (by decide) (by decide) hc
  have value := Nat.ofDigitChars_ten_toDigits (n := n)
  obtain ⟨c, cs, whole⟩ := List.exists_cons_of_ne_nil (Nat.toDigits_ne_nil (n := n) (b := 10))
  rw [whole] at digits value short ⊢
  have rest := intDigits_of_isDigit (fun d hd => digits d (List.mem_cons_of_mem _ hd))
    (c.toNat - '0'.toNat) 1
  rw [Nat.ofDigitChars_cons, Nat.mul_zero, Nat.zero_add] at value
  rw [intUnsigned, decimalDigit_of_isDigit (digits c List.mem_cons_self)]
  simp only [Option.bind_eq_bind, Option.bind_some, rest, value]
  rw [List.length_cons] at short
  rw [if_pos (by omega)]

omit [UnicodeDigits] in
/-- What is printed of a natural number are decimal digits. -/
theorem isDigit_of_mem_strInt {n : ℕ} {text : String} (h : strInt n = some text) :
    ∀ c ∈ text.toList, c.isDigit = true := by
  unfold strInt at h
  split_ifs at h
  obtain rfl := Option.some.inj h
  have printed : (toString (n : ℤ)).toList = Nat.toDigits 10 n := Nat.toList_repr
  rw [printed]
  exact fun c hc => Nat.isDigit_of_mem_toDigits (by decide) (by decide) hc

/-- What is printed of a natural number is read as that number. -/
theorem int_of_strInt {n : ℕ} {text : String} (h : strInt n = some text) : int text = some (n : ℤ) := by
  have digits := isDigit_of_mem_strInt h
  unfold strInt at h
  split_ifs at h with short
  obtain rfl := Option.some.inj h
  have printed : (toString (n : ℤ)).toList = Nat.toDigits 10 n := Nat.toList_repr
  rw [printed] at digits
  have kept : trim isIntSpace (Nat.toDigits 10 n) = Nat.toDigits 10 n :=
    Trimmed.trim_eq ⟨fun c hc => isIntSpace_of_isDigit (digits c (List.mem_of_mem_head? hc)),
      fun c hc => isIntSpace_of_isDigit (digits c (List.mem_of_mem_getLast? hc))⟩
  have value : intUnsigned (Nat.toDigits 10 n) = some n := intUnsigned_toDigits short
  rw [trim, List.rdropWhile] at kept
  rw [int, printed, kept]
  split
  · rename_i cs signed
    exact absurd (digits '+' (signed ▸ List.mem_cons_self)) (by decide)
  · rename_i cs signed
    exact absurd (digits '-' (signed ▸ List.mem_cons_self)) (by decide)
  · rw [value]
    rfl

omit [UnicodeDigits] in
theorem strInt_of_lt {n : ℕ} (h : n < 10 ^ maxStrDigits) : ∃ text, strInt n = some text := by
  have short : (Nat.toDigits 10 n).length ≤ maxStrDigits :=
    (Nat.length_toDigits_le_iff (by decide) (by decide)).2 h
  exact ⟨_, if_pos short⟩

omit [UnicodeDigits] in
theorem strInt_of_le {n : ℕ} (h : 10 ^ maxStrDigits ≤ n) : strInt n = none := by
  have long : ¬ (Nat.toDigits 10 n).length ≤ maxStrDigits := fun short =>
    Nat.not_lt.2 h ((Nat.length_toDigits_le_iff (by decide) (by decide)).1 short)
  exact if_neg long

end Integers

/-! ## Separators -/

/-- The first part of a text is free of the separator that follows it. -/
theorem split_append {sep : Char} {s : String} (free : sep ∉ s.toList) (t : String) :
    split sep (s ++ .singleton sep ++ t) = s :: split sep t := by
  have whole : (s ++ .singleton sep ++ t).toList = s.toList ++ sep :: t.toList := by simp
  rw [split, whole, List.splitOn_append_cons_self_of_not_mem free, List.map_cons,
    String.ofList_toList, split]

theorem split_eq_singleton {sep : Char} {s : String} (free : sep ∉ s.toList) :
    split sep s = [s] := by
  rw [split, List.splitOn_eq_singleton free, List.map_singleton, String.ofList_toList]

end Py
