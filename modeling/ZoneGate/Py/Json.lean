import ZoneGate.Py.Numerals
import ZoneGate.Library.PrefixCode

/-!
# Reading JSON back

A string literal, and the dump of a dictionary of strings, can be read back: `json.dumps` with
`ensure_ascii` is injective on strings of Unicode scalar values, and the dump of a dictionary
determines its items.
-/

namespace Py

open Coding

/-! ## Escapes -/

/-- Four hexadecimal digits and the rest of the text. -/
def readUnit : List Char → Option (ℕ × List Char)
  | a :: b :: c :: d :: rest => do
      let a ← hexDigit a
      let b ← hexDigit b
      let c ← hexDigit c
      let d ← hexDigit d
      return (a * 4096 + b * 256 + c * 16 + d, rest)
  | _ => none

/-- The character of a `\uXXXX` escape, of which the `\u` is already read; the first half of a
surrogate pair is followed by the second. -/
def readCodePoint (text : List Char) : Option (Char × List Char) := do
  let (unit, rest) ← readUnit text
  if 0xd800 ≤ unit ∧ unit < 0xdc00 then
    match rest with
    | '\\' :: 'u' :: rest => do
        let (low, rest) ← readUnit rest
        return (Char.ofNat (0x10000 + (unit - 0xd800) * 0x400 + (low - 0xdc00)), rest)
    | _ => none
  else return (Char.ofNat unit, rest)

/-- The character at the front of the inside of a string literal. -/
def readChar : List Char → Option (Char × List Char)
  | [] => none
  | '\\' :: 'u' :: rest => readCodePoint rest
  | '\\' :: 'n' :: rest => some ('\n', rest)
  | '\\' :: 'r' :: rest => some ('\r', rest)
  | '\\' :: 't' :: rest => some ('\t', rest)
  | '\\' :: 'f' :: rest => some (Char.ofNat 0x0c, rest)
  | '\\' :: 'b' :: rest => some (Char.ofNat 0x08, rest)
  | '\\' :: c :: rest => some (c, rest)
  | c :: rest => some (c, rest)

theorem readUnit_escapeUnit {n : ℕ} (h : n < 0x10000) (rest : List Char) :
    readUnit ((escapeUnit n).drop 2 ++ rest) = some (n, rest) := by
  have digit (k : ℕ) : hexDigit (Nat.digitChar (k % 16)) = some (k % 16) :=
    hexDigit_digitChar (Nat.mod_lt _ (by decide))
  have value : n / 4096 % 16 * 4096 + n / 256 % 16 * 256 + n / 16 % 16 * 16 + n % 16 = n := by omega
  simp [escapeUnit, readUnit, digit, value]

theorem readCodePoint_unit {n : ℕ} (h : n < 0x10000) (plane : ¬ (0xd800 ≤ n ∧ n < 0xdc00))
    (rest : List Char) :
    readCodePoint ((escapeUnit n).drop 2 ++ rest) = some (Char.ofNat n, rest) := by
  rw [readCodePoint, readUnit_escapeUnit h]
  simp [plane]

theorem escapeUnit_append (n : ℕ) (rest : List Char) :
    escapeUnit n ++ rest = '\\' :: 'u' :: ((escapeUnit n).drop 2 ++ rest) := rfl

theorem readCodePoint_pair {high low : ℕ} (hhigh : 0xd800 ≤ high ∧ high < 0xdc00)
    (hlow : low < 0x10000) (rest : List Char) :
    readCodePoint ((escapeUnit high).drop 2 ++ (escapeUnit low ++ rest)) =
      some (Char.ofNat (0x10000 + (high - 0xd800) * 0x400 + (low - 0xdc00)), rest) := by
  rw [readCodePoint, readUnit_escapeUnit (by omega), escapeUnit_append low]
  simp [hhigh, readUnit_escapeUnit hlow]

/-- What is written for a character is read as that character. -/
theorem readChar_escapeChar (c : Char) (rest : List Char) :
    readChar (escapeChar c ++ rest) = some (c, rest) := by
  have scalar : c.toNat < 0xd800 ∨ 0xdfff < c.toNat ∧ c.toNat < 0x110000 := c.valid
  unfold escapeChar
  split_ifs with quote backslash newline return' tab feed back printable plane
  · rw [quote]; rfl
  · rw [backslash]; rfl
  · rw [newline]; rfl
  · rw [return']; rfl
  · rw [tab]; rfl
  · rw [← Char.ofNat_toNat c, feed]; rfl
  · rw [← Char.ofNat_toNat c, back]; rfl
  · simp [readChar, backslash]
  · rw [escapeUnit_append, readChar, readCodePoint_unit plane (by omega), Char.ofNat_toNat]
  · have value : 0x10000 + (0xd800 + (c.toNat - 0x10000) / 0x400 - 0xd800) * 0x400 +
        (0xdc00 + (c.toNat - 0x10000) % 0x400 - 0xdc00) = c.toNat := by omega
    rw [List.append_assoc, escapeUnit_append, readChar, readCodePoint_pair (by omega) (by omega),
      value, Char.ofNat_toNat]

theorem escapeChar_code : PrefixCode escapeChar := .of_reader readChar_escapeChar

/-- A closing quote is never written for a character. -/
theorem escapeChar_avoids : PrefixCode.Avoids escapeChar '"' := by
  intro c
  unfold escapeChar
  split_ifs with quote <;> first
    | exact ⟨'\\', _, rfl, by decide⟩
    | exact ⟨c, [], rfl, quote⟩

/-! ## Literals and dictionaries -/

theorem quote_code : PrefixCode fun s : String => (quote s).toList := by
  have inside := (escapeChar_code.flatMap_stop escapeChar_avoids).prepend ['"']
  intro s t xs ys e
  simp only [quote, String.toList_ofList] at e
  obtain ⟨same, rest⟩ := inside s.toList t.toList xs ys (by simpa using e)
  exact ⟨String.toList_inj.1 same, rest⟩

theorem quote_injective : Function.Injective quote := fun s t e =>
  (quote_code s t [] [] (by simp [e])).1

/-- An item of a dictionary as it is written. -/
def dumpItem (f : String × String) : String := quote f.1 ++ ": " ++ quote f.2

theorem dumpItem_code : PrefixCode fun f => (dumpItem f).toList := by
  have item := (quote_code.append ": ".toList).pair quote_code
  intro f g xs ys e
  exact item f g xs ys (by simpa [dumpItem] using e)

theorem dumpItem_avoids (c : Char) (h : c ≠ '"') :
    PrefixCode.Avoids (fun f => (dumpItem f).toList) c := fun f =>
  ⟨'"', f.1.toList.flatMap escapeChar ++ ['"'] ++ ": ".toList ++ (quote f.2).toList,
    by simp [dumpItem, quote], Ne.symm h⟩

theorem toList_join (sep : String) (xs : List String) :
    (join sep xs).toList = sep.toList.intercalate (xs.map String.toList) := by
  induction xs with
  | nil => rfl
  | cons x xs ih =>
    rcases xs with _ | ⟨y, ys⟩
    · simp [join]
    · rw [join]
      · simp [ih, List.intercalate]
      · simp

/-- Two dictionaries with one dump have the same items. -/
theorem perm_of_dumpsSorted {fields fields' : List (String × String)}
    (e : dumpsSorted fields = dumpsSorted fields') : fields.Perm fields' := by
  have items : Function.Injective fun l : List (String × String) =>
      ", ".toList.intercalate (l.map fun f => (dumpItem f).toList) ++ ['\x7d'] :=
    (dumpItem_code.intercalate_stop (dumpItem_avoids _ (by decide)) (by decide)).injective
  have dump (fields : List (String × String)) : (dumpsSorted fields).toList =
      '\x7b' :: ((", ".toList.intercalate ((fields.insertionSort fun a b => a.1 ≤ b.1).map
        fun f => (dumpItem f).toList)) ++ ['\x7d']) := by
    simp [dumpsSorted, toList_join, dumpItem, Function.comp_def]
  have same := congrArg String.toList e
  rw [dump, dump, List.cons.injEq] at same
  have sorted := items same.2
  have left := List.perm_insertionSort (fun a b : String × String => a.1 ≤ b.1) fields
  have right := List.perm_insertionSort (fun a b : String × String => a.1 ≤ b.1) fields'
  rw [sorted] at left
  exact left.symm.trans right

end Py
