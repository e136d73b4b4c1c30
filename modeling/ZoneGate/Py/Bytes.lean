import ZoneGate.Py.Str

/-!
# Bytes and numbers as Python parses them

`str.encode`, `bytes.hex`, `bytes.fromhex`, `str.split` and `int`.  The decimal digits beyond ASCII
that `int` accepts come from the Unicode database, which is the parameter `UnicodeDigits`.
-/

namespace Py

abbrev Bytes := List UInt8

/-- `s.encode("utf-8")`. -/
def encodeUtf8 (s : String) : Bytes := s.toByteArray.data.toList

/-- `str.isascii`: each code point takes one byte. -/
def isAscii (s : String) : Bool := (encodeUtf8 s).all (· < 128)

/-- `s.split(sep)` for a separator of one character. -/
def split (sep : Char) (s : String) : List String := (s.toList.splitOn sep).map .ofList

/-! ## Hexadecimal -/

/-- The two lower-case digits of a byte. -/
def hexByte (b : UInt8) : List Char := [Nat.digitChar (b.toNat / 16), Nat.digitChar (b.toNat % 16)]

/-- `b.hex()`. -/
def hex (b : Bytes) : String := .ofList (b.flatMap hexByte)

/-- The whitespace of C, which `bytes.fromhex` and `int` skip in ASCII text. -/
def isAsciiSpace (c : Char) : Bool := c.val ∈ [0x09, 0x0a, 0x0b, 0x0c, 0x0d, 0x20]

def hexDigit (c : Char) : Option ℕ :=
  if '0' ≤ c ∧ c ≤ '9' then some (c.toNat - '0'.toNat)
  else if 'a' ≤ c ∧ c ≤ 'f' then some (c.toNat - 'a'.toNat + 10)
  else if 'A' ≤ c ∧ c ≤ 'F' then some (c.toNat - 'A'.toNat + 10)
  else none

/-- Pairs of digits, with whitespace before, between and after the pairs. -/
def fromHexChars : List Char → Option Bytes
  | [] => some []
  | [c] => if isAsciiSpace c then some [] else none
  | c :: d :: cs =>
      if isAsciiSpace c then fromHexChars (d :: cs)
      else do
        let high ← hexDigit c
        let low ← hexDigit d
        let rest ← fromHexChars cs
        return UInt8.ofNat (high * 16 + low) :: rest

/-- `bytes.fromhex(s)`, with `None` for a `ValueError`. -/
def fromHex (s : String) : Option Bytes := fromHexChars s.toList

/-! ## Integers -/

/-- The values of the decimal digits beyond ASCII. -/
class UnicodeDigits where
  decimal : Char → Option ℕ

variable [UnicodeDigits]

def decimalDigit (c : Char) : Option ℕ :=
  if c.val < 0x80 then
    if '0' ≤ c ∧ c ≤ '9' then some (c.toNat - '0'.toNat) else none
  else UnicodeDigits.decimal c

def isIntSpace (c : Char) : Bool := if c.val < 0x80 then isAsciiSpace c else isSpace c

/-- The digits after the first, each with an underscore before it or none: the value and the
number of digits. -/
def intDigits (value count : ℕ) : List Char → Option (ℕ × ℕ)
  | [] => some (value, count)
  | [c] => (decimalDigit c).map fun d => (value * 10 + d, count + 1)
  | c :: c' :: cs =>
      if c = '_' then do
        let d ← decimalDigit c'
        intDigits (value * 10 + d) (count + 1) cs
      else do
        let d ← decimalDigit c
        intDigits (value * 10 + d) (count + 1) (c' :: cs)

/-- More digits than this are refused, in either direction. -/
def maxStrDigits : ℕ := 4300

/-- `str(n)`, with `None` for a `ValueError`. -/
def strInt (n : ℤ) : Option String :=
  if (Nat.toDigits 10 n.natAbs).length ≤ maxStrDigits then some (toString n) else none

def intUnsigned : List Char → Option ℕ
  | [] => none
  | c :: cs => do
      let d ← decimalDigit c
      let (value, count) ← intDigits d 1 cs
      if count ≤ maxStrDigits then some value else none

/-- `int(s)`, with `None` for a `ValueError`. -/
def int (s : String) : Option ℤ :=
  match ((s.toList.dropWhile isIntSpace).reverse.dropWhile isIntSpace).reverse with
  | '+' :: cs => (intUnsigned cs).map fun n => n
  | '-' :: cs => (intUnsigned cs).map fun n => -n
  | cs => (intUnsigned cs).map fun n => n

end Py
