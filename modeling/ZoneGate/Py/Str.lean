import Mathlib.Data.List.Sort

/-!
# Strings as Python handles them

`str.strip`, `str.upper`, `str.lower`, `str.join` and the escaping of `json.dumps`.  ASCII letters
are mapped here; the case mappings of the other code points come from the Unicode database, which
is the parameter `Unicode`.
-/

namespace Py

/-- The case mappings of the Unicode database outside ASCII: `upper` maps a code point to one or
more, `lower` depends on the whole string (a final sigma is lowered differently). -/
class Unicode where
  upper : Char → List Char
  lower : String → String

/-- The whitespace that `str.strip` removes. -/
def isSpace (c : Char) : Bool :=
  c.val ∈ [0x09, 0x0a, 0x0b, 0x0c, 0x0d, 0x1c, 0x1d, 0x1e, 0x1f, 0x20, 0x85, 0xa0, 0x1680, 0x2000,
    0x2001, 0x2002, 0x2003, 0x2004, 0x2005, 0x2006, 0x2007, 0x2008, 0x2009, 0x200a, 0x2028, 0x2029,
    0x202f, 0x205f, 0x3000]

/-- `str.strip()`. -/
def strip (s : String) : String :=
  .ofList ((s.toList.dropWhile isSpace).reverse.dropWhile isSpace).reverse

def upperChar [Unicode] (c : Char) : List Char :=
  if c.val < 0x80 then [c.toUpper] else Unicode.upper c

/-- `str.upper()`. -/
def upper [Unicode] (s : String) : String := .ofList (s.toList.flatMap upperChar)

/-- `str.lower()`. -/
def lower [Unicode] (s : String) : String :=
  if s.toList.all (·.val < 0x80) then .ofList (s.toList.map Char.toLower) else Unicode.lower s

/-- `s.removeprefix(p)`, the slice `s[len(p):] if s.startswith(p) else s`. -/
def removePrefix (p s : String) : String :=
  if p.toList.isPrefixOf s.toList then .ofList (s.toList.drop p.length) else s

/-- `sep.join(xs)`. -/
def join (sep : String) : List String → String
  | [] => ""
  | [x] => x
  | x :: xs => x ++ sep ++ join sep xs

/-! ## JSON string literals -/

/-- `\uXXXX` with four lower-case hexadecimal digits. -/
def escapeUnit (n : ℕ) : List Char :=
  ['\\', 'u', Nat.digitChar (n / 4096 % 16), Nat.digitChar (n / 256 % 16),
    Nat.digitChar (n / 16 % 16), Nat.digitChar (n % 16)]

/-- One character as `json.dumps` writes it with `ensure_ascii`; code points beyond the basic
plane become a surrogate pair. -/
def escapeChar (c : Char) : List Char :=
  if c = '"' then ['\\', '"']
  else if c = '\\' then ['\\', '\\']
  else if c = '\n' then ['\\', 'n']
  else if c = '\r' then ['\\', 'r']
  else if c = '\t' then ['\\', 't']
  else if c.toNat = 0x0c then ['\\', 'f']
  else if c.toNat = 0x08 then ['\\', 'b']
  else if 0x20 ≤ c.toNat ∧ c.toNat ≤ 0x7e then [c]
  else if c.toNat < 0x10000 then escapeUnit c.toNat
  else
    escapeUnit (0xd800 + (c.toNat - 0x10000) / 0x400) ++
      escapeUnit (0xdc00 + (c.toNat - 0x10000) % 0x400)

/-- A string as a JSON literal. -/
def quote (s : String) : String := .ofList ('"' :: s.toList.flatMap escapeChar ++ ['"'])

/-- `json.dumps(fields, sort_keys=True)` for an object whose values are strings. -/
def dumpsSorted (fields : List (String × String)) : String :=
  "\x7b" ++ join ", " ((fields.insertionSort fun a b => a.1 ≤ b.1).map fun f =>
    quote f.1 ++ ": " ++ quote f.2) ++ "\x7d"

example : dumpsSorted [("b", "é"), ("a", "x\"y")] =
    "\x7b\"a\": \"x\\\"y\", \"b\": \"\\u00e9\"\x7d" := by decide

end Py
