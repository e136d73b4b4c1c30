import ZoneGate.Py.Json
import ZoneGate.Py.Value

/-!
# JSON texts

Two encoders are in use: `model_dump_json` leaves no blanks and escapes only what a literal cannot
hold, `json.dumps` writes blanks after commas and escapes everything beyond ASCII.  The decoder
reads back what either of them writes.
-/

namespace Py

/-! ## Characters and blanks -/

/-- One character as `model_dump_json` writes it. -/
def escapeRaw (c : Char) : List Char :=
  if c = '"' then ['\\', '"']
  else if c = '\\' then ['\\', '\\']
  else if c = '\n' then ['\\', 'n']
  else if c = '\r' then ['\\', 'r']
  else if c = '\t' then ['\\', 't']
  else if c.toNat = 0x0c then ['\\', 'f']
  else if c.toNat = 0x08 then ['\\', 'b']
  else if c.toNat < 0x20 then escapeUnit c.toNat
  else [c]

theorem readChar_escapeRaw (c : Char) (rest : List Char) :
    readChar (escapeRaw c ++ rest) = some (c, rest) := by
  unfold escapeRaw
  split_ifs with quote backslash newline return' tab feed back control
  · rw [quote]; rfl
  · rw [backslash]; rfl
  · rw [newline]; rfl
  · rw [return']; rfl
  · rw [tab]; rfl
  · rw [← Char.ofNat_toNat c, feed]; rfl
  · rw [← Char.ofNat_toNat c, back]; rfl
  · rw [escapeUnit_append, readChar, readCodePoint_unit (by omega) (by omega), Char.ofNat_toNat]
  · simp [readChar, backslash]

theorem escapeRaw_avoids : Coding.PrefixCode.Avoids escapeRaw '"' := by
  intro c
  unfold escapeRaw
  split_ifs with quote <;> first
    | exact ⟨'\\', _, rfl, by decide⟩
    | exact ⟨c, [], rfl, quote⟩

def isJsonSpace (c : Char) : Bool := c = ' ' ∨ c = '\t' ∨ c = '\n' ∨ c = '\r'

/-- What is left after blanks. -/
def skipSpace (text : List Char) : List Char := text.dropWhile isJsonSpace

theorem skipSpace_cons {c : Char} (h : isJsonSpace c = false) (rest : List Char) :
    skipSpace (c :: rest) = c :: rest := by
  rw [skipSpace, List.dropWhile_cons_of_neg (by simp [h])]

theorem skipSpace_append {gap : List Char} (h : ∀ c ∈ gap, isJsonSpace c = true)
    (rest : List Char) : skipSpace (gap ++ rest) = skipSpace rest := by
  induction gap with
  | nil => rfl
  | cons c gap ih =>
    rw [List.cons_append, skipSpace, List.dropWhile_cons_of_pos (h c List.mem_cons_self)]
    exact ih fun c' mem => h c' (List.mem_cons_of_mem _ mem)

/-! ## Writing -/

/-- How an encoder writes: what it leaves between a comma or a colon and what comes after it, and
what it writes for a character of a string. -/
structure JsonStyle where
  gap : List Char
  char : Char → List Char
  blank : ∀ c ∈ gap, isJsonSpace c = true
  reads : ∀ c rest, readChar (char c ++ rest) = some (c, rest)
  avoids : Coding.PrefixCode.Avoids char '"'

/-- `model_dump_json` -/
def JsonStyle.compact : JsonStyle := ⟨[], escapeRaw, by simp, readChar_escapeRaw, escapeRaw_avoids⟩

/-- `json.dumps` -/
def JsonStyle.ascii : JsonStyle :=
  ⟨[' '], escapeChar, by simp [isJsonSpace], readChar_escapeChar, escapeChar_avoids⟩

/-- An integer in decimal. -/
def intText (v : ℤ) : List Char :=
  if v < 0 then '-' :: Nat.toDigits 10 v.natAbs else Nat.toDigits 10 v.natAbs

namespace JsonStyle

variable (style : JsonStyle)

def literal (s : String) : List Char := '"' :: (s.toList.flatMap style.char ++ ['"'])

mutual

def write : Json → List Char
  | .null => "null".toList
  | .bool true => "true".toList
  | .bool false => "false".toList
  | .int v => intText v
  | .float text => text.toList
  | .str s => style.literal s
  | .arr [] => ['[', ']']
  | .arr (v :: items) => '[' :: (write v ++ writeItems items)
  | .obj [] => ['\x7b', '\x7d']
  | .obj ((key, v) :: members) =>
      '\x7b' :: (style.literal key ++ (':' :: (style.gap ++ (write v ++ writeMembers members))))

/-- The items after the first, and the bracket. -/
def writeItems : List Json → List Char
  | [] => [']']
  | v :: items => ',' :: (style.gap ++ (write v ++ writeItems items))

/-- The members after the first, and the brace. -/
def writeMembers : List (String × Json) → List Char
  | [] => ['\x7d']
  | (key, v) :: members =>
      ',' :: (style.gap ++ (style.literal key ++
        (':' :: (style.gap ++ (write v ++ writeMembers members)))))

end

end JsonStyle

example : String.ofList (JsonStyle.compact.write (.obj [("a", .arr [.bool true, .null]),
    ("é", .int (-7))])) = "\x7b\"a\":[true,null],\"é\":-7\x7d" := by decide

/-! ## Numbers -/

def isNumberChar (c : Char) : Bool := c.isDigit || c ∈ ['-', '+', '.', 'e', 'E']

/-- Decimal digits without leading zeros. -/
def readDigits (text : List Char) : Option ℕ :=
  if text ≠ [] ∧ text.all Char.isDigit ∧ (text.head? = some '0' → text.length = 1) then
    some (Nat.ofDigitChars 10 text 0)
  else none

def readInt (text : List Char) : Option ℤ :=
  if text.head? = some '-' then (readDigits text.tail).map fun n : ℕ => -(n : ℤ)
  else (readDigits text).map fun n : ℕ => (n : ℤ)

/-- Nothing, or an exponent. -/
def isExponent : List Char → Bool
  | [] => true
  | c :: rest => (c = 'e' || c = 'E') &&
      (let digits := if rest.head? = some '-' ∨ rest.head? = some '+' then rest.tail else rest
       digits ≠ [] && digits.all Char.isDigit)

/-- A number with a fraction or an exponent. -/
def isFloat (text : List Char) : Bool :=
  let unsigned := if text.head? = some '-' then text.tail else text
  let rest := unsigned.dropWhile Char.isDigit
  (readDigits (unsigned.takeWhile Char.isDigit)).isSome && rest ≠ [] &&
    (if rest.head? = some '.' then
      rest.tail.takeWhile Char.isDigit ≠ [] && isExponent (rest.tail.dropWhile Char.isDigit)
     else isExponent rest)

/-- The number at the front of the text. -/
def readNumber (text : List Char) : Option (Json × List Char) :=
  let number := text.takeWhile isNumberChar
  let rest := text.dropWhile isNumberChar
  match readInt number with
  | some v => some (.int v, rest)
  | none => if isFloat number then some (.float (String.ofList number), rest) else none

/-! ## Reading -/

/-- The inside of a string literal, up to its closing quote. -/
def readLiteral : ℕ → List Char → Option (List Char × List Char)
  | 0, _ => none
  | n + 1, text =>
      if text.head? = some '"' then some ([], text.tail)
      else do
        let (c, rest) ← readChar text
        let (cs, rest) ← readLiteral n rest
        return (c :: cs, rest)

/-- What is left after the word. -/
def expect (word text : List Char) : Option (List Char) :=
  if word <+: text then some (text.drop word.length) else none

/-- A key and its colon. -/
def readKey (n : ℕ) (text : List Char) : Option (String × List Char) := do
  let rest ← expect ['"'] (skipSpace text)
  let (key, rest) ← readLiteral n rest
  let rest ← expect [':'] (skipSpace rest)
  return (String.ofList key, rest)

mutual

/-- The value at the front of the text, and the rest of the text. -/
def readValue : ℕ → List Char → Option (Json × List Char)
  | 0, _ => none
  | n + 1, text =>
      match skipSpace text with
      | [] => none
      | c :: rest =>
          if c = '"' then (readLiteral n rest).map fun r => (.str (String.ofList r.1), r.2)
          else if c = '[' then
            if (skipSpace rest).head? = some ']' then some (.arr [], (skipSpace rest).tail)
            else (readItems n rest).map fun r => (.arr r.1, r.2)
          else if c = '{' then
            if (skipSpace rest).head? = some '}' then some (.obj [], (skipSpace rest).tail)
            else (readMembers n rest).map fun r => (.obj r.1, r.2)
          else if c = 'n' then (expect "ull".toList rest).map fun rest => (.null, rest)
          else if c = 't' then (expect "rue".toList rest).map fun rest => (.bool true, rest)
          else if c = 'f' then (expect "alse".toList rest).map fun rest => (.bool false, rest)
          else readNumber (c :: rest)

/-- The items up to the closing bracket. -/
def readItems : ℕ → List Char → Option (List Json × List Char)
  | 0, _ => none
  | n + 1, text => do
      let (v, rest) ← readValue n text
      match skipSpace rest with
      | ',' :: rest => do
          let (items, rest) ← readItems n rest
          return (v :: items, rest)
      | ']' :: rest => return ([v], rest)
      | _ => none

/-- The members up to the closing brace, in their order. -/
def readMembers : ℕ → List Char → Option (List (String × Json) × List Char)
  | 0, _ => none
  | n + 1, text => do
      let (key, rest) ← readKey n text
      let (v, rest) ← readValue n rest
      match skipSpace rest with
      | ',' :: rest => do
          let (members, rest) ← readMembers n rest
          return ((key, v) :: members, rest)
      | '}' :: rest => return ([(key, v)], rest)
      | _ => none

end

/-- `json.loads` of a text that is JSON; of those that are not, only some are refused. -/
def loads (text : String) : Option Json :=
  match readValue (text.length + 1) text.toList with
  | some (v, rest) => if skipSpace rest = [] then some v else none
  | none => none

/-! ## What is written is read -/

/-- The text does not go on with a part of a number. -/
def EndsNumber (rest : List Char) : Prop := ∀ c ∈ rest.head?, isNumberChar c = false

/-- The numbers that are no integers are written as JSON has it. -/
inductive Json.WellFormed : Json → Prop
  | null : WellFormed .null
  | bool (b : Bool) : WellFormed (.bool b)
  | int (v : ℤ) : WellFormed (.int v)
  | float (text : String) (chars : ∀ c ∈ text.toList, isNumberChar c = true)
      (noInt : readInt text.toList = none) (float : isFloat text.toList = true) :
      WellFormed (.float text)
  | str (s : String) : WellFormed (.str s)
  | arr (items : List Json) (h : ∀ v ∈ items, WellFormed v) : WellFormed (.arr items)
  | obj (members : List (String × Json)) (h : ∀ e ∈ members, WellFormed e.2) :
      WellFormed (.obj members)

/-! ### Numbers -/

theorem head?_toDigits {n : ℕ} (h : (Nat.toDigits 10 n).head? = some '0') :
    (Nat.toDigits 10 n).length = 1 := by
  induction n using Nat.strong_induction_on with
  | _ n ih =>
    by_cases small : n < 10
    · rw [Nat.toDigits_of_lt_base small]
      rfl
    have split : Nat.toDigits 10 n = Nat.toDigits 10 (n / 10) ++ [Nat.digitChar (n % 10)] :=
      Nat.toDigits_of_base_le (by decide) (by omega)
    rw [split, List.head?_append_of_ne_nil _ Nat.toDigits_ne_nil] at h
    -- a number that begins with a zero is zero, and `n / 10` is not
    have one := ih (n / 10) (by omega) h
    by_cases tens : n / 10 < 10
    · rw [Nat.toDigits_of_lt_base tens] at h
      have zero : n / 10 = 0 := by
        generalize n / 10 = k at h tens
        interval_cases k <;> first | rfl | (revert h; decide)
      omega
    · rw [Nat.toDigits_of_base_le (by decide) (by omega), List.length_append] at one
      have nonempty := List.length_pos_iff.2 (Nat.toDigits_ne_nil (n := n / 10 / 10) (b := 10))
      simp only [List.length_singleton] at one
      omega

theorem all_isDigit_toDigits (n : ℕ) : (Nat.toDigits 10 n).all Char.isDigit = true :=
  List.all_eq_true.2 fun _ mem => Nat.isDigit_of_mem_toDigits (by decide) (by decide) mem

theorem readDigits_toDigits (n : ℕ) : readDigits (Nat.toDigits 10 n) = some n := by
  rw [readDigits, if_pos ⟨Nat.toDigits_ne_nil, all_isDigit_toDigits n, head?_toDigits⟩,
    Nat.ofDigitChars_ten_toDigits]

theorem head?_toDigits_ne_minus (n : ℕ) : (Nat.toDigits 10 n).head? ≠ some '-' := by
  intro minus
  have digit := List.all_eq_true.1 (all_isDigit_toDigits n) '-' (List.mem_of_mem_head? minus)
  revert digit
  decide

theorem readInt_intText (v : ℤ) : readInt (intText v) = some v := by
  unfold intText
  split_ifs with negative
  · rw [readInt, List.head?_cons, if_pos rfl, List.tail_cons, readDigits_toDigits, Option.map_some]
    exact congrArg some (by omega)
  · rw [readInt, if_neg (head?_toDigits_ne_minus _), readDigits_toDigits, Option.map_some]
    exact congrArg some (by omega)

theorem isNumberChar_of_isDigit {c : Char} (h : c.isDigit = true) : isNumberChar c = true := by
  rw [isNumberChar, h, Bool.true_or]

theorem isNumberChar_intText (v : ℤ) : ∀ c ∈ intText v, isNumberChar c = true := by
  have digits (c : Char) (mem : c ∈ Nat.toDigits 10 v.natAbs) : isNumberChar c = true :=
    isNumberChar_of_isDigit (List.all_eq_true.1 (all_isDigit_toDigits _) c mem)
  unfold intText
  split_ifs
  · rintro c mem
    rcases List.mem_cons.1 mem with rfl | mem
    · decide
    · exact digits c mem
  · exact digits

/-- A number is read up to where it ends. -/
theorem readNumber_append {number rest : List Char} (chars : ∀ c ∈ number, isNumberChar c = true)
    (ends : EndsNumber rest) : readNumber (number ++ rest) =
      match readInt number with
      | some v => some (.int v, rest)
      | none => if isFloat number then some (.float (String.ofList number), rest) else none := by
  have stop : rest.takeWhile isNumberChar = [] ∧ rest.dropWhile isNumberChar = rest := by
    cases rest with
    | nil => exact ⟨rfl, rfl⟩
    | cons c rest =>
      have other := ends c rfl
      exact ⟨List.takeWhile_cons_of_neg (by simp [other]),
        List.dropWhile_cons_of_neg (by simp [other])⟩
  rw [readNumber, List.takeWhile_append_of_pos chars, List.dropWhile_append_of_pos chars, stop.1,
    stop.2, List.append_nil]

/-! ### Strings -/

section Writing

variable (style : JsonStyle)

/-- Every character takes some room. -/
theorem length_le_flatMap (cs : List Char) : cs.length ≤ (cs.flatMap style.char).length := by
  induction cs with
  | nil => exact Nat.le_refl 0
  | cons c cs ih =>
    obtain ⟨x, word, eq, -⟩ := style.avoids c
    rw [List.flatMap_cons, eq, List.length_append, List.length_cons, List.length_cons]
    omega

theorem readLiteral_flatMap (cs : List Char) {n : ℕ} (fuel : cs.length < n) (rest : List Char) :
    readLiteral n (cs.flatMap style.char ++ '"' :: rest) = some (cs, rest) := by
  induction cs generalizing n with
  | nil =>
    obtain ⟨n, rfl⟩ := Nat.exists_eq_succ_of_ne_zero (by omega : n ≠ 0)
    rfl
  | cons c cs ih =>
    obtain ⟨n, rfl⟩ := Nat.exists_eq_succ_of_ne_zero (by omega : n ≠ 0)
    obtain ⟨x, word, eq, other⟩ := style.avoids c
    have first : ((c :: cs).flatMap style.char ++ '"' :: rest).head? ≠ some '"' := by
      simp [eq, other]
    rw [readLiteral, if_neg first, List.flatMap_cons, List.append_assoc, style.reads]
    simp only [Option.bind_eq_bind, Option.bind_some]
    rw [ih (by rw [List.length_cons] at fuel; omega)]
    rfl

theorem length_literal (s : String) :
    (style.literal s).length = (s.toList.flatMap style.char).length + 2 := by
  simp [JsonStyle.literal]

/-- A literal, after its opening quote. -/
theorem readLiteral_literal (s : String) {n : ℕ} (fuel : (style.literal s).length ≤ n + 1)
    (rest : List Char) :
    readLiteral n ((style.literal s).tail ++ rest) = some (s.toList, rest) := by
  have room := length_le_flatMap style s.toList
  rw [length_literal] at fuel
  rw [JsonStyle.literal, List.tail_cons, List.append_assoc]
  exact readLiteral_flatMap style s.toList (by omega) rest

theorem expect_append (word rest : List Char) : expect word (word ++ rest) = some rest := by
  rw [expect, if_pos (List.prefix_append ..), List.drop_left]

/-- A key with its colon and the blanks after it, where blanks may come before. -/
theorem readKey_literal (key : String) {n : ℕ} (fuel : (style.literal key).length ≤ n + 1)
    {front : List Char} (blank : ∀ c ∈ front, isJsonSpace c = true) (rest : List Char) :
    readKey n (front ++ (style.literal key ++ (':' :: rest))) = some (key, rest) := by
  have quoted : style.literal key ++ (':' :: rest) =
      ['"'] ++ ((style.literal key).tail ++ (':' :: rest)) := rfl
  have quote : skipSpace (['"'] ++ ((style.literal key).tail ++ (':' :: rest))) =
      ['"'] ++ ((style.literal key).tail ++ (':' :: rest)) := skipSpace_cons (by decide) _
  have colon : skipSpace (':' :: rest) = [':'] ++ rest := skipSpace_cons (by decide) _
  rw [readKey, skipSpace_append blank, quoted, quote, expect_append]
  simp only [Option.bind_eq_bind, Option.bind_some]
  rw [readLiteral_literal style key fuel]
  simp only [Option.bind_some]
  rw [colon, expect_append]
  simp

/-! ### Values -/

/-- How a value begins: with no blank, and with no bracket that closes a list. -/
def Opens (c : Char) : Prop := isJsonSpace c = false ∧ c ≠ ']'

theorem opens_of_isNumberChar {c : Char} (h : isNumberChar c = true) : Opens c := by
  refine ⟨?_, by rintro rfl; exact absurd h (by decide)⟩
  by_contra space
  rw [Bool.not_eq_false, isJsonSpace, decide_eq_true_iff] at space
  rcases space with rfl | rfl | rfl | rfl <;> exact absurd h (by decide)

theorem intText_ne_nil (v : ℤ) : intText v ≠ [] := by
  unfold intText
  split_ifs
  · exact List.cons_ne_nil _ _
  · exact Nat.toDigits_ne_nil

theorem write_opens {v : Json} (h : v.WellFormed) :
    ∃ c text, style.write v = c :: text ∧ Opens c := by
  have number {text : List Char} (chars : ∀ c ∈ text, isNumberChar c = true) (ne : text ≠ []) :
      ∃ c rest, text = c :: rest ∧ Opens c := by
    obtain ⟨c, rest, rfl⟩ := List.exists_cons_of_ne_nil ne
    exact ⟨c, rest, rfl, opens_of_isNumberChar (chars c List.mem_cons_self)⟩
  cases h with
  | null => exact ⟨_, _, rfl, by decide, by decide⟩
  | bool b => cases b <;> exact ⟨_, _, rfl, by decide, by decide⟩
  | int v => exact number (isNumberChar_intText v) (intText_ne_nil v)
  | float text chars _ float =>
    refine number chars fun empty => ?_
    rw [show text.toList = [] from empty] at float
    exact absurd float (by decide)
  | str s => exact ⟨_, _, rfl, by decide, by decide⟩
  | arr items => cases items <;> exact ⟨_, _, rfl, by decide, by decide⟩
  | obj members => cases members <;> exact ⟨_, _, rfl, by decide, by decide⟩

theorem readValue_blank {front : List Char} (blank : ∀ c ∈ front, isJsonSpace c = true) (n : ℕ)
    (text : List Char) : readValue n (front ++ text) = readValue n text := by
  cases n with
  | zero => rfl
  | succ n => rw [readValue, readValue, skipSpace_append blank]

theorem readItems_blank {front : List Char} (blank : ∀ c ∈ front, isJsonSpace c = true) (n : ℕ)
    (text : List Char) : readItems n (front ++ text) = readItems n text := by
  cases n with
  | zero => rfl
  | succ n => rw [readItems, readItems, readValue_blank blank]

/-- The value is read back, whatever comes after it. -/
def ReadBack (v : Json) : Prop :=
  ∀ n rest, EndsNumber rest → (style.write v).length ≤ n →
    readValue n (style.write v ++ rest) = some (v, rest)

theorem endsNumber_cons {c : Char} (h : isNumberChar c = false) (rest : List Char) :
    EndsNumber (c :: rest) := by
  rintro c' ⟨⟩
  exact h

theorem readItems_write (items : List Json) (v : Json) (read : ∀ u ∈ v :: items, ReadBack style u)
    {n : ℕ} (fuel : (style.write v).length + (style.writeItems items).length ≤ n)
    (rest : List Char) :
    readItems n (style.write v ++ (style.writeItems items ++ rest)) = some (v :: items, rest) := by
  induction items generalizing v n with
  | nil =>
    obtain ⟨n, rfl⟩ : ∃ m, n = m + 1 := Nat.exists_eq_succ_of_ne_zero (by
      simp only [JsonStyle.writeItems, List.length_singleton] at fuel
      omega)
    have value := read v List.mem_cons_self n ([']'] ++ rest)
      (endsNumber_cons (by decide) rest) (by
        simp only [JsonStyle.writeItems, List.length_singleton] at fuel
        omega)
    have close : skipSpace ([']'] ++ rest) = ']' :: rest := skipSpace_cons (by decide) rest
    rw [readItems, JsonStyle.writeItems, value]
    simp only [Option.bind_eq_bind, Option.bind_some, close]
    rfl
  | cons u items ih =>
    rw [JsonStyle.writeItems] at fuel ⊢
    simp only [List.length_cons, List.length_append] at fuel
    obtain ⟨n, rfl⟩ : ∃ m, n = m + 1 := Nat.exists_eq_succ_of_ne_zero (by omega)
    have value := read v List.mem_cons_self n
      (',' :: (style.gap ++ (style.write u ++ style.writeItems items)) ++ rest)
      (endsNumber_cons (by decide) _) (by omega)
    have comma : skipSpace
        (',' :: (style.gap ++ (style.write u ++ style.writeItems items)) ++ rest) =
        ',' :: (style.gap ++ (style.write u ++ (style.writeItems items ++ rest))) := by
      rw [List.cons_append, skipSpace_cons (by decide)]
      simp only [List.append_assoc]
    have others := ih u (fun w mem => read w (List.mem_cons_of_mem _ mem)) (n := n) (by omega)
    rw [readItems, value]
    simp only [Option.bind_eq_bind, Option.bind_some, comma]
    rw [readItems_blank style.blank, others]
    rfl

theorem readMembers_write (members : List (String × Json)) (key : String) (v : Json)
    (read : ∀ e ∈ (key, v) :: members, ReadBack style e.2) {n : ℕ}
    (fuel : (style.literal key).length + (style.write v).length +
      (style.writeMembers members).length ≤ n)
    {front : List Char} (blank : ∀ c ∈ front, isJsonSpace c = true) (rest : List Char) :
    readMembers n (front ++ (style.literal key ++
      (':' :: (style.gap ++ (style.write v ++ (style.writeMembers members ++ rest)))))) =
        some ((key, v) :: members, rest) := by
  induction members generalizing key v n front with
  | nil =>
    simp only [JsonStyle.writeMembers, List.length_singleton] at fuel
    obtain ⟨n, rfl⟩ : ∃ m, n = m + 1 := Nat.exists_eq_succ_of_ne_zero (by omega)
    have here : ReadBack style v := read (key, v) List.mem_cons_self
    have value := here n (['\x7d'] ++ rest) (endsNumber_cons (by decide) rest) (by omega)
    have close : skipSpace (['\x7d'] ++ rest) = '\x7d' :: rest := skipSpace_cons (by decide) rest
    rw [readMembers, readKey_literal style key (by omega) blank]
    simp only [Option.bind_eq_bind, Option.bind_some]
    rw [readValue_blank style.blank, JsonStyle.writeMembers, value]
    simp only [Option.bind_some, close]
    rfl
  | cons e members ih =>
    obtain ⟨key', u⟩ := e
    rw [JsonStyle.writeMembers] at fuel ⊢
    simp only [List.length_cons, List.length_append] at fuel
    obtain ⟨n, rfl⟩ : ∃ m, n = m + 1 := Nat.exists_eq_succ_of_ne_zero (by omega)
    have here : ReadBack style v := read (key, v) List.mem_cons_self
    have value := here n (',' :: (style.gap ++ (style.literal key' ++
      (':' :: (style.gap ++ (style.write u ++ style.writeMembers members))))) ++ rest)
      (endsNumber_cons (by decide) _) (by omega)
    have comma : skipSpace (',' :: (style.gap ++ (style.literal key' ++
        (':' :: (style.gap ++ (style.write u ++ style.writeMembers members))))) ++ rest) =
        ',' :: (style.gap ++ (style.literal key' ++
          (':' :: (style.gap ++ (style.write u ++ (style.writeMembers members ++ rest)))))) := by
      rw [List.cons_append, skipSpace_cons (by decide)]
      simp only [List.append_assoc, List.cons_append]
    have others := ih key' u (fun e mem => read e (List.mem_cons_of_mem _ mem)) (n := n) (by omega)
      style.blank
    rw [readMembers, readKey_literal style key (by omega) blank]
    simp only [Option.bind_eq_bind, Option.bind_some]
    rw [readValue_blank style.blank, value]
    simp only [Option.bind_some, comma]
    rw [others]
    rfl

/-- The fuel is not spent before the first character. -/
theorem ReadBack.of_succ {v : Json} (h : v.WellFormed)
    (read : ∀ n rest, EndsNumber rest → (style.write v).length ≤ n + 1 →
      readValue (n + 1) (style.write v ++ rest) = some (v, rest)) : ReadBack style v := by
  intro n rest ends fuel
  obtain ⟨c, text, eq, -⟩ := write_opens style h
  cases n with
  | zero => rw [eq] at fuel; exact absurd fuel (Nat.not_succ_le_zero _)
  | succ n => exact read n rest ends fuel

theorem readValue_number {number : List Char} (chars : ∀ c ∈ number, isNumberChar c = true)
    (ne : number ≠ []) (n : ℕ) (rest : List Char) :
    readValue (n + 1) (number ++ rest) = readNumber (number ++ rest) := by
  obtain ⟨c, cs, rfl⟩ := List.exists_cons_of_ne_nil ne
  have numeral := chars c List.mem_cons_self
  have other (c' : Char) (h : isNumberChar c' = false) : c ≠ c' := by
    rintro rfl
    simp [numeral] at h
  rw [readValue, List.cons_append, skipSpace_cons (opens_of_isNumberChar numeral).1]
  simp only [if_neg (other '"' (by decide)), if_neg (other '[' (by decide)),
    if_neg (other '\x7b' (by decide)), if_neg (other 'n' (by decide)),
    if_neg (other 't' (by decide)), if_neg (other 'f' (by decide))]

/-- What is written of a value is read as that value. -/
theorem readBack {v : Json} (h : v.WellFormed) : ReadBack style v := by
  induction h with
  | null =>
    refine .of_succ style .null fun n rest _ _ => ?_
    have word := expect_append "ull".toList rest
    have spaced : skipSpace (style.write .null ++ rest) = 'n' :: ("ull".toList ++ rest) :=
      skipSpace_cons (by decide) _
    rw [readValue, spaced]
    simpa using word
  | bool b =>
    refine .of_succ style (.bool b) fun n rest _ _ => ?_
    cases b with
    | true =>
      have word := expect_append "rue".toList rest
      have spaced : skipSpace (style.write (.bool true) ++ rest) = 't' :: ("rue".toList ++ rest) :=
        skipSpace_cons (by decide) _
      rw [readValue, spaced]
      simpa using word
    | false =>
      have word := expect_append "alse".toList rest
      have spaced : skipSpace (style.write (.bool false) ++ rest) =
          'f' :: ("alse".toList ++ rest) := skipSpace_cons (by decide) _
      rw [readValue, spaced]
      simpa using word
  | int v =>
    refine .of_succ style (.int v) fun n rest ends _ => ?_
    rw [JsonStyle.write, readValue_number (isNumberChar_intText v) (intText_ne_nil v),
      readNumber_append (isNumberChar_intText v) ends, readInt_intText]
  | float text chars noInt float =>
    refine .of_succ style (.float text chars noInt float) fun n rest ends _ => ?_
    have ne : text.toList ≠ [] := fun empty => by
      rw [empty] at float
      exact absurd float (by decide)
    rw [JsonStyle.write, readValue_number chars ne, readNumber_append chars ends, noInt]
    simp [float]
  | str s =>
    refine .of_succ style (.str s) fun n rest _ fuel => ?_
    have spaced : skipSpace (style.write (.str s) ++ rest) =
        '"' :: ((style.literal s).tail ++ rest) := skipSpace_cons (by decide) _
    rw [readValue, spaced]
    simp only [if_true]
    rw [readLiteral_literal style s fuel]
    simp
  | arr items h ih =>
    refine .of_succ style (.arr items h) fun n rest _ fuel => ?_
    cases items with
    | nil =>
      have spaced : skipSpace (style.write (.arr []) ++ rest) = '[' :: (']' :: rest) :=
        skipSpace_cons (by decide) _
      have close : skipSpace (']' :: rest) = ']' :: rest := skipSpace_cons (by decide) _
      rw [readValue, spaced]
      simp [close]
    | cons v items =>
      obtain ⟨c, text, eq, opens⟩ := write_opens style (h v List.mem_cons_self)
      simp only [JsonStyle.write, List.length_cons, List.length_append] at fuel
      have spaced : skipSpace (style.write (.arr (v :: items)) ++ rest) =
          '[' :: (style.write v ++ (style.writeItems items ++ rest)) := by
        rw [JsonStyle.write, List.cons_append, skipSpace_cons (by decide), List.append_assoc]
      have first : (skipSpace (style.write v ++ (style.writeItems items ++ rest))).head? ≠
          some ']' := by
        rw [eq, List.cons_append, skipSpace_cons opens.1, List.head?_cons]
        exact fun close => opens.2 (Option.some.inj close)
      rw [readValue, spaced]
      simp only [if_neg first]
      rw [readItems_write style items v ih (by omega)]
      simp
  | obj members h ih =>
    refine .of_succ style (.obj members h) fun n rest _ fuel => ?_
    cases members with
    | nil =>
      have spaced : skipSpace (style.write (.obj []) ++ rest) = '\x7b' :: ('\x7d' :: rest) :=
        skipSpace_cons (by decide) _
      have close : skipSpace ('\x7d' :: rest) = '\x7d' :: rest := skipSpace_cons (by decide) _
      rw [readValue, spaced]
      simp [close]
    | cons e members =>
      obtain ⟨key, v⟩ := e
      simp only [JsonStyle.write, List.length_cons, List.length_append] at fuel
      have spaced : skipSpace (style.write (.obj ((key, v) :: members)) ++ rest) =
          '\x7b' :: (style.literal key ++ (':' :: (style.gap ++ (style.write v ++
            (style.writeMembers members ++ rest))))) := by
        rw [JsonStyle.write, List.cons_append, skipSpace_cons (by decide)]
        simp only [List.append_assoc, List.cons_append]
      have first (text : List Char) : (skipSpace (style.literal key ++ text)).head? ≠
          some '\x7d' := by
        have quote : skipSpace (style.literal key ++ text) = style.literal key ++ text :=
          skipSpace_cons (by decide) _
        rw [quote]
        simp [JsonStyle.literal]
      have none : ∀ c ∈ ([] : List Char), isJsonSpace c = true := List.forall_mem_nil _
      have others := readMembers_write style members key v ih (n := n) (by omega) none rest
      rw [List.nil_append] at others
      rw [readValue, spaced]
      simp only [if_neg (first _)]
      rw [others]
      simp

/-- `loads(dumps(v)) == v` -/
theorem loads_write {v : Json} (h : v.WellFormed) :
    loads (String.ofList (style.write v)) = some v := by
  have whole := readBack style h ((style.write v).length + 1) [] nofun (by omega)
  rw [List.append_nil] at whole
  rw [loads, String.toList_ofList, String.length_ofList, whole]
  rfl

end Writing

end Py
