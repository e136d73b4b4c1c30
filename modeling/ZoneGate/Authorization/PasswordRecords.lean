import ZoneGate.Authorization.Passwords
import ZoneGate.Py.Numerals

/-!
# Stored passwords

What `verify_password` makes of a stored text: of any text whatever, where only the digest function
can still raise, and of the texts that `hash_password` writes, which are read back.
-/

namespace ZoneGate

open Py

/-! ## Any text -/

theorem Pbkdf2.Documented.returns_iff {pbkdf2 : Pbkdf2} {limit : ℤ}
    (documented : pbkdf2.Documented limit) (password salt : Bytes) (count : ℤ) :
    (∃ digest, pbkdf2 password salt count = .ok digest) ↔ 1 ≤ count ∧ count < limit := by
  constructor
  · rintro ⟨digest, returned⟩
    by_contra outside
    rcases Classical.em (count < -2 ^ 63 ∨ limit ≤ count) with far | near
    · obtain ⟨message, raised⟩ := documented.beyond password salt count far
      rw [raised] at returned
      cases returned
    · obtain ⟨message, raised⟩ := documented.low password salt count (by omega) (by omega)
      rw [raised] at returned
      cases returned
  · rintro ⟨positive, bounded⟩
    obtain ⟨digest, -, returned⟩ := documented.digest password salt count positive bounded
    exact ⟨digest, returned⟩

section Verify

variable [UnicodeDigits]

/-- A stored text with the fields of a record has an iteration count that the digest function
supports. -/
def CountSupported (limit : ℤ) (stored : String) : Prop :=
  ∀ rawIterations saltHex digestHex salt digest count,
    split '$' stored = [algorithm, rawIterations, saltHex, digestHex] →
      fromHex saltHex = some salt → fromHex digestHex = some digest →
        int rawIterations = some count → 1 ≤ count ∧ count < limit

theorem parseStored_eq_some_iff {stored : String} {salt digest : Bytes} {count : ℤ} :
    parseStored stored = some (salt, digest, count) ↔
      ∃ rawIterations saltHex digestHex,
        split '$' stored = [algorithm, rawIterations, saltHex, digestHex] ∧
          fromHex saltHex = some salt ∧ fromHex digestHex = some digest ∧
            int rawIterations = some count := by
  constructor
  · intro parsed
    unfold parseStored at parsed
    split at parsed
    · rename_i name rawIterations saltHex digestHex fields
      split_ifs at parsed with other
      simp only [Option.bind_eq_bind, Option.bind_eq_some_iff] at parsed
      obtain ⟨s, hsalt, d, hdigest, n, hcount, same⟩ := parsed
      cases same
      exact ⟨rawIterations, saltHex, digestHex, by rw [fields, not_not.1 other], hsalt, hdigest,
        hcount⟩
    · cases parsed
  · rintro ⟨rawIterations, saltHex, digestHex, fields, hsalt, hdigest, hcount⟩
    simp [parseStored, fields, hsalt, hdigest, hcount]

theorem verifyPassword_of_parsed (pbkdf2 : Pbkdf2) (password : String) {stored : String}
    {salt digest : Bytes} {count : ℤ} (parsed : parseStored stored = some (salt, digest, count)) :
    verifyPassword pbkdf2 password stored =
      (pbkdf2 (encodeUtf8 password) salt count).map fun candidate =>
        decide (candidate = digest) := by
  rw [verifyPassword, parsed]
  dsimp only
  cases pbkdf2 (encodeUtf8 password) salt count <;> rfl

/-- A verification answers exactly when the stored text names no count that the digest function
refuses. -/
theorem verify_returns_iff {pbkdf2 : Pbkdf2} {limit : ℤ} (documented : pbkdf2.Documented limit)
    (password stored : String) :
    (∃ answer, verifyPassword pbkdf2 password stored = .ok answer) ↔
      CountSupported limit stored := by
  rcases parsed : parseStored stored with _ | ⟨salt, digest, count⟩
  · refine iff_of_true ⟨false, by rw [verifyPassword, parsed]⟩ ?_
    intro raw saltHex digestHex salt digest count fields hsalt hdigest hcount
    rw [parseStored_eq_some_iff.2 ⟨raw, saltHex, digestHex, fields, hsalt, hdigest, hcount⟩]
      at parsed
    cases parsed
  have supported : CountSupported limit stored ↔ 1 ≤ count ∧ count < limit := by
    constructor
    · intro h
      obtain ⟨raw, saltHex, digestHex, fields, hsalt, hdigest, hcount⟩ :=
        parseStored_eq_some_iff.1 parsed
      exact h raw saltHex digestHex salt digest count fields hsalt hdigest hcount
    · intro bounds raw saltHex digestHex salt' digest' count' fields hsalt hdigest hcount
      have same := parseStored_eq_some_iff.2
        ⟨raw, saltHex, digestHex, fields, hsalt, hdigest, hcount⟩
      rw [parsed] at same
      cases same
      exact bounds
  rw [supported, ← documented.returns_iff (encodeUtf8 password) salt,
    verifyPassword_of_parsed pbkdf2 password parsed]
  cases pbkdf2 (encodeUtf8 password) salt count <;> simp [Except.map]

/-! ## The texts of `hash_password` -/

/-- The digest function when it always returns. -/
def Pbkdf2.total (digest : Bytes → Bytes → ℤ → Bytes) : Pbkdf2 :=
  fun password salt count => .ok (digest password salt count)

/-- A record, with its count already printed. -/
def recordText (count : String) (salt digest : Bytes) : String :=
  algorithm ++ "$" ++ count ++ "$" ++ hex salt ++ "$" ++ hex digest

omit [UnicodeDigits] in
theorem split_recordText {n : ℕ} {count : String} (printed : strInt n = some count)
    (salt digest : Bytes) :
    split '$' (recordText count salt digest) = [algorithm, count, hex salt, hex digest] := by
  have digits : '$' ∉ count.toList := fun mem =>
    absurd (isDigit_of_mem_strInt printed '$' mem) (by decide)
  have hexadecimal (bytes : Bytes) : '$' ∉ (hex bytes).toList := not_mem_hex (by decide) bytes
  have parts : recordText count salt digest = algorithm ++ .singleton '$' ++
      (count ++ .singleton '$' ++ (hex salt ++ .singleton '$' ++ hex digest)) := by
    simp only [recordText, String.append_assoc]
    rfl
  rw [parts, split_append (by decide), split_append digits, split_append (hexadecimal salt),
    split_eq_singleton (hexadecimal digest)]

/-- A record is read back. -/
theorem parseStored_recordText {n : ℕ} {count : String} (printed : strInt n = some count)
    (salt digest : Bytes) :
    parseStored (recordText count salt digest) = some (salt, digest, (n : ℤ)) :=
  parseStored_eq_some_iff.2 ⟨count, hex salt, hex digest, split_recordText printed salt digest,
    fromHex_hex salt, fromHex_hex digest, int_of_strInt printed⟩

omit [UnicodeDigits] in
theorem hashPassword_total (digest : Bytes → Bytes → ℤ → Bytes) (salt : Bytes) {password : String}
    (given : password ≠ "") (count : ℤ) :
    hashPassword (.total digest) salt password count =
      match strInt count with
      | none => .error (.value digitsMessage)
      | some text => .ok (recordText text salt (digest (encodeUtf8 password) salt count)) := by
  rw [hashPassword, if_neg given]
  rfl

/-- The records of passwords, of counts that are at least one. -/
structure RecordOf (digest : Bytes → Bytes → ℤ → Bytes) (record password : String) (salt : Bytes)
    (count : ℤ) : Prop where
  given : password ≠ ""
  positive : 1 ≤ count
  hashed : hashPassword (.total digest) salt password count = .ok record

/-- The text of a record, and its fields as they are read back. -/
theorem RecordOf.parsed {digest : Bytes → Bytes → ℤ → Bytes} {record password : String}
    {salt : Bytes} {count : ℤ} (h : RecordOf digest record password salt count) :
    parseStored record = some (salt, digest (encodeUtf8 password) salt count, count) := by
  have hashed := h.hashed
  rw [hashPassword_total digest salt h.given] at hashed
  obtain ⟨n, rfl⟩ := Int.eq_ofNat_of_zero_le (Int.le_trans Int.one_nonneg h.positive)
  rcases printed : strInt n with _ | text
  · rw [printed] at hashed
    cases hashed
  · rw [printed] at hashed
    cases hashed
    exact parseStored_recordText printed ..

/-- A record is made for every count that can be printed; whoever has the digest of its password is
verified against it, and nobody else; and a record determines its count, salt and digest. -/
theorem records_round_trip (digest : Bytes → Bytes → ℤ → Bytes) :
    (∀ password salt count, password ≠ "" → 1 ≤ count →
      ((∃ record, RecordOf digest record password salt count) ↔ count < 10 ^ maxStrDigits)) ∧
    (∀ record password salt count, RecordOf digest record password salt count → ∀ candidate,
      verifyPassword (.total digest) candidate record = .ok
        (decide (digest (encodeUtf8 candidate) salt count =
          digest (encodeUtf8 password) salt count))) ∧
    ∀ record password salt count password' salt' count',
      RecordOf digest record password salt count →
        RecordOf digest record password' salt' count' →
          count = count' ∧ salt = salt' ∧
            digest (encodeUtf8 password) salt count = digest (encodeUtf8 password') salt' count' := by
  refine ⟨fun password salt count given positive => ?_, fun record password salt count h candidate =>
    ?_, fun record password salt count password' salt' count' h h' => ?_⟩
  · obtain ⟨n, rfl⟩ := Int.eq_ofNat_of_zero_le (Int.le_trans Int.one_nonneg positive)
    have small : (n : ℤ) < 10 ^ maxStrDigits ↔ n < 10 ^ maxStrDigits := by exact_mod_cast Iff.rfl
    rw [small]
    constructor
    · rintro ⟨record, -, -, hashed⟩
      by_contra large
      rw [hashPassword_total digest salt given, strInt_of_le (Nat.not_lt.1 large)] at hashed
      cases hashed
    · intro bounded
      obtain ⟨text, printed⟩ := strInt_of_lt bounded
      exact ⟨_, given, positive, by rw [hashPassword_total digest salt given, printed]⟩
  · rw [verifyPassword_of_parsed _ candidate h.parsed]
    rfl
  · have same := h.parsed.symm.trans h'.parsed
    simp only [Option.some.injEq, Prod.mk.injEq] at same
    exact ⟨same.2.2, same.1, same.2.1⟩

end Verify

theorem verify_returns_iff_zero :
    (∃ answer, @verifyPassword Sample.unicodeDigits Sample.pbkdf2 "correct-horse"
        "pbkdf2_sha256$0$00$00" = .ok answer) ↔
      @CountSupported Sample.unicodeDigits (2 ^ 31) "pbkdf2_sha256$0$00$00" :=
  @verify_returns_iff Sample.unicodeDigits _ _ (Sample.limitedPbkdf2_documented (by decide)) _ _

/-- With the limit of a C long, a stored count of zero raises out of the verification. -/
theorem zero_count_raises :
    (Sample.limitedPbkdf2 (2 ^ 63)).Documented (2 ^ 63) ∧
      @verifyPassword Sample.unicodeDigits (Sample.limitedPbkdf2 (2 ^ 63)) "correct-horse"
        "pbkdf2_sha256$0$00$00" = .error (.value "iteration value must be greater than 0.") :=
  ⟨Sample.limitedPbkdf2_documented (by decide), by decide +kernel⟩

theorem records_round_trip_sample :
    ∃ record, RecordOf Sample.digest32 record "correct-horse" (List.replicate 16 0) 240000 ∧
      @verifyPassword Sample.unicodeDigits (.total Sample.digest32) "correct-horse" record =
        .ok true := by
  have trips := @records_round_trip Sample.unicodeDigits Sample.digest32
  have printable : (240000 : ℤ) < 10 ^ maxStrDigits :=
    lt_of_lt_of_le (by norm_num : (240000 : ℤ) < 10 ^ 6)
      (pow_le_pow_right₀ (by norm_num) (by decide))
  obtain ⟨record, made⟩ := (trips.1 "correct-horse" (List.replicate 16 0) 240000 (by decide)
    (by decide)).2 printable
  exact ⟨record, made, by simpa using trips.2.1 _ _ _ _ made "correct-horse"⟩

/-- No record is made for a count of 4301 digits. -/
theorem long_count_not_recorded :
    hashPassword (.total Sample.digest32) (List.replicate 16 0) "correct-horse" (10 ^ maxStrDigits) =
      .error (.value digitsMessage) := by
  have printed : strInt (10 ^ maxStrDigits) = none := by
    exact_mod_cast strInt_of_le (le_refl (10 ^ maxStrDigits))
  rw [hashPassword_total _ _ (by decide), printed]

end ZoneGate
