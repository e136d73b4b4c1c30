import ZoneGate.Py.Bytes
import Mathlib.Algebra.Group.Int.Defs

/-!
# Console password hashing

A stored password carries the algorithm, the iteration count, the salt and the digest.  The digest
function is a parameter; the salt is drawn by the caller.
-/

namespace ZoneGate

open Py

/-- The exceptions of hashing: `ValueError` and `OverflowError`. -/
inductive PasswordError
  | value (message : String)
  | overflow (message : String)
deriving DecidableEq, Repr

/-- `hashlib.pbkdf2_hmac("sha256", password, salt, iterations)`. -/
abbrev Pbkdf2 := Bytes → Bytes → ℤ → Except PasswordError Bytes

def algorithm : String := "pbkdf2_sha256"

def iterations : ℤ := 240000

def digitsMessage : String :=
  "Exceeds the limit (" ++ toString maxStrDigits ++ " digits) for integer string conversion; " ++
    "use sys.set_int_max_str_digits() to increase the limit"

/-- `pbkdf2_sha256$<iterations>$<salt-hex>$<hash-hex>` -/
def hashPassword (pbkdf2 : Pbkdf2) (salt : Bytes) (password : String) (count : ℤ := iterations) :
    Except PasswordError String :=
  if password = "" then .error (.value "A console password cannot be empty")
  else do
    let digest ← pbkdf2 (encodeUtf8 password) salt count
    match strInt count with
    | none => .error (.value digitsMessage)
    | some count => return algorithm ++ "$" ++ count ++ "$" ++ hex salt ++ "$" ++ hex digest

/-- What the documentation of the digest function promises: it answers for the counts from one up to
a limit. -/
structure Pbkdf2.Documented (pbkdf2 : Pbkdf2) (limit : ℤ) : Prop where
  low : ∀ password salt count, count < 1 → -2 ^ 63 ≤ count →
    ∃ message, pbkdf2 password salt count = .error (.value message)
  beyond : ∀ password salt count, count < -2 ^ 63 ∨ limit ≤ count →
    ∃ message, pbkdf2 password salt count = .error (.overflow message)
  digest : ∀ password salt count, 1 ≤ count → count < limit →
    ∃ bytes, bytes.length = 32 ∧ pbkdf2 password salt count = .ok bytes

/-- The digest function answers for the count of the console. -/
def Pbkdf2.Hashes (pbkdf2 : Pbkdf2) : Prop :=
  ∀ password salt, ∃ digest, pbkdf2 password salt iterations = .ok digest

theorem Pbkdf2.Documented.hashes {pbkdf2 : Pbkdf2} {limit : ℤ}
    (documented : pbkdf2.Documented limit) (supported : iterations < limit) : pbkdf2.Hashes := by
  intro password salt
  obtain ⟨digest, -, returned⟩ := documented.digest password salt iterations (by decide) supported
  exact ⟨digest, returned⟩

theorem Pbkdf2.Hashes.hashPassword {pbkdf2 : Pbkdf2} (hashes : pbkdf2.Hashes) (salt : Bytes)
    {password : String} (h : password ≠ "") :
    ∃ hash, hashPassword pbkdf2 salt password = .ok hash := by
  obtain ⟨digest, hdigest⟩ := hashes (encodeUtf8 password) salt
  have printed : strInt iterations = some "240000" := by decide
  rw [ZoneGate.hashPassword, if_neg h, hdigest, printed]
  exact ⟨_, rfl⟩

/-- The salt, the digest and the iteration count of a stored password, unless it is malformed. -/
def parseStored [UnicodeDigits] (stored : String) : Option (Bytes × Bytes × ℤ) :=
  match split '$' stored with
  | [name, rawIterations, saltHex, digestHex] =>
      if name ≠ algorithm then none
      else do
        let salt ← fromHex saltHex
        let expected ← fromHex digestHex
        let count ← int rawIterations
        return (salt, expected, count)
  | _ => none

/-- Whether the password produces the stored one; a malformed one is not produced by any. -/
def verifyPassword [UnicodeDigits] (pbkdf2 : Pbkdf2) (password stored : String) :
    Except PasswordError Bool :=
  match parseStored stored with
  | none => .ok false
  | some (salt, expected, count) => do
      let candidate ← pbkdf2 (encodeUtf8 password) salt count
      return candidate = expected

/-- No decimal digits beyond ASCII. -/
@[reducible] def Sample.unicodeDigits : UnicodeDigits := ⟨fun _ => none⟩

namespace Sample

/-- The first 32 bytes of the password and the salt. -/
def digest32 (password salt : Bytes) (_count : ℤ) : Bytes :=
  (password ++ salt ++ List.replicate 32 0).take 32

/-- A digest function that supports the counts below a limit. -/
def limitedPbkdf2 (limit : ℤ) : Pbkdf2 := fun password salt count =>
  if count < -2 ^ 63 ∨ limit ≤ count then .error (.overflow "iteration value is too great.")
  else if count < 1 then .error (.value "iteration value must be greater than 0.")
  else .ok (digest32 password salt count)

theorem limitedPbkdf2_documented {limit : ℤ} (positive : 1 ≤ limit) :
    (limitedPbkdf2 limit).Documented limit := by
  constructor
  · intro password salt count low near
    exact ⟨_, by rw [limitedPbkdf2, if_neg (by omega), if_pos low]⟩
  · intro password salt count far
    exact ⟨_, by rw [limitedPbkdf2, if_pos far]⟩
  · intro password salt count supported bounded
    refine ⟨digest32 password salt count, List.length_take_of_le ?_, ?_⟩
    · rw [List.length_append, List.length_replicate]
      exact Nat.le_add_left 32 _
    · rw [limitedPbkdf2, if_neg (by omega), if_neg (by omega)]

/-- The limit of the interpreter, a C int. -/
def pbkdf2 : Pbkdf2 := limitedPbkdf2 (2 ^ 31)

theorem pbkdf2_hashes : pbkdf2.Hashes := (limitedPbkdf2_documented (by decide)).hashes (by decide)

end Sample

end ZoneGate
