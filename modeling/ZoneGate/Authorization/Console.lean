import ZoneGate.Authorization.Effects
import ZoneGate.Authorization.Passwords
import ZoneGate.Authorization.Roles

/-!
# Console sign-in

Passwords and sessions of the operations console.  What `secrets` draws, the salt of a hash and the
identifier of a session, is an argument of the programs.
-/

namespace ZoneGate

open Py Effects

variable [Unicode] [UnicodeDigits]

def minPasswordLength : ℕ := 8

/-- The exceptions of the console service; `hashing` are those of the hash function. -/
inductive ConsoleAuthError
  | invalidCredentials (message : String)
  | consoleAccessDenied (message : String)
  | weakPassword (message : String)
  | hashing (e : PasswordError)
deriving DecidableEq, Repr

/-- A coroutine of the console service. -/
abbrev Console := ExceptT ConsoleAuthError Service

structure ConsoleAuthService where
  sessionTtlHours : ℤ := 12
  pbkdf2 : Pbkdf2

/-- `now + timedelta(hours=h)`. -/
def addHours (now : DateTime) (hours : ℤ) : DateTime :=
  ⟨(now.micros + hours * 3600 * 1000000).toNat⟩

namespace ConsoleAuthService

variable (console : ConsoleAuthService)

/-- The exceptions of hashing leave the service. -/
def hashing {α : Type} (result : Except PasswordError α) : Console α :=
  ExceptT.mk (pure (result.mapError .hashing))

def weakPasswordMessage : String :=
  "A console password must be at least " ++ toString minPasswordLength ++ " characters"

/-- `set_password`, with the salt that is drawn. -/
def setPassword (salt : Bytes) (actorId password : String) : Console Unit :=
  if password.length < minPasswordLength then throw (.weakPassword weakPasswordMessage)
  else do
    let passwordHash ← hashing (hashPassword console.pbkdf2 salt password)
    let now ← (utcnow : Service DateTime)
    (store (.saveCredential ⟨actorId, passwordHash, now⟩) : Service Unit)

section SetPassword

variable {salt : Bytes} {actorId password : String}

omit [Unicode] [UnicodeDigits] in
theorem setPassword_weak (weak : password.length < minPasswordLength) :
    (console.setPassword salt actorId password).run =
      .ret (.error (.weakPassword weakPasswordMessage)) := by
  rw [setPassword, if_pos weak]
  rfl

omit [Unicode] [UnicodeDigits] in
theorem setPassword_strong (strong : ¬ password.length < minPasswordLength) {hash : String}
    (hashed : hashPassword console.pbkdf2 salt password = .ok hash) :
    (console.setPassword salt actorId password).run =
      .call Effect.utcnow fun now =>
        .call (Effect.store (.saveCredential ⟨actorId, hash, now⟩)) fun _ => .ret (.ok ()) := by
  rw [setPassword, if_neg strong, hashed]
  rfl

omit [Unicode] [UnicodeDigits] in
theorem setPassword_unhashed (strong : ¬ password.length < minPasswordLength) {e : PasswordError}
    (fails : hashPassword console.pbkdf2 salt password = .error e) :
    (console.setPassword salt actorId password).run = .ret (.error (.hashing e)) := by
  rw [setPassword, if_neg strong, fails]
  rfl

end SetPassword

def genericMessage : String := "Employee ID or password is incorrect"

def fieldPersonnelMessage : String :=
  "The console is for supervisors and officers. Cargo personnel " ++
    "request releases from the ZoneGate mobile app."

/-- What `sign_in` checks of the actor once the password is verified. -/
def refusal (actorId : String) (actor : Actor) : Option ConsoleAuthError :=
  if actor.enrollmentStatus ≠ "ACTIVE" then
    some (.invalidCredentials
      ("Actor '" ++ actorId ++ "' is '" ++ actor.enrollmentStatus ++ "' and cannot sign in"))
  else if isFieldRole actor.role then some (.consoleAccessDenied fieldPersonnelMessage)
  else none

omit [UnicodeDigits] in
theorem refusal_eq_none_iff {actorId : String} {actor : Actor} :
    refusal actorId actor = none ↔
      actor.enrollmentStatus = "ACTIVE" ∧ isFieldRole actor.role = false := by
  unfold refusal
  split_ifs with inactive field
  · exact iff_of_false nofun fun h => inactive h.1
  · exact iff_of_false nofun fun h => by simp [field] at h
  · exact iff_of_true rfl ⟨not_not.1 inactive, by simpa using field⟩

/-- `sign_in`, with the session identifier that is drawn. -/
def signIn (sessionId actorId password : String) : Console (Actor × ConsoleSession) := do
  let actor ← (store (.getActor actorId) : Service (Option Actor))
  let credential ← (store (.getCredential actorId) : Service (Option OperatorCredential))
  match actor, credential with
  | some actor, some credential => do
      let verified ← hashing (verifyPassword console.pbkdf2 password credential.passwordHash)
      if !verified then throw (.invalidCredentials genericMessage)
      else match refusal actorId actor with
      | some e => throw e
      | none => do
          let now ← (utcnow : Service DateTime)
          let session : ConsoleSession :=
            { sessionId := sessionId
              actorId := actorId
              createdAt := now
              expiresAt := addHours now console.sessionTtlHours }
          (store (.saveConsoleSession session) : Service Unit)
          return (actor, session)
  | _, _ => do
      -- the hashing time is spent all the same
      let _ ← hashing (verifyPassword console.pbkdf2 password "pbkdf2_sha256$240000$00$00")
      throw (.invalidCredentials genericMessage)

/-- The actor a session stands for.  An expired session is deleted as it is read. -/
def resolve (sessionId : Option String) : Service (Option Actor) :=
  match sessionId.filter (· ≠ "") with
  | none => return none
  | some sessionId => do
      let session ← store (.getConsoleSession sessionId)
      match session with
      | none => return none
      | some session => do
          let now ← utcnow
          if session.expiresAt ≤ now then do
            store (.deleteConsoleSession sessionId)
            return none
          else do
            let actor ← store (.getActor session.actorId)
            return actor.filter fun actor => !isFieldRole actor.role

omit [UnicodeDigits] in
/-- Without a cookie nobody is asked. -/
theorem resolve_anonymous {sessionId : Option String}
    (h : sessionId.filter (· ≠ "") = none) : resolve sessionId = .ret none := by
  rw [resolve, h]
  rfl

omit [UnicodeDigits] in
/-- What is called for the session of a cookie. -/
theorem resolve_named {sessionId : Option String} {id : String}
    (h : sessionId.filter (· ≠ "") = some id) :
    resolve sessionId = .call (Effect.store (.getConsoleSession id)) fun session =>
      match session with
      | none => .ret none
      | some session => .call Effect.utcnow fun now =>
          if session.expiresAt ≤ now then
            .call (Effect.store (.deleteConsoleSession id)) fun _ => .ret none
          else .call (Effect.store (.getActor session.actorId)) fun actor =>
            .ret (actor.filter fun actor => !isFieldRole actor.role) := by
  rw [resolve, h]
  simp only [Prog.perform_eq, Prog.call_bind, Prog.ret_bind, Prog.pure_eq]
  refine congrArg (Prog.call _) (funext fun session => ?_)
  cases session <;> rfl

/-- The calls that look up the session of a cookie. -/
def OfSession : Effect → Prop
  | .store (.getConsoleSession _) | .store (.deleteConsoleSession _) | .store (.getActor _)
  | .utcnow => True
  | _ => False

omit [UnicodeDigits] in
theorem resolve_callsOnly (sessionId : Option String) :
    (resolve sessionId).CallsOnly OfSession := by
  rcases h : sessionId.filter (· ≠ "") with _ | id
  · rw [resolve_anonymous h]
    trivial
  rw [resolve_named h]
  refine ⟨trivial, fun session => ?_⟩
  cases session with
  | none => trivial
  | some session =>
    refine ⟨trivial, fun now => ?_⟩
    dsimp only
    split_ifs
    · exact ⟨trivial, fun _ => trivial⟩
    · exact ⟨trivial, fun _ => trivial⟩

def signOut (sessionId : Option String) : Service Unit :=
  match sessionId.filter (· ≠ "") with
  | none => return ()
  | some sessionId => store (.deleteConsoleSession sessionId)

end ConsoleAuthService

namespace Sample

@[reducible] def console : ConsoleAuthService := { pbkdf2 := pbkdf2 }

def supervisor : Actor where
  actorId := "boss"
  role := "CARGO_SUPERVISOR"
  registeredPhoneNumber := "+2"
  registeredDeviceId := "desk"

end Sample

end ZoneGate
