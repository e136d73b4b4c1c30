import ZoneGate.App.Settings
import ZoneGate.Api.Actors

/-!
# The sign-in endpoints

Console sign-in against the enrolled roster, sign-out, and the change of one's own password.  What
`secrets` draws is an argument, as it is for the console service.
-/

namespace ZoneGate

open Py Effects

variable [Unicode] [UnicodeDigits]

/-! ## Requests and responses -/

structure LoginRequest where
  actorId : String
  password : String
  actorId_length : 1 ≤ actorId.length ∧ actorId.length ≤ 128
  password_length : 1 ≤ password.length ∧ password.length ≤ 200

structure PasswordChangeRequest where
  password : String
  password_length : 1 ≤ password.length ∧ password.length ≤ 200

/-- Who the console is signed in as. -/
structure SessionResponse where
  actor : Actor
deriving DecidableEq, Repr

structure Cookie where
  key : String
  value : String
  path : String
  httponly : Bool
  samesite : String
  secure : Bool
  maxAge : Option ℤ
deriving DecidableEq, Repr

/-- A response that sets cookies. -/
structure Response (α : Type) where
  content : Option α
  statusCode : ℕ
  cookies : List Cookie
deriving DecidableEq, Repr

def sessionCookieName : String := "zonegate_session"

/-- `_session_cookie` -/
def sessionCookie (value : String) (settings : Settings) (maxAge : Option ℤ) : Cookie where
  key := sessionCookieName
  value := value
  path := "/"
  httponly := true
  samesite := "lax"
  secure := settings.sessionCookieSecure
  maxAge := maxAge

/-! ## Endpoints -/

namespace AuthController

variable (console : ConsoleAuthService) (settings : Settings)

def login (sessionId : String) (data : LoginRequest) : Api (Response SessionResponse) := do
  let result ← ((console.signIn sessionId (strip data.actorId) data.password).run : Service _)
  match result with
  | .ok (actor, session) =>
      -- `int(session_ttl.total_seconds())`
      let maxAge := console.sessionTtlHours * 3600
      return ⟨some ⟨actor⟩, 200, [sessionCookie session.sessionId settings (some maxAge)]⟩
  | .error (.invalidCredentials message) | .error (.consoleAccessDenied message) =>
      throw (.http 401 message)
  | .error e => throw (.unhandled e)

def noSession : ApiError := .http 401 "No console session"

omit [UnicodeDigits] in
/-- The operator that the cookie stands for, or 401. -/
def signedIn (cookie : Option String) : Api Actor := do
  let actor ← ConsoleAuthService.resolve cookie
  match actor with
  | none => throw noSession
  | some actor => return actor

omit [UnicodeDigits] in
def readSession (cookie : Option String) : Api SessionResponse := do
  let actor ← signedIn cookie
  return ⟨actor⟩

omit [Unicode] [UnicodeDigits] in
def logout (cookie : Option String) : Api (Response Unit) := do
  (ConsoleAuthService.signOut cookie : Service Unit)
  return ⟨none, 204, [sessionCookie "" settings (some 0)]⟩

omit [UnicodeDigits] in
/-- The password of whoever is signed in; a weak one is a client error. -/
def changePassword (salt : Bytes) (cookie : Option String) (data : PasswordChangeRequest) :
    Api Unit := do
  let actor ← signedIn cookie
  ActorsController.initialPassword console salt actor.actorId data.password

end AuthController

end ZoneGate
