import ZoneGate.Authorization.Console
import Mathlib.Data.String.Basic

/-!
# The roster endpoints

Enrolment and permission updates.  Both are console actions: the session cookie of the request has
to stand for somebody.
-/

namespace ZoneGate

open Py Effects

variable [Unicode]

/-! ## Requests and their errors -/

/-- What a request is answered with when it fails: an HTTP exception with its status code and
detail, or an exception of the console service that nothing handles. -/
inductive ApiError
  | http (statusCode : ℕ) (detail : String)
  | unhandled (e : ConsoleAuthError)
deriving DecidableEq, Repr

/-- A request handler. -/
abbrev Api := ExceptT ApiError Service

structure EnrollmentRequest where
  actor : Actor
  deviceId : Option String := none
  password : Option String := none
  password_length : ∀ p ∈ password, p.length ≤ 200

omit [Unicode] in
/-- An absent password is short enough. -/
theorem EnrollmentRequest.length_none : ∀ p ∈ (none : Option String), p.length ≤ 200 := by
  rintro p ⟨⟩

structure EnrollmentResponse where
  actor : Actor
  binding : DeviceBinding
deriving DecidableEq, Repr

/-- `expectedPermissions` is what the editor was showing when the operator pressed save. -/
structure PermissionUpdateRequest where
  permissions : List String
  expectedPermissions : List String
  permissions_length : permissions.length ≤ 200

/-- `sorted(xs)`. -/
def sorted (xs : List String) : List String := xs.insertionSort (· ≤ ·)

omit [Unicode] in
/-- To compare sorted lists is to compare lists up to the order. -/
theorem sorted_eq_iff {xs ys : List String} : sorted xs = sorted ys ↔ xs.Perm ys := by
  have permutes (zs : List String) : (sorted zs).Perm zs := List.perm_insertionSort _ zs
  constructor
  · intro same
    exact (permutes xs).symm.trans (same ▸ permutes ys)
  · intro perm
    have sorts : (sorted xs).Perm (sorted ys) := ((permutes xs).trans perm).trans (permutes ys).symm
    exact sorts.eq_of_pairwise' List.sortedLE_insertionSort.pairwise
      List.sortedLE_insertionSort.pairwise

/-- The authority signed in to the console, or 401. -/
def requireConsoleActor (cookie : Option String) : Api Actor := do
  let actor ← ConsoleAuthService.resolve cookie
  match actor with
  | none => throw (.http 401 "Sign in to the console to do this")
  | some actor => return actor

/-- What the session lookup of the cookie means for the request. -/
def guarded : Option Actor → Except ApiError Actor
  | none => .error (.http 401 "Sign in to the console to do this")
  | some actor => .ok actor

theorem requireConsoleActor_eq (cookie : Option String) :
    (requireConsoleActor cookie).run =
      ConsoleAuthService.resolve cookie >>= fun actor => .ret (guarded actor) := by
  rw [requireConsoleActor, Prog.run_lift_bind]
  refine congrArg (ConsoleAuthService.resolve cookie >>= ·) (funext fun actor => ?_)
  cases actor <;> rfl

theorem requireConsoleActor_callsOnly (cookie : Option String) :
    Prog.CallsOnly ConsoleAuthService.OfSession (requireConsoleActor cookie).run := by
  rw [requireConsoleActor_eq]
  exact (ConsoleAuthService.resolve_callsOnly cookie).bind fun _ => trivial

/-! ## Endpoints -/

namespace ActorsController

/-- The binding of the device that is named, or of the registered one. -/
def bindingFor (data : EnrollmentRequest) (now : DateTime) : DeviceBinding where
  actorId := data.actor.actorId
  phoneNumber := data.actor.registeredPhoneNumber
  deviceId := (data.deviceId.filter (· ≠ "")).getD data.actor.registeredDeviceId
  boundAt := now
  isActive := true

/-- The initial password of an enrolment; a weak one is a client error. -/
def initialPassword (console : ConsoleAuthService) (salt : Bytes) (actorId password : String) :
    Api Unit := do
  let result ← ((console.setPassword salt actorId password).run : Service _)
  match result with
  | .ok () => return ()
  | .error (.weakPassword message) => throw (.http 400 message)
  | .error e => throw (.unhandled e)

/-- `enroll_actor`, with the salt that is drawn for the password. -/
def enrollActor (console : ConsoleAuthService) (salt : Bytes) (cookie : Option String)
    (data : EnrollmentRequest) : Api EnrollmentResponse := do
  let _ ← requireConsoleActor cookie
  let now ← (utcnow : Service DateTime)
  let binding := bindingFor data now
  (store (.saveActor data.actor) : Service Unit)
  (store (.saveDeviceBinding binding) : Service Unit)
  match data.password.filter (· ≠ "") with
  | none => return ⟨data.actor, binding⟩
  | some password => do
      initialPassword console salt data.actor.actorId password
      return ⟨data.actor, binding⟩

def notEnrolled (actorId : String) : ApiError :=
  .http 404 ("Actor '" ++ actorId ++ "' is not enrolled")

def editConflict (actorId : String) : ApiError :=
  .http 409 ("Permissions for '" ++ actorId ++ "' changed while you were editing. " ++
    "Reload the employee and reapply your change.")

/-- `sorted({p.strip() for p in permissions if p.strip()})` -/
def cleaned (permissions : List String) : List String :=
  sorted ((permissions.map strip).filter (· ≠ "")).dedup

def updatePermissions (cookie : Option String) (actorId : String) (data : PermissionUpdateRequest) :
    Api Actor := do
  let _ ← requireConsoleActor cookie
  let actor ← (store (.getActor actorId) : Service (Option Actor))
  match actor with
  | none => throw (notEnrolled actorId)
  | some actor =>
      if sorted actor.permissions ≠ sorted data.expectedPermissions then
        throw (editConflict actorId)
      else do
        let updated := { actor with permissions := cleaned data.permissions }
        (store (.saveActor updated) : Service Unit)
        return updated

end ActorsController

end ZoneGate
