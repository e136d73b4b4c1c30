import ZoneGate.Api.Actors
import ZoneGate.Api.Enrolment
import ZoneGate.Authorization.Calls
import ZoneGate.Library.Trace

/-!
# Requests that overlap with edits of the roster

Authorizations, enrolments and permission updates, interleaved call by call.
-/

namespace ZoneGate

open Py Effects

/-- A request, with what `secrets` draws for it. -/
inductive ApiRequest
  | authorize (listener : Bool) (transaction : TransactionRequest)
  | enroll (salt : Bytes) (cookie : Option String) (data : EnrollmentRequest)
  | updatePermissions (cookie : Option String) (actorId : String) (data : PermissionUpdateRequest)

inductive ApiAnswer
  | judged (decision : PolicyDecision) (receipt : Receipt)
  | enrolled (response : EnrollmentResponse)
  | updated (actor : Actor)
  | refused (e : ApiError)
deriving DecidableEq

/-- The answer to a request whose handler has ended. -/
def ApiAnswer.of {α : Type} (answer : α → ApiAnswer) : Except ApiError α → ApiAnswer
  | .ok a => answer a
  | .error e => .refused e

section Programs

variable [Unicode]

open ActorsController in
def ApiRequest.program (svc : AuthorizationService) (console : ConsoleAuthService) :
    ApiRequest → Service ApiAnswer
  | authorize listener transaction => do
      let verdict ← svc.authorizeTransaction listener transaction
      return .judged verdict.1 verdict.2
  | enroll salt cookie data => do
      let result ← (enrollActor console salt cookie data).run
      return .of .enrolled result
  | updatePermissions cookie actorId data => do
      let result ← (ActorsController.updatePermissions cookie actorId data).run
      return .of .updated result

/-- Requests that run interleaved. -/
abbrev ApiRequests (ι : Type) := Pool Services ServiceError ApiAnswer World ι

/-- Requests, about to start. -/
def concurrent {ι : Type} (svc : AuthorizationService) (console : ConsoleAuthService)
    (requests : ι → ApiRequest) (w : World) : ApiRequests ι where
  threads i := (requests i).program svc console
  state := w

end Programs

/-- The calls that are handled in a run. -/
abbrev ApiTrace (ι : Type) := List (Event Services ServiceError World ι)

/-- Requests of the small deployment, run from the world where the supervisor is signed in. -/
def Sample.overlap {ι : Type} (requests : ι → ApiRequest) : ApiRequests ι :=
  @concurrent Sample.unicode ι Sample.service Sample.console requests Sample.signedIn

end ZoneGate
