import ZoneGate.Api.Auth
import ZoneGate.Api.Listings
import ZoneGate.Api.Policy
import ZoneGate.Api.Tokens
import ZoneGate.Api.Stream
import ZoneGate.Library.Trace

/-!
# The endpoints

All requests that the deployment serves from its store, each with the program of its handler.  They
run interleaved, call by call, on one world.
-/

namespace ZoneGate

open Py Effects

/-- A request to an endpoint, with what `secrets` draws while it is served. -/
inductive HttpRequest
  | login (sessionId : String) (data : LoginRequest)
  | readSession (cookie : Option String)
  | logout (cookie : Option String)
  | changePassword (salt : Bytes) (cookie : Option String) (data : PasswordChangeRequest)
  | listActors (limit : ℤ)
  | enrollActor (salt : Bytes) (cookie : Option String) (data : EnrollmentRequest)
  | updatePermissions (cookie : Option String) (actorId : String) (data : PermissionUpdateRequest)
  | getActor (actorId : String)
  | streamAuthorization (data : TransactionRequest)
  | requestAuthorization (data : TransactionRequest)
  | listAuthorizationDecisions (decision : Option DecisionOutcome) (pending : Bool) (limit : ℤ)
  | listDecisionContexts (decision : Option DecisionOutcome) (pending : Bool) (limit : ℤ)
  | getAuthorizationDecision (decisionId : String)
  | getDecisionContext (decisionId : String)
  | resolveHold (cookie : Option String) (decisionId : String) (data : HoldResolutionRequest)
  | getConfig
  | listCategories
  | listZones
  | updateConfig (cookie : Option String) (data : PolicyConfig)
  | getReceipt (receiptId : String)
  | claimToken (data : TokenClaimRequest)
  | getToken (tokenId : String)

inductive HttpAnswer
  | signedIn (response : Response SessionResponse)
  | session (response : SessionResponse)
  | signedOut (response : Response Unit)
  | passwordChanged
  | roster (entries : List RosterEntry)
  | enrolled (response : EnrollmentResponse)
  | updated (actor : Actor)
  | authorized (response : AuthorizationResponse)
  | streamed (closing : ServerSentEventMessage)
  | decisions (decisions : List PolicyDecision)
  | contexts (contexts : List DecisionContext)
  | decision (decision : PolicyDecision)
  | context (context : DecisionContext)
  | config (config : PolicyConfig)
  | categories (options : List CategoryOption)
  | zones (zones : List GeofenceZone)
  | receipt (receipt : Receipt)
  | claimed (response : TokenClaimResponse)
  | token (token : ScopedAuthorizationToken)
  | refused (e : ApiError)
deriving DecidableEq

/-- The answer to a request whose handler has ended. -/
def HttpAnswer.of {α : Type} (answer : α → HttpAnswer) : Except ApiError α → HttpAnswer
  | .ok a => answer a
  | .error e => .refused e

/-- A handler that answers its own exceptions. -/
def answering {α : Type} (answer : α → HttpAnswer) (p : Api α) : Service HttpAnswer := do
  let result ← p.run
  return .of answer result

section Programs

variable [Unicode] [UnicodeDigits]

/-- What the task of a stream tells last: its verdict or whatever it has raised. -/
def streamed (svc : AuthorizationService) (data : TransactionRequest) : Service HttpAnswer := do
  let result ← (svc.authorizeTransaction true data).catching some
  return .streamed (.closing result)

def HttpRequest.program (svc : AuthorizationService) (console : ConsoleAuthService)
    (settings : Settings) : HttpRequest → Service HttpAnswer
  | login sessionId data => answering .signedIn (AuthController.login console settings sessionId data)
  | readSession cookie => answering .session (AuthController.readSession cookie)
  | logout cookie => answering .signedOut (AuthController.logout settings cookie)
  | changePassword salt cookie data =>
      answering (fun _ => .passwordChanged) (AuthController.changePassword console salt cookie data)
  | listActors limit => .roster <$> ActorsController.listActors limit
  | enrollActor salt cookie data =>
      answering .enrolled (ActorsController.enrollActor console salt cookie data)
  | updatePermissions cookie actorId data =>
      answering .updated (ActorsController.updatePermissions cookie actorId data)
  | getActor actorId => answering .enrolled (ActorsController.getActor actorId)
  | streamAuthorization data => streamed svc data
  | requestAuthorization data =>
      .authorized <$> AuthorizationController.requestAuthorization svc data
  | listAuthorizationDecisions decision pending limit =>
      .decisions <$> AuthorizationController.listAuthorizationDecisions decision pending limit
  | listDecisionContexts decision pending limit =>
      .contexts <$> AuthorizationController.listDecisionContexts decision pending limit
  | getAuthorizationDecision decisionId =>
      answering .decision (AuthorizationController.getAuthorizationDecision decisionId)
  | getDecisionContext decisionId =>
      answering .context (AuthorizationController.getDecisionContext decisionId)
  | resolveHold cookie decisionId data =>
      answering .authorized (AuthorizationController.resolveHold svc cookie decisionId data)
  | getConfig => .config <$> PolicyController.getConfig
  | listCategories => .categories <$> PolicyController.listCategories
  | listZones => return .zones (PolicyController.listZones svc)
  | updateConfig cookie data => answering .config (PolicyController.updateConfig cookie data)
  | getReceipt receiptId => answering .receipt (ReceiptsController.getReceipt receiptId)
  | claimToken data => .claimed <$> TokensController.claimToken svc data
  | getToken tokenId => answering .token (TokensController.getToken tokenId)

/-- Requests that run interleaved. -/
abbrev HttpRequests (ι : Type) := Pool Services ServiceError HttpAnswer World ι

/-- Requests to the endpoints, about to start. -/
def serving {ι : Type} (svc : AuthorizationService) (console : ConsoleAuthService)
    (settings : Settings) (requests : ι → HttpRequest) (w : World) : HttpRequests ι where
  threads i := (requests i).program svc console settings
  state := w

end Programs

/-- The calls that are handled while requests are served. -/
abbrev HttpTrace (ι : Type) := List (Event Services ServiceError World ι)

/-! ## Programs that answer -/

section Answering

variable {α : Type} {φ : List (Handled Services) → Effect → Prop}
  {past : List (Handled Services)}

/-- To uphold something about its calls, a handler needs to do so before it answers. -/
theorem upholds_answering {answer : α → HttpAnswer} {p : Api α}
    (h : Prog.Upholds φ (fun _ _ => True) p.run past) :
    (answering answer p).Upholds φ (fun _ _ => True) past :=
  h.bind (fun _ _ _ => trivial) fun _ _ _ => trivial

theorem upholds_map {answer : α → HttpAnswer} {p : Service α}
    (h : p.Upholds φ (fun _ _ => True) past) :
    (answer <$> p).Upholds φ (fun _ _ => True) past := by
  rw [← bind_pure_comp]
  exact h.bind (fun _ _ _ => trivial) fun _ _ _ => trivial

theorem upholds_catching {δ : Type} (caught : ServiceError → Option δ) {p : Service α}
    (h : p.Upholds φ (fun _ _ => True) past) :
    (p.catching caught).Upholds φ (fun _ _ => True) past :=
  h.catching caught (fun _ _ _ => trivial) fun _ _ _ => trivial

/-- A handler all of whose calls satisfy `φ` upholds it. -/
theorem upholds_of_callsOnly {χ : Effect → Prop} (h : ∀ past c, χ c → φ past c) {p : Service α}
    (hp : p.CallsOnly χ) : p.Upholds φ (fun _ _ => True) past :=
  .of_callsOnly (P := fun _ => True) hp (fun past c hc _ => ⟨h past c hc, fun _ => trivial⟩) trivial

end Answering

end ZoneGate
