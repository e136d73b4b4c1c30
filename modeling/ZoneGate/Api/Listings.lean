import ZoneGate.Api.Authorization
import ZoneGate.Api.Enrolment

/-!
# The endpoints that only read

The roster, records by their identifiers, and the policy as the engine runs it.
-/

namespace ZoneGate

open Py Effects

/-! ## Records by identifier -/

/-- An enrolled actor with the device binding, if there is one. -/
structure RosterEntry where
  actor : Actor
  binding : Option DeviceBinding := none
deriving DecidableEq

namespace ActorsController

/-- The loop of the roster: the binding of each actor. -/
def rosterFor : List Actor → Service (List RosterEntry)
  | [] => return []
  | actor :: actors => do
      let binding ← store (.getDeviceBinding actor.actorId)
      let entries ← rosterFor actors
      return ⟨actor, binding⟩ :: entries

def listActors (limit : ℤ) : Service (List RosterEntry) := do
  let actors ← store (.listActors (AuthorizationController.clamp limit 500))
  rosterFor actors

def unbound (actorId : String) : ApiError :=
  .http 404 ("Actor '" ++ actorId ++ "' has no active device binding")

def getActor (actorId : String) : Api EnrollmentResponse := do
  let actor ← (store (.getActor actorId) : Service (Option Actor))
  match actor with
  | none => throw (notEnrolled actorId)
  | some actor => do
      let binding ← (store (.getDeviceBinding actorId) : Service (Option DeviceBinding))
      match binding with
      | none => throw (unbound actorId)
      | some binding => return ⟨actor, binding⟩

end ActorsController

def ReceiptsController.getReceipt (receiptId : String) : Api Receipt := do
  let receipt ← (store (.getReceipt receiptId) : Service (Option Receipt))
  match receipt with
  | none => throw (.http 404 ("Receipt '" ++ receiptId ++ "' not found"))
  | some receipt => return receipt

def TokensController.getToken (tokenId : String) : Api ScopedAuthorizationToken := do
  let token ← (store (.getToken tokenId) : Service (Option ScopedAuthorizationToken))
  match token with
  | none => throw (.http 404 ("Authorization token '" ++ tokenId ++ "' not found"))
  | some token => return token

/-! ## The policy in force -/

/-- One cargo category, and who has to approve it if anyone does. -/
structure CategoryOption where
  category : String
  restricted : Bool
  requiredAuthority : Option String := none
deriving DecidableEq, Repr

/-- A zone as the gateway asks the carrier about it. -/
structure GeofenceZone where
  zone : String
  latitude : Decimal
  longitude : Decimal
  radiusMeters : ℤ
deriving DecidableEq, Repr

namespace PolicyController

def getConfig : Service PolicyConfig := engineConfig

/-- The vocabulary, and then the restricted categories outside it. -/
def categoryNames (config : PolicyConfig) : List String :=
  cargoCategories ++
    (sorted (config.restrictedCategories.map Prod.fst)).filter (· ∉ cargoCategories)

def categoryOption (config : PolicyConfig) (name : String) : CategoryOption where
  category := name
  restricted := (config.authorityFor name).isSome
  requiredAuthority := config.authorityFor name

def listCategories : Service (List CategoryOption) := do
  let config ← engineConfig
  return (categoryNames config).map (categoryOption config)

/-- The zones of the registry of the gateway, `sorted` by name. -/
def listZones (svc : AuthorizationService) : List GeofenceZone :=
  (svc.zoneRegistry.insertionSort fun a b => a.1 ≤ b.1).map fun e =>
    ⟨e.1, e.2.latitude, e.2.longitude, e.2.radius⟩

end PolicyController

end ZoneGate
