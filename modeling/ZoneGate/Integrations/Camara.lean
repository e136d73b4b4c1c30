import ZoneGate.Authorization.Effects
import ZoneGate.Integrations.NokiaLive

/-!
# The carrier clients

One client performs the checks with the tools of the live gateway, the other one with requests to a
CAMARA endpoint.  What comes back is an untrusted JSON value: it has to validate as the response
model of the check, and everything else is an exception.
-/

namespace ZoneGate

open Py Raising

/-! ## The response models -/

/-- Pydantic's lax conversions and the texts of its errors, the literals of floats, and the texts of
the interpreter's exceptions. -/
structure ClientRuntime extends JsonRuntime where
  bool : Json → Option Bool
  int : Json → Option ℤ
  invalid : String → Json → String
  repr : Decimal → String
  raised : PyError → String

/-- The exceptions of a check. -/
inductive CheckError
  | tool (e : CarrierError)
  | http (message : String)
  | interpreter (e : PyError)
  | validation (message : String)
deriving DecidableEq, Repr

/-- A response model: the items of a valid response give what is read of it. -/
structure CarrierResponse (α : Type) where
  name : String
  fields : List (String × Json) → Option α

namespace CarrierResponse

/-- `model_validate` -/
def modelValidate {α : Type} (rt : ClientRuntime) (model : CarrierResponse α) (value : Json) :
    Except CheckError α :=
  match value with
  | .obj members => (model.fields members).elim
      (.error (.validation (rt.invalid model.name value))) .ok
  | _ => .error (.validation (rt.invalid model.name value))

theorem modelValidate_eq_ok {α : Type} {rt : ClientRuntime} {model : CarrierResponse α} {value : Json}
    {a : α} : model.modelValidate rt value = .ok a ↔
      ∃ members, value = .obj members ∧ model.fields members = some a := by
  cases value with
  | obj members => rcases given : model.fields members with _ | b <;> simp [modelValidate, given]
  | _ => simp [modelValidate]

end CarrierResponse

section Fields

variable {α : Type} (members : List (String × Json))

/-- A field without a default. -/
def requiredField (name : String) (convert : Json → Option α) : Option α :=
  members.lookup name >>= convert

/-- A field `T | None` with the default `None`. -/
def optionalField (name : String) (convert : Json → Option α) : Option (Option α) :=
  match members.lookup name with
  | none | some .null => some none
  | some value => (convert value).map some

/-- `extra="forbid"` -/
def forbidExtra (names : List String) : Option Unit :=
  if ∀ e ∈ members, e.1 ∈ names then some () else none

/-- `str` -/
def textField : Json → Option String
  | .str s => some s
  | _ => none

/-- `list[str]` -/
def textsField : Json → Option (List String)
  | .arr items => items.mapM textField
  | _ => none

/-- `Literal` with words for its values. -/
def literalField (words : List (String × α)) : Json → Option α
  | .str s => words.lookup s
  | _ => none

end Fields

def verificationResults : List (String × VerificationResult) :=
  [("TRUE", .true), ("FALSE", .false), ("PARTIAL", .partialMatch), ("UNKNOWN", .unknown)]

def reachabilityStatuses : List (String × ReachabilityStatus) :=
  [("CONNECTED_DATA", .connectedData), ("CONNECTED_SMS", .connectedSms),
    ("NOT_CONNECTED", .notConnected), ("UNKNOWN", .unknown)]

section Models

variable (rt : ClientRuntime)

def camaraNumberVerificationResponse : CarrierResponse Bool where
  name := "CamaraNumberVerificationResponse"
  fields members := do
    forbidExtra members ["devicePhoneNumberVerified"]
    requiredField members "devicePhoneNumberVerified" rt.bool

/-- Anything else in a location answer is let through. -/
def camaraLocationVerificationResponse : CarrierResponse VerificationResult where
  name := "CamaraLocationVerificationResponse"
  fields members := do
    let verificationResult ←
      requiredField members "verificationResult" (literalField verificationResults)
    let _ ← optionalField members "matchRate" rt.int
    let _ ← optionalField members "lastLocationTime" textField
    return verificationResult

def camaraSimSwapResponse : CarrierResponse Bool where
  name := "CamaraSimSwapResponse"
  fields members := do
    forbidExtra members ["swapped", "latestSimChange"]
    let swapped ← requiredField members "swapped" rt.bool
    let _ ← optionalField members "latestSimChange" textField
    return swapped

def camaraDeviceSwapResponse : CarrierResponse Bool where
  name := "CamaraDeviceSwapResponse"
  fields members := do
    forbidExtra members ["swapped", "latestDeviceChange"]
    let swapped ← requiredField members "swapped" rt.bool
    let _ ← optionalField members "latestDeviceChange" textField
    return swapped

def camaraReachabilityResponse : CarrierResponse ReachabilityResponse where
  name := "CamaraReachabilityResponse"
  fields members := do
    let reachabilityStatus ←
      optionalField members "reachabilityStatus" (literalField reachabilityStatuses)
    let reachable ← optionalField members "reachable" rt.bool
    let _ ← optionalField members "connectivity" textsField
    let _ ← optionalField members "lastStatusTime" textField
    return ⟨reachabilityStatus, reachable⟩

end Models

/-- A location answer is positive by one word only. -/
theorem says_true_of_location {rt : ClientRuntime} {members : List (String × Json)}
    (valid : (camaraLocationVerificationResponse rt).fields members = some .true) :
    members.lookup "verificationResult" = some (.str "TRUE") := by
  obtain ⟨result, found, rest⟩ := Option.bind_eq_some_iff.1 valid
  obtain ⟨rate, -, rest⟩ := Option.bind_eq_some_iff.1 rest
  obtain ⟨time, -, given⟩ := Option.bind_eq_some_iff.1 rest
  obtain rfl : result = .true := by simpa using given
  obtain ⟨value, there, word⟩ := Option.bind_eq_some_iff.1 found
  cases value with
  | str s =>
    have mem := Dict.mem_of_lookup (show verificationResults.lookup s = some .true from word)
    obtain rfl : s = "TRUE" := by simpa [verificationResults] using mem
    exact there
  | _ => cases word

/-- What the gateway expects of a client, which may keep a state of its own. -/
structure NokiaClientProtocol (σ : Type) where
  attestableKinds : Finset EvidenceKind
  verifyNumber : String → σ → Except CheckError Bool × σ
  verifyLocation : String → Geofence → σ → Except CheckError VerificationResult × σ
  checkSimSwap : String → σ → Except CheckError Bool × σ
  checkDeviceSwap : String → σ → Except CheckError Bool × σ
  getReachability : String → σ → Except CheckError ReachabilityResponse × σ

/-- The method of a check, with its arguments. -/
def NokiaClientProtocol.perform {σ : Type} (client : NokiaClientProtocol σ) :
    (c : CarrierCall) → σ → Except CheckError c.Answer × σ
  | .verifyNumber phoneNumber => client.verifyNumber phoneNumber
  | .verifyLocation phoneNumber area => client.verifyLocation phoneNumber area
  | .checkSimSwap phoneNumber => client.checkSimSwap phoneNumber
  | .checkDeviceSwap phoneNumber => client.checkDeviceSwap phoneNumber
  | .getReachability phoneNumber => client.getReachability phoneNumber

/-- How a check has ended for the gateway: it declines, or it raises with a text. -/
def carrierReply {α : Type} (rt : ClientRuntime) : Except CheckError α → CarrierReply α
  | .ok a => .answered a
  | .error (.tool (.capabilityUnavailable message)) => .declined message
  | .error (.tool (.nokiaLive message)) => .raised message
  | .error (.tool (.interpreter e)) | .error (.interpreter e) => .raised (rt.raised e)
  | .error (.http message) | .error (.validation message) => .raised message

theorem carrierReply_eq_answered {α : Type} {rt : ClientRuntime} {result : Except CheckError α}
    {a : α} : carrierReply rt result = .answered a ↔ result = .ok a := by
  rcases result with ((m | m | e) | m | e | m) | b <;> simp [carrierReply]

/-! ## The live gateway -/

namespace NokiaLiveEvidenceClient

def toolLocationVerification : String := "verifyLocation-LocV-V0"
def toolSimSwap : String := "checkSimSwap"
def toolDeviceSwap : String := "checkDeviceSwap"
def toolReachability : String := "getReachabilityStatus"

/-- The device of the subscriber. -/
def device (phoneNumber : String) : Json := .obj [("phoneNumber", .str phoneNumber)]

section Checks

variable {α : Type} (rt : ClientRuntime)

/-- A tool is called, and its payload is validated. -/
def check (tool : String) (arguments : List (String × Json)) (model : CarrierResponse α)
    (client : NokiaLiveEvidenceClient) : Except CheckError α × NokiaLiveEvidenceClient :=
  let (payload, client) := client.callTool rt.toJsonRuntime tool arguments
  (payload.mapError .tool >>= fun payload => model.modelValidate rt (.obj payload), client)

/-- The client holds no token of the device, so it declines. -/
def verifyNumber (_phoneNumber : String) (client : NokiaLiveEvidenceClient) :
    Except CheckError Bool × NokiaLiveEvidenceClient :=
  (.error (.tool (.capabilityUnavailable
    ("Number verification needs an access token minted over the device's own " ++
      "mobile connection; a server holding only the phone number cannot obtain " ++
      "one, and the carrier answers MISSING_IDENTIFIER"))), client)

def locationArguments (phoneNumber : String) (area : Geofence) : List (String × Json) :=
  [("device", device phoneNumber),
    ("area", .obj [("areaType", .str "CIRCLE"),
      ("center", .obj [("latitude", .float (rt.repr area.latitude)),
        ("longitude", .float (rt.repr area.longitude))]),
      ("radius", .int area.radius)])]

def verifyLocation (phoneNumber : String) (area : Geofence) :
    NokiaLiveEvidenceClient → Except CheckError VerificationResult × NokiaLiveEvidenceClient :=
  check rt toolLocationVerification (locationArguments rt phoneNumber area)
    (camaraLocationVerificationResponse rt)

def checkSimSwap (phoneNumber : String) :
    NokiaLiveEvidenceClient → Except CheckError Bool × NokiaLiveEvidenceClient :=
  check rt toolSimSwap [("phoneNumber", .str phoneNumber), ("maxAge", .int 240)]
    (camaraSimSwapResponse rt)

def checkDeviceSwap (phoneNumber : String) :
    NokiaLiveEvidenceClient → Except CheckError Bool × NokiaLiveEvidenceClient :=
  check rt toolDeviceSwap [("phoneNumber", .str phoneNumber), ("maxAge", .int 240)]
    (camaraDeviceSwapResponse rt)

def getReachability (phoneNumber : String) :
    NokiaLiveEvidenceClient → Except CheckError ReachabilityResponse × NokiaLiveEvidenceClient :=
  check rt toolReachability [("device", device phoneNumber)] (camaraReachabilityResponse rt)

/-- No call from a server obtains a number verification. -/
def attestableKinds : Finset EvidenceKind := .univ \ {.numberVerification}

/-- The protocol against the live gateway. -/
def protocol : NokiaClientProtocol NokiaLiveEvidenceClient where
  attestableKinds := attestableKinds
  verifyNumber := verifyNumber
  verifyLocation := verifyLocation rt
  checkSimSwap := checkSimSwap rt
  checkDeviceSwap := checkDeviceSwap rt
  getReachability := getReachability rt

end Checks

/-- The outcome of a call that the client makes next. -/
def outcomeOf (client : NokiaLiveEvidenceClient) (tool : String)
    (arguments : List (String × Json)) : HttpOutcome :=
  client.post client.mcpUrl (envelope (client.requestId + 1) tool arguments)

/-- A payload that is returned was carried by the reply, and declines nothing. -/
theorem carries_of_read {rt : JsonRuntime} {tool : String} {outcome : HttpOutcome}
    {payload : List (String × Json)} (returned : read rt tool outcome = .ok payload) :
    Carries rt outcome payload ∧ declines payload = false := by
  rcases outcome with message | ⟨statusCode, statusError, body⟩
  · cases returned
  unfold read at returned
  dsimp only at returned
  by_cases success : IsSuccess statusCode
  swap
  · rw [if_neg success] at returned
    cases returned
  rw [if_pos success] at returned
  have legible : ∀ body, payloadOf rt tool body = .ok payload → Answerable rt body := by
    intro body given
    cases body with
    | obj members =>
      intro clean text has broken
      have breaks : textOf (.obj members) >>= loads rt = .error .recursionError :=
        textOf_loads_eq_recursionError.2 ⟨text, has, broken⟩
      rw [payloadOf_clean tool clean, breaks] at given
      cases given
    | arr items =>
      rcases asked : Json.contains "error" (.arr items) with e | named
      · cases asked
      · rw [payloadOf_unkeyed tool (by simp) asked] at given
        cases given
    | str s =>
      rcases asked : Json.contains "error" (.str s) with e | named
      · cases asked
      · rw [payloadOf_unkeyed tool (by simp) asked] at given
        cases given
    | _ => cases given
  cases body with
  | value body =>
    have classified : Classified rt (.answered statusCode statusError (.value body))
        (payloadOf rt tool body) :=
      (classified_value_iff tool success body).2 (legible body returned)
    exact (classified.returned payload returned).symm
  | valueError => cases returned
  | recursionError => cases returned

/-- A check that is answered has carried a payload that validates. -/
theorem carries_of_check {α : Type} {rt : ClientRuntime} {tool : String}
    {arguments : List (String × Json)} {model : CarrierResponse α} {client : NokiaLiveEvidenceClient}
    {a : α} (answered : (check rt tool arguments model client).1 = .ok a) :
    ∃ payload, Carries rt.toJsonRuntime (client.outcomeOf tool arguments) payload ∧
      declines payload = false ∧ model.fields payload = some a := by
  obtain ⟨payload, returned, valid⟩ := bind_eq_ok.1 answered
  obtain ⟨_, ⟨⟩, fields⟩ := CarrierResponse.modelValidate_eq_ok.1 valid
  obtain ⟨carries, declines⟩ := carries_of_read (mapError_eq_ok.1 returned)
  exact ⟨payload, carries, declines, fields⟩

end NokiaLiveEvidenceClient

/-! ## CAMARA over REST -/

/-- The answers of the endpoint to the requests that are posted to its paths. -/
structure NokiaEvidenceClient where
  post : String → Json → HttpOutcome

namespace NokiaEvidenceClient

section Checks

variable {α : Type} (rt : ClientRuntime)

/-- `response.raise_for_status()`, and then `response.json()` validated. -/
def read (model : CarrierResponse α) : HttpOutcome → Except CheckError α
  | .failed message => .error (.http message)
  | .answered statusCode statusError body =>
      if NokiaLiveEvidenceClient.IsSuccess statusCode then
        match body with
        | .value value => model.modelValidate rt value
        | .valueError => .error (.interpreter .valueError)
        | .recursionError => .error (.interpreter .recursionError)
      else .error (.http statusError)

def check (path : String) (payload : Json) (model : CarrierResponse α)
    (client : NokiaEvidenceClient) :
    Except CheckError α × NokiaEvidenceClient :=
  (read rt model (client.post path payload), client)

def numberPath : String := "/number-verification/v1/verify"
def locationPath : String := "/location-verification/v1/verify"

def numberRequest (phoneNumber : String) : Json := .obj [("phoneNumber", .str phoneNumber)]

def locationRequest (phoneNumber : String) (area : Geofence) : Json :=
  .obj [("device", .obj [("phoneNumber", .str phoneNumber)]),
    ("area", .obj [("areaType", .str "Circle"),
      ("center", .obj [("latitude", .float (rt.repr area.latitude)),
        ("longitude", .float (rt.repr area.longitude))]),
      ("radius", .int area.radius)])]

/-- The request for a swap check. -/
def swapRequest (phoneNumber : String) : Json :=
  .obj [("phoneNumber", .str phoneNumber), ("maxAge", .int 240)]

def verifyNumber (phoneNumber : String) :
    NokiaEvidenceClient → Except CheckError Bool × NokiaEvidenceClient :=
  check rt numberPath (numberRequest phoneNumber) (camaraNumberVerificationResponse rt)

def verifyLocation (phoneNumber : String) (area : Geofence) :
    NokiaEvidenceClient → Except CheckError VerificationResult × NokiaEvidenceClient :=
  check rt locationPath (locationRequest rt phoneNumber area)
    (camaraLocationVerificationResponse rt)

def checkSimSwap (phoneNumber : String) :
    NokiaEvidenceClient → Except CheckError Bool × NokiaEvidenceClient :=
  check rt "/sim-swap/v1/check" (swapRequest phoneNumber) (camaraSimSwapResponse rt)

def checkDeviceSwap (phoneNumber : String) :
    NokiaEvidenceClient → Except CheckError Bool × NokiaEvidenceClient :=
  check rt "/device-swap/v1/check" (swapRequest phoneNumber) (camaraDeviceSwapResponse rt)

def getReachability (phoneNumber : String) :
    NokiaEvidenceClient → Except CheckError ReachabilityResponse × NokiaEvidenceClient :=
  check rt "/device-reachability/v1/reachability-status"
    (.obj [("device", .obj [("phoneNumber", .str phoneNumber)])]) (camaraReachabilityResponse rt)

/-- A CAMARA endpoint answers all five checks, so nothing is exempt. -/
def attestableKinds : Finset EvidenceKind := .univ

/-- The protocol against a CAMARA endpoint. -/
def protocol : NokiaClientProtocol NokiaEvidenceClient where
  attestableKinds := attestableKinds
  verifyNumber := verifyNumber rt
  verifyLocation := verifyLocation rt
  checkSimSwap := checkSimSwap rt
  checkDeviceSwap := checkDeviceSwap rt
  getReachability := getReachability rt

end Checks

end NokiaEvidenceClient

end ZoneGate
