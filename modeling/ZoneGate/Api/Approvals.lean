import ZoneGate.Api.Filing
import ZoneGate.Integrations.Camara

/-!
# Approvals and the carrier

The requests of a deployment share one carrier client.  An approval rests on what the carrier said to
the very request that was approved: about the device that the actor was bound to, and about the zone
of the release.
-/

namespace ZoneGate

open Py Effects

/-! ## Requests that share a client -/

section Through

variable {σ ι : Type} (rt : ClientRuntime) (client : NokiaClientProtocol σ)

/-- The calls of a request, with the carrier behind a client. -/
def handleThrough (env : Env) (peers : Peers) : Handler Services ServiceError (World × σ)
  | .carrier c, s => (.ok (carrierReply rt (client.perform c s.2).1), s.1, (client.perform c s.2).2)
  | c, s => ((handle env peers c s.1).1, (handle env peers c s.1).2, s.2)

/-- The calls of all requests. -/
def handleAllThrough (env : Env) (peers : ι → Peers) (i : ι) :
    Handler Services ServiceError (World × σ) :=
  handleThrough rt client env (peers i)

variable {rt client} {env : Env} {peers : ι → Peers}

/-- The world changes as it does without the client. -/
theorem handleAllThrough_world (i : ι) (c : Effect) (s : World × σ) :
    (handleAllThrough rt client env peers i c s).2.1 = (handleAll env peers i c s.1).2 := by
  cases c <;> rfl

/-- The contents of the store, beside the client. -/
abbrev storeOf (s : World × σ) : Kv := s.1.kv

/-- What the store answers is what it holds. -/
theorem handleAllThrough_store (i : ι) (c : StoreCall) (s : World × σ) :
    (handleAllThrough rt client env peers i (.store c) s).1 = .ok (c.answer (storeOf s)) := rfl

end Through

section Approvals

variable {σ ι : Type} [DecidableEq ι] {rt : ClientRuntime} {client : NokiaClientProtocol σ}
  {env : Env} {peers : ι → Peers}

/-- The client performs the check with an answer that lets a release through. -/
def Confirms (client : NokiaClientProtocol σ) (c : CarrierCall) (s : σ) : Prop :=
  ∃ a, (client.perform c s).1 = .ok a ∧ Passes c a

theorem Confirms.verifyNumber {phoneNumber : String} {s : σ}
    (h : Confirms client (.verifyNumber phoneNumber) s) :
    (client.perform (.verifyNumber phoneNumber) s).1 = .ok true := by
  obtain ⟨a, answered, passes⟩ := h
  obtain rfl : a = true := by simpa [Passes, CarrierCall.read] using passes
  exact answered

theorem Confirms.verifyLocation {phoneNumber : String} {area : Geofence} {s : σ}
    (h : Confirms client (.verifyLocation phoneNumber area) s) :
    (client.perform (.verifyLocation phoneNumber area) s).1 = .ok .true := by
  obtain ⟨a, answered, passes⟩ := h
  obtain rfl : a = .true := by simpa [Passes, CarrierCall.read] using passes
  exact answered

variable [Unicode] [UnicodeDigits] (svc : AuthorizationService) (console : ConsoleAuthService)
  (settings : Settings)

/-- Requests to the endpoints, about to start, and the client that they share. -/
def servingThrough (requests : ι → HttpRequest) (s : World × σ) :
    Pool Services ServiceError HttpAnswer (World × σ) ι where
  threads i := (requests i).program svc console settings
  state := s

/-- An approval that is new was saved by a request that had been confirmed in every check that it
needs. -/
theorem approval_confirmed (requests : ι → HttpRequest) {s : World × σ} (schedule : List ι)
    {id : String} {d : PolicyDecision}
    (stored : ((servingThrough svc console settings requests s).run
      (handleAllThrough rt client env peers) schedule).state.1.kv (.decisions id) = some d)
    (approved : d.decision = .approve) (new : s.1.kv (.decisions id) ≠ some d) :
    let trace := (servingThrough svc console settings requests s).trace
      (handleAllThrough rt client env peers) schedule
    ∃ before e after transaction actor binding area, trace = before ++ e :: after ∧
      e.call = .store (.saveDecision d) ∧ d.decisionId = id ∧
      d.transactionId = transaction.transactionId ∧
      Identified storeOf requests before e.thread transaction actor binding ∧
      areaOf svc.zoneRegistry transaction.zone = some area ∧
      ∀ c ∈ checks binding.phoneNumber area, c.kind ∈ svc.requires releaseCargoPolicy →
        Asked storeOf requests before e.thread transaction actor binding c fun e =>
          Confirms client c e.state.2 := by
  intro trace
  obtain ⟨named, e, mem, saves⟩ := (decision_origin storeOf
    (fun i c s _ _ there => decision_of_handle i c
      (by rwa [storeOf, handleAllThrough_world] at there)) stored).resolve_left new
  obtain ⟨before, after, split⟩ := List.append_of_mem mem
  have justified := Pool.upholds_event
    (fun i => (requests i).program_justified svc console settings) split
  rw [saves] at justified
  obtain ⟨transaction, actor, binding, area, asks, about, attested⟩ :
      Attested svc (requests e.thread).AsksFor (history e.thread before) d := by
    rcases justified with made | ⟨held, -⟩
    · exact made.attested approved
    · rw [approved] at held
      cases held
  have handled : ∀ e' ∈ before, e'.reply =
      (handleAllThrough rt client env peers e'.thread e'.call e'.state).1 := fun e' earlier =>
    Pool.reply_of_mem_trace (mem_of_split split earlier)
  refine ⟨before, e, after, transaction, actor, binding, area, split, saves, named, about,
    .of_read handleAllThrough_store handled asks attested.bound attested.read, attested.located,
    fun c mem required => ?_⟩
  obtain ⟨a, replied, passes⟩ := attested.passed c mem required
  refine (Asked.of_replied handleAllThrough_store handled asks attested.bound replied).mono ?_
  rintro e' ⟨earlier, answered⟩
  have reply := Event.reply_of_answered (handled e' earlier) answered
  exact ⟨a, carrierReply_eq_answered.1 (Except.ok.inj reply), passes⟩

/-! ## The live gateway -/

section Live

open NokiaLiveEvidenceClient

/-- The gateway says that the number is inside the area: it answers the call of the location tool
with a payload that declines nothing and says so. -/
def SaysInside (rt : ClientRuntime) (phoneNumber : String) (area : Geofence)
    (gateway : NokiaLiveEvidenceClient) : Prop :=
  ∃ payload, Carries rt.toJsonRuntime (gateway.outcomeOf toolLocationVerification
      (locationArguments rt phoneNumber area)) payload ∧
    declines payload = false ∧ payload.lookup "verificationResult" = some (.str "TRUE")

/-- However the requests overlap and whatever the gateway and the models answer, an approval that is
new in the store was saved by a request that, before, had found its actor bound to a device, had asked
the gateway about this device, and had been told that it is inside the zone of the release. -/
theorem live_approvals_confirmed (rt : ClientRuntime) (env : Env) (peers : ι → Peers)
    (attests : svc.attestable = some attestableKinds) (requests : ι → HttpRequest)
    {w : World} {client : NokiaLiveEvidenceClient} (schedule : List ι) {id : String}
    {d : PolicyDecision}
    (stored : ((servingThrough svc console settings requests (w, client)).run
      (handleAllThrough rt (protocol rt) env peers) schedule).state.1.kv (.decisions id) = some d)
    (approved : d.decision = .approve) (new : w.kv (.decisions id) ≠ some d) :
    let trace := (servingThrough svc console settings requests (w, client)).trace
      (handleAllThrough rt (protocol rt) env peers) schedule
    ∃ before e after transaction actor binding area, trace = before ++ e :: after ∧
      e.call = .store (.saveDecision d) ∧ d.decisionId = id ∧
      d.transactionId = transaction.transactionId ∧
      Identified storeOf requests before e.thread transaction actor binding ∧
      areaOf svc.zoneRegistry transaction.zone = some area ∧
      Asked storeOf requests before e.thread transaction actor binding
        (.verifyLocation binding.phoneNumber area) fun e =>
          SaysInside rt binding.phoneNumber area e.state.2 := by
  intro trace
  obtain ⟨before, e, after, transaction, actor, binding, area, split, saves, named, about,
      identified, located, confirmed⟩ :=
    approval_confirmed svc console settings requests schedule stored approved new
  refine ⟨before, e, after, transaction, actor, binding, area, split, saves, named, about,
    identified, located, ?_⟩
  have required : EvidenceKind.locationVerification ∈ svc.requires releaseCargoPolicy := by
    rw [AuthorizationService.requires, attests]
    decide
  have location : .verifyLocation binding.phoneNumber area ∈ checks binding.phoneNumber area := by
    simp [checks]
  refine (confirmed _ location required).mono fun e confirms => ?_
  obtain ⟨payload, carries, nothing, valid⟩ := carries_of_check confirms.verifyLocation
  exact ⟨payload, carries, nothing, says_true_of_location valid⟩

end Live

/-! ## CAMARA over REST -/

section Rest

open NokiaEvidenceClient

end Rest

end Approvals

/-! ## A release that is approved -/

namespace Sample

/-- Two answers that the carrier gives: it has seen the device there, and no swap. -/
def located : List (String × Json) := [("verificationResult", .str "TRUE"), ("matchRate", .int 95)]

def unswapped : List (String × Json) := [("swapped", .bool false)]

/-- The text of a tool is its name here. -/
def clientRuntime : ClientRuntime where
  loads text := .value (.obj (if text = "verifyLocation-LocV-V0" then located else unswapped))
  str _ := ""
  dumps _ := ""
  bool
    | .bool b => some b
    | _ => none
  int
    | .int n => some n
    | _ => none
  invalid name _ := name
  repr _ := "0.0"
  raised _ := ""

/-- A gateway that answers every call of a tool. -/
def liveGateway : NokiaLiveEvidenceClient where
  post _ envelope := .answered 200 "" (.value (.obj [("result", .obj [("content", .arr
    [.obj [("type", .str "text"), ("text",
      ((envelope.item "params" >>= Json.item "name").toOption.getD .null))]])])]))

def liveService : AuthorizationService :=
  { service with attestable := some NokiaLiveEvidenceClient.attestableKinds }

/-- A release of general cargo. -/
def throughLive : Pool Services ServiceError HttpAnswer (World × NokiaLiveEvidenceClient) Unit :=
  @servingThrough _ Unit unicode unicodeDigits liveService console {}
    (fun _ => .requestAuthorization general) (world, liveGateway)

abbrev liveCalls : Unit → Handler Services ServiceError (World × NokiaLiveEvidenceClient) :=
  handleAllThrough clientRuntime (NokiaLiveEvidenceClient.protocol clientRuntime) env fun _ => peers

theorem no_decisions (d : PolicyDecision) :
    world.kv (.decisions "dec_000000000000") ≠ some d := by
  rw [show world.kv (.decisions "dec_000000000000") = none from rfl]
  nofun

end Sample

theorem live_approvals_confirmed_release :
    ∃ d, (Sample.throughLive.run Sample.liveCalls (List.replicate 25 ())).state.1.kv
        (.decisions "dec_000000000000") = some d ∧ d.decision = .approve ∧
      ∃ before e after transaction actor binding area,
        Sample.throughLive.trace Sample.liveCalls (List.replicate 25 ()) = before ++ e :: after ∧
        e.call = .store (.saveDecision d) ∧
        Asked storeOf (fun _ => .requestAuthorization Sample.general) before e.thread transaction
          actor binding (.verifyLocation binding.phoneNumber area) fun e =>
            SaysInside Sample.clientRuntime binding.phoneNumber area e.state.2 := by
  have made : ((Sample.throughLive.run Sample.liveCalls (List.replicate 25 ())).state.1.kv
      (.decisions "dec_000000000000")).map (·.decision) = some .approve := by decide +kernel
  obtain ⟨d, stored, approved⟩ := Option.map_eq_some_iff.1 made
  obtain ⟨before, e, after, transaction, actor, binding, area, split, saves, -, -, -, -, said⟩ :=
    @live_approvals_confirmed Unit _ Sample.unicode Sample.unicodeDigits Sample.liveService
      Sample.console {} Sample.clientRuntime Sample.env (fun _ => Sample.peers) rfl
      (fun _ => .requestAuthorization Sample.general) Sample.world Sample.liveGateway
      (List.replicate 25 ()) "dec_000000000000" d stored approved (Sample.no_decisions d)
  exact ⟨d, stored, approved, before, e, after, transaction, actor, binding, area, split, saves,
    said⟩

end ZoneGate
