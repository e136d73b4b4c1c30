import ZoneGate.Library.Raising
import ZoneGate.Py.Str
import ZoneGate.Py.Value

/-!
# The live carrier gateway

A check of the carrier is a JSON-RPC call of a tool, and the reply is an untrusted JSON value.
`call_tool` has an exception of its own for every wrong shape below the top of the reply.  At the
top it only asks for the key `error`, and that raises on what is no container.
-/

namespace ZoneGate

open Py Raising

/-! ## The interpreter and the transport -/

/-- What decoding a text gives. -/
inductive Decoded
  | value (v : Json)
  | valueError
  | recursionError

/-- `json.loads`, `str` and `json.dumps`. -/
structure JsonRuntime where
  loads : String → Decoded
  str : Json → String
  dumps : Json → String

/-- A request fails with an `httpx.HTTPError`, or it is answered with a status, the text of the
error that `raise_for_status` has for it, and a body that decodes to something. -/
inductive HttpOutcome
  | failed (message : String)
  | answered (statusCode : ℕ) (statusError : String) (body : Decoded)

/-- The exceptions of a call; `interpreter` are those that nothing handles. -/
inductive CarrierError
  | nokiaLive (message : String)
  | capabilityUnavailable (message : String)
  | interpreter (e : PyError)
deriving DecidableEq, Repr

structure NokiaLiveEvidenceClient where
  mcpUrl : String := "https://mcp.prodeu.apihub.nokia.io"
  requestId : ℤ := 0
  post : String → Json → HttpOutcome

namespace NokiaLiveEvidenceClient

/-! ## A call of a tool -/

/-- The JSON-RPC request. -/
def envelope (requestId : ℤ) (tool : String) (arguments : List (String × Json)) : Json :=
  .obj [("jsonrpc", .str "2.0"), ("id", .int requestId), ("method", .str "tools/call"),
    ("params", .obj [("name", .str tool), ("arguments", .obj arguments)])]

section Reply

variable (rt : JsonRuntime) (tool : String)

/-- `json.loads(value)`; what is no text is a `TypeError`. -/
def loads : Json → Except PyError Json
  | .str text =>
      match rt.loads text with
      | .value v => .ok v
      | .valueError => .error .valueError
      | .recursionError => .error .recursionError
  | _ => .error .typeError

/-- `body["result"]["content"][0]["text"]` -/
def textOf (body : Json) : Except PyError Json := do
  let result ← body.item "result"
  let content ← result.item "content"
  let block ← content.first
  block.item "text"

/-- The carrier's own words for why it declined. -/
def describe (payload : List (String × Json)) : String :=
  match payload.lookup "detail" with
  | some (.obj detail) =>
      let code := (detail.lookup "code").getD (.str "")
      let message := (detail.lookup "message").getD (.str "")
      let words := strip (rt.str code ++ " " ++ rt.str message)
      if words = "" then rt.dumps (.obj detail) else words
  | some (.str detail) => detail
  | _ => rt.dumps (.obj payload)

/-- A key of an error body. -/
def declines (payload : List (String × Json)) : Bool :=
  (payload.lookup "detail").isSome || (payload.lookup "status").isSome ||
    (payload.lookup "code").isSome

/-- The payload of a decoded body. -/
def payloadOf (body : Json) : Except CarrierError (List (String × Json)) := do
  let refused ← (body.contains "error").mapError .interpreter
  if refused then do
    let error ← (body.item "error").mapError .interpreter
    throw (.nokiaLive ("Nokia gateway refused '" ++ tool ++ "': " ++ rt.str error))
  else match textOf body >>= loads rt with
  | .error .recursionError => throw (.interpreter .recursionError)
  | .error _ =>
      throw (.nokiaLive ("Nokia gateway answered '" ++ tool ++ "' in an unreadable shape"))
  | .ok (.obj payload) =>
      if declines payload then
        throw (.capabilityUnavailable
          ("The carrier declined '" ++ tool ++ "': " ++ describe rt payload))
      else return payload
  | .ok payload =>
      throw (.nokiaLive ("Nokia gateway answered '" ++ tool ++ "' with " ++ payload.typeName))

/-- `response.is_success` -/
def IsSuccess (statusCode : ℕ) : Prop := 200 ≤ statusCode ∧ statusCode < 300

instance (statusCode : ℕ) : Decidable (IsSuccess statusCode) := by unfold IsSuccess; infer_instance

def transportFailure (message : String) : CarrierError :=
  .nokiaLive ("Nokia gateway transport failure on '" ++ tool ++ "': " ++ message)

/-- What the call makes of the outcome of its request. -/
def read : HttpOutcome → Except CarrierError (List (String × Json))
  | .failed message => .error (transportFailure tool message)
  | .answered statusCode statusError body =>
      if IsSuccess statusCode then
        match body with
        | .value body => payloadOf rt tool body
        | .valueError =>
            .error (.nokiaLive ("Nokia gateway returned a non-JSON body for '" ++ tool ++ "'"))
        | .recursionError => .error (.interpreter .recursionError)
      else .error (transportFailure tool statusError)

/-- `_call_tool`: the payload or the exception, and the client after the call. -/
def callTool (client : NokiaLiveEvidenceClient) (arguments : List (String × Json)) :
    Except CarrierError (List (String × Json)) × NokiaLiveEvidenceClient :=
  let client := { client with requestId := client.requestId + 1 }
  (read rt tool (client.post client.mcpUrl (envelope client.requestId tool arguments)), client)

end Reply

/-! ## Replies and what they carry -/

/-- The text of the first content block. -/
def HasText (body : List (String × Json)) (text : String) : Prop :=
  ∃ result block rest, body.lookup "result" = some (.obj result) ∧
    result.lookup "content" = some (.arr (.obj block :: rest)) ∧
      block.lookup "text" = some (.str text)

/-- The reply has no error key, and the text of its first content block decodes to the
dictionary. -/
def Carries (rt : JsonRuntime) (outcome : HttpOutcome) (payload : List (String × Json)) : Prop :=
  ∃ statusCode statusError body text,
    outcome = .answered statusCode statusError (.value (.obj body)) ∧ IsSuccess statusCode ∧
      body.lookup "error" = none ∧ HasText body text ∧ rt.loads text = .value (.obj payload)

/-- A payload is returned that declines nothing; or the carrier declines, exactly when the payload
does; or the gateway is at fault. -/
structure Classified (rt : JsonRuntime) (outcome : HttpOutcome)
    (result : Except CarrierError (List (String × Json))) : Prop where
  returned : ∀ payload, result = .ok payload →
    declines payload = false ∧ Carries rt outcome payload
  declined : (∃ message, result = .error (.capabilityUnavailable message)) ↔
    ∃ payload, Carries rt outcome payload ∧ declines payload = true
  handled : ∀ e, result ≠ .error (.interpreter e)

/-- The decoded body can be asked for an error: a dictionary, or a list or a string without the
word.  The text of a dictionary without an error decodes at all. -/
def Answerable (rt : JsonRuntime) : Json → Prop
  | .obj body => body.lookup "error" = none →
      ∀ text, HasText body text → rt.loads text ≠ .recursionError
  | .arr items => ∀ v ∈ items, v.isStr "error" = false
  | .str s => ¬ "error".toList <:+: s.toList
  | _ => False

/-- A reply that is a success decodes, to a body that can be asked for an error. -/
def Legible (rt : JsonRuntime) : HttpOutcome → Prop
  | .failed _ => True
  | .answered statusCode _ body => IsSuccess statusCode →
      match body with
      | .value body => Answerable rt body
      | .valueError => True
      | .recursionError => False

variable {rt : JsonRuntime} {outcome : HttpOutcome}

theorem HasText.unique {body : List (String × Json)} {text text' : String} (h : HasText body text)
    (h' : HasText body text') : text = text' := by
  obtain ⟨result, block, rest, hresult, hcontent, htext⟩ := h
  obtain ⟨result', block', rest', hresult', hcontent', htext'⟩ := h'
  obtain ⟨⟩ := hresult.symm.trans hresult'
  obtain ⟨⟩ := hcontent.symm.trans hcontent'
  obtain ⟨⟩ := htext.symm.trans htext'
  rfl

theorem textOf_eq_ok {body : List (String × Json)} {text : String} :
    textOf (.obj body) = .ok (.str text) ↔ HasText body text := by
  constructor
  · intro found
    obtain ⟨result, hresult, found⟩ := bind_eq_ok.1 found
    obtain ⟨content, hcontent, found⟩ := bind_eq_ok.1 found
    obtain ⟨head, rest, rfl, htext⟩ := Json.first_item_eq_ok.1 found
    obtain ⟨_, ⟨⟩, inBody⟩ := Json.item_eq_ok.1 hresult
    obtain ⟨result, rfl, inResult⟩ := Json.item_eq_ok.1 hcontent
    obtain ⟨block, rfl, inBlock⟩ := Json.item_eq_ok.1 htext
    exact ⟨result, block, rest, inBody, inResult, inBlock⟩
  · rintro ⟨result, block, rest, hresult, hcontent, htext⟩
    refine bind_eq_ok.2 ⟨_, Json.item_eq_ok.2 ⟨body, rfl, hresult⟩, ?_⟩
    refine bind_eq_ok.2 ⟨_, Json.item_eq_ok.2 ⟨result, rfl, hcontent⟩, ?_⟩
    exact Json.first_item_eq_ok.2 ⟨_, rest, rfl, Json.item_eq_ok.2 ⟨block, rfl, htext⟩⟩

theorem textOf_ne_recursionError (body : Json) : textOf body ≠ .error .recursionError := by
  refine bind_ne_error (Json.item_ne_recursionError _ _) fun result => ?_
  refine bind_ne_error (Json.item_ne_recursionError _ _) fun content => ?_
  exact bind_ne_error (Json.first_ne_recursionError content) (Json.item_ne_recursionError _)

/-- The second decoding breaks down exactly on a text that does. -/
theorem textOf_loads_eq_recursionError {body : List (String × Json)} :
    textOf (.obj body) >>= loads rt = .error .recursionError ↔
      ∃ text, HasText body text ∧ rt.loads text = .recursionError := by
  constructor
  · intro broke
    rcases found : textOf (.obj body) with e | value
    · rw [found] at broke
      exact absurd (found.trans broke) (textOf_ne_recursionError _)
    rw [found] at broke
    change loads rt value = .error .recursionError at broke
    cases value with
    | str text =>
      refine ⟨text, textOf_eq_ok.1 found, ?_⟩
      rw [loads] at broke
      rcases h : rt.loads text with v | _ | _ <;> simp [h] at broke ⊢
    | _ => cases broke
  · rintro ⟨text, has, breaks⟩
    rw [textOf_eq_ok.2 has]
    change loads rt (.str text) = _
    rw [loads, breaks]

theorem textOf_loads_eq_ok {body : List (String × Json)} {payload : Json} :
    textOf (.obj body) >>= loads rt = .ok payload ↔
      ∃ text, HasText body text ∧ rt.loads text = .value payload := by
  constructor
  · intro decoded
    obtain ⟨value, found, decoded⟩ := bind_eq_ok.1 decoded
    cases value with
    | str text =>
      refine ⟨text, textOf_eq_ok.1 found, ?_⟩
      rw [loads] at decoded
      rcases h : rt.loads text with v | _ | _ <;> simp [h] at decoded ⊢
      exact decoded
    | _ => cases decoded
  · rintro ⟨text, has, decodes⟩
    refine bind_eq_ok.2 ⟨_, textOf_eq_ok.2 has, ?_⟩
    rw [loads, decodes]

/-! ## Classification -/

theorem Carries.answered {statusCode : ℕ} {statusError : String} {body : Json}
    {payload : List (String × Json)}
    (h : Carries rt (.answered statusCode statusError (.value body)) payload) :
    IsSuccess statusCode ∧ ∃ members text, body = .obj members ∧ members.lookup "error" = none ∧
      HasText members text ∧ rt.loads text = .value (.obj payload) := by
  obtain ⟨_, _, members, text, ⟨⟩, success, clean, has, decodes⟩ := h
  exact ⟨success, members, text, rfl, clean, has, decodes⟩

theorem classified_nokiaLive {message : String} (h : ∀ payload, ¬ Carries rt outcome payload) :
    Classified rt outcome (.error (.nokiaLive message)) :=
  ⟨nofun, iff_of_false nofun fun ⟨payload, carries, _⟩ => h payload carries, nofun⟩

theorem not_classified_interpreter (e : PyError) :
    ¬ Classified rt outcome (.error (.interpreter e)) :=
  fun h => h.handled e rfl

/-- One payload is carried. -/
theorem classified_payload {payload : List (String × Json)} {message : String}
    (only : ∀ payload', Carries rt outcome payload' ↔ payload' = payload) :
    Classified rt outcome
      (if declines payload then .error (.capabilityUnavailable message) else .ok payload) := by
  by_cases declined : declines payload = true
  · rw [if_pos declined]
    exact ⟨nofun, iff_of_true ⟨_, rfl⟩ ⟨payload, (only payload).2 rfl, declined⟩, nofun⟩
  · rw [if_neg declined]
    refine ⟨?_, iff_of_false nofun ?_, nofun⟩
    · rintro _ ⟨⟩
      exact ⟨by simpa using declined, (only payload).2 rfl⟩
    · rintro ⟨payload', carries, declines'⟩
      rw [(only payload').1 carries] at declines'
      exact declined declines'

variable (tool : String)

section Body

variable {statusCode : ℕ} {statusError : String} {body : List (String × Json)}

/-- A reply without an error carries what its text decodes to. -/
theorem carries_iff (success : IsSuccess statusCode) (clean : body.lookup "error" = none)
    (payload : List (String × Json)) :
    Carries rt (.answered statusCode statusError (.value (.obj body))) payload ↔
      textOf (.obj body) >>= loads rt = .ok (.obj payload) := by
  rw [textOf_loads_eq_ok]
  constructor
  · intro carries
    obtain ⟨-, _, text, ⟨⟩, -, has, decodes⟩ := carries.answered
    exact ⟨text, has, decodes⟩
  · rintro ⟨text, has, decodes⟩
    exact ⟨statusCode, statusError, body, text, rfl, success, clean, has, decodes⟩

theorem payloadOf_clean (clean : body.lookup "error" = none) :
    payloadOf rt tool (.obj body) =
      match textOf (.obj body) >>= loads rt with
      | .error .recursionError => .error (.interpreter .recursionError)
      | .error _ => .error
          (.nokiaLive ("Nokia gateway answered '" ++ tool ++ "' in an unreadable shape"))
      | .ok (.obj payload) =>
          if declines payload then
            .error (.capabilityUnavailable
              ("The carrier declined '" ++ tool ++ "': " ++ describe rt payload))
          else .ok payload
      | .ok payload => .error
          (.nokiaLive ("Nokia gateway answered '" ++ tool ++ "' with " ++ payload.typeName)) := by
  simp only [payloadOf, Json.contains, clean]
  rfl

theorem payloadOf_refused {error : Json} (refused : body.lookup "error" = some error) :
    payloadOf rt tool (.obj body) =
      .error (.nokiaLive ("Nokia gateway refused '" ++ tool ++ "': " ++ rt.str error)) := by
  simp only [payloadOf, Json.contains, Json.item, refused]
  rfl

/-- A dictionary without an error. -/
theorem classified_payloadOf_iff (success : IsSuccess statusCode)
    (clean : body.lookup "error" = none) :
    Classified rt (.answered statusCode statusError (.value (.obj body)))
        (payloadOf rt tool (.obj body)) ↔
      ∀ text, HasText body text → rt.loads text ≠ .recursionError := by
  have carried (payload : List (String × Json)) :
      Carries rt (.answered statusCode statusError (.value (.obj body))) payload ↔ _ :=
    carries_iff success clean payload
  have breaks : textOf (.obj body) >>= loads rt = .error .recursionError ↔ _ :=
    textOf_loads_eq_recursionError
  rw [payloadOf_clean tool clean]
  rcases decoded : textOf (.obj body) >>= loads rt with e | payload
  · simp only [decoded] at carried breaks
    cases e with
    | recursionError =>
      obtain ⟨text, has, broken⟩ := breaks.1 rfl
      exact iff_of_false (not_classified_interpreter _) fun alone => alone text has broken
    | _ =>
      have nothing (payload : List (String × Json)) :
          ¬ Carries rt (.answered statusCode statusError (.value (.obj body))) payload := by
        rw [carried]
        exact nofun
      refine iff_of_true (classified_nokiaLive nothing) fun text has broken => ?_
      cases breaks.2 ⟨text, has, broken⟩
  · have alone (text : String) (has : HasText body text) : rt.loads text ≠ .recursionError := by
      obtain ⟨text', has', decodes⟩ := textOf_loads_eq_ok.1 decoded
      rw [has.unique has', decodes]
      exact nofun
    refine iff_of_true ?_ alone
    cases payload with
    | obj payload =>
      refine classified_payload fun payload' => ?_
      rw [carried, decoded]
      exact ⟨by rintro ⟨⟩; rfl, by rintro rfl; rfl⟩
    | _ =>
      refine classified_nokiaLive fun payload' carries => ?_
      cases decoded.symm.trans ((carried payload').1 carries)

theorem classified_refused {error : Json} (refused : body.lookup "error" = some error) :
    Classified rt (.answered statusCode statusError (.value (.obj body)))
      (payloadOf rt tool (.obj body)) := by
  rw [payloadOf_refused tool refused]
  refine classified_nokiaLive fun payload carries => ?_
  obtain ⟨-, _, _, ⟨⟩, clean, -⟩ := carries.answered
  cases refused.symm.trans clean

end Body

/-- A list or a string may have the word in it, and has nothing under the word. -/
theorem payloadOf_unkeyed {body : Json} {named : Bool} (unkeyed : ∀ members, body ≠ .obj members)
    (asked : body.contains "error" = .ok named) :
    payloadOf rt tool body = .error (if named then .interpreter .typeError else
      .nokiaLive ("Nokia gateway answered '" ++ tool ++ "' in an unreadable shape")) := by
  cases body with
  | obj members => exact absurd rfl (unkeyed members)
  | arr => rw [payloadOf, asked]; cases named <;> rfl
  | str => rw [payloadOf, asked]; cases named <;> rfl
  | _ => cases asked

theorem classified_unkeyed_iff {statusCode : ℕ} {statusError : String} {body : Json} {named : Bool}
    (unkeyed : ∀ members, body ≠ .obj members) (asked : body.contains "error" = .ok named) :
    Classified rt (.answered statusCode statusError (.value body)) (payloadOf rt tool body) ↔
      named = false := by
  rw [payloadOf_unkeyed tool unkeyed asked]
  cases named with
  | true => exact iff_of_false (not_classified_interpreter _) nofun
  | false =>
    refine iff_of_true (classified_nokiaLive fun payload carries => ?_) rfl
    obtain ⟨-, members, -, isObject, -⟩ := carries.answered
    exact unkeyed members isObject

theorem classified_value_iff {statusCode : ℕ} {statusError : String} (success : IsSuccess statusCode)
    (body : Json) :
    Classified rt (.answered statusCode statusError (.value body)) (payloadOf rt tool body) ↔
      Answerable rt body := by
  cases body with
  | obj members =>
    rcases found : members.lookup "error" with _ | error
    · rw [classified_payloadOf_iff tool success found, Answerable]
      simp [found]
    · exact iff_of_true (classified_refused tool found) fun clean => by simp [found] at clean
  | arr items =>
    rw [classified_unkeyed_iff tool (by simp) rfl]
    simp [Answerable]
  | str s =>
    rw [classified_unkeyed_iff tool (by simp) rfl]
    simp [Answerable]
  | _ => exact iff_of_false (not_classified_interpreter _) id

theorem classified_read_iff (outcome : HttpOutcome) :
    Classified rt outcome (read rt tool outcome) ↔ Legible rt outcome := by
  rcases outcome with message | ⟨statusCode, statusError, body⟩
  · refine iff_of_true (classified_nokiaLive ?_) trivial
    rintro payload ⟨_, _, _, _, ⟨⟩, -⟩
  unfold read
  dsimp only
  by_cases success : IsSuccess statusCode
  swap
  · rw [if_neg success]
    refine iff_of_true (classified_nokiaLive ?_) fun h => absurd h success
    rintro payload ⟨_, _, _, _, ⟨⟩, h, -⟩
    exact success h
  rw [if_pos success]
  have legible : Legible rt (.answered statusCode statusError body) ↔
      match body with
      | .value body => Answerable rt body
      | .valueError => True
      | .recursionError => False := ⟨fun h => h success, fun h _ => h⟩
  rw [legible]
  rcases body with body | _ | _
  · exact classified_value_iff tool success body
  · refine iff_of_true (classified_nokiaLive ?_) trivial
    rintro payload ⟨_, _, _, _, ⟨⟩, -⟩
  · exact iff_of_false (not_classified_interpreter _) id

/-- Every call of a tool is classified, whatever is answered, exactly when the answer is no success,
or decodes to something that can be asked for an error. -/
theorem callTool_classified_iff (rt : JsonRuntime) (client : NokiaLiveEvidenceClient)
    (tool : String) (arguments : List (String × Json)) :
    let outcome := client.post client.mcpUrl (envelope (client.requestId + 1) tool arguments)
    Classified rt outcome (client.callTool rt tool arguments).1 ↔ Legible rt outcome :=
  classified_read_iff tool _

end NokiaLiveEvidenceClient

/-! ### An empty reply -/

namespace Sample

/-- A gateway that answers `null` to everything. -/
def nullGateway : NokiaLiveEvidenceClient where
  post _ _ := .answered 200 "" (.value .null)

/-- No text is decoded here. -/
def runtime : JsonRuntime := ⟨fun _ => .valueError, fun _ => "", fun _ => ""⟩

end Sample

/-- The reply is a success, and what is raised is an exception of the interpreter. -/
theorem null_reply_raises :
    (Sample.nullGateway.callTool Sample.runtime "checkSimSwap"
        [("phoneNumber", .str "+99999991001")]).1 = .error (.interpreter .typeError) ∧
      ¬ NokiaLiveEvidenceClient.Classified Sample.runtime (.answered 200 "" (.value .null))
        (Sample.nullGateway.callTool Sample.runtime "checkSimSwap"
          [("phoneNumber", .str "+99999991001")]).1 :=
  ⟨rfl, fun classified => classified.handled .typeError rfl⟩

end ZoneGate
