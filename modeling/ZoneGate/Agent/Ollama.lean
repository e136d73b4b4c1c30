import ZoneGate.Library.Raising
import ZoneGate.Library.Retry
import ZoneGate.Py.Value

/-!
# The Ollama client

`generate_structured` asks a model for JSON of a schema.  Output that is not valid goes back to the
model with what is wrong with it, and the model is asked again, so many times.  Whatever else goes
wrong ends the exchange.

What a request comes to is data: the exception of the transport, or the status with the decoded
body.  The validation of a response model is a parameter.
-/

namespace ZoneGate

open Py Effects

/-! ## Requests and what they come to -/

structure Message where
  role : String
  content : String
deriving DecidableEq, Repr

/-- The body of a request to `/api/chat`. -/
structure ChatPayload where
  model : String
  messages : List Message
  stream : Bool
  format : Json

/-- What `resp.json()` gives.  `raised` is every exception but the `JSONDecodeError`: of a body that
is not UTF-8, of an integer that is too long, of values that are nested too deep. -/
inductive ChatBody
  | value (v : Json)
  | jsonDecodeError (message : String)
  | raised (e : PyError) (message : String)

/-- A `TimeoutException`, a `ConnectError`, another exception of the request, or an answer. -/
inductive ChatOutcome
  | timeout
  | connectError (message : String)
  | failed (message : String)
  | answered (statusCode : ℕ) (text : String) (body : ChatBody)

/-- The exceptions of the module, and those of the request and of the interpreter that it lets
through. -/
inductive OllamaError
  | client (message : String)
  | serviceUnavailable (message : String)
  | structuredOutput (message : String)
  | request (message : String)
  | interpreter (e : PyError) (message : String)
deriving DecidableEq, Repr

/-- `str(exc)` -/
def OllamaError.message : OllamaError → String
  | client message => message
  | serviceUnavailable message => message
  | structuredOutput message => message
  | request message => message
  | interpreter _ message => message

/-- The JSON schema, and `model_validate_json` with the text of its `ValidationError`. -/
structure ResponseModel (T : Type) where
  schema : Json
  validateJson : Json → Except String T

/-- `timeout` is the text of the seconds, without decimals. -/
structure OllamaClient where
  baseUrl : String := "http://localhost:11434"
  model : String := "qwen2.5:7b"
  timeout : String := "120"

namespace OllamaClient

/-- `__init__` -/
def init (baseUrl model timeout : String) : OllamaClient where
  baseUrl := .ofList (baseUrl.toList.reverse.dropWhile (· = '/')).reverse
  model := model
  timeout := timeout

/-! ## One attempt -/

/-- The exceptions that the handlers of `generate_structured` tell apart.  `format` is the text of a
`ValidationError`, a `JSONDecodeError` or an `OllamaStructuredOutputError`; nothing handles the
others. -/
inductive ChatException
  | timeout
  | connectError (exc : String)
  | format (exc : String)
  | other (e : OllamaError)

/-- `value.get(key, default)` -/
def get (key : String) (default : Json) : Json → Except ChatException Json
  | .obj members => .ok ((members.lookup key).getD default)
  | value => .error (.other (.interpreter .attributeError
      ("'" ++ value.typeName ++ "' object has no attribute 'get'")))

/-- `data.get("message", {}).get("content", "")` -/
def contentOf (data : Json) : Except ChatException Json := do
  let message ← get "message" (.obj []) data
  get "content" (.str "") message

@[simp] theorem get_obj (key : String) (default : Json) (members : List (String × Json)) :
    get key default (.obj members) = .ok ((members.lookup key).getD default) := rfl

/-- What is no dictionary has no `get`. -/
theorem get_of_ne {key : String} {default value : Json} (h : ∀ members, value ≠ .obj members) :
    ∃ exc, get key default value = .error (.other (.interpreter .attributeError exc)) := by
  cases value with
  | obj members => exact absurd rfl (h members)
  | _ => exact ⟨_, rfl⟩

theorem contentOf_obj (members : List (String × Json)) :
    contentOf (.obj members) =
      get "content" (.str "") ((members.lookup "message").getD (.obj [])) := rfl

variable [ValueText] {T : Type} (responseModel : ResponseModel T)

/-- The body of the `try`, with the variable `content` before and after it. -/
def attempt (content : Option Json) : ChatOutcome → Except ChatException T × Option Json
  | .timeout => (.error .timeout, content)
  | .connectError exc => (.error (.connectError exc), content)
  | .failed exc => (.error (.other (.request exc)), content)
  | .answered statusCode text body =>
      if statusCode ≠ 200 then
        (.error (.other (.client ("Ollama returned HTTP " ++ toString statusCode ++ ": " ++ text))),
          content)
      else match body with
      | .jsonDecodeError exc => (.error (.format exc), content)
      | .raised e exc => (.error (.other (.interpreter e exc)), content)
      | .value data =>
          match contentOf data with
          | .error e => (.error e, content)
          | .ok content =>
              if content.truthy then
                ((responseModel.validateJson content).mapError .format, some content)
              else (.error (.format "Ollama response contained empty content"), some content)

/-! ## The loop -/

structure LoopState where
  attempts : ℕ
  messages : List Message
  content : Option Json
  lastErr : Option String

def feedback (exc : String) : Message where
  role := "user"
  content := "The previous output failed schema validation: " ++ exc ++
    ". Provide ONLY valid JSON matching the schema."

/-- `str(content if 'content' in locals() else "")` -/
def quoted (content : Option Json) : Message where
  role := "assistant"
  content := content.elim "" Json.toStr

variable (client : OllamaClient) (maxRetries : ℤ)

def payload (messages : List Message) : ChatPayload where
  model := client.model
  messages := messages
  stream := false
  format := responseModel.schema

/-- The body of the loop, once the request has come to its outcome. -/
def judge (s : LoopState) (outcome : ChatOutcome) : Attempt OllamaError T LoopState :=
  let attempts := s.attempts + 1
  match attempt responseModel s.content outcome with
  | (.ok value, _) => .returned value
  | (.error .timeout, _) => .stopped (.serviceUnavailable
      ("Ollama timed out after " ++ client.timeout ++ "s at " ++ client.baseUrl ++
        " (model '" ++ client.model ++ "')"))
  | (.error (.connectError exc), _) => .stopped (.serviceUnavailable
      ("Ollama service unavailable at " ++ client.baseUrl ++ ": " ++ exc))
  | (.error (.other e), _) => .stopped e
  | (.error (.format exc), content) => .failed
      { attempts := attempts
        messages :=
          if attempts ≤ maxRetries then s.messages ++ [quoted content, feedback exc]
          else s.messages
        content := content
        lastErr := some exc }

/-- What is raised after the loop. -/
def exhausted (s : LoopState) : OllamaError :=
  .structuredOutput ("Failed to produce valid structured output after " ++ toString s.attempts ++
    " attempts: " ++ s.lastErr.getD "None")

theorem attempts_judge {s s' : LoopState} {outcome : ChatOutcome}
    (judged : client.judge responseModel maxRetries s outcome = .failed s') :
    s'.attempts = s.attempts + 1 := by
  unfold judge at judged
  dsimp only at judged
  split at judged <;> cases judged
  rfl

/-- `while attempts <= max_retries` -/
def loop (s : LoopState) : Prog (Requests ChatPayload ChatOutcome) OllamaError T :=
  if s.attempts ≤ maxRetries then
    .call (client.payload responseModel s.messages) fun outcome =>
      match judged : client.judge responseModel maxRetries s outcome with
      | .returned value => .ret value
      | .stopped e => .raise e
      | .failed s' =>
          have := attempts_judge responseModel client maxRetries judged
          loop s'
  else .raise (exhausted s)
termination_by (maxRetries + 1 - s.attempts).toNat
decreasing_by omega

/-- The first two messages. -/
def opening (prompt systemInstruction : String) : List Message :=
  [⟨"system", systemInstruction⟩, ⟨"user", prompt⟩]

def start (prompt systemInstruction : String) : LoopState where
  attempts := 0
  messages := opening prompt systemInstruction
  content := none
  lastErr := none

def generateStructured (prompt : String)
    (systemInstruction : String := "You are a precise security advisory AI. " ++
      "Output only valid JSON matching the requested schema.")
    (maxRetries : ℤ := 1) : Prog (Requests ChatPayload ChatOutcome) OllamaError T :=
  client.loop responseModel maxRetries (start prompt systemInstruction)

/-! ## A bounded retry -/

/-- The client retries. -/
def retry : Retry ChatPayload ChatOutcome OllamaError T LoopState where
  request s := client.payload responseModel s.messages
  judge := client.judge responseModel maxRetries
  exhausted := exhausted

/-- The loop is a bounded retry. -/
theorem loop_eq_program (s : LoopState) :
    client.loop responseModel maxRetries s =
      (client.retry responseModel maxRetries).program (maxRetries + 1 - s.attempts).toNat s := by
  generalize left : (maxRetries + 1 - s.attempts).toNat = n
  induction n generalizing s with
  | zero =>
    have done : ¬ (s.attempts : ℤ) ≤ maxRetries := by omega
    rw [loop, if_neg done]
    rfl
  | succ n ih =>
    have within : (s.attempts : ℤ) ≤ maxRetries := by omega
    rw [loop, if_pos within, Retry.program]
    refine congrArg (Prog.call _) (funext fun outcome => ?_)
    dsimp only [retry]
    split
    · rename_i judged
      rw [judged]
    · rename_i judged
      rw [judged]
    · rename_i s' judged
      have next := attempts_judge responseModel client maxRetries judged
      rw [judged]
      exact ih s' (by omega)

theorem generateStructured_eq_program (prompt systemInstruction : String) (n : ℕ) :
    client.generateStructured responseModel prompt systemInstruction n =
      (client.retry responseModel n).program (n + 1) (start prompt systemInstruction) := by
  rw [generateStructured, loop_eq_program]
  rfl

end OllamaClient

end ZoneGate
