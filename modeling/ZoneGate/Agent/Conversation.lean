import Mathlib.Data.Nat.Find
import ZoneGate.Agent.ContextEvaluator
import ZoneGate.Agent.Ollama

/-!
# The conversation with the model

`ConversesTruthfully` says what the bounded retry is for: it stops where it should, it returns what
was validated, and it quotes every failed reply to the model.  The variable `content` outlives its
attempt, so a reply that does not decode is quoted with the words of an earlier one; and of the
answers with status 200 some are handled by no clause.  The conversation is truthful exactly when
the run meets neither.
-/

namespace ZoneGate

open Py Effects Raising

namespace OllamaClient

/-! ## Kinds of replies -/

/-- The decoded body has the value as the content of its message. -/
def HasContent (body content : Json) : Prop :=
  ∃ members message, body = .obj members ∧ members.lookup "message" = some (.obj message) ∧
    message.lookup "content" = some content

/-- A timeout, a refused connection, another exception of the request, or a status other than
200. -/
def Fatal : ChatOutcome → Prop
  | .answered statusCode _ _ => statusCode ≠ 200
  | _ => True

/-- An answer whose body is not JSON. -/
def Undecodable : ChatOutcome → Prop
  | .answered _ _ (.jsonDecodeError _) => True
  | _ => False

/-- An answer whose content is `null`. -/
def NullContent : ChatOutcome → Prop
  | .answered _ _ (.value body) => HasContent body .null
  | _ => False

/-- Decoding the body raises nothing but a `JSONDecodeError`, and what it gives is a dictionary, in
which a message is one too. -/
def Readable : ChatOutcome → Prop
  | .answered _ _ (.raised _ _) => False
  | .answered _ _ (.value body) => ∃ members, body = .obj members ∧
      ∀ message, members.lookup "message" = some message → ∃ inner, message = .obj inner
  | _ => True

/-- The content of the reply, if it has one. -/
def replyContent : ChatOutcome → Option Json
  | .answered _ _ (.value (.obj members)) =>
      match members.lookup "message" with
      | some (.obj message) =>
          match message.lookup "content" with
          | some .null => none
          | content => content
      | _ => none
  | _ => none

section Kinds

variable [ValueText] {T : Type} (responseModel : ResponseModel T)

/-- The content of the reply as text, empty if it has none. -/
def contentText (outcome : ChatOutcome) : String := (replyContent outcome).elim "" Json.toStr

/-- An answer with a content that is not empty and is valid. -/
def ValidContent (outcome : ChatOutcome) (value : T) : Prop :=
  ∃ text body content, outcome = .answered 200 text (.value body) ∧ HasContent body content ∧
    content.truthy = true ∧ responseModel.validateJson content = .ok value

/-- Any other answer with status 200. -/
def FormatFailure (outcome : ChatOutcome) : Prop :=
  ¬ Fatal outcome ∧ ∀ value, ¬ ValidContent responseModel outcome value

/-- What is wrong with the format of the reply. -/
def complaint : ChatOutcome → String
  | .answered _ _ (.jsonDecodeError exc) => exc
  | outcome =>
      match replyContent outcome with
      | none => "Ollama response contained empty content"
      | some content =>
          if content.truthy then
            match responseModel.validateJson content with
            | .ok _ => ""
            | .error exc => exc
          else "Ollama response contained empty content"

/-- What a failed attempt adds to the conversation. -/
def turn (outcome : ChatOutcome) : List Message :=
  [⟨"assistant", contentText outcome⟩, feedback (complaint responseModel outcome)]

/-- The end of a call, and the requests it has sent, against the replies of the server. -/
structure ConversesTruthfully (original : List Message) (n : ℕ) (replies : ℕ → ChatOutcome)
    (ended : Except OllamaError T × List ChatPayload) : Prop where
  bounded : ended.2.length ≤ n + 1
  /-- It stops at the first valid content, and returns it. -/
  returns : ∀ k ≤ n, (∀ j < k, FormatFailure responseModel (replies j)) →
    ∀ value, ValidContent responseModel (replies k) value →
      ended.1 = .ok value ∧ ended.2.length = k + 1
  /-- It stops with an error at the first failure that is not one of the format. -/
  stops : ∀ k ≤ n, (∀ j < k, FormatFailure responseModel (replies j)) → Fatal (replies k) →
    (∃ e, ended.1 = .error e) ∧ ended.2.length = k + 1
  exhausts : (∀ k ≤ n, FormatFailure responseModel (replies k)) →
    (∃ message, ended.1 = .error (.structuredOutput message)) ∧ ended.2.length = n + 1
  /-- Whatever is returned was validated from a reply. -/
  validated : ∀ value, ended.1 = .ok value →
    ∃ k < ended.2.length, ValidContent responseModel (replies k) value
  /-- Every request has the original messages and those of the failed attempts before it. -/
  conversation : ∀ k payload, ended.2[k]? = some payload →
    payload.messages = original ++ (List.range k).flatMap fun j => turn responseModel (replies j)

/-- The replies to the attempts of a call that has `n` retries. -/
structure PlainReplies (n : ℕ) (replies : ℕ → ChatOutcome) : Prop where
  /-- No attempt gets an answer that no clause handles. -/
  readable : ∀ k ≤ n, (∀ j ≤ k, FormatFailure responseModel (replies j)) → Readable (replies k)
  /-- No failed attempt that is followed by another one gets the content `null`. -/
  notNull : ∀ k < n, (∀ j ≤ k, FormatFailure responseModel (replies j)) → ¬ NullContent (replies k)
  /-- And none gets a body that does not decode after a content that was not empty, with only such
  bodies in between. -/
  notStale : ∀ k < n, (∀ j ≤ k, FormatFailure responseModel (replies j)) →
    ∀ i < k, (∀ j, i < j → j ≤ k → Undecodable (replies j)) → contentText (replies i) = ""

end Kinds

/-! ## One attempt -/

/-- What an attempt leaves in the variable `content`. -/
def assigned : ChatOutcome → Option Json
  | .answered _ _ (.value body) => (contentOf body).toOption
  | _ => none

section Bodies

theorem answered_of_not_fatal {outcome : ChatOutcome} (h : ¬ Fatal outcome) :
    ∃ text body, outcome = .answered 200 text body := by
  cases outcome with
  | answered statusCode text body =>
    obtain rfl : statusCode = 200 := not_not.1 h
    exact ⟨text, body, rfl⟩
  | _ => exact absurd trivial h

variable {body content : Json} {statusCode : ℕ} {text : String}

theorem contentOf_of_has (has : HasContent body content) : contentOf body = .ok content := by
  obtain ⟨members, message, rfl, at_message, at_content⟩ := has
  rw [contentOf_obj, at_message, Option.getD_some, get_obj, at_content, Option.getD_some]

theorem replyContent_of_has (has : HasContent body content) :
    replyContent (.answered statusCode text (.value body)) =
      match content with
      | .null => none
      | content => some content := by
  obtain ⟨members, message, rfl, at_message, at_content⟩ := has
  simp only [replyContent, at_message, at_content]
  cases content <;> rfl

/-- A message without a content, or none. -/
theorem no_content (readable : Readable (.answered statusCode text (.value body)))
    (absent : ∀ content, ¬ HasContent body content) :
    contentOf body = .ok (.str "") ∧
      replyContent (.answered statusCode text (.value body)) = none := by
  obtain ⟨members, rfl, inner⟩ := readable
  rw [contentOf_obj]
  rcases at_message : members.lookup "message" with _ | message
  · simp [replyContent, at_message]
  · obtain ⟨message, rfl⟩ := inner message at_message
    rcases at_content : message.lookup "content" with _ | content
    · simp [replyContent, at_message, at_content]
    · exact absurd ⟨members, message, rfl, at_message, at_content⟩ (absent content)

/-- The exception of the interpreter at what is no dictionary. -/
theorem contentOf_of_unreadable
    (unreadable : ¬ Readable (.answered statusCode text (.value body))) :
    ∃ exc, contentOf body = .error (.other (.interpreter .attributeError exc)) := by
  cases body with
  | obj members =>
    rcases at_message : members.lookup "message" with _ | message
    · refine absurd ⟨members, rfl, fun message found => ?_⟩ unreadable
      cases at_message.symm.trans found
    · rw [contentOf_obj, at_message, Option.getD_some]
      refine get_of_ne fun inner isInner => unreadable ⟨members, rfl, fun m found => ⟨inner, ?_⟩⟩
      rw [← isInner]
      exact Option.some.inj (found.symm.trans at_message)
  | _ => exact ⟨_, rfl⟩

end Bodies

section Attempts

variable [ValueText] {T : Type} {responseModel : ResponseModel T} {outcome : ChatOutcome}

theorem complaint_of_has {body content : Json} {statusCode : ℕ} {text : String}
    (has : HasContent body content) :
    complaint responseModel (.answered statusCode text (.value body)) =
      if content.truthy then
        match responseModel.validateJson content with
        | .ok _ => ""
        | .error exc => exc
      else "Ollama response contained empty content" := by
  rw [complaint, replyContent_of_has has]
  · cases content <;> rfl
  · exact nofun

theorem attempt_of_valid {value : T} (valid : ValidContent responseModel outcome value)
    (content : Option Json) :
    ∃ found, attempt responseModel content outcome = (.ok value, some found) := by
  obtain ⟨text, body, found, rfl, has, truthy, validated⟩ := valid
  refine ⟨found, ?_⟩
  simp only [attempt, contentOf_of_has has, truthy, validated]
  rfl

/-- An attempt fails with the complaint about its reply. -/
theorem attempt_of_failure (failure : FormatFailure responseModel outcome)
    (readable : Readable outcome) (content : Option Json) :
    attempt responseModel content outcome =
      (.error (.format (complaint responseModel outcome)), (assigned outcome).or content) := by
  obtain ⟨answered, invalid⟩ := failure
  obtain ⟨text, body, rfl⟩ := answered_of_not_fatal answered
  cases body with
  | jsonDecodeError exc => rfl
  | raised => exact readable.elim
  | value body =>
    by_cases given : ∃ found, HasContent body found
    · obtain ⟨found, has⟩ := given
      rw [complaint_of_has has]
      simp only [attempt, assigned, contentOf_of_has has]
      by_cases truthy : found.truthy = true
      · rcases validated : responseModel.validateJson found with exc | value
        · rw [if_pos truthy, if_pos truthy]
          rfl
        · exact absurd ⟨text, body, found, rfl, has, truthy, validated⟩ (invalid value)
      · rw [if_neg truthy, if_neg truthy]
        rfl
    · obtain ⟨empty, no_reply⟩ := no_content readable (not_exists.1 given)
      rw [complaint, no_reply]
      · simp [attempt, assigned, empty, Json.truthy]
        rfl
      · exact nofun

/-- An answer that no clause handles. -/
theorem attempt_of_unreadable (responseModel : ResponseModel T) (answered : ¬ Fatal outcome)
    (unreadable : ¬ Readable outcome)
    (content : Option Json) :
    ∃ e exc, attempt responseModel content outcome =
      (.error (.other (.interpreter e exc)), content) := by
  obtain ⟨text, body, rfl⟩ := answered_of_not_fatal answered
  cases body with
  | jsonDecodeError exc => exact absurd trivial unreadable
  | raised e exc => exact ⟨e, exc, rfl⟩
  | value body =>
    obtain ⟨exc, raises⟩ := contentOf_of_unreadable unreadable
    refine ⟨.attributeError, exc, ?_⟩
    simp only [attempt, raises]
    rfl

variable (client : OllamaClient) (maxRetries : ℤ) (s : LoopState)

theorem judge_of_valid {value : T} (valid : ValidContent responseModel outcome value) :
    client.judge responseModel maxRetries s outcome = .returned value := by
  obtain ⟨found, tried⟩ := attempt_of_valid valid s.content
  unfold judge
  rw [tried]

theorem judge_of_fatal (responseModel : ResponseModel T) (fatal : Fatal outcome) :
    ∃ e, client.judge responseModel maxRetries s outcome = .stopped e := by
  cases outcome with
  | answered statusCode text body =>
    have refused : statusCode ≠ 200 := fatal
    unfold judge
    simp only [attempt, if_pos refused]
    exact ⟨_, rfl⟩
  | _ => exact ⟨_, rfl⟩

theorem judge_of_unreadable (responseModel : ResponseModel T) (answered : ¬ Fatal outcome)
    (unreadable : ¬ Readable outcome) :
    ∃ e exc, client.judge responseModel maxRetries s outcome = .stopped (.interpreter e exc) := by
  obtain ⟨e, exc, tried⟩ := attempt_of_unreadable responseModel answered unreadable s.content
  refine ⟨e, exc, ?_⟩
  unfold judge
  rw [tried]

theorem judge_of_failure (failure : FormatFailure responseModel outcome)
    (readable : Readable outcome) :
    client.judge responseModel maxRetries s outcome = .failed
      { attempts := s.attempts + 1
        messages :=
          if ((s.attempts + 1 : ℕ) : ℤ) ≤ maxRetries then
            s.messages ++ [quoted ((assigned outcome).or s.content),
              feedback (complaint responseModel outcome)]
          else s.messages
        content := (assigned outcome).or s.content
        lastErr := some (complaint responseModel outcome) } := by
  unfold judge
  rw [attempt_of_failure failure readable]

/-- A reply is fatal or valid or a failure. -/
theorem kinds (responseModel : ResponseModel T) (outcome : ChatOutcome) :
    Fatal outcome ∨ (∃ value, ValidContent responseModel outcome value) ∨
      FormatFailure responseModel outcome := by
  by_cases fatal : Fatal outcome
  · exact .inl fatal
  by_cases valid : ∃ value, ValidContent responseModel outcome value
  · exact .inr (.inl valid)
  · exact .inr (.inr ⟨fatal, not_exists.1 valid⟩)

theorem failure_of_judge {s' : LoopState}
    (judged : client.judge responseModel maxRetries s outcome = .failed s') :
    FormatFailure responseModel outcome ∧ Readable outcome := by
  rcases kinds responseModel outcome with fatal | ⟨value, valid⟩ | failure
  · obtain ⟨e, stopped⟩ := judge_of_fatal client maxRetries s responseModel fatal
    cases stopped.symm.trans judged
  · cases (judge_of_valid client maxRetries s valid).symm.trans judged
  · refine ⟨failure, by_contra fun unreadable => ?_⟩
    obtain ⟨e, exc, stopped⟩ := judge_of_unreadable client maxRetries s responseModel
      failure.1 unreadable
    cases stopped.symm.trans judged

end Attempts

/-! ## The attempts of a call -/

section Calls

variable [ValueText] {T : Type} {responseModel : ResponseModel T} {client : OllamaClient}
  {prompt systemInstruction : String} {n k : ℕ} {replies : ℕ → ChatOutcome} {s : LoopState}

/-- The variable `content` before an attempt. -/
def lastAssigned (replies : ℕ → ChatOutcome) : ℕ → Option Json
  | 0 => none
  | k + 1 => (assigned (replies k)).or (lastAssigned replies k)

/-- What the client adds to the conversation after a failed attempt. -/
def spoken (responseModel : ResponseModel T) (replies : ℕ → ChatOutcome) (k : ℕ) : List Message :=
  [quoted (lastAssigned replies (k + 1)), feedback (complaint responseModel (replies k))]

theorem failures_of_before
    (reached : (client.retry responseModel n).before replies (start prompt systemInstruction) k =
      some s) {j : ℕ} (lt : j < k) :
    FormatFailure responseModel (replies j) ∧ Readable (replies j) := by
  obtain ⟨s', next⟩ := Retry.exists_before_of_le reached (Nat.succ_le_of_lt lt)
  obtain ⟨s₁, -, judged⟩ := Retry.exists_before next
  exact failure_of_judge client n s₁ judged

theorem exists_before (client : OllamaClient) (prompt systemInstruction : String) (n : ℕ)
    (failures : ∀ j < k, FormatFailure responseModel (replies j) ∧ Readable (replies j)) :
    ∃ s, (client.retry responseModel n).before replies (start prompt systemInstruction) k =
      some s := by
  induction k with
  | zero => exact ⟨_, rfl⟩
  | succ k ih =>
    obtain ⟨s, reached⟩ := ih fun j lt => failures j (Nat.lt_succ_of_lt lt)
    obtain ⟨failure, readable⟩ := failures k k.lt_succ_self
    exact ⟨_, Retry.before_succ reached (judge_of_failure client n s failure readable)⟩

/-- What the attempts before it leave to an attempt. -/
theorem before_spec
    (reached : (client.retry responseModel n).before replies (start prompt systemInstruction) k =
      some s) (le : k ≤ n) :
    s.attempts = k ∧ s.content = lastAssigned replies k ∧
      s.messages = opening prompt systemInstruction ++
        (List.range k).flatMap (spoken responseModel replies) := by
  induction k generalizing s with
  | zero =>
    obtain rfl := Option.some.inj reached
    exact ⟨rfl, rfl, rfl⟩
  | succ k ih =>
    obtain ⟨s₁, earlier, judged⟩ := Retry.exists_before reached
    obtain ⟨attempts, content, messages⟩ := ih earlier (Nat.le_of_succ_le le)
    obtain ⟨failure, readable⟩ := failures_of_before reached k.lt_succ_self
    obtain rfl := Attempt.failed.inj
      ((judge_of_failure client n s₁ failure readable).symm.trans judged)
    have more : ((s₁.attempts + 1 : ℕ) : ℤ) ≤ n := by omega
    refine ⟨congrArg (· + 1) attempts, ?_, ?_⟩
    · rw [lastAssigned, content]
    · dsimp only
      rw [if_pos more, content, messages, List.range_succ, List.flatMap_append,
        List.flatMap_singleton, List.append_assoc, spoken, lastAssigned]

end Calls

/-! ## Quotations -/

section Quotations

variable [ValueText] {outcome : ChatOutcome} {replies : ℕ → ChatOutcome} {k : ℕ}

omit [ValueText] in
theorem exists_of_undecodable (h : Undecodable outcome) :
    ∃ statusCode text exc, outcome = .answered statusCode text (.jsonDecodeError exc) := by
  rcases outcome with _ | _ | _ | ⟨statusCode, text, _ | exc | _⟩ <;>
    first | exact h.elim | exact ⟨statusCode, text, exc, rfl⟩

theorem contentText_of_undecodable (h : Undecodable outcome) : contentText outcome = "" := by
  obtain ⟨_, _, _, rfl⟩ := exists_of_undecodable h
  rfl

theorem contentText_of_null (h : NullContent outcome) : contentText outcome = "" := by
  rcases outcome with _ | _ | _ | ⟨_, _, body | _ | _⟩ <;> try exact h.elim
  rw [contentText, replyContent_of_has h]
  rfl

/-- What an answer leaves in the variable, against its content. -/
theorem assigned_cases (answered : ¬ Fatal outcome) (readable : Readable outcome) :
    Undecodable outcome ∧ assigned outcome = none ∨
      ¬ Undecodable outcome ∧ ∃ content, assigned outcome = some content ∧
        (NullContent outcome ∧ content = .null ∨
          ¬ NullContent outcome ∧ contentText outcome = content.toStr) := by
  obtain ⟨text, body, rfl⟩ := answered_of_not_fatal answered
  cases body with
  | jsonDecodeError exc => exact .inl ⟨trivial, rfl⟩
  | raised => exact readable.elim
  | value body =>
    refine .inr ⟨id, ?_⟩
    by_cases given : ∃ found, HasContent body found
    · obtain ⟨found, has⟩ := given
      refine ⟨found, by rw [assigned, contentOf_of_has has]; rfl, ?_⟩
      have unique {other : Json} (h : HasContent body other) : found = other :=
        Except.ok.inj ((contentOf_of_has has).symm.trans (contentOf_of_has h))
      by_cases null : found = .null
      · subst null
        exact .inl ⟨has, rfl⟩
      · refine .inr ⟨fun isNull => null (unique isNull), ?_⟩
        rw [contentText, replyContent_of_has has]
        cases found <;> first | exact absurd rfl null | rfl
    · obtain ⟨empty, no_reply⟩ := no_content readable (not_exists.1 given)
      refine ⟨.str "", by rw [assigned, empty]; rfl, .inr ⟨not_exists.1 given _, ?_⟩⟩
      rw [contentText, no_reply]
      rfl

/-- The variable is empty before an attempt exactly when the last content of an earlier reply
was. -/
theorem lastAssigned_text
    (plain : ∀ j < k, ¬ Fatal (replies j) ∧ Readable (replies j) ∧ ¬ NullContent (replies j)) :
    (lastAssigned replies k).elim "" Json.toStr = "" ↔
      ∀ i < k, (∀ j, i < j → j < k → Undecodable (replies j)) → contentText (replies i) = "" := by
  induction k with
  | zero => exact iff_of_true rfl fun i lt => absurd lt i.not_lt_zero
  | succ k ih =>
    obtain ⟨answered, readable, notNull⟩ := plain k k.lt_succ_self
    rcases assigned_cases answered readable with
      ⟨undecodable, unassigned⟩ | ⟨decodable, content, isAssigned, ⟨null, -⟩ | ⟨-, same⟩⟩
    · rw [lastAssigned, unassigned, Option.none_or,
        ih fun j lt => plain j (Nat.lt_succ_of_lt lt)]
      constructor
      · intro earlier i lt between
        rcases Nat.lt_succ_iff_lt_or_eq.1 lt with lt | rfl
        · exact earlier i lt fun j gt below => between j gt (Nat.lt_succ_of_lt below)
        · exact contentText_of_undecodable undecodable
      · intro all i lt between
        refine all i (Nat.lt_succ_of_lt lt) fun j gt below => ?_
        rcases Nat.lt_succ_iff_lt_or_eq.1 below with below | rfl
        · exact between j gt below
        · exact undecodable
    · exact absurd null notNull
    · rw [lastAssigned, isAssigned, Option.some_or, Option.elim_some, ← same]
      constructor
      · intro empty i lt between
        rcases Nat.lt_succ_iff_lt_or_eq.1 lt with lt | rfl
        · exact absurd (between k lt k.lt_succ_self) decodable
        · exact empty
      · exact fun all => all k k.lt_succ_self fun j gt below => absurd gt (by omega)

variable {T : Type} {responseModel : ResponseModel T}

/-- A failed attempt is quoted with its own content. -/
theorem spoken_eq_turn_iff
    (plain : ∀ j < k, ¬ Fatal (replies j) ∧ Readable (replies j) ∧ ¬ NullContent (replies j))
    (answered : ¬ Fatal (replies k)) (readable : Readable (replies k)) :
    spoken responseModel replies k = turn responseModel (replies k) ↔
      ¬ NullContent (replies k) ∧ ∀ i < k, (∀ j, i < j → j ≤ k → Undecodable (replies j)) →
        contentText (replies i) = "" := by
  have same : spoken responseModel replies k = turn responseModel (replies k) ↔
      (lastAssigned replies (k + 1)).elim "" Json.toStr = contentText (replies k) := by
    simp [spoken, turn, quoted]
  rw [same, lastAssigned]
  rcases assigned_cases answered readable with
    ⟨undecodable, unassigned⟩ | ⟨decodable, content, isAssigned, ⟨null, rfl⟩ | ⟨notNull, own⟩⟩
  · have notNull : ¬ NullContent (replies k) := by
      obtain ⟨_, _, _, same⟩ := exists_of_undecodable undecodable
      rw [same]
      exact id
    rw [unassigned, Option.none_or, contentText_of_undecodable undecodable,
      lastAssigned_text plain, and_iff_right notNull]
    refine forall₂_congr fun i lt => imp_congr_left
      ⟨fun between j gt le => ?_, fun between j gt below => between j gt (Nat.le_of_lt below)⟩
    rcases Nat.lt_or_eq_of_le le with below | rfl
    · exact between j gt below
    · exact undecodable
  · rw [isAssigned, Option.some_or, Option.elim_some, contentText_of_null null]
    exact iff_of_false (show "None" ≠ "" by decide) fun h => h.1 null
  · rw [isAssigned, Option.some_or, Option.elim_some]
    exact iff_of_true own.symm
      ⟨notNull, fun i lt between => absurd (between k lt (Nat.le_refl k)) decodable⟩

end Quotations

/-! ## Calls -/

section Calls

variable [ValueText] {T : Type} (responseModel : ResponseModel T) (client : OllamaClient)
  (prompt systemInstruction : String) (replies : ℕ → ChatOutcome)

/-- The end of a call against the replies, and the requests that it sends. -/
def converse (maxRetries : ℤ) : Except OllamaError T × List ChatPayload :=
  Prog.run (scripted replies)
    (client.generateStructured responseModel prompt systemInstruction maxRetries) []

variable {responseModel client prompt systemInstruction replies} {n k : ℕ} {s : LoopState}

theorem converse_eq : client.converse responseModel prompt systemInstruction replies n =
    ((client.retry responseModel n).program (n + 1) (start prompt systemInstruction)).run
      (scripted replies) [] := by
  rw [converse, generateStructured_eq_program]

section Reached

variable (reached : (client.retry responseModel n).before replies
    (start prompt systemInstruction) k = some s)

include reached

theorem converse_of_valid (le : k ≤ n) {value : T}
    (valid : ValidContent responseModel (replies k) value) :
    (client.converse responseModel prompt systemInstruction replies n).1 = .ok value ∧
      (client.converse responseModel prompt systemInstruction replies n).2.length = k + 1 := by
  rw [converse_eq, Retry.run_returned (Nat.lt_succ_of_le le) reached
    (judge_of_valid client n s valid)]
  exact ⟨rfl, Retry.length_requests_succ reached⟩

theorem converse_of_stopped (le : k ≤ n) {e : OllamaError}
    (judged : client.judge responseModel n s (replies k) = .stopped e) :
    (client.converse responseModel prompt systemInstruction replies n).1 = .error e ∧
      (client.converse responseModel prompt systemInstruction replies n).2.length = k + 1 := by
  rw [converse_eq, Retry.run_stopped (Nat.lt_succ_of_le le) reached judged]
  exact ⟨rfl, Retry.length_requests_succ reached⟩

end Reached

theorem converse_exhausted (reached : (client.retry responseModel n).before replies
      (start prompt systemInstruction) (n + 1) = some s) :
    (client.converse responseModel prompt systemInstruction replies n).1 = .error (exhausted s) ∧
      (client.converse responseModel prompt systemInstruction replies n).2.length = n + 1 := by
  rw [converse_eq, Retry.run_exhausted reached]
  exact ⟨rfl, Retry.length_requests reached⟩

/-- Every request continues the conversation of the attempts before it. -/
theorem getElem?_converse {payload : ChatPayload} :
    (client.converse responseModel prompt systemInstruction replies n).2[k]? = some payload ↔
      k ≤ n ∧ (∀ j < k, FormatFailure responseModel (replies j) ∧ Readable (replies j)) ∧
        payload = client.payload responseModel (opening prompt systemInstruction ++
          (List.range k).flatMap (spoken responseModel replies)) := by
  rw [converse_eq, Retry.getElem?_sent]
  refine and_congr_right fun le => ?_
  constructor
  · rintro ⟨s, reached, rfl⟩
    obtain ⟨-, -, messages⟩ := before_spec reached le
    exact ⟨fun j lt => failures_of_before reached lt, by rw [← messages]; rfl⟩
  · rintro ⟨failures, rfl⟩
    obtain ⟨s, reached⟩ := exists_before client prompt systemInstruction n failures
    obtain ⟨-, -, messages⟩ := before_spec reached le
    exact ⟨s, reached, by rw [← messages]; rfl⟩

/-- Whatever is returned was validated from a reply. -/
theorem validated_of_converse {value : T}
    (returned : (client.converse responseModel prompt systemInstruction replies n).1 = .ok value) :
    ∃ k < (client.converse responseModel prompt systemInstruction replies n).2.length,
      ValidContent responseModel (replies k) value := by
  rcases (client.retry responseModel n).ends replies (start prompt systemInstruction) (n + 1) with
    ⟨s, reached⟩ | ⟨k, lt, s, reached, ⟨value', judged⟩ | ⟨e, judged⟩⟩
  · cases (converse_exhausted reached).1.symm.trans returned
  · have le : k ≤ n := Nat.le_of_lt_succ lt
    rcases kinds responseModel (replies k) with fatal | ⟨found, valid⟩ | failure
    · obtain ⟨e, stopped⟩ := judge_of_fatal client n s responseModel fatal
      cases judged.symm.trans stopped
    · obtain ⟨same, length⟩ := converse_of_valid reached le valid
      obtain rfl := Except.ok.inj (same.symm.trans returned)
      exact ⟨k, by omega, valid⟩
    · by_cases readable : Readable (replies k)
      · cases judged.symm.trans (judge_of_failure client n s failure readable)
      · obtain ⟨e, exc, stopped⟩ := judge_of_unreadable client n s responseModel
          failure.1 readable
        cases judged.symm.trans stopped
  · cases (converse_of_stopped reached (Nat.le_of_lt_succ lt) judged).1.symm.trans returned

/-! ## Truthful conversations -/

theorem truthful_of_plain (plain : PlainReplies responseModel n replies) :
    ConversesTruthfully responseModel (opening prompt systemInstruction) n replies
      (client.converse responseModel prompt systemInstruction replies n) := by
  have handled {k : ℕ} (le : k ≤ n + 1)
      (failures : ∀ j < k, FormatFailure responseModel (replies j)) :
      ∀ j < k, FormatFailure responseModel (replies j) ∧ Readable (replies j) := fun j lt =>
    ⟨failures j lt, plain.readable j (by omega) fun i le => failures i (by omega)⟩
  refine ⟨?_, ?_, ?_, ?_, fun value => validated_of_converse, ?_⟩
  · rw [converse_eq]
    exact Retry.length_sent_le _ _ _ _
  · intro k le failures value valid
    obtain ⟨s, reached⟩ := exists_before client prompt systemInstruction n
      (handled (Nat.le_succ_of_le le) failures)
    exact converse_of_valid reached le valid
  · intro k le failures fatal
    obtain ⟨s, reached⟩ := exists_before client prompt systemInstruction n
      (handled (Nat.le_succ_of_le le) failures)
    obtain ⟨e, judged⟩ := judge_of_fatal client n s responseModel fatal
    obtain ⟨raised, length⟩ := converse_of_stopped reached le judged
    exact ⟨⟨e, raised⟩, length⟩
  · intro failures
    obtain ⟨s, reached⟩ := exists_before client prompt systemInstruction n
      (handled (Nat.le_refl _) fun j lt => failures j (Nat.le_of_lt_succ lt))
    obtain ⟨raised, length⟩ := converse_exhausted reached
    exact ⟨⟨_, raised⟩, length⟩
  · intro k payload sent
    obtain ⟨le, failures, rfl⟩ := getElem?_converse.1 sent
    refine congrArg (_ ++ ·) (List.flatMap_congr fun j mem => ?_)
    have lt : j < k := List.mem_range.1 mem
    have failing {j : ℕ} (lt : j < k) :
        j < n ∧ ∀ i ≤ j, FormatFailure responseModel (replies i) :=
      ⟨by omega, fun i le => (failures i (by omega)).1⟩
    refine (spoken_eq_turn_iff (fun i below => ?_) (failures j lt).1.1 (failures j lt).2).2 ?_
    · obtain ⟨followed, all⟩ := failing (Nat.lt_trans below lt)
      obtain ⟨failure, readable⟩ := failures i (Nat.lt_trans below lt)
      exact ⟨failure.1, readable, plain.notNull i followed all⟩
    · obtain ⟨followed, all⟩ := failing lt
      exact ⟨plain.notNull j followed all, plain.notStale j followed all⟩

theorem exists_first_other (stops : ¬ ∀ k ≤ n, FormatFailure responseModel (replies k)) :
    ∃ m ≤ n, ¬ FormatFailure responseModel (replies m) ∧
      ∀ j < m, FormatFailure responseModel (replies j) := by
  classical
  have other : ∃ m, m ≤ n ∧ ¬ FormatFailure responseModel (replies m) := by
    simpa using stops
  obtain ⟨within, here⟩ := Nat.find_spec other
  refine ⟨Nat.find other, within, here, fun j lt => ?_⟩
  by_contra earlier
  exact Nat.find_min other lt ⟨by omega, earlier⟩

section Conversely

variable (truthful : ConversesTruthfully responseModel (opening prompt systemInstruction) n replies
  (client.converse responseModel prompt systemInstruction replies n))

include truthful

/-- An exception of the interpreter is none of the ends that a truthful call has. -/
theorem readable_of_truthful (le : k ≤ n)
    (failures : ∀ j ≤ k, FormatFailure responseModel (replies j)) : Readable (replies k) := by
  induction k using Nat.strong_induction_on with
  | _ k ih =>
    by_contra unreadable
    have handled (j : ℕ) (lt : j < k) :
        FormatFailure responseModel (replies j) ∧ Readable (replies j) :=
      ⟨failures j lt.le, ih j lt (by omega) fun i le => failures i (by omega)⟩
    obtain ⟨s, reached⟩ := exists_before client prompt systemInstruction n handled
    obtain ⟨e, exc, judged⟩ := judge_of_unreadable client n s responseModel
      (failures k le_rfl).1 unreadable
    obtain ⟨raised, length⟩ := converse_of_stopped reached le judged
    by_cases all : ∀ i ≤ n, FormatFailure responseModel (replies i)
    · obtain ⟨⟨message, exhausted⟩, -⟩ := truthful.exhausts all
      cases raised.symm.trans exhausted
    -- the call should have gone on to the first reply that is no failure
    obtain ⟨m, within, other, earlier⟩ := exists_first_other all
    have later : k < m := by
      by_contra gt
      exact other (failures m (by omega))
    rcases kinds responseModel (replies m) with fatal | ⟨value, valid⟩ | failure
    · have stops := (truthful.stops m within earlier fatal).2
      omega
    · have returns := (truthful.returns m within earlier value valid).2
      omega
    · exact other failure

/-- A truthful call quotes every failed attempt before another one with its own content. -/
theorem spoken_eq_turn_of_truthful (lt : k < n)
    (failures : ∀ j ≤ k, FormatFailure responseModel (replies j)) :
    spoken responseModel replies k = turn responseModel (replies k) := by
  have sent : (client.converse responseModel prompt systemInstruction replies n).2[k + 1]? =
      some (client.payload responseModel (opening prompt systemInstruction ++
        (List.range (k + 1)).flatMap (spoken responseModel replies))) :=
    getElem?_converse.2 ⟨lt, fun j below => ⟨failures j (by omega),
      readable_of_truthful truthful (by omega) fun i le => failures i (by omega)⟩, rfl⟩
  have same := truthful.conversation _ _ sent
  rw [payload, List.range_succ, List.flatMap_append, List.flatMap_append, ← List.append_assoc,
    ← List.append_assoc, List.flatMap_singleton, List.flatMap_singleton] at same
  exact (List.append_inj' same rfl).2

theorem plain_of_truthful : PlainReplies responseModel n replies := by
  have readable {k : ℕ} (le : k ≤ n) (failures : ∀ j ≤ k, FormatFailure responseModel (replies j)) :
      Readable (replies k) := readable_of_truthful truthful le failures
  -- by induction, as what is quoted depends on the earlier contents
  have quotes {k : ℕ} (lt : k < n) (failures : ∀ j ≤ k, FormatFailure responseModel (replies j)) :
      ¬ NullContent (replies k) ∧ ∀ i < k, (∀ j, i < j → j ≤ k → Undecodable (replies j)) →
        contentText (replies i) = "" := by
    induction k using Nat.strong_induction_on with
    | _ k ih =>
      refine (spoken_eq_turn_iff (fun j below => ?_) (failures k le_rfl).1
        (readable lt.le failures)).1 (spoken_eq_turn_of_truthful truthful lt failures)
      have earlier (i : ℕ) (le : i ≤ j) := failures i (by omega)
      exact ⟨(failures j below.le).1, readable (by omega) earlier,
        (ih j below (by omega) earlier).1⟩
  exact ⟨fun k le => readable le, fun k lt failures => (quotes lt failures).1,
    fun k lt failures => (quotes lt failures).2⟩

end Conversely

/-- A call converses truthfully exactly when its attempts get no answer that no clause handles, and
its failed attempts before the last neither a `null` content nor a body that does not decode after
a content. -/
theorem converses_truthfully_iff (client : OllamaClient) (responseModel : ResponseModel T)
    (prompt systemInstruction : String) (n : ℕ) (replies : ℕ → ChatOutcome) :
    ConversesTruthfully responseModel (opening prompt systemInstruction) n replies
        (client.converse responseModel prompt systemInstruction replies n) ↔
      PlainReplies responseModel n replies :=
  ⟨plain_of_truthful, truthful_of_plain⟩

end Calls

/-! ## The evaluator -/

section Evaluator

variable [ValueText] {Value : Type}

/-- The prompts of the evaluator. -/
structure Prompts (Value : Type) where
  selectTool : TransactionRequest → CanonicalEvidence → List (Value × Option Value) → String
  evaluate : TransactionRequest → CanonicalEvidence → Option (McpFindings Value) → String

/-- The client as the LLM of the evaluator.  The server has a script for every prompt. -/
def llm (client : OllamaClient) (prompts : Prompts Value)
    (selection : ResponseModel (ToolSelection Value))
    (evaluation : ResponseModel ContextEvaluation) (server : String → ℕ → ChatOutcome) :
    LLMClient Value where
  selectTool transaction evidence toolsSummary :=
    let prompt := prompts.selectTool transaction evidence toolsSummary
    let instruction := "You are ZoneGate Security Context Evaluator. " ++
      "You decide whether an additional carrier MCP tool call is needed."
    (client.converse selection prompt instruction (server prompt) 1).1.mapError (.other ·.message)
  evaluate transaction evidence findings :=
    let prompt := prompts.evaluate transaction evidence findings
    let instruction := "You are ZoneGate AI Context Evaluator. You provide structured risk " ++
      "assessments based strictly on network evidence and transaction parameters."
    (client.converse evaluation prompt instruction (server prompt) 1).1.mapError (.other ·.message)

/-- No failure of the server becomes an evaluation: what the graph returns was validated from a
reply to the prompt of the evaluator. -/
theorem evaluation_validated {client : OllamaClient} {prompts : Prompts Value}
    {selection : ResponseModel (ToolSelection Value)}
    {evaluation : ResponseModel ContextEvaluation} {server : String → ℕ → ChatOutcome}
    {mcpClient : Option (NokiaMCPClient Value)} {transaction : TransactionRequest}
    {evidence : CanonicalEvidence} {found : ContextEvaluation}
    (returned : contextGraph (ContextEvaluator.evaluate
        (client.llm prompts selection evaluation server) mcpClient) transaction evidence =
      .returned (some found)) :
    ∃ findings k, ValidContent evaluation
      (server (prompts.evaluate transaction evidence findings) k) found := by
  rcases evaluated : ContextEvaluator.evaluate (client.llm prompts selection evaluation server)
    mcpClient transaction evidence with exc | value
  · rw [contextGraph_of_error evaluated] at returned
    cases returned
  · simp only [contextGraph, evaluateNode, evaluated] at returned
    obtain rfl : value = found := by simpa using returned
    have asked := mapError_eq_ok.1 (ContextEvaluator.evaluate_eq_ok.1 evaluated)
    obtain ⟨k, -, valid⟩ := validated_of_converse (n := 1) asked
    exact ⟨_, k, valid⟩

end Evaluator

end OllamaClient

/-! ### Words of an earlier attempt -/

namespace Sample

open OllamaClient

/-- No text needs to be made of a value here. -/
@[reducible] def valueText : ValueText := ⟨fun _ => "", fun _ => false⟩

/-- The model without fields: the empty object is valid. -/
def emptyModel : ResponseModel Unit where
  schema := .obj [("type", .str "object")]
  validateJson
    | .str "\x7b\x7d" => .ok ()
    | _ => .error "Invalid JSON"

def prose : ChatOutcome :=
  .answered 200 "" (.value (.obj [("message", .obj [("content", .str "Sure!")])]))

def notJson : ChatOutcome := .answered 200 "" (.jsonDecodeError "Expecting value")

/-- A server that answers with prose once, and from then on with what is not JSON. -/
def rambling : ℕ → ChatOutcome
  | 0 => prose
  | _ + 1 => notJson

/-- The call of the client with two retries. -/
def rambled : Except OllamaError Unit × List ChatPayload :=
  @OllamaClient.converse valueText Unit emptyModel {} "x" "y" rambling (2 : ℕ)

end Sample

open OllamaClient in
/-- The second reply has no content, and the third request quotes the first one again for it. -/
theorem earlier_words_quoted :
    Sample.rambled.2[2]?.map (fun payload => payload.messages.map (·.content)) = some
      ["y", "x", "Sure!", (feedback "Invalid JSON").content,
        "Sure!", (feedback "Expecting value").content] ∧
      ¬ @ConversesTruthfully Sample.valueText Unit Sample.emptyModel (opening "x" "y") 2
        Sample.rambling Sample.rambled := by
  have sent : Sample.rambled.2[2]?.map (fun payload => payload.messages.map (·.content)) = some
      ["y", "x", "Sure!", (feedback "Invalid JSON").content,
        "Sure!", (feedback "Expecting value").content] := by
    rw [Sample.rambled, @converse_eq Sample.valueText]
    rfl
  refine ⟨sent, fun truthful => ?_⟩
  obtain ⟨payload, third, contents⟩ := Option.map_eq_some_iff.1 sent
  have own := @ConversesTruthfully.conversation Sample.valueText _ _ _ _ _ _ truthful 2 payload
    third
  rw [own] at contents
  revert contents
  decide

end ZoneGate
