import ZoneGate.Api.Endpoints
import ZoneGate.Authorization.Sessions

/-!
# The console gate

The roster, the device bindings, the passwords, the policy and the resolutions of holds are the
protected part of a deployment.  Requests to all endpoints overlap, call by call; a protected write
is made by a request whose cookie was found, earlier in that request, to name a live session of
somebody on the roster who works on the console, and it is one that the endpoint is there for.
-/

namespace ZoneGate

open Py Effects

/-! ## Protected writes -/

/-- The calls that change who is on the roster, who can sign in, what the engine decides, or how a
hold ends. -/
def Effect.Protected : Effect → Prop
  | .store (.saveActor _) | .store (.saveDeviceBinding _) | .store (.saveCredential _)
  | .store (.savePolicyConfig _) | .setEngineConfig _ => True
  | .store (.saveDecision d) => d.resolution ≠ none
  | _ => False

/-- The cookie of a request to a console endpoint. -/
def HttpRequest.consoleCookie : HttpRequest → Option String
  | .changePassword _ cookie _ | .enrollActor _ cookie _ | .updatePermissions cookie _ _
  | .resolveHold cookie _ _ | .updateConfig cookie _ => cookie
  | _ => none

section Gate

variable [Unicode]

/-- The protected writes of the endpoint, when `who` is signed in and `past` is what the request has
been answered so far. -/
def HttpRequest.Entitles (who : Actor) (past : List (Handled Services)) :
    HttpRequest → Effect → Prop
  | .changePassword _ _ _, .store (.saveCredential credential) => credential.actorId = who.actorId
  | .enrollActor _ _ data, .store (.saveActor actor) => actor = data.actor
  | .enrollActor _ _ data, .store (.saveDeviceBinding binding) =>
      ∃ now, binding = ActorsController.bindingFor data now
  | .enrollActor _ _ data, .store (.saveCredential credential) =>
      credential.actorId = data.actor.actorId
  | .updatePermissions _ actorId data, .store (.saveActor actor) => ∃ old,
      (⟨Effect.store (.getActor actorId), some old⟩ : Handled Services) ∈ past ∧
        old.permissions.Perm data.expectedPermissions ∧
        actor = { old with permissions := ActorsController.cleaned data.permissions }
  | .resolveHold _ decisionId data, .store (.saveDecision d) => ∃ held now,
      (⟨Effect.store (.getDecision decisionId), some held⟩ : Handled Services) ∈ past ∧
        held.decision = .hold ∧ held.resolution = none ∧ data.outcome ≠ .hold ∧
        holdsAuthority (some who.role) held.requiredAuthority = true ∧
        d = AuthorizationService.resolve held data.outcome who.actorId data.note now
  | .updateConfig _ data, .store (.savePolicyConfig config) => config = data
  | .updateConfig _ data, .setEngineConfig config => config = data
  | _, _ => False

/-- The request has found the session of its cookie, and then whom it stands for. -/
def SignedInAs (cookie : Option String) (past : List (Handled Services)) (who : Actor) : Prop :=
  ∃ first rest, past = first ++ rest ∧ ResolvesTo cookie first who

theorem SignedInAs.append {cookie : Option String} {past : List (Handled Services)} {who : Actor}
    (h : SignedInAs cookie past who) (more : List (Handled Services)) :
    SignedInAs cookie (past ++ more) who := by
  obtain ⟨first, rest, rfl, resolves⟩ := h
  exact ⟨first, rest ++ more, List.append_assoc .., resolves⟩

/-- What a request may do in the light of its history: a protected write needs somebody who is
signed in, and an endpoint that is there for it. -/
def HttpRequest.Gated (request : HttpRequest) (past : List (Handled Services)) (c : Effect) :
    Prop :=
  c.Protected → ∃ who, SignedInAs request.consoleCookie past who ∧ request.Entitles who past c

/-! ## Calls that are not protected -/

theorem gated_of_unprotected (request : HttpRequest) (past : List (Handled Services)) (c : Effect)
    (hc : ¬ c.Protected) : request.Gated past c := fun protects => absurd protects hc

omit [Unicode] in
theorem unprotected_of_session {c : Effect} (hc : ConsoleAuthService.OfSession c) :
    ¬ c.Protected := by
  cases c with
  | store c => cases c <;> first | exact hc.elim | exact not_false
  | utcnow => exact not_false
  | _ => exact hc.elim

omit [Unicode] in
theorem unprotected_of_claim {c : Effect} (hc : OfClaim c) : ¬ c.Protected := by
  cases c with
  | store c => cases c <;> first | exact hc.elim | exact not_false
  | utcnow => exact not_false
  | _ => exact hc.elim

omit [Unicode] in
theorem unprotected_of_settlement {c : Effect} (hc : OfSettlement c) : ¬ c.Protected := by
  cases c with
  | store c => cases c <;> first | exact hc.elim | exact not_false
  | utcnow => exact not_false
  | uuid4 => exact not_false
  | _ => exact hc.elim

omit [Unicode] in
theorem unprotected_of_preliminary {c : Effect} (hc : Preliminary c) : ¬ c.Protected := by
  cases c with
  | store c => cases c <;> first | exact hc.elim | exact not_false
  | setEngineConfig config => exact hc.elim
  | _ => exact not_false

/-- The calls that only read the store. -/
def Effect.Reads : Effect → Prop
  | .store c => c.IsRead
  | .utcnow | .engineConfig => True
  | _ => False

omit [Unicode] in
theorem unprotected_of_reads {c : Effect} (hc : c.Reads) : ¬ c.Protected := by
  cases c with
  | store c => cases c <;> first | exact hc.elim | exact not_false
  | setEngineConfig config => exact hc.elim
  | _ => exact not_false

/-! ## Handlers that need a session -/

/-- A lookup calls what a lookup calls, and the actor that it ends with is the one of the session
of the cookie. -/
theorem resolve_finds (cookie : Option String) :
    (ConsoleAuthService.resolve cookie).Upholds (fun _ c => ConsoleAuthService.OfSession c)
      (fun past end_ => ∀ who, end_ = .ok (some who) → ResolvesTo cookie past who) [] := by
  rcases named : cookie.filter (· ≠ "") with _ | id
  · rw [ConsoleAuthService.resolve_anonymous named]
    rintro who ⟨⟩
  rw [ConsoleAuthService.resolve_named named]
  refine ⟨trivial, fun _ => by rintro who ⟨⟩, fun session => ?_⟩
  cases session with
  | none => rintro who ⟨⟩
  | some session =>
    refine ⟨trivial, fun _ => by rintro who ⟨⟩, fun now => ?_⟩
    dsimp only
    split_ifs with late
    · exact ⟨trivial, fun _ => by rintro who ⟨⟩, fun _ => by rintro who ⟨⟩⟩
    · refine ⟨trivial, fun _ => by rintro who ⟨⟩, fun found who eq => ?_⟩
      obtain ⟨rfl, office⟩ := Option.filter_eq_some_iff.1 (Except.ok.inj eq)
      exact ⟨id, session, now, named, rfl, late, by simpa using office⟩

/-- A handler that looks up the session of the cookie and goes on with whom it stands for. -/
theorem gated_of_signedIn {α : Type} (request : HttpRequest) {cookie : Option String}
    {signedIn : Api Actor} (answered : Option Actor → Except ApiError Actor)
    (looks : signedIn.run =
      ConsoleAuthService.resolve cookie >>= fun found => .ret (answered found))
    (finds : ∀ found who, answered found = .ok who → found = some who) {f : Actor → Api α}
    (hf : ∀ who past, SignedInAs cookie past who →
      Prog.Upholds request.Gated (fun _ _ => True) (f who).run past) :
    Prog.Upholds request.Gated (fun _ _ => True) (signedIn >>= f).run [] := by
  refine Prog.Upholds.except_bind
    (ρ := fun past result => ∀ who, result = .ok (.ok who) → SignedInAs cookie past who) ?_
    (fun past who h => hf who past (h who rfl)) (fun _ _ _ => trivial) fun _ _ _ => trivial
  rw [looks]
  refine ((resolve_finds cookie).mono
    (fun past c hc => gated_of_unprotected request past c (unprotected_of_session hc))
    fun _ _ h => h).bind (fun past found resolves who eq => ?_) fun _ _ _ => by rintro who ⟨⟩
  have found_who := finds found who (Except.ok.inj eq)
  exact ⟨past, [], (List.append_nil past).symm, resolves who (congrArg _ found_who)⟩

/-- The guard of the console endpoints. -/
theorem gated_of_required {α : Type} (request : HttpRequest) {cookie : Option String}
    {f : Actor → Api α} (hf : ∀ who past, SignedInAs cookie past who →
      Prog.Upholds request.Gated (fun _ _ => True) (f who).run past) :
    Prog.Upholds request.Gated (fun _ _ => True) (requireConsoleActor cookie >>= f).run [] := by
  refine gated_of_signedIn request _ (requireConsoleActor_eq cookie) ?_ hf
  rintro (_ | actor) who eq
  · cases eq
  · exact congrArg some (Except.ok.inj eq)

/-- The lookup of the sign-in endpoints. -/
theorem gated_of_authSignedIn {α : Type} (request : HttpRequest) {cookie : Option String}
    {f : Actor → Api α} (hf : ∀ who past, SignedInAs cookie past who →
      Prog.Upholds request.Gated (fun _ _ => True) (f who).run past) :
    Prog.Upholds request.Gated (fun _ _ => True) (AuthController.signedIn cookie >>= f).run [] := by
  refine gated_of_signedIn request (fun found => found.elim (.error AuthController.noSession) .ok)
    ?_ ?_ hf
  · rw [AuthController.signedIn, Prog.run_lift_bind]
    refine congrArg (ConsoleAuthService.resolve cookie >>= ·) (funext fun actor => ?_)
    cases actor <;> rfl
  · rintro (_ | actor) who eq
    · cases eq
    · exact congrArg some (Except.ok.inj eq)

/-- One protected call of somebody who is signed in. -/
theorem gated_of_entitled {request : HttpRequest} {past : List (Handled Services)} {who : Actor}
    {c : Effect} (signedIn : SignedInAs request.consoleCookie past who)
    (entitled : request.Entitles who past c) : request.Gated past c :=
  fun _ => ⟨who, signedIn, entitled⟩

variable (console : ConsoleAuthService) (svc : AuthorizationService)

omit [Unicode] in
/-- The password that is set is the one of the actor. -/
theorem initialPassword_callsOnly (salt : Bytes) (actorId password : String) :
    Prog.CallsOnly (fun c => c = Effect.utcnow ∨ ∃ hash now,
      c = Effect.store (.saveCredential ⟨actorId, hash, now⟩))
      (ActorsController.initialPassword console salt actorId password).run := by
  rw [ActorsController.initialPassword, Prog.run_lift_bind]
  refine .bind ?_ fun result => ?_
  · by_cases weak : password.length < minPasswordLength
    · rw [console.setPassword_weak weak]
      trivial
    rcases hashed : hashPassword console.pbkdf2 salt password with e | hash
    · rw [console.setPassword_unhashed weak hashed]
      trivial
    · rw [console.setPassword_strong weak hashed]
      exact ⟨.inl rfl, fun now => ⟨.inr ⟨hash, now, rfl⟩, fun _ => trivial⟩⟩
  · rcases result with e | ⟨⟩
    · cases e <;> trivial
    · trivial

/-- Somebody who is signed in sets a password that the endpoint is there for. -/
theorem initialPassword_gated (request : HttpRequest) {past : List (Handled Services)} {who : Actor}
    (signedIn : SignedInAs request.consoleCookie past who) {salt : Bytes} {actorId password : String}
    (entitled : ∀ past hash now,
      request.Entitles who past (.store (.saveCredential ⟨actorId, hash, now⟩))) :
    Prog.Upholds request.Gated (fun _ _ => True)
      (ActorsController.initialPassword console salt actorId password).run past := by
  refine (Prog.Upholds.of_callsOnly (P := fun past => SignedInAs request.consoleCookie past who)
    (initialPassword_callsOnly console salt actorId password) (fun past c hc here => ?_)
    signedIn).mono (fun _ _ h => h) fun _ _ _ => trivial
  refine ⟨?_, fun r => here.append _⟩
  rcases hc with rfl | ⟨hash, now, rfl⟩
  · exact gated_of_unprotected request past _ not_false
  · exact gated_of_entitled here (entitled past hash now)

theorem changePassword_gated (salt : Bytes) (cookie : Option String)
    (data : PasswordChangeRequest) :
    Prog.Upholds (HttpRequest.Gated (.changePassword salt cookie data)) (fun _ _ => True)
      (AuthController.changePassword console salt cookie data).run [] :=
  gated_of_authSignedIn (.changePassword salt cookie data) fun _ _ signedIn =>
    initialPassword_gated console (.changePassword salt cookie data) signedIn fun _ _ _ => rfl

theorem enrollActor_gated (salt : Bytes) (cookie : Option String) (data : EnrollmentRequest) :
    Prog.Upholds (HttpRequest.Gated (.enrollActor salt cookie data)) (fun _ _ => True)
      (ActorsController.enrollActor console salt cookie data).run [] := by
  let request : HttpRequest := .enrollActor salt cookie data
  refine gated_of_required request fun who past signedIn => ?_
  refine ⟨gated_of_unprotected request _ _ not_false, fun _ => trivial, fun now => ?_⟩
  have signedIn := signedIn.append [⟨Effect.utcnow, now⟩]
  refine ⟨gated_of_entitled signedIn rfl, fun _ => trivial, fun _ => ?_⟩
  have signedIn := signedIn.append [⟨Effect.store (.saveActor data.actor), ()⟩]
  refine ⟨gated_of_entitled signedIn ⟨now, rfl⟩, fun _ => trivial, fun _ => ?_⟩
  have signedIn := signedIn.append
    [⟨Effect.store (.saveDeviceBinding (ActorsController.bindingFor data now)), ()⟩]
  rcases data.password.filter (· ≠ "") with _ | password
  · trivial
  · refine Prog.Upholds.except_bind (ρ := fun _ _ => True)
      (initialPassword_gated console request signedIn fun _ _ _ => rfl) ?_ ?_ ?_
    · exact fun _ _ _ => trivial
    · exact fun _ _ _ => trivial
    · exact fun _ _ _ => trivial

theorem updatePermissions_gated (cookie : Option String) (actorId : String)
    (data : PermissionUpdateRequest) :
    Prog.Upholds (HttpRequest.Gated (.updatePermissions cookie actorId data)) (fun _ _ => True)
      (ActorsController.updatePermissions cookie actorId data).run [] := by
  let request : HttpRequest := .updatePermissions cookie actorId data
  refine gated_of_required request fun who past signedIn => ?_
  refine ⟨gated_of_unprotected request _ _ not_false, fun _ => trivial, fun found => ?_⟩
  have signedIn := signedIn.append [⟨Effect.store (.getActor actorId), found⟩]
  rcases found with _ | old
  · trivial
  change Prog.Upholds _ _ (ite _ _ _ : Api Actor).run _
  split_ifs with conflict
  · trivial
  have shown : old.permissions.Perm data.expectedPermissions :=
    sorted_eq_iff.1 (not_not.1 conflict)
  exact ⟨gated_of_entitled signedIn ⟨old, by simp, shown, rfl⟩, fun _ => trivial, fun _ => trivial⟩

theorem updateConfig_gated (cookie : Option String) (data : PolicyConfig) :
    Prog.Upholds (HttpRequest.Gated (.updateConfig cookie data)) (fun _ _ => True)
      (PolicyController.updateConfig cookie data).run [] := by
  refine gated_of_required (.updateConfig cookie data) fun who past signedIn => ?_
  refine ⟨gated_of_entitled signedIn rfl, fun _ => trivial, fun _ => ?_⟩
  exact ⟨gated_of_entitled (signedIn.append _) rfl, fun _ => trivial, fun _ => trivial⟩

theorem resolveHold_gated (cookie : Option String) (decisionId : String)
    (data : HoldResolutionRequest) :
    Prog.Upholds (HttpRequest.Gated (.resolveHold cookie decisionId data)) (fun _ _ => True)
      (AuthorizationController.resolveHold svc cookie decisionId data).run [] := by
  let request : HttpRequest := .resolveHold cookie decisionId data
  refine gated_of_required request fun who past signedIn => ?_
  refine Prog.Upholds.except_bind (ρ := fun _ _ => True) (upholds_catching _ ?_)
    (fun _ _ _ => trivial) (fun _ _ _ => trivial) fun _ _ _ => trivial
  simp only [AuthorizationService.resolveHold, Prog.perform_eq, Prog.call_bind, Prog.ret_bind]
  refine ⟨gated_of_unprotected request _ _ not_false, fun _ => trivial, fun found => ?_⟩
  have signedIn := signedIn.append [⟨Effect.store (.getDecision decisionId), found⟩]
  rcases found with _ | held
  · trivial
  dsimp only
  rcases eligible : AuthorizationService.ineligible decisionId held data.outcome
    (some who.role) with _ | e
  swap
  · trivial
  obtain ⟨isHold, open_, authority, decides⟩ := AuthorizationService.ineligible_eq_none.1 eligible
  dsimp only
  rw [AuthorizationService.settleHold_eq]
  refine ⟨gated_of_unprotected request _ _ not_false, fun _ => trivial, fun now => ?_⟩
  have signedIn := signedIn.append [⟨Effect.utcnow, now⟩]
  refine ⟨gated_of_entitled signedIn ⟨held, now, by simp, isHold, open_, decides,
    authority _ rfl, rfl⟩, fun _ => trivial, fun _ => ?_⟩
  exact upholds_of_callsOnly
    (fun past c hc => gated_of_unprotected request past c (unprotected_of_settlement hc))
    (svc.afterVerdict_callsOnly ..)

/-! ## Handlers that need none -/

namespace AuthorizationService

omit [Unicode] in
theorem refuse_unprotected (listener : Bool) (transaction : TransactionRequest) (now : DateTime)
    (stage : Stage) (detail reason : String) :
    (refuse listener transaction now stage detail reason).CallsOnly (¬ Effect.Protected ·) := by
  simp only [refuse, Prog.perform_eq, Prog.call_bind, Prog.ret_bind]
  refine .bind ((emit_preliminary ..).mono fun _ => unprotected_of_preliminary) fun _ => ?_
  exact ⟨not_false, fun hex => ⟨fun resolved => resolved rfl, fun _ => ⟨not_false, fun _ =>
    trivial⟩⟩⟩

theorem decideAndPersist_unprotected (listener : Bool) (transaction : TransactionRequest)
    (now : DateTime) (actor : Actor) (plan : ValidatedEvidencePlan) (evidence : CanonicalEvidence)
    (context : Option ContextEvaluation) :
    (svc.decideAndPersist listener transaction now actor plan evidence context).CallsOnly
      (¬ Effect.Protected ·) := by
  have told (stage : Stage) (status : StageStatus) (detail : String) :=
    (emit_preliminary listener stage status detail).mono fun _ => unprotected_of_preliminary
  simp only [decideAndPersist, PolicyEngine.evaluate, Prog.perform_eq, Prog.call_bind,
    Prog.ret_bind, Prog.pure_eq]
  refine .bind (told ..) fun _ => ⟨not_false, fun hex => ⟨not_false, fun time => ⟨not_false,
    fun config => .bind (told ..) fun _ => ?_⟩⟩⟩
  obtain ⟨outcome, reasons, authority, shape⟩ := PolicyEngine.decide_shape config
    (PolicyEngine.newDecisionId hex) time transaction actor evidence svc.attestable
    (some plan.mandatory.toFinset)
  rw [shape]
  refine .bind ?_ fun token => ⟨fun resolved => resolved rfl, fun _ => ⟨not_false, fun _ =>
    trivial⟩⟩
  simp only [issueIfApproved, TokenService.issueToken, Prog.perform_eq, Prog.call_bind,
    Prog.ret_bind, Prog.pure_eq]
  split_ifs
  · exact ⟨not_false, fun _ => ⟨not_false, fun _ => ⟨not_false, fun _ => trivial⟩⟩⟩
  · trivial

/-- An authorization decides, and resolves nothing. -/
theorem authorizeTransaction_unprotected (listener : Bool) (transaction : TransactionRequest) :
    (svc.authorizeTransaction listener transaction).Upholds (fun _ c => ¬ Effect.Protected c)
      (fun _ _ => True) [] := by
  refine Steps.authorizeTransaction (P := fun _ _ => True) ?_ trivial
  exact {
    call := fun _ _ _ hc _ => ⟨unprotected_of_preliminary hc.preliminary, fun _ => trivial⟩
    advance := fun _ _ _ _ _ => trivial
    raise := fun _ _ _ _ => trivial
    refuse := fun _ _ _ _ _ _ => upholds_of_callsOnly (fun _ _ hc => hc) (refuse_unprotected ..)
    decide := fun _ _ _ _ _ _ _ _ _ _ =>
      upholds_of_callsOnly (fun _ _ hc => hc) (svc.decideAndPersist_unprotected ..) }

end AuthorizationService

omit [Unicode] in
theorem contextFor_reads (item : PolicyDecision) :
    (AuthorizationController.contextFor item).CallsOnly Effect.Reads :=
  ⟨trivial, fun _ => ⟨trivial, fun _ => ⟨trivial, fun _ => ⟨trivial, fun _ => trivial⟩⟩⟩⟩

omit [Unicode] in
theorem contextsFor_reads (items : List PolicyDecision) :
    (AuthorizationController.contextsFor items).CallsOnly Effect.Reads := by
  induction items with
  | nil => trivial
  | cons item items ih =>
    exact (contextFor_reads item).bind fun _ => ih.bind fun _ => trivial

omit [Unicode] in
theorem rosterFor_reads (actors : List Actor) :
    (ActorsController.rosterFor actors).CallsOnly Effect.Reads := by
  induction actors with
  | nil => trivial
  | cons actor actors ih => exact ⟨trivial, fun _ => ih.bind fun _ => trivial⟩

/-! ## All endpoints -/

variable [UnicodeDigits]

/-- The calls of a sign-in. -/
def OfSignIn : Effect → Prop
  | .store (.getActor _) | .store (.getCredential _) | .store (.saveConsoleSession _) | .utcnow =>
      True
  | _ => False

omit [Unicode] [UnicodeDigits] in
theorem unprotected_of_signIn {c : Effect} (hc : OfSignIn c) : ¬ c.Protected := by
  cases c with
  | store c => cases c <;> first | exact hc.elim | exact not_false
  | utcnow => exact not_false
  | _ => exact hc.elim

theorem signIn_callsOnly (sessionId actorId password : String) :
    Prog.CallsOnly OfSignIn (console.signIn sessionId actorId password).run := by
  simp only [ConsoleAuthService.signIn, Prog.run_lift_bind, Prog.perform_eq, Prog.call_bind,
    Prog.ret_bind]
  refine ⟨trivial, fun actor => ⟨trivial, fun credential => ?_⟩⟩
  have unknown : Prog.CallsOnly OfSignIn (do
      let _ ← ConsoleAuthService.hashing (verifyPassword console.pbkdf2 password
        "pbkdf2_sha256$240000$00$00")
      throw (.invalidCredentials ConsoleAuthService.genericMessage) :
        Console (Actor × ConsoleSession)).run := by
    rcases verifyPassword console.pbkdf2 password "pbkdf2_sha256$240000$00$00" with _ | _
    · trivial
    · trivial
  rcases actor with _ | actor
  · exact unknown
  rcases credential with _ | credential
  · exact unknown
  dsimp only
  rcases verifyPassword console.pbkdf2 password credential.passwordHash with _ | _ | _
  · trivial
  · trivial
  rcases ConsoleAuthService.refusal actorId actor with _ | e
  · exact ⟨trivial, fun now => ⟨trivial, fun _ => trivial⟩⟩
  · trivial

theorem login_callsOnly (settings : Settings) (sessionId : String) (data : LoginRequest) :
    Prog.CallsOnly OfSignIn (AuthController.login console settings sessionId data).run := by
  refine .except_bind ((signIn_callsOnly console ..).bind fun _ => trivial) fun result => ?_
  rcases result with (_ | _ | _ | _) | _ <;> trivial

omit [UnicodeDigits] in
/-- A handler that makes no protected call keeps to the gate. -/
theorem gated_of_callsOnly (request : HttpRequest) {χ : Effect → Prop}
    (h : ∀ c, χ c → ¬ c.Protected) {p : Service HttpAnswer} (hp : p.CallsOnly χ) :
    p.Upholds request.Gated (fun _ _ => True) [] :=
  upholds_of_callsOnly (fun past c hc => gated_of_unprotected request past c (h c hc)) hp

omit [Unicode] [UnicodeDigits] in
theorem logout_callsOnly (settings : Settings) (cookie : Option String) :
    Prog.CallsOnly ConsoleAuthService.OfSession (AuthController.logout settings cookie).run := by
  refine .except_bind (.bind ?_ fun _ => trivial) fun _ => trivial
  rw [ConsoleAuthService.signOut]
  split
  · trivial
  · exact ⟨trivial, fun _ => trivial⟩

omit [UnicodeDigits] in
theorem authSignedIn_callsOnly (cookie : Option String) :
    Prog.CallsOnly ConsoleAuthService.OfSession (AuthController.signedIn cookie).run := by
  rw [AuthController.signedIn, Prog.run_lift_bind]
  refine (ConsoleAuthService.resolve_callsOnly cookie).bind fun found => ?_
  cases found <;> trivial

/-- The requests that ask for something and change nothing. -/
def HttpRequest.IsGet : HttpRequest → Prop
  | .readSession _ | .listActors _ | .getActor _ | .listAuthorizationDecisions _ _ _
  | .listDecisionContexts _ _ _ | .getAuthorizationDecision _ | .getDecisionContext _ | .getConfig
  | .listCategories | .listZones | .getReceipt _ | .getToken _ => True
  | _ => False

/-- What they call: reads, and the lookup of a session. -/
def Effect.Asks (c : Effect) : Prop := c.Reads ∨ ConsoleAuthService.OfSession c

omit [Unicode] [UnicodeDigits] in
theorem unprotected_of_asks {c : Effect} (hc : c.Asks) : ¬ c.Protected :=
  hc.elim unprotected_of_reads unprotected_of_session

theorem HttpRequest.program_asks (settings : Settings) {request : HttpRequest}
    (get : request.IsGet) : (request.program svc console settings).CallsOnly Effect.Asks := by
  have reading {p : Service HttpAnswer} (hp : p.CallsOnly Effect.Reads) : p.CallsOnly Effect.Asks :=
    hp.mono fun _ => .inl
  cases request with
  | readSession cookie =>
    exact .bind (.except_bind ((authSignedIn_callsOnly cookie).mono fun _ => .inr)
      fun _ => trivial) fun _ => trivial
  | listActors limit =>
    exact reading ⟨trivial, fun actors => .bind (rosterFor_reads actors) fun _ => trivial⟩
  | getActor actorId =>
    refine reading ⟨trivial, fun found => ?_⟩
    rcases found with _ | actor
    · trivial
    refine ⟨trivial, fun binding => ?_⟩
    cases binding <;> trivial
  | listAuthorizationDecisions decision pending limit =>
    exact reading ⟨trivial, fun _ => trivial⟩
  | listDecisionContexts decision pending limit =>
    exact reading ⟨trivial, fun items => .bind (contextsFor_reads _) fun _ => trivial⟩
  | getAuthorizationDecision decisionId =>
    refine reading ⟨trivial, fun found => ?_⟩
    cases found <;> trivial
  | getDecisionContext decisionId =>
    refine reading ⟨trivial, fun found => ?_⟩
    rcases found with _ | decision
    · trivial
    · exact .bind ((contextFor_reads decision).bind fun _ => trivial) fun _ => trivial
  | getConfig => exact reading ⟨trivial, fun _ => trivial⟩
  | listCategories => exact reading ⟨trivial, fun _ => trivial⟩
  | listZones => trivial
  | getReceipt receiptId =>
    refine reading ⟨trivial, fun found => ?_⟩
    cases found <;> trivial
  | getToken tokenId =>
    refine reading ⟨trivial, fun found => ?_⟩
    cases found <;> trivial
  | _ => exact get.elim

/-- Every endpoint keeps to the gate. -/
theorem HttpRequest.program_gated (settings : Settings) (request : HttpRequest) :
    (request.program svc console settings).Upholds request.Gated (fun _ _ => True) [] := by
  by_cases get : request.IsGet
  · exact gated_of_callsOnly request (fun _ => unprotected_of_asks)
      (program_asks console svc settings get)
  have deciding (listener : Bool) (data : TransactionRequest) :
      (svc.authorizeTransaction listener data).Upholds request.Gated (fun _ _ => True) [] :=
    (svc.authorizeTransaction_unprotected listener data).mono
      (fun past c => gated_of_unprotected request past c) fun _ _ h => h
  cases request with
  | login sessionId data =>
    exact gated_of_callsOnly _ (fun _ => unprotected_of_signIn)
      ((login_callsOnly console settings sessionId data).bind fun _ => trivial)
  | logout cookie =>
    exact gated_of_callsOnly _ (fun _ => unprotected_of_session)
      ((logout_callsOnly settings cookie).bind fun _ => trivial)
  | changePassword salt cookie data =>
    exact upholds_answering (changePassword_gated console salt cookie data)
  | enrollActor salt cookie data =>
    exact upholds_answering (enrollActor_gated console salt cookie data)
  | updatePermissions cookie actorId data =>
    exact upholds_answering (updatePermissions_gated cookie actorId data)
  | streamAuthorization data =>
    exact (upholds_catching some (deciding true data)).bind (fun _ _ _ => trivial)
      fun _ _ _ => trivial
  | requestAuthorization data =>
    exact upholds_map ((deciding false data).bind (fun _ _ _ => trivial) fun _ _ _ => trivial)
  | resolveHold cookie decisionId data =>
    exact upholds_answering (resolveHold_gated svc cookie decisionId data)
  | updateConfig cookie data => exact upholds_answering (updateConfig_gated cookie data)
  | claimToken data =>
    exact gated_of_callsOnly _ (fun _ => unprotected_of_claim)
      (.bind (.bind (svc.claimToken_callsOnly ..) fun _ => trivial) fun _ => trivial)
  | _ => exact absurd trivial get

end Gate

/-! ## Runs -/

section Runs

variable {ι : Type} [DecidableEq ι]

/-- Request `i` has found the session of its cookie, which was not over by the clock that it read
next, and then the record of the actor of the session, who works on the console. -/
def Authenticated [Unicode] (env : Env) (trace : HttpTrace ι) (i : ι) (cookie : Option String)
    (who : Actor) : Prop :=
  ∃ (id : String) (session : ConsoleSession)
    (t₁ : HttpTrace ι) (e₁ : Event Services ServiceError World ι)
    (t₂ : HttpTrace ι) (e₂ : Event Services ServiceError World ι)
    (t₃ : HttpTrace ι) (e₃ : Event Services ServiceError World ι) (t₄ : HttpTrace ι),
    cookie = some id ∧ id ≠ "" ∧ who.actorId = session.actorId ∧ isFieldRole who.role = false ∧
    trace = t₁ ++ e₁ :: (t₂ ++ e₂ :: (t₃ ++ e₃ :: t₄)) ∧
    (e₁.thread = i ∧ e₁.call = .store (.getConsoleSession id) ∧
      e₁.state.kv (.consoleSessions id) = some session) ∧
    (e₂.thread = i ∧ e₂.call = .utcnow ∧ env.clock e₂.state.readings < session.expiresAt) ∧
    (e₃.thread = i ∧ e₃.call = .store (.getActor session.actorId) ∧
      e₃.state.kv (.actors session.actorId) = some who)

variable [Unicode] [UnicodeDigits] {env : Env} {peers : ι → Peers}

omit [Unicode] [UnicodeDigits] in
/-- What a call of a trace was answered is what the handler says of the state it found. -/
theorem answered_in_trace {α : Type} {c : Pool Services ServiceError α World ι} {schedule : List ι}
    {e : Event Services ServiceError World ι} (mem : e ∈ c.trace (handleAll env peers) schedule)
    {x : Handled Services} (answered : e.answered = some x) :
    e.call = x.1 ∧ (handle env (peers e.thread) x.1 e.state).1 = .ok x.2 :=
  ⟨Event.call_of_answered answered, Event.reply_of_answered (Pool.reply_of_mem_trace mem) answered⟩

omit [Unicode] [UnicodeDigits] in
/-- Every call of a trace finds records under their own keys. -/
theorem keyed_in_trace {α : Type} {c : Pool Services ServiceError α World ι} {schedule : List ι}
    (keyed : c.state.kv.Keyed) {e : Event Services ServiceError World ι}
    (mem : e ∈ c.trace (handleAll env peers) schedule) : e.state.kv.Keyed :=
  Pool.state_of_mem_trace (P := fun w : World => w.kv.Keyed) keyed
    (fun _ op _ h => handle_keyed op _ h) mem

omit [UnicodeDigits] in
/-- A request whose history shows that it was signed in was signed in. -/
theorem SignedInAs.authenticated {α : Type} {c : Pool Services ServiceError α World ι}
    (keyed : c.state.kv.Keyed) (schedule : List ι) {before after : HttpTrace ι}
    (split : c.trace (handleAll env peers) schedule = before ++ after) {i : ι}
    {cookie : Option String} {who : Actor} (h : SignedInAs cookie (history i before) who) :
    Authenticated env before i cookie who := by
  obtain ⟨_, rest, past, id, session, now, named, rfl, live, office⟩ := h
  obtain ⟨t₁, e₁, u₁, rfl, i₁, a₁, past₁⟩ := history_eq_cons past
  obtain ⟨t₂, e₂, u₂, rfl, i₂, a₂, past₂⟩ := history_eq_cons past₁
  obtain ⟨t₃, e₃, u₃, rfl, i₃, a₃, -⟩ := history_eq_cons past₂
  have mem (e : Event Services ServiceError World ι)
      (he : e ∈ t₁ ++ e₁ :: (t₂ ++ e₂ :: (t₃ ++ e₃ :: u₃))) :
      e ∈ c.trace (handleAll env peers) schedule := split ▸ List.mem_append_left _ he
  obtain ⟨c₁, r₁⟩ := answered_in_trace (mem e₁ (by simp)) a₁
  obtain ⟨c₂, r₂⟩ := answered_in_trace (mem e₂ (by simp)) a₂
  obtain ⟨c₃, r₃⟩ := answered_in_trace (mem e₃ (by simp)) a₃
  obtain ⟨rfl, given⟩ := Option.filter_eq_some_iff.1 named
  have clock : env.clock e₂.state.readings = now := Except.ok.inj r₂
  have found : e₃.state.kv (.actors session.actorId) = some who := Except.ok.inj r₃
  have itself : who.actorId = session.actorId :=
    keyed_in_trace keyed (mem e₃ (by simp)) (.actors session.actorId) who found
  exact ⟨id, session, t₁, e₁, t₂, e₂, t₃, e₃, u₃, rfl, by simpa using given, itself, office, rfl,
    ⟨i₁, c₁, Except.ok.inj r₁⟩, ⟨i₂, c₂, by rw [clock]; exact Nat.not_le.1 live⟩,
    ⟨i₃, c₃, found⟩⟩

variable (svc : AuthorizationService) (console : ConsoleAuthService) (settings : Settings)

theorem serving_upholds (env : Env) (peers : ι → Peers) (requests : ι → HttpRequest) (w : World)
    (schedule : List ι) :
    ((serving svc console settings requests w).run (handleAll env peers) schedule).AllUphold
      (fun i => (requests i).Gated) (fun _ _ _ => True)
      ((serving svc console settings requests w).trace (handleAll env peers) schedule) :=
  Pool.upholds_run (fun i => (requests i).program_gated console svc settings) schedule

/-- However the requests to the endpoints overlap, a request that is about to make a protected
write has found that its cookie stands for somebody signed in, and its endpoint is there for that
write. -/
theorem console_gate (env : Env) (peers : ι → Peers) (requests : ι → HttpRequest) {w : World}
    (keyed : w.kv.Keyed) (schedule : List ι) {i : ι} {c : Effect}
    {next : c.Reply → Service HttpAnswer}
    (about : ((serving svc console settings requests w).run (handleAll env peers)
      schedule).threads i = .call c next) (protects : c.Protected) :
    let trace := (serving svc console settings requests w).trace (handleAll env peers) schedule
    ∃ who, Authenticated env trace i (requests i).consoleCookie who ∧
      (requests i).Entitles who (history i trace) c := by
  have upholds := serving_upholds svc console settings env peers requests w schedule i
  rw [about] at upholds
  obtain ⟨who, signedIn, entitled⟩ := upholds.1 protects
  exact ⟨who, signedIn.authenticated keyed schedule (List.append_nil _).symm, entitled⟩

/-! ## The audit trail -/

omit [Unicode] [UnicodeDigits] [DecidableEq ι] in
/-- A call that leaves a decision on record has found it there, or saves it. -/
theorem decision_of_handle (i : ι) (op : Effect) {w : World} {id : String} {d : PolicyDecision}
    (stored : (handleAll env peers i op w).2.kv (.decisions id) = some d) :
    w.kv (.decisions id) = some d ∨ d.decisionId = id ∧ op = .store (.saveDecision d) := by
  by_cases saves : IsSaveDecision op
  · obtain ⟨d', rfl⟩ : ∃ d', op = Effect.store (.saveDecision d') := by
      unfold IsSaveDecision at saves
      split at saves
      · exact ⟨_, rfl⟩
      · exact saves.elim
    rcases ite_eq_iff.1 ((StoreCall.saveDecision_decisions w.kv d' id).symm.trans stored) with
      ⟨rfl, eq⟩ | ⟨-, old⟩
    · cases eq
      exact .inr ⟨rfl, rfl⟩
    · exact .inl old
  · exact .inl ((handle_decisions env (peers i) saves w id).symm.trans stored)

omit [Unicode] [UnicodeDigits] in
/-- A decision on record was there at the start, or has been saved since. -/
theorem decision_origin {σ α : Type} {h : ι → Handler Services ServiceError σ} (view : σ → Kv)
    (calls : ∀ i op s id d, view (h i op s).2 (.decisions id) = some d →
      view s (.decisions id) = some d ∨ d.decisionId = id ∧ op = Effect.store (.saveDecision d))
    {c : Pool Services ServiceError α σ ι} {schedule : List ι} {id : String} {d : PolicyDecision}
    (stored : view (c.run h schedule).state (.decisions id) = some d) :
    view c.state (.decisions id) = some d ∨ d.decisionId = id ∧
      ∃ e ∈ c.trace h schedule, e.call = Effect.store (.saveDecision d) := by
  refine Pool.trace_induct (P := fun s trace => ∀ id d, view s (.decisions id) = some d →
    view c.state (.decisions id) = some d ∨ d.decisionId = id ∧
      ∃ e ∈ trace, e.call = Effect.store (.saveDecision d)) (fun _ _ h => .inl h)
    (fun s trace i op ih id d stored => ?_) schedule id d stored
  rcases calls i op s id d stored with old | ⟨same, rfl⟩
  · refine (ih id d old).imp_right fun ⟨same, e, mem, saves⟩ => ?_
    exact ⟨same, e, List.mem_append_left _ mem, saves⟩
  · exact .inr ⟨same, _, List.mem_append_right _ (List.mem_singleton.2 rfl), rfl⟩

omit [UnicodeDigits] in
theorem authorityRole_resolve {held : PolicyDecision} {who : Actor}
    (authority : holdsAuthority (some who.role) held.requiredAuthority = true) :
    some ((held.requiredAuthority.filter (· ≠ "")).getD "UNSPECIFIED_AUTHORITY") =
      held.requiredAuthority := by
  unfold holdsAuthority at authority
  split at authority
  · cases authority
  · split_ifs at authority with blank
    rename_i role named
    rw [named, show (some role).filter (fun a => (a ≠ "" : Bool)) = some role by simp [blank]]
    rfl

/-- The request has put the resolution on a hold, for somebody whose role the hold requires. -/
def ResolvedBy (who : Actor) (data : HoldResolutionRequest) (d : PolicyDecision)
    (r : HoldResolution) : Prop :=
  d.decision = .hold ∧ r.outcome = data.outcome ∧ r.outcome ≠ .hold ∧ r.note = data.note ∧
    r.resolvedBy = who.actorId ∧ holdsAuthority (some who.role) d.requiredAuthority = true ∧
    some r.authorityRole = d.requiredAuthority

/-- Who saves a decision with a resolution is signed in, and may resolve that very hold. -/
theorem resolvedBy_of_saved {env : Env} {peers : ι → Peers} {requests : ι → HttpRequest} {w : World}
    (keyed : w.kv.Keyed) {schedule : List ι} {before after : HttpTrace ι}
    {e : Event Services ServiceError World ι}
    (split : (serving svc console settings requests w).trace (handleAll env peers) schedule =
      before ++ e :: after) {d : PolicyDecision} {r : HoldResolution}
    (saves : e.call = .store (.saveDecision d)) (resolved : d.resolution = some r) :
    ∃ cookie data who, requests e.thread = .resolveHold cookie d.decisionId data ∧
      Authenticated env before e.thread cookie who ∧ ResolvedBy who data d r := by
  have upholds := Pool.upholds_event
    (fun i => (requests i).program_gated console svc settings) split
  rw [saves] at upholds
  obtain ⟨who, signedIn, entitled⟩ := upholds (by simp [Effect.Protected, resolved])
  have authenticated := signedIn.authenticated keyed schedule split
  cases asks : requests e.thread with
  | resolveHold cookie decisionId data =>
    rw [asks] at entitled authenticated
    obtain ⟨held, now, read, isHold, -, decides, authority, rfl⟩ := entitled
    obtain ⟨e', mem', -, answered⟩ := mem_history.1 read
    have mem' : e' ∈ (serving svc console settings requests w).trace (handleAll env peers)
        schedule := split ▸ List.mem_append_left _ mem'
    have found : e'.state.kv (.decisions decisionId) = some held :=
      Except.ok.inj (answered_in_trace mem' answered).2
    obtain rfl : held.decisionId = decisionId :=
      keyed_in_trace keyed mem' (.decisions decisionId) held found
    cases resolved
    exact ⟨cookie, data, who, rfl, authenticated, isHold, rfl, decides, rfl, rfl, authority,
      authorityRole_resolve authority⟩
  | _ =>
    rw [asks] at entitled
    exact entitled.elim

/-- However the requests to the endpoints overlap, a resolution that is on record and was not there
at the start was saved by a request to resolve that very hold: it names the actor whom the cookie of
the request was found, before the save, to stand for, and that actor holds the authority it
claims. -/
theorem resolutions_audited (env : Env) (peers : ι → Peers) (requests : ι → HttpRequest) {w : World}
    (keyed : w.kv.Keyed) (schedule : List ι) {id : String} {d : PolicyDecision} {r : HoldResolution}
    (stored : ((serving svc console settings requests w).run (handleAll env peers)
      schedule).state.kv (.decisions id) = some d) (resolved : d.resolution = some r)
    (new : w.kv (.decisions id) ≠ some d) :
    ∃ before e after cookie data who,
      (serving svc console settings requests w).trace (handleAll env peers) schedule =
        before ++ e :: after ∧
      e.call = .store (.saveDecision d) ∧ requests e.thread = .resolveHold cookie id data ∧
      Authenticated env before e.thread cookie who ∧ ResolvedBy who data d r := by
  obtain ⟨rfl, e, mem, saves⟩ := (decision_origin (fun w : World => w.kv)
    (fun i op _ _ _ => decision_of_handle i op) stored).resolve_left new
  obtain ⟨before, after, split⟩ := List.append_of_mem mem
  obtain ⟨cookie, data, who, asks, authenticated, by_⟩ :=
    resolvedBy_of_saved svc console settings keyed split saves resolved
  exact ⟨before, e, after, cookie, data, who, split, saves, asks, authenticated, by_⟩

end Runs

/-! ## A release that is denied -/

namespace Sample

/-- A safety officer has signed in while a release waits for one. -/
def officerSignedIn : World :=
  (held.after (.saveActor officer.actor)).after
    (.saveConsoleSession ⟨"session", "officer", ⟨0⟩, ⟨1⟩⟩)

theorem officerSignedIn_keyed : officerSignedIn.kv.Keyed :=
  Kv.Stored.keyed (.exec _ (.exec _ held_stored))

/-- The officer denies the release. -/
def denial : HttpRequest :=
  .resolveHold (some "session") "dec_000000000000" { outcome := .deny, note := "no papers" }

def denying : HttpRequests Unit :=
  @serving unicode unicodeDigits Unit service console {} (fun _ => denial) officerSignedIn

end Sample

theorem console_gate_denial :
    ∃ c next, (Sample.denying.run (handleAll Sample.env fun _ => Sample.peers)
        (List.replicate 5 ())).threads () = .call c next ∧ c.Protected ∧
      let trace := Sample.denying.trace (handleAll Sample.env fun _ => Sample.peers)
        (List.replicate 5 ())
      ∃ who, @Authenticated Unit Sample.unicode Sample.env trace () (some "session") who ∧
        @HttpRequest.Entitles Sample.unicode who (history () trace) Sample.denial c := by
  have about : ∃ d next, (Sample.denying.run (handleAll Sample.env fun _ => Sample.peers)
      (List.replicate 5 ())).threads () = .call (Effect.store (.saveDecision d)) next ∧
        d.resolution ≠ none := ⟨_, _, rfl, nofun⟩
  obtain ⟨d, next, about, resolved⟩ := about
  exact ⟨_, next, about, resolved, @console_gate Unit _ Sample.unicode Sample.unicodeDigits
    Sample.service Sample.console {} Sample.env (fun _ => Sample.peers) (fun _ => Sample.denial)
    Sample.officerSignedIn Sample.officerSignedIn_keyed (List.replicate 5 ()) () _ next about
    resolved⟩

theorem resolutions_audited_denial :
    ∃ d r, (Sample.denying.run (handleAll Sample.env fun _ => Sample.peers)
        (List.replicate 12 ())).state.kv (.decisions "dec_000000000000") = some d ∧
      d.resolution = some r ∧ r.resolvedBy = "officer" ∧
      ∃ before e after cookie data who,
        Sample.denying.trace (handleAll Sample.env fun _ => Sample.peers) (List.replicate 12 ()) =
          before ++ e :: after ∧ e.call = .store (.saveDecision d) ∧
        Sample.denial = .resolveHold cookie "dec_000000000000" data ∧
        @Authenticated Unit Sample.unicode Sample.env before () cookie who ∧
        @ResolvedBy Sample.unicode who data d r := by
  have done : ∃ d r, (Sample.denying.run (handleAll Sample.env fun _ => Sample.peers)
      (List.replicate 12 ())).state.kv (.decisions "dec_000000000000") = some d ∧
      d.resolution = some r ∧ r.resolvedBy = "officer" := ⟨_, _, rfl, rfl, rfl⟩
  obtain ⟨d, r, stored, resolved, named⟩ := done
  have new : Sample.officerSignedIn.kv (.decisions "dec_000000000000") ≠ some d := by
    intro same
    have open_ : (Sample.officerSignedIn.kv (.decisions "dec_000000000000")).bind
        PolicyDecision.resolution = none := by decide +kernel
    rw [same, Option.bind_some, resolved] at open_
    cases open_
  exact ⟨d, r, stored, resolved, named, @resolutions_audited Unit _ Sample.unicode
    Sample.unicodeDigits Sample.service Sample.console {} Sample.env (fun _ => Sample.peers)
    (fun _ => Sample.denial) Sample.officerSignedIn Sample.officerSignedIn_keyed
    (List.replicate 12 ()) "dec_000000000000" d r stored resolved new⟩

end ZoneGate
