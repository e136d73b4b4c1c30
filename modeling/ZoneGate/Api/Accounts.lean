import ZoneGate.Api.Gate
import ZoneGate.Authorization.PasswordRecords

/-!
# Console accounts

A password is set by an enrolment of somebody who is signed in, or by somebody who is signed in for
themselves.  Whatever requests are served after that, the one that was set last signs its actor in,
and nothing else does.
-/

namespace ZoneGate

open Py Effects

section Accounts

variable [Unicode] [UnicodeDigits] (svc : AuthorizationService) (console : ConsoleAuthService)
  (settings : Settings) (env : Env)

/-- The world after a request that is served to its end. -/
def World.afterRequest (peers : Peers) (w : World) (request : HttpRequest) : World :=
  ((request.program svc console settings).run (handle env peers) w).2

/-- The world after requests that do not overlap, each with the peers it meets. -/
def World.afterRequests (w : World) (run : List (HttpRequest × Peers)) : World :=
  run.foldl (fun w served => w.afterRequest svc console settings env served.2 served.1) w

theorem World.afterRequests_append (w : World) (first last : List (HttpRequest × Peers)) :
    w.afterRequests svc console settings env (first ++ last) =
      (w.afterRequests svc console settings env first).afterRequests svc console settings env last :=
  List.foldl_append ..

omit [UnicodeDigits] in
/-- The request sets a password of the actor, with the salt that is drawn. -/
inductive SetsPassword (w : World) : HttpRequest → String → Bytes → String → Prop
  | enroll {salt : Bytes} {cookie : Option String} {data : EnrollmentRequest} {password : String}
      {authority : Actor} (signedIn : SignedIn env w cookie authority)
      (given : data.password = some password) (strong : minPasswordLength ≤ password.length) :
      SetsPassword w (.enrollActor salt cookie data) data.actor.actorId salt password
  | change {salt : Bytes} {cookie : Option String} {data : PasswordChangeRequest} {who : Actor}
      (signedIn : SignedIn env w cookie who) (strong : minPasswordLength ≤ data.password.length) :
      SetsPassword w (.changePassword salt cookie data) who.actorId salt data.password

variable {env}

omit [UnicodeDigits] in
theorem SignedIn.unique {w : World} {cookie : Option String} {a b : Actor}
    (ha : SignedIn env w cookie a) (hb : SignedIn env w cookie b) : a = b := by
  obtain ⟨id, session, rfl, -, stored, -, enrolled, -⟩ := ha
  obtain ⟨_, session', ⟨⟩, -, stored', -, enrolled', -⟩ := hb
  obtain rfl := Option.some.inj (stored.symm.trans stored')
  exact Option.some.inj (enrolled.symm.trans enrolled')

omit [UnicodeDigits] in
theorem SetsPassword.unique {w : World} {request : HttpRequest} {id id' : String}
    {salt salt' : Bytes} {password password' : String}
    (h : SetsPassword env w request id salt password)
    (h' : SetsPassword env w request id' salt' password') :
    id = id' ∧ salt = salt' ∧ password = password' := by
  cases h with
  | enroll signedIn given =>
    cases h' with
    | enroll _ given' => exact ⟨rfl, rfl, Option.some.inj (given.symm.trans given')⟩
  | change signedIn =>
    cases h' with
    | change signedIn' => exact ⟨congrArg _ (signedIn.unique signedIn'), rfl, rfl⟩

/-! ## What a request does to the credentials -/

variable {peers : Peers} {w : World}

/-- The credentials are the same but for one. -/
def Recredited (kv kv' : Kv) (credential : OperatorCredential) : Prop :=
  ∀ id, kv' (.consoleCredentials id) =
    if id = credential.actorId then some credential else kv (.consoleCredentials id)

omit [Unicode] [UnicodeDigits] in
theorem initialPassword_run_strong {salt : Bytes} {actorId password hash : String}
    (strong : ¬ password.length < minPasswordLength)
    (hashed : hashPassword console.pbkdf2 salt password = .ok hash) :
    Prog.run (handle env peers) (ActorsController.initialPassword console salt actorId password).run
      w = (.ok (.ok ()), w.tick.after (.saveCredential ⟨actorId, hash, env.clock w.readings⟩)) := by
  rw [ActorsController.initialPassword, Prog.run_lift_bind, console.setPassword_strong strong hashed]
  rfl

/-- A request that is neither an enrolment nor a change of a password leaves the credentials. -/
theorem afterRequest_credentials_of_gated {request : HttpRequest}
    (other : ∀ who past credential, ¬ request.Entitles who past (.store (.saveCredential credential)))
    (id : String) :
    (w.afterRequest svc console settings env peers request).kv (.consoleCredentials id) =
      w.kv (.consoleCredentials id) := by
  refine (request.program_gated console svc settings).run_keeps (h := handle env peers)
    (P := fun s : World => s.kv (.consoleCredentials id) = w.kv (.consoleCredentials id))
    (fun past c s gated same => ?_) rfl
  cases c with
  | store c =>
    cases c with
    | saveCredential credential =>
      obtain ⟨who, -, entitled⟩ := gated trivial
      exact absurd entitled (other who past credential)
    | _ => exact same
  | _ => exact same

variable (env) in
/-- What a request does to the credentials: it sets the password of one actor, or none. -/
def CredentialsAfter (request : HttpRequest) (w w' : World) : Prop :=
  (∃ actorId salt password hash now, SetsPassword env w request actorId salt password ∧
      hashPassword console.pbkdf2 salt password = .ok hash ∧
      Recredited w.kv w'.kv ⟨actorId, hash, now⟩) ∨
    (∀ actorId salt password, ¬ SetsPassword env w request actorId salt password) ∧
      ∀ id, w'.kv (.consoleCredentials id) = w.kv (.consoleCredentials id)

omit [UnicodeDigits] [Unicode] in
theorem LookedUp.credentials {w w' : World} (h : LookedUp w w') (id : String) :
    w'.kv (.consoleCredentials id) = w.kv (.consoleCredentials id) := by
  rcases h.contents with same | ⟨sessionId, same⟩ <;> rw [same]
  rfl

omit [Unicode] [UnicodeDigits] in
theorem ne_empty_of_strong {password : String} (strong : ¬ password.length < minPasswordLength) :
    password ≠ "" := by
  rintro rfl
  exact strong (by decide)

theorem enrollActor_credentials (hashes : console.pbkdf2.Hashes) (salt : Bytes)
    (cookie : Option String) (data : EnrollmentRequest) :
    CredentialsAfter console env (.enrollActor salt cookie data) w
      (w.afterRequest svc console settings env peers (.enrollActor salt cookie data)) := by
  rw [World.afterRequest, HttpRequest.program, answering, Prog.run_bind]
  by_cases anybody : ∃ authority, SignedIn env w cookie authority
  swap
  · have nobody := not_exists.1 anybody
    obtain ⟨w', ran, looked⟩ := requireConsoleActor_run_refused peers nobody
    rw [ActorsController.enrollActor, Prog.run_except_bind, ran]
    refine .inr ⟨fun actorId salt password sets => ?_, looked.credentials⟩
    cases sets with
    | enroll signedIn => exact nobody _ signedIn
  obtain ⟨authority, signedIn⟩ := anybody
  rw [ActorsController.enrollActor_run signedIn]
  rcases given : data.password.filter (· ≠ "") with _ | password
  · refine .inr ⟨fun actorId salt password sets => ?_, fun _ => rfl⟩
    cases sets with
    | enroll _ named strong =>
      have present := ne_empty_of_strong (Nat.not_lt.2 strong)
      simp [Option.filter, named, present] at given
  obtain ⟨named, -⟩ := Option.filter_eq_some_iff.1 given
  dsimp only
  by_cases weak : password.length < minPasswordLength
  · rw [ActorsController.initialPassword_run_weak weak]
    refine .inr ⟨fun actorId salt password' sets => ?_, fun _ => rfl⟩
    cases sets with
    | enroll _ named' strong =>
      obtain rfl := Option.some.inj (named.symm.trans named')
      exact absurd weak (Nat.not_lt.2 strong)
  · obtain ⟨hash, hashed⟩ := hashes.hashPassword salt (ne_empty_of_strong weak)
    rw [initialPassword_run_strong console weak hashed]
    refine .inl ⟨data.actor.actorId, salt, password, hash, env.clock w.tick.tick.readings,
      .enroll signedIn named (Nat.not_lt.1 weak), hashed, fun id => ?_⟩
    exact StoreCall.saveCredential_consoleCredentials ..

variable (env) in
omit [UnicodeDigits] in
theorem authSignedIn_run (peers : Peers) (w : World) (cookie : Option String) :
    ∃ found w', Prog.run (handle env peers) (AuthController.signedIn cookie).run w =
        (.ok (found.elim (.error AuthController.noSession) .ok), w') ∧
      LookedUp w w' ∧ ∀ actor, found = some actor ↔ SignedIn env w cookie actor := by
  obtain ⟨found, w', ran, looked, finds, -⟩ := resolve_run env peers w cookie
  refine ⟨found, w', ?_, looked, finds⟩
  rw [AuthController.signedIn, Prog.run_lift_bind, Prog.run_bind, ran]
  cases found <;> rfl

theorem changePassword_credentials (hashes : console.pbkdf2.Hashes) (salt : Bytes)
    (cookie : Option String) (data : PasswordChangeRequest) :
    CredentialsAfter console env (.changePassword salt cookie data) w
      (w.afterRequest svc console settings env peers (.changePassword salt cookie data)) := by
  obtain ⟨found, w', ran, looked, finds⟩ := authSignedIn_run env peers w cookie
  rw [World.afterRequest, HttpRequest.program, answering, Prog.run_bind,
    AuthController.changePassword, Prog.run_except_bind, ran]
  rcases found with _ | who
  · refine .inr ⟨fun actorId salt password sets => ?_, looked.credentials⟩
    cases sets with
    | change signedIn => cases (finds _).2 signedIn
  have signedIn := (finds who).1 rfl
  dsimp only [Option.elim]
  by_cases weak : data.password.length < minPasswordLength
  · rw [ActorsController.initialPassword_run_weak weak]
    refine .inr ⟨fun actorId salt password sets => ?_, looked.credentials⟩
    cases sets with
    | change _ strong => exact absurd weak (Nat.not_lt.2 strong)
  · obtain ⟨hash, hashed⟩ := hashes.hashPassword salt (ne_empty_of_strong weak)
    rw [initialPassword_run_strong console weak hashed]
    refine .inl ⟨who.actorId, salt, data.password, hash, env.clock w'.readings,
      .change signedIn (Nat.not_lt.1 weak), hashed, fun id => ?_⟩
    rw [← looked.credentials id]
    exact StoreCall.saveCredential_consoleCredentials ..

variable (env peers w) in
/-- Every request sets the password of one actor, or none. -/
theorem credentialsAfter (hashes : console.pbkdf2.Hashes) (request : HttpRequest) :
    CredentialsAfter console env request w
      (w.afterRequest svc console settings env peers request) := by
  cases request with
  | enrollActor salt cookie data =>
    exact enrollActor_credentials svc console settings hashes salt cookie data
  | changePassword salt cookie data =>
    exact changePassword_credentials svc console settings hashes salt cookie data
  | _ =>
    exact .inr ⟨fun _ _ _ sets => (by cases sets), afterRequest_credentials_of_gated svc console
      settings fun _ _ _ h => h⟩

/-! ## Runs of requests -/

variable (env) in
/-- No request of the run sets a password of the actor. -/
def SetsNone (w : World) (run : List (HttpRequest × Peers)) (actorId : String) : Prop :=
  ∀ first served rest, run = first ++ served :: rest → ∀ salt password,
    ¬ SetsPassword env (w.afterRequests svc console settings env first) served.1 actorId salt password

/-- A credential stays as it is while no request sets a password of its actor. -/
theorem credential_of_setsNone (hashes : console.pbkdf2.Hashes) {actorId : String}
    {run : List (HttpRequest × Peers)} (none : SetsNone svc console settings env w run actorId) :
    (w.afterRequests svc console settings env run).kv (.consoleCredentials actorId) =
      w.kv (.consoleCredentials actorId) := by
  induction run using List.reverseRecOn with
  | nil => rfl
  | append_singleton run served ih =>
    have earlier : SetsNone svc console settings env w run actorId := by
      rintro first served' rest rfl
      exact none first served' (rest ++ [served]) (by simp)
    rw [World.afterRequests_append, ← ih earlier]
    rcases credentialsAfter svc console settings env served.2
      (w.afterRequests svc console settings env run) hashes served.1 with
      ⟨setId, salt, password, hash, now, sets, -, recredited⟩ | ⟨-, same⟩
    · have other : actorId ≠ setId := by
        rintro rfl
        exact none run served [] rfl salt password sets
      exact (recredited actorId).trans (if_neg other)
    · exact same actorId

/-- The credential of the actor is a record of the password. -/
def HoldsPassword (kv : Kv) (actorId : String) (salt : Bytes) (password : String) : Prop :=
  ∃ hash now, hashPassword console.pbkdf2 salt password = .ok hash ∧
    kv (.consoleCredentials actorId) = some ⟨actorId, hash, now⟩

/-- A password that was set last is the one on record. -/
theorem holdsPassword_of_last (hashes : console.pbkdf2.Hashes) {actorId : String} {salt : Bytes}
    {password : String} {before after : List (HttpRequest × Peers)} {served : HttpRequest × Peers}
    (sets : SetsPassword env (w.afterRequests svc console settings env before) served.1 actorId salt
      password)
    (last : SetsNone svc console settings env
      (w.afterRequests svc console settings env (before ++ [served])) after actorId) :
    HoldsPassword console
      (w.afterRequests svc console settings env (before ++ served :: after)).kv actorId salt
      password := by
  rcases credentialsAfter svc console settings env served.2
    (w.afterRequests svc console settings env before) hashes served.1 with
    ⟨setId, salt', password', hash, now, sets', hashed, recredited⟩ | ⟨none, -⟩
  swap
  · exact absurd sets (none actorId salt password)
  obtain ⟨rfl, rfl, rfl⟩ := sets.unique sets'
  have stored : (w.afterRequests svc console settings env (before ++ [served])).kv
      (.consoleCredentials actorId) = some ⟨actorId, hash, now⟩ := by
    rw [World.afterRequests_append]
    exact (recredited actorId).trans (if_pos rfl)
  refine ⟨hash, now, hashed, ?_⟩
  rw [List.append_cons, World.afterRequests_append,
    credential_of_setsNone svc console settings hashes last, stored]

/-! ## Signing in -/

omit [Unicode] in
/-- The record of a password is produced by the passwords with its digest. -/
theorem verifyPassword_hashPassword {pbkdf2 : Pbkdf2} (hashes : pbkdf2.Hashes) {salt : Bytes}
    {password hash : String} (hashed : hashPassword pbkdf2 salt password = .ok hash)
    (candidate : String) :
    verifyPassword pbkdf2 candidate hash = .ok true ↔
      pbkdf2 (encodeUtf8 candidate) salt iterations = pbkdf2 (encodeUtf8 password) salt iterations := by
  have printed : strInt (240000 : ℕ) = some "240000" := by decide
  have given : password ≠ "" := by
    rintro rfl
    cases hashed
  obtain ⟨digest, produced⟩ := hashes (encodeUtf8 password) salt
  obtain ⟨digest', produced'⟩ := hashes (encodeUtf8 candidate) salt
  obtain rfl : recordText "240000" salt digest = hash := by
    rw [hashPassword, if_neg given, produced] at hashed
    exact Except.ok.inj hashed
  have parsed : parseStored (recordText "240000" salt digest) = some (salt, digest, iterations) :=
    parseStored_recordText printed salt digest
  rw [verifyPassword_of_parsed pbkdf2 candidate parsed, produced, produced']
  simp [Except.map]

/-- The session that a sign-in opens. -/
def ConsoleAuthService.opened (sessionId actorId : String) (now : DateTime) : ConsoleSession where
  sessionId := sessionId
  actorId := actorId
  createdAt := now
  expiresAt := addHours now console.sessionTtlHours

variable (env peers w) in
/-- A sign-in returns the actor and the session that it opens, or one of its exceptions. -/
theorem signIn_run (sessionId actorId password : String) :
    (∃ actor, Prog.run (handle env peers) (console.signIn sessionId actorId password).run w =
        (.ok (.ok (actor, console.opened sessionId actorId (env.clock w.readings))),
          w.tick.after (.saveConsoleSession
            (console.opened sessionId actorId (env.clock w.readings)))) ∧
      ∃ credential, w.kv (.actors actorId) = some actor ∧
        w.kv (.consoleCredentials actorId) = some credential ∧
        verifyPassword console.pbkdf2 password credential.passwordHash = .ok true ∧
        ConsoleAuthService.refusal actorId actor = none) ∨
    (∃ e, Prog.run (handle env peers) (console.signIn sessionId actorId password).run w =
        (.ok (.error e), w)) ∧
      ∀ actor credential, w.kv (.actors actorId) = some actor →
        w.kv (.consoleCredentials actorId) = some credential →
        verifyPassword console.pbkdf2 password credential.passwordHash = .ok true →
        ConsoleAuthService.refusal actorId actor ≠ none := by
  have unknown : ∃ e, Prog.run (handle env peers) (do
      let _ ← ConsoleAuthService.hashing (verifyPassword console.pbkdf2 password
        "pbkdf2_sha256$240000$00$00")
      throw (.invalidCredentials ConsoleAuthService.genericMessage) :
        Console (Actor × ConsoleSession)).run w = (.ok (.error e), w) := by
    rcases verifyPassword console.pbkdf2 password "pbkdf2_sha256$240000$00$00" with _ | _
    · exact ⟨_, rfl⟩
    · exact ⟨_, rfl⟩
  simp only [ConsoleAuthService.signIn, Prog.run_lift_bind, Prog.perform_eq, Prog.call_bind,
    Prog.ret_bind, run_store, StoreCall.answer, World.after_getActor, World.after_getCredential]
  rcases w.kv (.actors actorId) with _ | actor
  · exact .inr ⟨unknown, fun _ _ h => by cases h⟩
  rcases w.kv (.consoleCredentials actorId) with _ | credential
  · exact .inr ⟨unknown, fun _ _ _ h => by cases h⟩
  dsimp only
  rcases verified : verifyPassword console.pbkdf2 password credential.passwordHash with e | _ | _
  · refine .inr ⟨⟨_, rfl⟩, ?_⟩
    rintro _ _ ⟨⟩ ⟨⟩ h
    rw [verified] at h
    cases h
  · refine .inr ⟨⟨_, rfl⟩, ?_⟩
    rintro _ _ ⟨⟩ ⟨⟩ h
    rw [verified] at h
    cases h
  rcases refused : ConsoleAuthService.refusal actorId actor with _ | e
  · exact .inl ⟨actor, rfl, credential, rfl, rfl, verified, refused⟩
  · refine .inr ⟨⟨_, rfl⟩, ?_⟩
    rintro _ _ ⟨⟩ ⟨⟩ - h
    rw [refused] at h
    cases h

variable (env peers w) in
/-- A sign-in succeeds when it finds an actor and a credential, the password produces the stored one
and nothing speaks against the actor. -/
theorem login_returns_iff (sessionId : String) (data : LoginRequest) :
    (∃ response, (Prog.run (handle env peers)
        (AuthController.login console settings sessionId data).run w).1 = .ok (.ok response)) ↔
      ∃ actor credential, w.kv (.actors (strip data.actorId)) = some actor ∧
        w.kv (.consoleCredentials (strip data.actorId)) = some credential ∧
        verifyPassword console.pbkdf2 data.password credential.passwordHash = .ok true ∧
        ConsoleAuthService.refusal (strip data.actorId) actor = none := by
  rw [AuthController.login, Prog.run_lift_bind, Prog.run_bind]
  rcases signIn_run console env peers w sessionId (strip data.actorId)
    data.password with ⟨actor, ran, credential, opens⟩ | ⟨⟨e, ran⟩, refused⟩
  · rw [ran]
    exact iff_of_true ⟨_, rfl⟩ ⟨actor, credential, opens⟩
  · rw [ran]
    refine iff_of_false ?_ ?_
    · rintro ⟨response, returned⟩
      cases e <;> cases returned
    · rintro ⟨actor, credential, enrolled, stored, verified, fits⟩
      exact refused actor credential enrolled stored verified fits

/-- After any requests, the password of an actor that was set last signs the actor in, as does any
with the same digest, provided that the actor is on the roster, active and not of the field; no
other password does. -/
theorem last_password_signs_in (hashes : console.pbkdf2.Hashes) (env : Env) (w : World)
    {before after : List (HttpRequest × Peers)} {served : HttpRequest × Peers} {actorId : String}
    {salt : Bytes} {password : String}
    (sets : SetsPassword env (w.afterRequests svc console settings env before) served.1 actorId salt
      password)
    (last : SetsNone svc console settings env
      (w.afterRequests svc console settings env (before ++ [served])) after actorId)
    (peers : Peers) (sessionId : String) {data : LoginRequest} (named : strip data.actorId = actorId) :
    let w' := w.afterRequests svc console settings env (before ++ served :: after)
    (∃ response, (Prog.run (handle env peers)
        (AuthController.login console settings sessionId data).run w').1 = .ok (.ok response)) ↔
      (∃ actor, w'.kv (.actors actorId) = some actor ∧ actor.enrollmentStatus = "ACTIVE" ∧
        isFieldRole actor.role = false) ∧
      console.pbkdf2 (encodeUtf8 data.password) salt iterations =
        console.pbkdf2 (encodeUtf8 password) salt iterations := by
  intro w'
  obtain ⟨hash, now, hashed, stored⟩ :=
    holdsPassword_of_last svc console settings hashes sets last
  rw [login_returns_iff, named, ← verifyPassword_hashPassword hashes hashed]
  constructor
  · rintro ⟨actor, credential, enrolled, found, verified, fits⟩
    obtain rfl := Option.some.inj (stored.symm.trans found)
    exact ⟨⟨actor, enrolled, ConsoleAuthService.refusal_eq_none_iff.1 fits⟩, verified⟩
  · rintro ⟨⟨actor, enrolled, fits⟩, verified⟩
    exact ⟨actor, _, enrolled, stored, verified, ConsoleAuthService.refusal_eq_none_iff.2 fits⟩

end Accounts

/-! ## A password that is changed twice -/

namespace Sample

def changed (password : PasswordChangeRequest) : HttpRequest × Peers :=
  (.changePassword [2] (some "session") password, peers)

def firstPassword : PasswordChangeRequest := ⟨"first and long", by decide⟩

def secondPassword : PasswordChangeRequest := ⟨"second and long", by decide⟩

def login : LoginRequest := ⟨" boss ", "second and long", by decide, by decide⟩

/-- The configuration is read once the passwords are set. -/
def reading : List (HttpRequest × Peers) := [(.getConfig, peers)]

theorem reading_setsNone (w : World) :
    @SetsNone unicode unicodeDigits service console {} env w reading "boss" := by
  intro first served rest eq salt password sets
  have mem : served ∈ reading := eq ▸ List.mem_append_right _ (List.mem_cons_self ..)
  obtain rfl := List.mem_singleton.1 mem
  cases sets

end Sample

theorem last_password_signs_in_boss :
    let w := @World.afterRequests Sample.unicode Sample.unicodeDigits Sample.service Sample.console
      {} Sample.env Sample.signedIn
      ([Sample.changed Sample.firstPassword] ++ Sample.changed Sample.secondPassword ::
        Sample.reading)
    ∃ response, (Prog.run (handle Sample.env Sample.peers) (@AuthController.login Sample.unicode
      Sample.unicodeDigits Sample.console {} "next" Sample.login).run w).1 = .ok (.ok response) := by
  intro w
  refine (@last_password_signs_in Sample.unicode Sample.unicodeDigits Sample.service Sample.console
    {} Sample.pbkdf2_hashes Sample.env Sample.signedIn [Sample.changed Sample.firstPassword]
    Sample.reading (Sample.changed Sample.secondPassword) "boss" [2] "second and long" ?_
    (Sample.reading_setsNone _) Sample.peers "next" Sample.login (by decide +kernel)).2 ?_
  · exact @SetsPassword.change Sample.unicode Sample.env _ [2] (some "session")
      Sample.secondPassword Sample.supervisor
      ⟨"session", _, rfl, by decide, rfl, by decide +kernel, rfl, by decide⟩ (by decide)
  · exact ⟨⟨Sample.supervisor, rfl, rfl, rfl⟩, rfl⟩

end ZoneGate
