import ZoneGate.Api.Accounts
import ZoneGate.Integrations.Camara

/-!
# The start-up

The lifespan of the application builds the services from the settings, gives the policy engine the
stored configuration, and seeds the demo accounts that are missing.  It fails on a placeholder for
the carrier's key and on a weak demo password, and it overwrites nothing but a binding that the
operator's name has without an operator.
-/

namespace ZoneGate

open Py Effects

/-! ## The services -/

/-- The exceptions of the start-up. -/
inductive StartupError
  | runtime (message : String)
  | console (e : ConsoleAuthError)
deriving DecidableEq, Repr

abbrev Startup := ExceptT StartupError Service

inductive LlmProvider
  | gemini | ollama
deriving DecidableEq, Repr

/-- Which carrier client collects the evidence. -/
inductive CarrierMode
  | rest | live
deriving DecidableEq, Repr

/-- What the carrier client can attest at all. -/
def CarrierMode.attestableKinds : CarrierMode → Finset EvidenceKind
  | rest => NokiaEvidenceClient.attestableKinds
  | live => NokiaLiveEvidenceClient.attestableKinds

/-- What the start-up leaves on the state of the application; `toolAllowlist` is the one of the MCP
client, if there is such a client. -/
structure AppState where
  llm : LlmProvider
  carrier : CarrierMode
  toolAllowlist : Option (List String)
  authService : AuthorizationService
  consoleAuth : ConsoleAuthService

def placeholderKeys : List String := ["mock-key", "mock-nokia-api-key"]

def keyMessage : String :=
  "CARRIER_MODE=live needs a real Nokia Network as Code key in " ++
    "NOKIA_API_KEY (CARRIER_KEY under Docker Compose). Set one, or use " ++
    "CARRIER_MODE=rest with NOKIA_BASE_URL pointing at a CAMARA-conformant " ++
    "operator endpoint."

section Services

variable [Unicode] (settings : Settings)

def llmProvider : LlmProvider := if lower settings.llmProvider = "gemini" then .gemini else .ollama

/-- Live evidence is asked for with a key that the gateway cannot know. -/
def LacksKey : Prop :=
  lower settings.carrierMode = "live" ∧
    (settings.nokiaApiKey = "" ∨ settings.nokiaApiKey ∈ placeholderKeys)

instance : Decidable (LacksKey settings) := by unfold LacksKey; infer_instance

def carrierMode : Except StartupError CarrierMode :=
  if lower settings.carrierMode = "live" then
    if settings.nokiaApiKey = "" ∨ settings.nokiaApiKey ∈ placeholderKeys then
      .error (.runtime keyMessage)
    else .ok .live
  else .ok .rest

/-- The allowlist of the MCP client. -/
def toolAllowlist : Option (List String) :=
  if settings.nokiaMcpEnabled then
    some (((split ',' settings.nokiaMcpStaticAllowlist).map strip).filter (· ≠ ""))
  else none

/-- The services, with the keyed digest of the token service and the one of the passwords. -/
def appState (hmac : String → Hmac) (pbkdf2 : Pbkdf2) (carrier : CarrierMode) :
    AppState where
  llm := llmProvider settings
  carrier := carrier
  toolAllowlist := toolAllowlist settings
  authService :=
    { attestable := some carrier.attestableKinds
      planner := true
      evaluator := true
      sign := hmac settings.tokenSecretKey }
  consoleAuth := { sessionTtlHours := settings.sessionTtlHours, pbkdf2 := pbkdf2 }

theorem carrierMode_eq_error_iff {e : StartupError} :
    carrierMode settings = .error e ↔ LacksKey settings ∧ e = .runtime keyMessage := by
  unfold carrierMode LacksKey
  split_ifs with live missing
  · simp only [Except.error.injEq, live, missing, true_and]
    exact eq_comm
  · simp [live, missing]
  · simp [live]

end Services

/-! ## The demo accounts -/

/-- One console account for each authority that the default policy escalates holds to. -/
def demoAuthorities : List (String × String) :=
  [("usr_cargo_supervisor_01", "ROLE_CARGO_SUPERVISOR"),
    ("usr_security_officer_01", "ROLE_SECURITY_OFFICER"),
    ("usr_safety_officer_01", "ROLE_SAFETY_OFFICER"),
    ("usr_compliance_officer_01", "ROLE_COMPLIANCE_OFFICER")]

def demoActor : Actor where
  actorId := "usr_cargo_operator_01"
  role := "CARGO_OPERATOR"
  permissions := ["cargo:release", "cargo:inspect"]
  registeredPhoneNumber := "+99999991001"
  registeredDeviceId := "device_cargo_terminal_01"

def demoBinding (now : DateTime) : DeviceBinding where
  actorId := demoActor.actorId
  phoneNumber := demoActor.registeredPhoneNumber
  deviceId := demoActor.registeredDeviceId
  boundAt := now

def authorityActor (account : String × String) (index : ℕ) : Actor where
  actorId := account.1
  role := account.2
  permissions := ["hold:resolve"]
  registeredPhoneNumber := "+9999999100" ++ toString index
  registeredDeviceId := "console_workstation"

/-- The cargo operator, unless there is one. -/
def seedOperator : Service Unit := do
  let found ← store (.getActor demoActor.actorId)
  match found with
  | some _ => return ()
  | none => do
      let now ← utcnow
      store (.saveActor demoActor)
      store (.saveDeviceBinding (demoBinding now))

section Seeding

variable (console : ConsoleAuthService)

/-- The demo password of an account that has none. -/
def seedCredential (salt : Bytes) (actorId password : String) : Startup Unit := do
  let credential ← (store (.getCredential actorId) : Service (Option OperatorCredential))
  match credential with
  | some _ => return ()
  | none => do
      let result ← ((console.setPassword salt actorId password).run : Service _)
      match result with
      | .ok () => return ()
      | .error e => throw (.console e)

/-- What is missing of one console account: its actor, its credential. -/
def seedAuthority (salt : Bytes) (password : String) (account : String × String) (index : ℕ) :
    Startup Unit := do
  let actor ← (store (.getActor account.1) : Service (Option Actor))
  match actor with
  | some _ => seedCredential console salt account.1 password
  | none => do
      (store (.saveActor (authorityActor account index)) : Service Unit)
      seedCredential console salt account.1 password

/-- The console accounts, with a salt for each. -/
def seedAuthorities (salts : ℕ → Bytes) (password : String) :
    List ((String × String) × ℕ) → Startup Unit
  | [] => return ()
  | (account, index) :: rest => do
      seedAuthority console (salts index) password account index
      seedAuthorities salts password rest

end Seeding

/-- The accounts of the authorities, each with the number of its telephone. -/
def demoAccounts : List ((String × String) × ℕ) := demoAuthorities.zipIdx 2

/-- The settings ask for console accounts. -/
def Settings.SeedsConsole (settings : Settings) : Prop :=
  settings.appEnv ≠ "test" ∧ settings.demoOperatorPassword ≠ ""

instance (settings : Settings) : Decidable settings.SeedsConsole := by
  unfold Settings.SeedsConsole
  infer_instance

/-- The demo accounts of a deployment that is no test. -/
def seedDemo (salts : ℕ → Bytes) (settings : Settings) (console : ConsoleAuthService) :
    Startup Unit := do
  if settings.appEnv ≠ "test" then
    (seedOperator : Service Unit)
  if settings.SeedsConsole then
    seedAuthorities console salts settings.demoOperatorPassword demoAccounts

/-- The start-up. -/
def startUp [Unicode] (hmac : String → Hmac) (pbkdf2 : Pbkdf2) (salts : ℕ → Bytes)
    (settings : Settings) : Startup AppState :=
  match carrierMode settings with
  | .error e => throw e
  | .ok carrier => do
      let app := appState settings hmac pbkdf2 carrier
      (startEngine : Service Unit)
      seedDemo salts settings app.consoleAuth
      return app

/-! ## What seeding leaves -/

/-- The roster has those who have come onto the record in front, and then the others in their
order. -/
def Enlists (kv kv' : Kv) : Prop :=
  ∃ new : List String, new.Nodup ∧
    (∀ id, id ∈ new ↔ kv (.actors id) = none ∧ kv' (.actors id) ≠ none) ∧
    kv'.actorIds = new ++ kv.actorIds.diff new

/-- What is on record stays, but for the order of the roster and for a binding of the operator
without an operator; what comes up is one of the accounts and its credential, and the operator's
binding. -/
structure Supplied (ids : List String) (kv kv' : Kv) : Prop where
  kept : ∀ c doc, c ≠ .actorList →
    (c = .deviceBindings demoActor.actorId → kv (.actors demoActor.actorId) ≠ none) →
    kv c = some doc → kv' c = some doc
  added : ∀ c, kv c = none → kv' c ≠ none →
    c = .actorList ∨ c = .deviceBindings demoActor.actorId ∨
      ∃ id ∈ ids, c = .actors id ∨ c = .consoleCredentials id
  bound : ∀ b, kv' (.deviceBindings demoActor.actorId) = some b →
    kv (.deviceBindings demoActor.actorId) = some b ∨
      kv (.actors demoActor.actorId) = none ∧ ∃ now, b = demoBinding now
  roster : Enlists kv kv'

theorem Enlists.of_same {kv kv' : Kv} (actors : ∀ id, kv' (.actors id) = kv (.actors id))
    (list : kv'.actorIds = kv.actorIds) : Enlists kv kv' :=
  ⟨[], List.nodup_nil, fun id => by simp [actors], by simpa using list⟩

theorem Enlists.of_new {kv kv' : Kv} {a : Actor} (absent : kv (.actors a.actorId) = none)
    (actors : ∀ id, kv' (.actors id) = if id = a.actorId then some a else kv (.actors id))
    (list : kv'.actorIds = a.actorId :: kv.actorIds.erase a.actorId) : Enlists kv kv' := by
  refine ⟨[a.actorId], List.nodup_singleton _, fun id => ?_, by simpa using list⟩
  rw [List.mem_singleton, actors]
  split_ifs with same
  · subst same
    simp [absent]
  · simp [same]

theorem diff_append_of_disjoint {first rest : List String} {ids : List String}
    (disjoint : ∀ id ∈ ids, id ∉ first) : (first ++ rest).diff ids = first ++ rest.diff ids := by
  induction ids generalizing rest with
  | nil => simp
  | cons id ids ih =>
    obtain ⟨other, disjoint⟩ := List.forall_mem_cons.1 disjoint
    rw [List.diff_cons, List.diff_cons, List.erase_append_right _ other, ih disjoint]

theorem Enlists.trans {kv kv' kv'' : Kv} (h : Enlists kv kv') (h' : Enlists kv' kv'')
    (stays : ∀ id, kv (.actors id) ≠ none → kv' (.actors id) ≠ none)
    (stays' : ∀ id, kv' (.actors id) ≠ none → kv'' (.actors id) ≠ none) : Enlists kv kv'' := by
  obtain ⟨new, nodup, mem_new, list⟩ := h
  obtain ⟨new', nodup', mem_new', list'⟩ := h'
  have disjoint : ∀ id ∈ new', id ∉ new := fun id mem' mem =>
    ((mem_new id).1 mem).2 ((mem_new' id).1 mem').1
  refine ⟨new' ++ new, nodup'.append nodup disjoint, fun id => ?_, ?_⟩
  · rw [List.mem_append, mem_new, mem_new']
    have stays := stays id
    have stays' := stays' id
    tauto
  · have swap : (new' ++ new).Perm (new ++ new') := List.perm_append_comm
    rw [list', list, diff_append_of_disjoint disjoint, List.append_assoc, swap.diff_left kv.actorIds,
      List.diff_append]

/-- Whoever has come onto the record is on the roster. -/
theorem Enlists.mem {kv kv' : Kv} (h : Enlists kv kv') {id : String}
    (absent : kv (.actors id) = none) (present : kv' (.actors id) ≠ none) : id ∈ kv'.actorIds := by
  obtain ⟨new, -, mem_new, list⟩ := h
  rw [list]
  exact List.mem_append_left _ ((mem_new id).2 ⟨absent, present⟩)

namespace Supplied

variable {ids ids' : List String} {kv kv' kv'' : Kv}

theorem refl (kv : Kv) : Supplied ids kv kv :=
  ⟨fun _ _ _ _ stored => stored, fun _ absent present => absurd absent present,
    fun _ stored => .inl stored, .of_same (fun _ => rfl) rfl⟩

theorem actor (h : Supplied ids kv kv') {id : String} {a : Actor}
    (stored : kv (.actors id) = some a) : kv' (.actors id) = some a :=
  h.kept (.actors id) a nofun nofun stored

theorem actor_ne_none (h : Supplied ids kv kv') (id : String) (there : kv (.actors id) ≠ none) :
    kv' (.actors id) ≠ none := by
  obtain ⟨a, stored⟩ := Option.ne_none_iff_exists'.1 there
  simp [h.actor stored]

theorem credential (h : Supplied ids kv kv') {id : String} {k : OperatorCredential}
    (stored : kv (.consoleCredentials id) = some k) : kv' (.consoleCredentials id) = some k :=
  h.kept (.consoleCredentials id) k nofun nofun stored

theorem actors_of_notMem (h : Supplied ids kv kv') {id : String} (other : id ∉ ids) :
    kv' (.actors id) = kv (.actors id) := by
  rcases before : kv (.actors id) with _ | a
  · by_contra after
    rcases h.added _ before after with same | same | ⟨id', mem, same | same⟩ <;> cases same
    exact other mem
  · exact h.actor before

theorem credentials_of_notMem (h : Supplied ids kv kv') {id : String} (other : id ∉ ids) :
    kv' (.consoleCredentials id) = kv (.consoleCredentials id) := by
  rcases before : kv (.consoleCredentials id) with _ | k
  · by_contra after
    rcases h.added _ before after with same | same | ⟨id', mem, same | same⟩ <;> cases same
    exact other mem
  · exact h.credential before

theorem trans (h : Supplied ids kv kv') (h' : Supplied ids kv' kv'') : Supplied ids kv kv'' := by
  refine ⟨fun c doc notList enrolled stored => ?_, fun c absent present => ?_, fun b stored => ?_,
    h.roster.trans h'.roster h.actor_ne_none h'.actor_ne_none⟩
  · exact h'.kept c doc notList (fun eq => h.actor_ne_none _ (enrolled eq))
      (h.kept c doc notList enrolled stored)
  · by_cases between : kv' c = none
    · exact h'.added c between present
    · exact h.added c absent between
  · rcases h'.bound b stored with there | ⟨absent, now, rfl⟩
    · exact h.bound b there
    · exact .inr ⟨not_not.1 (mt (h.actor_ne_none _) (not_not.2 absent)), now, rfl⟩

theorem mono (sub : ids ⊆ ids') (h : Supplied ids kv kv') : Supplied ids' kv kv' := by
  refine ⟨h.kept, fun c absent present => (h.added c absent present).imp_right (Or.imp_right ?_),
    h.bound, h.roster⟩
  rintro ⟨id, mem, fits⟩
  exact ⟨id, sub mem, fits⟩

end Supplied

/-- The cell is the roster, or one of the account that may be filled. -/
inductive Missing (kv : Kv) (id : String) : Cell → Prop
  | roster : Missing kv id .actorList
  | actor (absent : kv (.actors id) = none) : Missing kv id (.actors id)
  | binding (absent : kv (.actors demoActor.actorId) = none) :
      Missing kv id (.deviceBindings demoActor.actorId)
  | credential (absent : kv (.consoleCredentials id) = none) :
      Missing kv id (.consoleCredentials id)

theorem Missing.not_kept {kv : Kv} {id : String} {c : Cell} (h : Missing kv id c) {doc : c.Doc}
    (notList : c ≠ .actorList)
    (enrolled : c = .deviceBindings demoActor.actorId → kv (.actors demoActor.actorId) ≠ none) :
    kv c ≠ some doc := by
  cases h with
  | roster => exact absurd rfl notList
  | actor absent => simp [absent]
  | binding absent => exact absurd absent (enrolled rfl)
  | credential absent => simp [absent]

theorem Missing.belongs {kv : Kv} {id : String} {c : Cell} (h : Missing kv id c) :
    c = .actorList ∨ c = .deviceBindings demoActor.actorId ∨ c = .actors id ∨
      c = .consoleCredentials id := by
  cases h <;> simp

/-- Filling in what is missing of an account supplies it. -/
theorem Supplied.writes {kv : Kv} {id : String} (ws : List (Cells.Write Cell.Doc))
    (missing : ∀ write ∈ ws, Missing kv id write.cell)
    (bound : ∀ b, Cells.Store.writes kv ws (.deviceBindings demoActor.actorId) = some b →
      kv (.deviceBindings demoActor.actorId) = some b ∨
        kv (.actors demoActor.actorId) = none ∧ ∃ now, b = demoBinding now)
    (roster : Enlists kv (Cells.Store.writes kv ws)) :
    Supplied [id] kv (Cells.Store.writes kv ws) := by
  refine ⟨fun c doc notList enrolled stored => ?_, fun c absent present => ?_, bound, roster⟩
  · rw [Cells.Store.writes_of_ne kv ws, stored]
    rintro write mem rfl
    exact (missing write mem).not_kept notList enrolled stored
  · by_contra other
    refine present ?_
    rw [Cells.Store.writes_of_ne kv ws, absent]
    rintro write mem rfl
    exact other ((missing write mem).belongs.imp_right (Or.imp_right fun belongs =>
      ⟨id, List.mem_singleton.2 rfl, belongs⟩))

/-- Enrolling an actor supplies it. -/
theorem Supplied.saveActor {kv : Kv} {a : Actor} (absent : kv (.actors a.actorId) = none) :
    Supplied [a.actorId] kv ((StoreCall.saveActor a).exec kv) := by
  refine Supplied.writes (actorWrites a kv.actorIds) ?_ (fun _ stored => .inl stored)
    (.of_new absent (StoreCall.saveActor_actors kv a) rfl)
  simp only [actorWrites, List.forall_mem_cons, List.not_mem_nil, false_imp_iff, implies_true,
    and_true]
  exact ⟨.actor absent, .roster⟩

/-- Giving an account a credential supplies it. -/
theorem Supplied.saveCredential {kv : Kv} {k : OperatorCredential}
    (absent : kv (.consoleCredentials k.actorId) = none) :
    Supplied [k.actorId] kv ((StoreCall.saveCredential k).exec kv) := by
  refine Supplied.writes [.put (.consoleCredentials k.actorId) k] ?_ (fun _ stored => .inl stored)
    (.of_same (fun _ => rfl) rfl)
  rintro write mem
  obtain rfl := List.mem_singleton.1 mem
  exact .credential absent

/-- The operator comes with its binding. -/
theorem Supplied.saveOperator {kv : Kv} (absent : kv (.actors demoActor.actorId) = none)
    (now : DateTime) :
    Supplied [demoActor.actorId] kv ((StoreCall.saveDeviceBinding (demoBinding now)).exec
      ((StoreCall.saveActor demoActor).exec kv)) := by
  refine Supplied.writes [.put (.actors demoActor.actorId) demoActor,
    .put .actorList (demoActor.actorId :: kv.actorIds.erase demoActor.actorId),
    .put (.deviceBindings demoActor.actorId) (demoBinding now)] ?_ (fun b stored => ?_)
    (.of_new absent (StoreCall.saveActor_actors kv demoActor) rfl)
  · simp only [List.forall_mem_cons, List.not_mem_nil, false_imp_iff, implies_true, and_true]
    exact ⟨.actor absent, .roster, .binding absent⟩
  · exact .inr ⟨absent, now, (Option.some.inj stored).symm⟩

/-! ## Runs of the start-up -/

section Runs

variable {env : Env} {peers : Peers} {w : World}

/-- Nothing is seeded next to an operator. -/
theorem seedOperator_run_of_some {a : Actor} (enrolled : w.kv (.actors demoActor.actorId) = some a) :
    seedOperator.run (handle env peers) w = (.ok (), w) := by
  simp only [seedOperator, Prog.perform_eq, Prog.call_bind, Prog.ret_bind, run_store,
    StoreCall.answer, enrolled, World.after_getActor]
  rfl

/-- The operator that is seeded, with its binding. -/
theorem seedOperator_run_of_none (absent : w.kv (.actors demoActor.actorId) = none) :
    seedOperator.run (handle env peers) w = (.ok (), (w.tick.after (.saveActor demoActor)).after
      (.saveDeviceBinding (demoBinding (env.clock w.readings)))) := by
  simp only [seedOperator, Prog.perform_eq, Prog.call_bind, Prog.ret_bind, run_store,
    StoreCall.answer, absent, World.after_getActor, run_utcnow]
  rfl

variable (env peers w) in
/-- Once an operator was seeded there is one. -/
theorem seedOperator_supplied :
    ∃ w', seedOperator.run (handle env peers) w = (.ok (), w') ∧
      Supplied [demoActor.actorId] w.kv w'.kv ∧ w'.config = w.config ∧
      (∃ a, w'.kv (.actors demoActor.actorId) = some a) ∧
      (w.kv (.actors demoActor.actorId) = none →
        ∃ b, w'.kv (.deviceBindings demoActor.actorId) = some b) := by
  rcases known : w.kv (.actors demoActor.actorId) with _ | a
  · refine ⟨_, seedOperator_run_of_none known, .saveOperator known _, rfl, ⟨demoActor, ?_⟩,
      fun _ => ⟨_, rfl⟩⟩
    exact (StoreCall.saveActor_actors w.kv demoActor demoActor.actorId).trans (if_pos rfl)
  · exact ⟨w, seedOperator_run_of_some known, .refl _, rfl, ⟨a, known⟩, nofun⟩

variable (env) (console : ConsoleAuthService) {salt : Bytes} {password : String}
  {account : String × String} {index : ℕ}

/-- The world with an actor on its roster. -/
def World.withActor (w : World) (a : Actor) : World :=
  match w.kv (.actors a.actorId) with
  | some _ => w
  | none => w.after (.saveActor a)

theorem withActor_supplied (a : Actor) : Supplied [a.actorId] w.kv (w.withActor a).kv := by
  rw [World.withActor]
  rcases known : w.kv (.actors a.actorId) with _ | old
  · exact .saveActor known
  · exact .refl _

theorem withActor_actors (a : Actor) : (w.withActor a).kv (.actors a.actorId) =
    some ((w.kv (.actors a.actorId)).getD a) := by
  rw [World.withActor]
  rcases known : w.kv (.actors a.actorId) with _ | old
  · exact (StoreCall.saveActor_actors w.kv a a.actorId).trans (if_pos rfl)
  · exact known

theorem withActor_consoleCredentials (a : Actor) (id : String) :
    (w.withActor a).kv (.consoleCredentials id) = w.kv (.consoleCredentials id) := by
  rw [World.withActor]
  cases w.kv (.actors a.actorId) <;> rfl

theorem withActor_config (a : Actor) : (w.withActor a).config = w.config := by
  rw [World.withActor]
  cases w.kv (.actors a.actorId) <;> rfl

theorem withActor_of_some {a old : Actor} (known : w.kv (.actors a.actorId) = some old) :
    w.withActor a = w := by
  rw [World.withActor, known]

theorem seedAuthority_run :
    Prog.run (handle env peers) (seedAuthority console salt password account index).run w =
      Prog.run (handle env peers) (seedCredential console salt account.1 password).run
        (w.withActor (authorityActor account index)) := by
  rw [World.withActor]
  simp only [seedAuthority, Prog.run_lift_bind, Prog.perform_eq, Prog.call_bind, Prog.ret_bind,
    run_store, StoreCall.answer, World.after_getActor]
  have same : (authorityActor account index).actorId = account.1 := rfl
  rw [same]
  rcases w.kv (.actors account.1) with _ | old
  · simp only [Prog.run_lift_bind, Prog.call_bind, Prog.ret_bind, run_store]
  · rfl

theorem seedCredential_run_of_some {id : String} {k : OperatorCredential}
    (known : w.kv (.consoleCredentials id) = some k) :
    Prog.run (handle env peers) (seedCredential console salt id password).run w =
      (.ok (.ok ()), w) := by
  simp only [seedCredential, Prog.run_lift_bind, Prog.perform_eq, Prog.call_bind, Prog.ret_bind,
    run_store, StoreCall.answer, known, World.after_getCredential]
  rfl

variable (peers w salt) in
/-- The demo password is set where there is none, unless it is weak. -/
theorem seedCredential_run_of_none (hashes : console.pbkdf2.Hashes) (given : password ≠ "")
    {id : String} (absent : w.kv (.consoleCredentials id) = none) :
    ∃ hash, hashPassword console.pbkdf2 salt password = .ok hash ∧
      Prog.run (handle env peers) (seedCredential console salt id password).run w =
        if password.length < minPasswordLength then
          (.ok (.error (.console (.weakPassword ConsoleAuthService.weakPasswordMessage))), w)
        else (.ok (.ok ()), w.tick.after (.saveCredential ⟨id, hash, env.clock w.readings⟩)) := by
  obtain ⟨hash, hashed⟩ := hashes.hashPassword salt given
  refine ⟨hash, hashed, ?_⟩
  simp only [seedCredential, Prog.run_lift_bind, Prog.perform_eq, Prog.call_bind, Prog.ret_bind,
    run_store, StoreCall.answer, absent, World.after_getCredential]
  split_ifs with weak
  · rw [console.setPassword_weak weak]
    rfl
  · rw [console.setPassword_strong weak hashed]
    rfl

/-- The accounts are there; those without a credential have got the demo password. -/
structure AccountsSeeded (salts : ℕ → Bytes) (password : String)
    (accounts : List ((String × String) × ℕ)) (w w' : World) : Prop where
  supplied : Supplied (accounts.map (·.1.1)) w.kv w'.kv
  config : w'.config = w.config
  actors : ∀ a ∈ accounts, w'.kv (.actors a.1.1) =
    some ((w.kv (.actors a.1.1)).getD (authorityActor a.1 a.2))
  credentials : ∀ a ∈ accounts, w.kv (.consoleCredentials a.1.1) = none →
    HoldsPassword console w'.kv a.1.1 (salts a.2) password

def weakDemoPassword : StartupError :=
  .console (.weakPassword ConsoleAuthService.weakPasswordMessage)

variable (peers w account index) in
/-- The first account, and a weak password where one would be set. -/
theorem seedAuthority_spec (hashes : console.pbkdf2.Hashes) (given : password ≠ "")
    (salts : ℕ → Bytes) :
    (∃ w', Prog.run (handle env peers)
        (seedAuthority console (salts index) password account index).run w = (.ok (.ok ()), w') ∧
      AccountsSeeded console salts password [(account, index)] w w' ∧
      (minPasswordLength ≤ password.length ∨ w.kv (.consoleCredentials account.1) ≠ none)) ∨
    (∃ w', Prog.run (handle env peers)
        (seedAuthority console (salts index) password account index).run w =
          (.ok (.error weakDemoPassword), w') ∧
      Supplied [account.1] w.kv w'.kv ∧
      ¬ (minPasswordLength ≤ password.length ∨ w.kv (.consoleCredentials account.1) ≠ none)) := by
  let a := authorityActor account index
  have supplied : Supplied [account.1] w.kv (w.withActor a).kv := withActor_supplied a
  have enrolled := withActor_actors (w := w) a
  have same := withActor_consoleCredentials (w := w) a account.1
  rw [seedAuthority_run]
  rcases known : w.kv (.consoleCredentials account.1) with _ | k
  · obtain ⟨hash, hashed, ran⟩ := seedCredential_run_of_none env peers (w.withActor a)
      console (salts index) hashes given (same.trans known)
    rw [ran]
    split_ifs with weak
    · exact .inr ⟨_, rfl, supplied, by simp [Nat.not_le.2 weak]⟩
    · refine .inl ⟨_, rfl, ⟨supplied.trans ?_, withActor_config a, ?_, ?_⟩, .inl (Nat.not_lt.1 weak)⟩
      · exact Supplied.saveCredential (k := ⟨account.1, _, _⟩) (same.trans known)
      · rintro _ mem
        obtain rfl := List.mem_singleton.1 mem
        exact enrolled
      · rintro _ mem -
        obtain rfl := List.mem_singleton.1 mem
        refine ⟨hash, env.clock (w.withActor a).readings, hashed, ?_⟩
        exact (StoreCall.saveCredential_consoleCredentials ..).trans (if_pos rfl)
  · rw [seedCredential_run_of_some env console (same.trans known)]
    refine .inl ⟨_, rfl, ⟨supplied, withActor_config a, ?_, ?_⟩, .inr (by simp)⟩
    · rintro _ mem
      obtain rfl := List.mem_singleton.1 mem
      exact enrolled
    · rintro _ mem absent
      obtain rfl := List.mem_singleton.1 mem
      rw [known] at absent
      cases absent

theorem HoldsPassword.supplied {ids : List String} {kv kv' : Kv} {id : String}
    (h : HoldsPassword console kv id salt password) (supplied : Supplied ids kv kv') :
    HoldsPassword console kv' id salt password := by
  obtain ⟨hash, now, hashed, stored⟩ := h
  exact ⟨hash, now, hashed, supplied.credential stored⟩

theorem AccountsSeeded.cons {salts : ℕ → Bytes} {accounts : List ((String × String) × ℕ)}
    {w₁ w' : World} (first : AccountsSeeded console salts password [(account, index)] w w₁)
    (rest : AccountsSeeded console salts password accounts w₁ w')
    (other : account.1 ∉ accounts.map (·.1.1)) :
    AccountsSeeded console salts password ((account, index) :: accounts) w w' := by
  have apart {a : (String × String) × ℕ} (mem : a ∈ accounts) : a.1.1 ∉ [account.1] := by
    intro same
    exact other (List.mem_map.2 ⟨a, mem, List.mem_singleton.1 same⟩)
  refine ⟨(first.supplied.mono (by simp)).trans (rest.supplied.mono (by simp)),
    rest.config.trans first.config, fun a mem => ?_, fun a mem absent => ?_⟩
  · rcases List.mem_cons.1 mem with rfl | mem
    · exact rest.supplied.actor (first.actors _ (List.mem_singleton.2 rfl))
    · rw [rest.actors a mem, first.supplied.actors_of_notMem (apart mem)]
  · rcases List.mem_cons.1 mem with rfl | mem
    · exact (first.credentials _ (List.mem_singleton.2 rfl) absent).supplied console rest.supplied
    · exact rest.credentials a mem
        ((first.supplied.credentials_of_notMem (apart mem)).trans absent)

variable (peers w) in
/-- The accounts are seeded, unless one would get a weak password. -/
theorem seedAuthorities_spec (hashes : console.pbkdf2.Hashes) (given : password ≠ "")
    (salts : ℕ → Bytes) {accounts : List ((String × String) × ℕ)}
    (distinct : (accounts.map (·.1.1)).Nodup) :
    (∃ w', Prog.run (handle env peers) (seedAuthorities console salts password accounts).run w =
        (.ok (.ok ()), w') ∧ AccountsSeeded console salts password accounts w w' ∧
      (minPasswordLength ≤ password.length ∨
        ∀ a ∈ accounts, w.kv (.consoleCredentials a.1.1) ≠ none)) ∨
    (∃ w', Prog.run (handle env peers) (seedAuthorities console salts password accounts).run w =
        (.ok (.error weakDemoPassword), w') ∧
      Supplied (accounts.map (·.1.1)) w.kv w'.kv ∧
      ¬ (minPasswordLength ≤ password.length ∨
        ∀ a ∈ accounts, w.kv (.consoleCredentials a.1.1) ≠ none)) := by
  induction accounts generalizing w with
  | nil =>
    exact .inl ⟨w, rfl, ⟨.refl _, rfl, by simp, by simp⟩, .inr (by simp)⟩
  | cons head accounts ih =>
    obtain ⟨account, index⟩ := head
    obtain ⟨other, distinct⟩ := List.nodup_cons.1 distinct
    rw [seedAuthorities, Prog.run_except_bind]
    rcases seedAuthority_spec env peers w console account index hashes given salts with
      ⟨w₁, ran, first, set⟩ | ⟨w₁, ran, supplied, weak⟩
    · rw [ran]
      have others {a : (String × String) × ℕ} (mem : a ∈ accounts) :
          w₁.kv (.consoleCredentials a.1.1) = w.kv (.consoleCredentials a.1.1) := by
        refine first.supplied.credentials_of_notMem fun same => other ?_
        exact List.mem_map.2 ⟨a, mem, List.mem_singleton.1 same⟩
      rcases ih (w := w₁) distinct with ⟨w', ran', rest, set'⟩ | ⟨w', ran', supplied, weak⟩
      · refine .inl ⟨w', ran', first.cons console rest other, ?_⟩
        rcases set with strong | there
        · exact .inl strong
        refine set'.imp_right fun there' => ?_
        rw [List.forall_mem_cons]
        exact ⟨there, fun a mem => others mem ▸ there' a mem⟩
      · refine .inr ⟨w', ran', (first.supplied.mono (by simp)).trans (supplied.mono (by simp)), ?_⟩
        refine mt (Or.imp_right fun there a mem => ?_) weak
        rw [others mem]
        exact there a (List.mem_cons_of_mem _ mem)
    · rw [ran]
      refine .inr ⟨w₁, rfl, supplied.mono (by simp), ?_⟩
      exact mt (Or.imp_right fun there => there _ List.mem_cons_self) weak

/-- Accounts that are complete are left alone. -/
theorem seedAuthorities_run_of_complete (salts : ℕ → Bytes)
    {accounts : List ((String × String) × ℕ)}
    (complete : ∀ a ∈ accounts, w.kv (.actors a.1.1) ≠ none ∧
      w.kv (.consoleCredentials a.1.1) ≠ none) :
    Prog.run (handle env peers) (seedAuthorities console salts password accounts).run w =
      (.ok (.ok ()), w) := by
  induction accounts with
  | nil => rfl
  | cons head accounts ih =>
    obtain ⟨account, index⟩ := head
    obtain ⟨⟨enrolled, credited⟩, rest⟩ := List.forall_mem_cons.1 complete
    obtain ⟨old, known⟩ := Option.ne_none_iff_exists'.1 enrolled
    obtain ⟨k, set⟩ := Option.ne_none_iff_exists'.1 credited
    rw [seedAuthorities, Prog.run_except_bind, seedAuthority_run,
      withActor_of_some (a := authorityActor account index) known,
      seedCredential_run_of_some env console set]
    exact ih rest

/-! ### The whole of it -/

/-- All accounts that a start-up can seed. -/
def demoIds : List String := demoActor.actorId :: demoAccounts.map (·.1.1)

variable (salts : ℕ → Bytes) (settings : Settings)

/-- A demo password that is asked for is strong, or nobody needs it. -/
def PasswordFits (kv : Kv) : Prop :=
  settings.SeedsConsole → minPasswordLength ≤ settings.demoOperatorPassword.length ∨
    ∀ a ∈ demoAccounts, kv (.consoleCredentials a.1.1) ≠ none

/-- The accounts of the deployment are there, the authorities with credentials; whoever was missing
before is on the roster, and the operator has a binding if it was missing. -/
structure DemoSeeded (before kv : Kv) : Prop where
  operator : settings.appEnv ≠ "test" → kv (.actors demoActor.actorId) ≠ none
  binding : settings.appEnv ≠ "test" → before (.actors demoActor.actorId) = none →
    kv (.deviceBindings demoActor.actorId) ≠ none
  authorities : settings.SeedsConsole → ∀ a ∈ demoAccounts, kv (.actors a.1.1) ≠ none ∧
    kv (.consoleCredentials a.1.1) ≠ none
  listed : ∀ id ∈ demoIds, before (.actors id) = none → kv (.actors id) ≠ none → id ∈ kv.actorIds

variable {console} in
theorem AccountsSeeded.complete {salts : ℕ → Bytes} {accounts : List ((String × String) × ℕ)}
    {w' : World} (h : AccountsSeeded console salts password accounts w w')
    {a : (String × String) × ℕ} (mem : a ∈ accounts) :
    w'.kv (.actors a.1.1) ≠ none ∧ w'.kv (.consoleCredentials a.1.1) ≠ none := by
  refine ⟨by simp [h.actors a mem], ?_⟩
  rcases before : w.kv (.consoleCredentials a.1.1) with _ | k
  · obtain ⟨hash, now, -, stored⟩ := h.credentials a mem before
    simp [stored]
  · simp [h.supplied.credential before]

variable (peers w) in
/-- Seeding completes the accounts, unless one would get a weak password. -/
theorem seedDemo_spec (hashes : console.pbkdf2.Hashes) :
    (∃ w', Prog.run (handle env peers) (seedDemo salts settings console).run w =
        (.ok (.ok ()), w') ∧ Supplied demoIds w.kv w'.kv ∧ w'.config = w.config ∧
      DemoSeeded settings w.kv w'.kv ∧ PasswordFits settings w.kv ∧
      (settings.SeedsConsole → ∃ w₁, AccountsSeeded console salts settings.demoOperatorPassword
        demoAccounts w₁ w' ∧ Supplied [demoActor.actorId] w.kv w₁.kv)) ∨
    (∃ w', Prog.run (handle env peers) (seedDemo salts settings console).run w =
        (.ok (.error weakDemoPassword), w') ∧ Supplied demoIds w.kv w'.kv ∧
      ¬ PasswordFits settings w.kv) := by
  by_cases test : settings.appEnv = "test"
  · have no : ¬ settings.SeedsConsole := fun asks => asks.1 test
    refine .inl ⟨w, ?_, .refl _, rfl, ⟨fun h => absurd test h, fun h => absurd test h,
      fun asks => absurd asks no, fun _ _ absent there => absurd absent there⟩,
      fun asks => absurd asks no, fun asks => absurd asks no⟩
    rw [seedDemo, if_neg (not_not.2 test), if_neg no]
    rfl
  obtain ⟨w₁, ran, supplied, config, ⟨a, enrolled⟩, binding⟩ := seedOperator_supplied env peers w
  have first : Supplied demoIds w.kv w₁.kv := supplied.mono (by decide)
  by_cases asks : settings.SeedsConsole
  swap
  · refine .inl ⟨w₁, ?_, first, config, ⟨fun _ => by simp [enrolled], fun _ absent => ?_,
      fun h => absurd h asks, fun _ _ => first.roster.mem⟩, fun h => absurd h asks,
      fun h => absurd h asks⟩
    · rw [seedDemo, if_pos test, if_neg asks, Prog.run_lift_bind, Prog.run_bind, ran]
      rfl
    · obtain ⟨b, stored⟩ := binding absent
      simp [stored]
  have distinct : (demoAccounts.map (·.1.1)).Nodup := by decide
  have others {a : (String × String) × ℕ} (mem : a ∈ demoAccounts) :
      w₁.kv (.consoleCredentials a.1.1) = w.kv (.consoleCredentials a.1.1) := by
    refine supplied.credentials_of_notMem fun same => ?_
    revert a
    decide
  have fits : (minPasswordLength ≤ settings.demoOperatorPassword.length ∨
      ∀ a ∈ demoAccounts, w₁.kv (.consoleCredentials a.1.1) ≠ none) ↔
      PasswordFits settings w.kv := by
    refine ⟨fun h _ => h.imp_right fun there a mem => others mem ▸ there a mem, fun h =>
      (h asks).imp_right fun there a mem => (others mem).symm ▸ there a mem⟩
  have rest : Prog.run (handle env peers) (seedDemo salts settings console).run w =
      Prog.run (handle env peers) (seedAuthorities console salts settings.demoOperatorPassword
        demoAccounts).run w₁ := by
    rw [seedDemo, if_pos test, if_pos asks, Prog.run_lift_bind, Prog.run_bind, ran]
  rw [rest]
  rcases seedAuthorities_spec env peers w₁ console hashes asks.2 salts distinct with
    ⟨w', ran', seeded, set⟩ | ⟨w', ran', supplied', weak⟩
  · have whole : Supplied demoIds w.kv w'.kv := first.trans (seeded.supplied.mono (by decide))
    refine .inl ⟨w', ran', whole, seeded.config.trans config, ⟨fun _ => ?_, fun _ absent => ?_,
      fun _ a mem => seeded.complete mem, fun _ _ => whole.roster.mem⟩, fits.1 set,
      fun _ => ⟨w₁, seeded, supplied⟩⟩
    · simp [seeded.supplied.actor enrolled]
    · obtain ⟨b, stored⟩ := binding absent
      simp [seeded.supplied.kept _ b nofun (fun _ => by simp [enrolled]) stored]
  · exact .inr ⟨w', ran', first.trans (supplied'.mono (by decide)), mt fits.2 weak⟩

/-- Seeding writes nothing where the accounts are complete. -/
theorem seedDemo_run_of_seeded {before : Kv} (seeded : DemoSeeded settings before w.kv) :
    Prog.run (handle env peers) (seedDemo salts settings console).run w = (.ok (.ok ()), w) := by
  by_cases test : settings.appEnv = "test"
  · rw [seedDemo, if_neg (not_not.2 test), if_neg fun asks => asks.1 test]
    rfl
  obtain ⟨a, enrolled⟩ := Option.ne_none_iff_exists'.1 (seeded.operator test)
  rw [seedDemo, if_pos test, Prog.run_lift_bind, Prog.run_bind, seedOperator_run_of_some enrolled]
  split_ifs with asks
  · exact seedAuthorities_run_of_complete env console salts (seeded.authorities asks)
  · rfl

variable [Unicode] (hmac : String → Hmac) {pbkdf2 : Pbkdf2}

/-- The world once the engine runs the stored configuration. -/
def World.booted (w : World) : World :=
  { w with config := (StoreCall.getPolicyConfig.answer w.kv).getD PolicyConfig.default }

/-- A start-up without a key ends before it touches anything. -/
theorem startUp_run_of_lacksKey (lacks : LacksKey settings) :
    Prog.run (handle env peers) (startUp hmac pbkdf2 salts settings).run w =
      (.ok (.error (.runtime keyMessage)), w) := by
  rw [startUp, (carrierMode_eq_error_iff settings).2 ⟨lacks, rfl⟩]
  rfl

variable (peers w pbkdf2) in
/-- With a carrier it configures the engine and seeds. -/
theorem startUp_run_of_carrier {carrier : CarrierMode} (mode : carrierMode settings = .ok carrier) :
    Prog.run (handle env peers) (startUp hmac pbkdf2 salts settings).run w =
      match Prog.run (handle env peers) (seedDemo salts settings
        (appState settings hmac pbkdf2 carrier).consoleAuth).run w.booted with
      | (.ok (.ok _), w') => (.ok (.ok (appState settings hmac pbkdf2 carrier)), w')
      | (.ok (.error e), w') => (.ok (.error e), w')
      | (.error e, w') => (.error e, w') := by
  have boots : startEngine.run (handle env peers) w = (.ok (), w.booted) := rfl
  rw [startUp, mode]
  dsimp only
  rw [Prog.run_lift_bind, Prog.run_bind, boots]
  dsimp only
  rw [Prog.run_except_bind]
  split <;> simp_all

end Runs

section Restarts

variable [Unicode] (hmac : String → Hmac) {pbkdf2 : Pbkdf2} (hashes : pbkdf2.Hashes)
  (salts : ℕ → Bytes) (settings : Settings) (env : Env)

include hashes in
/-- A start-up succeeds exactly if live evidence comes with a key and nobody gets a weak password.
Whether it does or not, it overwrites nothing but a binding that the operator's name has without an
operator, and adds nothing but demo accounts and their places on the roster; a success leaves those
complete. -/
theorem start_up_supplies (peers : Peers) (w : World) :
    ∃ result w', Prog.run (handle env peers) (startUp hmac pbkdf2 salts settings).run w =
        (.ok result, w') ∧
      ((∃ app, result = .ok app) ↔ ¬ LacksKey settings ∧ PasswordFits settings w.kv) ∧
      Supplied demoIds w.kv w'.kv ∧
      ((∃ app, result = .ok app) → DemoSeeded settings w.kv w'.kv) := by
  rcases mode : carrierMode settings with e | carrier
  · have lacks := ((carrierMode_eq_error_iff settings).1 mode).1
    refine ⟨_, w, startUp_run_of_lacksKey env salts settings hmac lacks, ?_, .refl _, ?_⟩
    · simp [lacks]
    · rintro ⟨app, ⟨⟩⟩
  have key : ¬ LacksKey settings := fun lacks => by
    simp [(carrierMode_eq_error_iff settings).2 ⟨lacks, rfl⟩] at mode
  have ran := startUp_run_of_carrier env peers w salts settings hmac pbkdf2 mode
  rcases seedDemo_spec env peers w.booted
    (appState settings hmac pbkdf2 carrier).consoleAuth salts settings hashes with
    ⟨w', seeds, supplied, -, seeded, fits, -⟩ | ⟨w', fails, supplied, weak⟩
  · rw [seeds] at ran
    exact ⟨_, w', ran, iff_of_true ⟨_, rfl⟩ ⟨key, fits⟩, supplied, fun _ => seeded⟩
  · rw [fails] at ran
    refine ⟨_, w', ran, iff_of_false ?_ fun h => weak h.2, supplied, ?_⟩
    all_goals rintro ⟨app, ⟨⟩⟩

omit [Unicode] in
/-- A call empties no cell but one of a session. -/
theorem handle_ne_none {peers : Peers} (c : Effect) (w : World) {cell : Cell}
    (lasts : ∀ id, cell ≠ .consoleSessions id) (there : w.kv cell ≠ none) :
    (handle env peers c w).2.kv cell ≠ none := by
  cases c with
  | store c => exact c.exec_ne_none lasts there
  | _ => exact there

omit [Unicode] in
/-- A call leaves on the roster whoever was there, and puts there whom it puts on record. -/
theorem handle_listed {peers : Peers} (c : Effect) (w : World) {id : String}
    (listed : w.kv (.actors id) ≠ none → id ∈ w.kv.actorIds)
    (there : (handle env peers c w).2.kv (.actors id) ≠ none) :
    id ∈ (handle env peers c w).2.kv.actorIds := by
  cases c with
  | store c =>
    cases c with
    | saveActor a =>
      change (StoreCall.saveActor a).exec w.kv (.actors id) ≠ none at there
      change id ∈ a.actorId :: w.kv.actorIds.erase a.actorId
      rw [StoreCall.saveActor_actors] at there
      split_ifs at there with same
      · exact List.mem_cons.2 (.inl same)
      · exact List.mem_cons_of_mem _ ((List.mem_erase_of_ne same).2 (listed there))
    | _ => exact listed there
  | _ => exact listed there

omit [Unicode] in
/-- No call of a request takes an account off the record or off the roster. -/
theorem handle_demoSeeded {peers : Peers} {before : Kv} (c : Effect) (w : World)
    (h : DemoSeeded settings before w.kv) :
    DemoSeeded settings before (handle env peers c w).2.kv where
  operator seeds := handle_ne_none env c w nofun (h.operator seeds)
  binding seeds absent := handle_ne_none env c w nofun (h.binding seeds absent)
  authorities asks a mem :=
    (h.authorities asks a mem).imp (handle_ne_none env c w nofun) (handle_ne_none env c w nofun)
  listed id mem absent := handle_listed env c w (h.listed id mem absent)

variable [UnicodeDigits]

include hashes in
/-- Once a start-up has succeeded, and whatever requests are served then, however they overlap, the
next start-up succeeds with the same services and writes nothing. -/
theorem restart_writes_nothing {peers : Peers} {w w' : World} {app : AppState}
    (started : Prog.run (handle env peers) (startUp hmac pbkdf2 salts settings).run w =
      (.ok (.ok app), w'))
    {ι : Type} [DecidableEq ι] (met : ι → Peers) (requests : ι → HttpRequest) (schedule : List ι)
    (again : Peers) :
    let s := ((serving app.authService app.consoleAuth settings requests w').run
      (handleAll env met) schedule).state
    Prog.run (handle env again) (startUp hmac pbkdf2 salts settings).run s =
      (.ok (.ok app), s.booted) := by
  intro s
  obtain ⟨result, w₁, ran, succeeds, -, complete⟩ :=
    start_up_supplies hmac hashes salts settings env peers w
  rw [started] at ran
  obtain ⟨rfl, rfl⟩ : .ok app = result ∧ w' = w₁ := by simpa using ran
  have key := (succeeds.1 ⟨app, rfl⟩).1
  have seeded : DemoSeeded settings w.kv s.kv := by
    refine Pool.trace_induct (P := fun (s : World) _ => DemoSeeded settings w.kv s.kv)
      (complete ⟨app, rfl⟩) ?_ schedule
    exact fun s _ i c h => handle_demoSeeded settings env c s h
  rcases mode : carrierMode settings with e | carrier
  · exact absurd ((carrierMode_eq_error_iff settings).1 mode).1 key
  have same : app = appState settings hmac pbkdf2 carrier := by
    have first := startUp_run_of_carrier env peers w salts settings hmac pbkdf2 mode
    rw [started] at first
    split at first <;> simp_all
  rw [startUp_run_of_carrier env _ _ salts settings hmac _ mode,
    seedDemo_run_of_seeded env _ salts settings (w := s.booted) seeded, same]

end Restarts

/-! ## A deployment with a key -/

namespace Sample

def settings : Settings := { nokiaApiKey := "key" }

/-- The database is new. -/
def blank : World := ⟨Kv.empty, PolicyConfig.default, 0, []⟩

def hmac (secret : String) : Hmac :=
  ⟨fun message => digests (secret ++ message), fun message => digests.ascii (secret ++ message)⟩

def salts (index : ℕ) : Bytes := [index.toUInt8]

def started : Except ServiceError (Except StartupError AppState) × World :=
  Prog.run (handle env peers) (@startUp unicode hmac pbkdf2 salts settings).run blank

def app : AppState := @appState unicode settings hmac pbkdf2 .live

/-- The new operator asks for a release. -/
def demoRelease : TransactionRequest :=
  { hazardous "r" with actorId := "usr_cargo_operator_01", transactionId := "tx_demo" }

end Sample

theorem start_up_supplies_blank :
    (∃ result w', Sample.started = (.ok result, w') ∧ Supplied demoIds Kv.empty w'.kv ∧
      ((∃ app, result = .ok app) → DemoSeeded Sample.settings Kv.empty w'.kv)) ∧
      Sample.started.2.kv.actorIds.length = 5 := by
  obtain ⟨result, w', ran, -, supplied, seeded⟩ := @start_up_supplies Sample.unicode Sample.hmac
    Sample.pbkdf2 Sample.pbkdf2_hashes Sample.salts Sample.settings Sample.env Sample.peers
    Sample.blank
  exact ⟨⟨result, w', ran, supplied, seeded⟩, by decide +kernel⟩

theorem restart_writes_nothing_release :
    let s := ((@serving Sample.unicode Sample.unicodeDigits Unit Sample.app.authService
      Sample.app.consoleAuth Sample.settings (fun _ => .requestAuthorization Sample.demoRelease)
      Sample.started.2).run (handleAll Sample.env fun _ => Sample.peers)
        (List.replicate 40 ())).state
    s.kv.decisionIds = ["dec_000000000000"] ∧
      Prog.run (handle Sample.env Sample.peers) (@startUp Sample.unicode Sample.hmac Sample.pbkdf2
        Sample.salts Sample.settings).run s = (.ok (.ok Sample.app), s.booted) :=
  ⟨by decide +kernel, @restart_writes_nothing Sample.unicode Sample.hmac Sample.pbkdf2
    Sample.pbkdf2_hashes Sample.salts Sample.settings Sample.env Sample.unicodeDigits Sample.peers
    Sample.blank Sample.started.2 Sample.app rfl Unit _ (fun _ => Sample.peers)
    (fun _ => .requestAuthorization Sample.demoRelease) (List.replicate 40 ()) Sample.peers⟩

end ZoneGate
