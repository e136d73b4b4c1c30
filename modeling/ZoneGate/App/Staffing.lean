import ZoneGate.Api.References
import ZoneGate.App.Startup

/-!
# Who settles the holds of a fresh deployment

A start-up on a fresh database seeds one console account for each authority that the default policy
escalates holds to.  As long as nobody changes the accounts or the policy, whatever is held for a
person can be settled by signing in to one of them.
-/

namespace ZoneGate

open Py Effects

/-! ## The authorities of the default policy -/

/-- The default policy escalates every hold to an authority that has a demo account. -/
theorem escalates_default {authority : Option String} (h : Escalates PolicyConfig.default authority) :
    ∃ account ∈ demoAuthorities, authority = some account.2 := by
  rcases h with rfl | ⟨category, a, found, rfl⟩
  · exact ⟨("usr_security_officer_01", "ROLE_SECURITY_OFFICER"), by decide, rfl⟩
  · have mem := Dict.mem_of_lookup found
    have all : ∀ e ∈ PolicyConfig.default.restrictedCategories,
        ∃ account ∈ demoAuthorities, e.2 = account.2 := by decide
    obtain ⟨account, there, same⟩ := all _ mem
    exact ⟨account, there, congrArg some same⟩

section Roles

variable [Unicode]

theorem normalizeRole_demo {account : String × String} (mem : account ∈ demoAuthorities) :
    normalizeRole (some account.2) = removePrefix "ROLE_" account.2 := by
  have stripped : ∀ account ∈ demoAuthorities, strip account.2 = account.2 := by decide
  have upper : ∀ c ∈ account.2.toList, c.val < 0x80 ∧ c.toUpper = c := by
    simp only [demoAuthorities, List.mem_cons, List.not_mem_nil, or_false] at mem
    rcases mem with rfl | rfl | rfl | rfl <;> simp
  rw [normalizeRole, Option.getD_some, stripped account mem, upper_eq_self upper]

/-- The demo accounts work on the console. -/
theorem isFieldRole_demo {account : String × String} (mem : account ∈ demoAuthorities) :
    isFieldRole (some account.2) = false := by
  have office : ∀ account ∈ demoAuthorities, removePrefix "ROLE_" account.2 ∉ fieldRoles := by decide
  rw [isFieldRole, normalizeRole_demo mem]
  simpa using office account mem

theorem holdsAuthority_self {role : String} (named : role ≠ "") :
    holdsAuthority (some role) (some role) = true := by
  simp [holdsAuthority, named]

end Roles

/-! ## Requests that leave the accounts alone -/

/-- The endpoints that change accounts or the policy. -/
def HttpRequest.Administers : HttpRequest → Prop
  | .changePassword _ _ _ | .enrollActor _ _ _ | .updatePermissions _ _ _ | .updateConfig _ _ => True
  | _ => False

/-- The hold goes to somebody who has a demo account. -/
def HandedToDemo (d : PolicyDecision) : Prop :=
  d.decision = .hold → ∃ account ∈ demoAuthorities, d.requiredAuthority = some account.2

/-- Everybody who holds a demo account is on the roster, with the demo password, the default policy
is in force, and each hold goes to one of them. -/
structure Staffed (console : ConsoleAuthService) (salts : ℕ → Bytes) (password : String)
    (w : World) : Prop where
  actors : ∀ a ∈ demoAccounts, w.kv (.actors a.1.1) = some (authorityActor a.1 a.2)
  passwords : ∀ a ∈ demoAccounts, HoldsPassword console w.kv a.1.1 (salts a.2) password
  config : w.config = PolicyConfig.default
  handed : ∀ id d, w.kv (.decisions id) = some d → HandedToDemo d

theorem HandedToDemo.of_core {d d' : PolicyDecision} (h : HandedToDemo d) (same : d.core = d'.core) :
    HandedToDemo d' := by
  have outcome : d.core.decision = d'.core.decision := by rw [same]
  have authority : d.core.requiredAuthority = d'.core.requiredAuthority := by rw [same]
  intro held
  obtain ⟨account, mem, named⟩ := h (outcome.trans held)
  exact ⟨account, mem, authority.symm.trans named⟩

section Steps

variable [Unicode] {ι : Type} [DecidableEq ι] {env : Env} {met : ι → Peers}
  {console : ConsoleAuthService} {salts : ℕ → Bytes} {password : String}

omit [Unicode] in
/-- What a request saves on the strength of what it has read goes to a demo account, if that did. -/
theorem handedToDemo_of_justified {svc : AuthorizationService}
    {asked : TransactionRequest → Prop} {trace : HttpTrace ι} {i : ι}
    (answered : AnsweredBy env met trace)
    (staffed : ∀ e ∈ trace, Staffed console salts password e.state) {d : PolicyDecision}
    (justified : Justified svc asked (history i trace) (.store (.saveDecision d))) : HandedToDemo d := by
  rcases justified with new | ⟨-, id, held, mem, same⟩
  · intro held
    obtain ⟨config, mem, escalates⟩ := new.escalates held
    obtain ⟨e, there, -, answer⟩ := mem_history.1 mem
    have read : e.state.config = config :=
      Except.ok.inj (Event.reply_of_answered (answered e there) answer)
    rw [← read, (staffed e there).config] at escalates
    exact escalates_default escalates
  · obtain ⟨e, there, -, answer⟩ := mem_history.1 mem
    have found : e.state.kv (.decisions id) = some held :=
      Except.ok.inj (Event.reply_of_answered (answered e there) answer)
    exact ((staffed e there).handed id held found).of_core same

/-- A call of a request that administers nothing leaves the deployment staffed. -/
theorem Staffed.call {w : World} {request : HttpRequest} (leaves : ¬ request.Administers)
    {past : List (Handled Services)} {peers : Peers} {c : Effect} (gated : request.Gated past c)
    (h : Staffed console salts password w)
    (handed : ∀ d, c = .store (.saveDecision d) → HandedToDemo d) :
    Staffed console salts password (handle env peers c w).2 := by
  have unprotected (protects : c.Protected) : ∃ d, c = .store (.saveDecision d) := by
    obtain ⟨who, -, entitled⟩ := gated protects
    cases request with
    | changePassword | enrollActor | updatePermissions | updateConfig => exact absurd trivial leaves
    | resolveHold =>
      cases c with
      | store c =>
        cases c with
        | saveDecision d => exact ⟨d, rfl⟩
        | _ => exact entitled.elim
      | _ => exact entitled.elim
    | _ => exact entitled.elim
  cases c with
  | store c =>
    cases c with
    | saveActor | saveDeviceBinding | saveCredential | savePolicyConfig =>
      obtain ⟨d, ⟨⟩⟩ := unprotected trivial
    | saveDecision d =>
      refine ⟨h.actors, h.passwords, h.config, fun id d' stored => ?_⟩
      rcases ite_eq_iff.1 ((StoreCall.saveDecision_decisions w.kv d id).symm.trans stored) with
        ⟨-, eq⟩ | ⟨-, old⟩
      · cases eq
        exact handed d rfl
      · exact h.handed id d' old
    | _ => exact ⟨h.actors, h.passwords, h.config, h.handed⟩
  | setEngineConfig => obtain ⟨d, ⟨⟩⟩ := unprotected trivial
  | _ => exact ⟨h.actors, h.passwords, h.config, h.handed⟩

variable [UnicodeDigits] (svc : AuthorizationService) (settings : Settings)

/-- A staffed deployment stays staffed while requests are served that administer nothing. -/
theorem Staffed.serving {w : World} (h : Staffed console salts password w)
    {requests : ι → HttpRequest} (leave : ∀ i, ¬ (requests i).Administers) (schedule : List ι) :
    Staffed console salts password
      ((serving svc console settings requests w).run (handleAll env met) schedule).state := by
  have start : (ZoneGate.serving svc console settings requests w).AllUphold
      (fun i past c => (requests i).Gated past c ∧ Justified svc (requests i).AsksFor past c)
      (fun _ _ _ => True ∧ True) [] := fun i =>
    ((requests i).program_gated console svc settings).and
      ((requests i).program_justified svc console settings)
  refine ((start.induct (h := handleAll env met) (P := fun s trace =>
    AnsweredBy env met trace ∧ (∀ e ∈ trace, Staffed console salts password e.state) ∧
      Staffed console salts password s) ?_ ?_ schedule).2).2.2
  · exact ⟨fun e mem => (by cases mem), fun e mem => (by cases mem), h⟩
  · rintro s trace i c ⟨gated, justified⟩ ⟨answered, earlier, here⟩
    refine ⟨fun e mem => ?_, fun e mem => ?_, ?_⟩
    · rcases List.mem_append.1 mem with before | last
      · exact answered e before
      · obtain rfl := List.mem_singleton.1 last
        rfl
    · rcases List.mem_append.1 mem with before | last
      · exact earlier e before
      · obtain rfl := List.mem_singleton.1 last
        exact here
    · refine here.call (leave i) gated ?_
      rintro d rfl
      exact handedToDemo_of_justified answered earlier justified

end Steps

/-! ## The start-up of a fresh deployment -/

section Start

variable (console : ConsoleAuthService)

theorem seedCredential_ofConsole (salt : Bytes) (actorId password : String) :
    Prog.CallsOnly OfConsole (seedCredential console salt actorId password).run := by
  simp only [seedCredential, Prog.run_lift_bind, Prog.perform_eq, Prog.call_bind, Prog.ret_bind]
  refine ⟨.inr trivial, fun found => ?_⟩
  rcases found with _ | k
  swap
  · trivial
  dsimp only
  rw [Prog.run_lift_bind]
  refine .bind ?_ fun result => ?_
  · by_cases weak : password.length < minPasswordLength
    · rw [console.setPassword_weak weak]
      trivial
    rcases hashed : hashPassword console.pbkdf2 salt password with e | hash
    · rw [console.setPassword_unhashed weak hashed]
      trivial
    · rw [console.setPassword_strong weak hashed]
      exact ⟨.inl trivial, fun now => ⟨trivial, fun _ => trivial⟩⟩
  · cases result <;> trivial

theorem seedAuthorities_ofConsole (salts : ℕ → Bytes) (password : String)
    (accounts : List ((String × String) × ℕ)) :
    Prog.CallsOnly OfConsole (seedAuthorities console salts password accounts).run := by
  induction accounts with
  | nil => trivial
  | cons head accounts ih =>
    obtain ⟨account, index⟩ := head
    refine .except_bind ?_ fun _ => ih
    simp only [seedAuthority, Prog.run_lift_bind, Prog.perform_eq, Prog.call_bind, Prog.ret_bind]
    refine ⟨.inl trivial, fun found => ?_⟩
    rcases found with _ | actor
    · exact ⟨trivial, fun _ => seedCredential_ofConsole console ..⟩
    · exact seedCredential_ofConsole console ..

theorem seedDemo_ofConsole (salts : ℕ → Bytes) (settings : Settings) :
    Prog.CallsOnly OfConsole (seedDemo salts settings console).run := by
  have operator : Prog.CallsOnly OfConsole seedOperator := by
    refine ⟨.inl trivial, fun found => ?_⟩
    rcases found with _ | a
    · exact ⟨.inl trivial, fun _ => ⟨trivial, fun _ => ⟨trivial, fun _ => trivial⟩⟩⟩
    · trivial
  have lifted : Prog.CallsOnly OfConsole ((seedOperator : Service Unit) : Startup Unit).run :=
    .bind operator fun _ => trivial
  rw [seedDemo]
  split_ifs
  · exact .except_bind lifted fun _ => seedAuthorities_ofConsole console ..
  · exact .except_bind lifted fun _ => trivial
  · exact seedAuthorities_ofConsole console ..
  · trivial

/-- Seeding keeps the references of the store sound. -/
theorem seedDemo_consistent (env : Env) (peers : Peers) {w : World} (salts : ℕ → Bytes)
    (settings : Settings) (consistent : w.kv.Consistent) :
    (Prog.run (handle env peers) (seedDemo salts settings console).run w).2.kv.Consistent := by
  refine (seedDemo_ofConsole console salts settings).run_keeps (h := handle env peers)
    (P := fun s : World => s.kv.Consistent) (fun c s hc here => ?_) consistent
  cases c with
  | store c =>
    refine StoreCall.exec_consistent here ?_
    cases c <;> first | trivial | exact hc.elim False.elim False.elim
  | _ => exact here

variable [Unicode] (hmac : String → Hmac) {pbkdf2 : Pbkdf2} (hashes : pbkdf2.Hashes)
  (salts : ℕ → Bytes) {settings : Settings} (env : Env)

include hashes in
/-- A start-up with a key and a strong password staffs a fresh deployment. -/
theorem startUp_staffs (key : ¬ LacksKey settings) (seeds : settings.SeedsConsole)
    (strong : minPasswordLength ≤ settings.demoOperatorPassword.length) (peers : Peers) {w : World}
    (fresh : w.kv = Kv.empty) :
    ∃ carrier w', Prog.run (handle env peers) (startUp hmac pbkdf2 salts settings).run w =
        (.ok (.ok (appState settings hmac pbkdf2 carrier)), w') ∧ w'.kv.Consistent ∧
      Staffed (appState settings hmac pbkdf2 carrier).consoleAuth salts
        settings.demoOperatorPassword w' := by
  rcases mode : carrierMode settings with e | carrier
  · exact absurd ((carrierMode_eq_error_iff settings).1 mode).1 key
  let console := (appState settings hmac pbkdf2 carrier).consoleAuth
  have ran := startUp_run_of_carrier env peers w salts settings hmac pbkdf2 mode
  have consistent := seedDemo_consistent console env peers (w := w.booted) salts
    settings (by rw [show w.booted.kv = Kv.empty from fresh]; exact Kv.consistent_empty)
  rcases seedDemo_spec env peers w.booted console salts settings hashes with
    ⟨w', seeded, supplied, config, -, -, accounts⟩ | ⟨w', -, -, weak⟩
  swap
  · exact absurd (fun _ => .inl strong) weak
  rw [seeded] at ran consistent
  obtain ⟨w₁, accounts, operator⟩ := accounts seeds
  have others {a : (String × String) × ℕ} (mem : a ∈ demoAccounts) :
      a.1.1 ∉ [demoActor.actorId] := by
    revert a
    decide
  have absent (c : Cell) : w.booted.kv c = none := by
    rw [show w.booted.kv = Kv.empty from fresh]
    rfl
  refine ⟨carrier, w', ran, consistent, fun a mem => ?_, fun a mem => ?_, ?_, fun id d stored => ?_⟩
  · rw [accounts.actors a mem, operator.actors_of_notMem (others mem), absent]
    rfl
  · refine accounts.credentials a mem ?_
    rw [operator.credentials_of_notMem (others mem), absent]
  · rw [config]
    change ((w.booted.kv .policyConfig).bind PolicyText.parse).getD PolicyConfig.default = _
    rw [absent]
    rfl
  · rcases supplied.added (.decisions id) (absent _) (by simp [stored]) with
      same | same | ⟨id, -, same | same⟩ <;> cases same

end Start

/-! ## Signing in and settling a hold -/

section Settling

variable [Unicode] [UnicodeDigits] {console : ConsoleAuthService} {salts : ℕ → Bytes}
  {password : String} {env : Env} {peers : Peers} {w : World} (settings : Settings)

variable (env peers) in
/-- A demo account is signed in with the demo password. -/
theorem Staffed.login_run (h : Staffed console salts password w) (hashes : console.pbkdf2.Hashes)
    {account : String × String} (mem : account ∈ demoAuthorities) (sessionId : String)
    {data : LoginRequest} (named : strip data.actorId = account.1)
    (given : data.password = password) :
    ∃ actor, w.kv (.actors account.1) = some actor ∧ actor.actorId = account.1 ∧
      actor.role = account.2 ∧
      Prog.run (handle env peers) (AuthController.login console settings sessionId data).run w =
        (.ok (.ok ⟨some ⟨actor⟩, 200,
          [sessionCookie sessionId settings (some (console.sessionTtlHours * 3600))]⟩),
          w.tick.after (.saveConsoleSession
            (console.opened sessionId account.1 (env.clock w.readings)))) := by
  obtain ⟨index, there⟩ : ∃ index, (account, index) ∈ demoAccounts := by
    obtain ⟨n, found⟩ := List.mem_iff_getElem?.1 mem
    exact ⟨2 + n, List.mk_add_mem_zipIdx_iff_getElem?.2 found⟩
  have enrolled := h.actors _ there
  obtain ⟨hash, now, hashed, stored⟩ := h.passwords _ there
  have verified : verifyPassword console.pbkdf2 data.password hash = .ok true :=
    (verifyPassword_hashPassword hashes hashed data.password).2 (by rw [given])
  have admitted : ConsoleAuthService.refusal account.1 (authorityActor account index) = none :=
    ConsoleAuthService.refusal_eq_none_iff.2 ⟨rfl, isFieldRole_demo mem⟩
  refine ⟨_, enrolled, rfl, rfl, ?_⟩
  rw [AuthController.login, Prog.run_lift_bind, Prog.run_bind, named]
  rcases signIn_run console env peers w sessionId account.1
    data.password with ⟨actor, ran, -, found, -⟩ | ⟨-, refused⟩
  · obtain rfl := Option.some.inj (enrolled.symm.trans found)
    rw [ran]
    rfl
  · exact absurd admitted (refused _ _ enrolled stored verified)

variable (peers) in
omit [UnicodeDigits] in
/-- Somebody who is signed in and holds the authority settles a hold, if its transaction is on
record. -/
theorem resolveHold_settles (svc : AuthorizationService) {cookie : Option String} {who : Actor}
    (signedIn : SignedIn env w cookie who) {id : String} {d : PolicyDecision}
    (stored : w.kv (.decisions id) = some d) {data : HoldResolutionRequest}
    (eligible : AuthorizationService.ineligible id d data.outcome (some who.role) = none)
    (filed : w.kv (.transactions d.transactionId) ≠ none) :
    ∃ response w', Prog.run (handle env peers)
        (AuthorizationController.resolveHold svc cookie id data).run w = (.ok (.ok response), w') ∧
      w'.kv (.decisions d.decisionId) = some (AuthorizationService.resolve d data.outcome
        who.actorId data.note (env.clock w.tick.readings)) := by
  have settles : ∃ receipt w', (svc.settleHold d data.outcome who.actorId data.note).run
      (handle env peers) w.tick = (.ok (AuthorizationService.resolve d data.outcome who.actorId
        data.note (env.clock w.tick.readings), receipt), w') ∧
      w'.kv (.decisions d.decisionId) = some (AuthorizationService.resolve d data.outcome
        who.actorId data.note (env.clock w.tick.readings)) := by
    have saved := (StoreCall.saveDecision_decisions w.tick.kv (AuthorizationService.resolve d
      data.outcome who.actorId data.note (env.clock w.tick.readings)) d.decisionId).trans
      (if_pos rfl)
    obtain ⟨tx, found⟩ := Option.ne_none_iff_exists'.1 filed
    rw [AuthorizationService.settleHold_run]
    dsimp only
    split_ifs with approves
    · rw [AuthorizationService.issueForHold_run, AuthorizationService.transactions_saveDecision,
        World.kv_tick, World.kv_tick, found]
      exact ⟨_, _, rfl, saved⟩
    · exact ⟨_, _, rfl, saved⟩
  obtain ⟨receipt, w', ran, resolved⟩ := settles
  have onTick : w.tick.kv (.decisions id) = some d := stored
  have caught : Prog.run (handle env peers) ((svc.resolveHold id data.outcome who.actorId data.note
      (some who.role)).catching AuthorizationController.resolutionError) w.tick =
        (.ok (.ok (AuthorizationService.resolve d data.outcome who.actorId data.note
          (env.clock w.tick.readings), receipt)), w') := by
    rw [Prog.run_catching (handle_ok env peers), AuthorizationService.resolveHold_run, onTick]
    dsimp only
    rw [eligible]
    dsimp only
    rw [ran]
    rfl
  refine ⟨⟨AuthorizationService.resolve d data.outcome who.actorId data.note
    (env.clock w.tick.readings), receipt⟩, w', ?_, resolved⟩
  rw [AuthorizationController.resolveHold, Prog.run_except_bind, requireConsoleActor_run signedIn]
  dsimp only
  rw [Prog.run_except_bind, ExceptT.run_mk, caught]
  rfl

end Settling

/-! ## The whole story -/

section Story

variable [Unicode] [UnicodeDigits]

/-- The actor signs in with the demo password, and then resolves the hold either way, unless the
clock passes the end of the session in between. -/
def CanSettle (app : AppState) (settings : Settings) (env : Env) (s : World) (d : PolicyDecision)
    (actorId : String) : Prop :=
  ∀ (later : Peers) (sessionId : String) (login : LoginRequest) (data : HoldResolutionRequest),
    sessionId ≠ "" → strip login.actorId = actorId →
    login.password = settings.demoOperatorPassword → data.outcome ≠ .hold →
    env.clock (s.readings + 1) < addHours (env.clock s.readings) settings.sessionTtlHours →
    ∃ signedIn s₁ response s₂,
      Prog.run (handle env later)
        (AuthController.login app.consoleAuth settings sessionId login).run s =
          (.ok (.ok signedIn), s₁) ∧
      Prog.run (handle env later) (AuthorizationController.resolveHold app.authService
        (some sessionId) d.decisionId data).run s₁ = (.ok (.ok response), s₂) ∧
      s₂.kv (.decisions d.decisionId) = some (AuthorizationService.resolve d data.outcome actorId
        data.note (env.clock (s.readings + 2)))

/-- On a fresh database that was started with a carrier key and a strong demo password, and after
any requests that overlap but change neither the accounts nor the policy, every hold that waits for
a person can be settled by one of the demo accounts. -/
theorem demo_accounts_settle_holds (hmac : String → Hmac) {pbkdf2 : Pbkdf2}
    (hashes : pbkdf2.Hashes) (salts : ℕ → Bytes) {settings : Settings} (key : ¬ LacksKey settings)
    (seeds : settings.SeedsConsole)
    (strong : minPasswordLength ≤ settings.demoOperatorPassword.length) (env : Env) (peers : Peers)
    {w : World} (fresh : w.kv = Kv.empty) :
    ∃ app w', Prog.run (handle env peers) (startUp hmac pbkdf2 salts settings).run w =
        (.ok (.ok app), w') ∧
      ∀ {ι : Type} [DecidableEq ι] (met : ι → Peers) (requests : ι → HttpRequest) (schedule : List ι),
        (∀ i, ¬ (requests i).Administers) →
        NewIds ((serving app.authService app.consoleAuth settings requests w').trace
          (handleAll env met) schedule) →
        let s := ((serving app.authService app.consoleAuth settings requests w').run
          (handleAll env met) schedule).state
        ∀ id d, s.kv (.decisions id) = some d → d.decision = .hold → d.resolution = none →
          d.decisionId = id ∧ ∃ account ∈ demoAuthorities, d.requiredAuthority = some account.2 ∧
            CanSettle app settings env s d account.1 := by
  obtain ⟨carrier, w', started, consistent, staffed⟩ :=
    startUp_staffs hmac hashes salts env key seeds strong peers fresh
  refine ⟨_, w', started, ?_⟩
  intro ι _ met requests schedule leave newIds s id d stored held open_
  set app := appState settings hmac pbkdf2 carrier with happ
  have staffed : Staffed app.consoleAuth salts settings.demoOperatorPassword s :=
    staffed.serving app.authService settings leave schedule
  have sound : s.kv.Consistent := (references_sound app.authService app.consoleAuth settings env met
    requests consistent schedule newIds).1
  obtain ⟨account, mem, authority⟩ := staffed.handed id d stored held
  have ids : d.decisionId = id := sound.keyed (.decisions id) d stored
  have stored : s.kv (.decisions d.decisionId) = some d := by rw [ids, stored]
  refine ⟨ids, account, mem, authority, ?_⟩
  intro later sessionId login data present named given decides prompt
  obtain ⟨who, enrolled, itself, role, ran⟩ := staffed.login_run env later
    settings hashes mem sessionId named given
  set s₁ := s.tick.after (.saveConsoleSession
    (app.consoleAuth.opened sessionId account.1 (env.clock s.readings))) with hs₁
  have signedIn : SignedIn env s₁ (some sessionId) who := by
    refine ⟨sessionId, app.consoleAuth.opened sessionId account.1 (env.clock s.readings), rfl,
      present, ?_, prompt, enrolled, ?_⟩
    · exact (StoreCall.saveConsoleSession_consoleSessions ..).trans (if_pos rfl)
    · rw [role]
      exact isFieldRole_demo mem
  have eligible : AuthorizationService.ineligible d.decisionId d data.outcome (some who.role) =
      none := by
    refine AuthorizationService.ineligible_eq_none.2 ⟨held, open_, ?_, decides⟩
    rintro _ ⟨⟩
    rw [role, authority]
    have names : ∀ account ∈ demoAuthorities, account.2 ≠ "" := by decide
    exact holdsAuthority_self (names account mem)
  obtain ⟨response, s₂, resolves, resolved⟩ := resolveHold_settles later
    app.authService signedIn stored eligible
    (sound.filed d.decisionId d stored)
  refine ⟨_, s₁, response, s₂, ran, resolves, ?_⟩
  rw [itself] at resolved
  exact resolved

end Story

/-! ## A release that is held on the first day -/

namespace Sample

/-- The new operator asks for a hazardous release. -/
def firstDay : HttpRequests Unit :=
  @serving unicode unicodeDigits Unit app.authService app.consoleAuth settings
    (fun _ => .requestAuthorization demoRelease) started.2

theorem firstDay_fresh :
    NewIds (firstDay.trace (handleAll env fun _ => peers) (List.replicate 40 ())) :=
  newIds_of_takesNew (by decide +kernel)

end Sample

theorem demo_accounts_settle_holds_firstDay :
    let s := (Sample.firstDay.run (handleAll Sample.env fun _ => Sample.peers)
      (List.replicate 40 ())).state
    ∃ d, s.kv (.decisions "dec_000000000000") = some d ∧
      ∃ account ∈ demoAuthorities, d.requiredAuthority = some account.2 ∧
        @CanSettle Sample.unicode Sample.unicodeDigits Sample.app Sample.settings Sample.env s d
          account.1 := by
  intro s
  have held : ∃ d, s.kv (.decisions "dec_000000000000") = some d ∧ d.decision = .hold ∧
      d.resolution = none := ⟨_, rfl, rfl, rfl⟩
  obtain ⟨d, stored, held, waits⟩ := held
  obtain ⟨app, w', ran, settles⟩ := @demo_accounts_settle_holds Sample.unicode Sample.unicodeDigits
    Sample.hmac Sample.pbkdf2 Sample.pbkdf2_hashes Sample.salts Sample.settings (by decide)
    (by decide) (by decide) Sample.env Sample.peers Sample.blank rfl
  have started : Sample.started = (.ok (.ok Sample.app), Sample.started.2) := rfl
  obtain ⟨rfl, rfl⟩ : Sample.app = app ∧ Sample.started.2 = w' := by
    have same := started.symm.trans ran
    simpa using same
  exact ⟨d, stored, (settles (fun _ => Sample.peers) (fun _ => .requestAuthorization
    Sample.demoRelease) (List.replicate 40 ()) (fun _ => id) Sample.firstDay_fresh
    "dec_000000000000" d stored held waits).2⟩

end ZoneGate
