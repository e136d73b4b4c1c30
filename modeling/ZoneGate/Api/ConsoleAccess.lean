import ZoneGate.Api.Enrolment
import ZoneGate.Authorization.Sessions
import ZoneGate.Library.Monitor

/-!
# Whom a session stands for

A sign-in asks for an actor on the roster whose enrolment is active and whose role is not of the
field.  A lookup of the session asks for the roster and for the role, and not for the enrolment: a
session outlives the suspension of its actor.
-/

namespace ZoneGate

open Py Effects

/-! ## Steps of a deployment -/

/-- A call of the console service or an enrolment at the store, as the start-up makes it; a request
to the roster; or nothing, while time passes. -/
inductive ConsoleStep
  | call (c : ConsoleCall)
  | enroll (salt : Bytes) (cookie : Option String) (data : EnrollmentRequest)
  | updatePermissions (cookie : Option String) (actorId : String) (data : PermissionUpdateRequest)
  | wait

section Steps

variable [Unicode] [UnicodeDigits]

def ConsoleStep.program (console : ConsoleAuthService) : ConsoleStep → Service Unit
  | call c => do
      let _ ← c.program console
      return ()
  | enroll salt cookie data => do
      let _ ← (ActorsController.enrollActor console salt cookie data).run
      return ()
  | updatePermissions cookie actorId data => do
      let _ ← (ActorsController.updatePermissions cookie actorId data).run
      return ()
  | wait => do
      let _ ← utcnow
      return ()

/-- The world after a step. -/
def World.afterStep (console : ConsoleAuthService) (env : Env) (peers : Peers) (w : World)
    (step : ConsoleStep) : World :=
  (Prog.run (handle env peers) (step.program console) w).2

/-- The world after steps, one after the other. -/
def World.afterSteps (console : ConsoleAuthService) (env : Env) (peers : Peers) (w : World)
    (steps : List ConsoleStep) : World :=
  steps.foldl (World.afterStep console env peers) w

end Steps

section Access

variable [Unicode]

/-- What a sign-in asks of the record of an actor. -/
structure MaySignIn (kv : Kv) (actor : Actor) : Prop where
  enrolled : kv (.actors actor.actorId) = some actor
  active : actor.enrollmentStatus = "ACTIVE"
  office : isFieldRole actor.role = false

/-- Every actor that a lookup returns may sign in. -/
def OnlyEligible (env : Env) (peers : Peers) (w : World) : Prop :=
  ∀ cookie actor, (Prog.run (handle env peers) (ConsoleAuthService.resolve cookie) w).1 =
    .ok (some actor) → MaySignIn w.kv actor

/-- A session of the actor stands when the clock has been read so often. -/
def HasSession (env : Env) (kv : Kv) (readings : ℕ) (actorId : String) : Prop :=
  ∃ id session, id ≠ "" ∧ kv (.consoleSessions id) = some session ∧ session.actorId = actorId ∧
    env.clock readings < session.expiresAt

/-- The step enrols the actor: directly, or by a request of somebody who is signed in. -/
def ConsoleStep.Enrols (env : Env) (w : World) : ConsoleStep → Actor → Prop
  | .call (.saveActor a), actor => a = actor
  | .enroll _ cookie data, actor =>
      data.actor = actor ∧ ∃ authority, SignedIn env w cookie authority
  | _, _ => False

theorem ConsoleStep.Enrols.unique {env : Env} {w : World} {step : ConsoleStep} {a b : Actor}
    (ha : step.Enrols env w a) (hb : step.Enrols env w b) : a = b := by
  cases step with
  | call c =>
    cases c with
    | saveActor actor => exact Eq.trans (Eq.symm ha) hb
    | _ => exact ha.elim
  | enroll salt cookie data => exact ha.1.symm.trans hb.1
  | _ => exact ha.elim

/-- The lookups return whoever is signed in. -/
theorem onlyEligible_iff {env : Env} {peers : Peers} {w : World} (keyed : w.kv.Keyed) :
    OnlyEligible env peers w ↔
      ∀ cookie actor, SignedIn env w cookie actor → actor.enrollmentStatus = "ACTIVE" := by
  have returns (cookie : Option String) (actor : Actor) :
      (Prog.run (handle env peers) (ConsoleAuthService.resolve cookie) w).1 = .ok (some actor) ↔
        SignedIn env w cookie actor := by
    obtain ⟨found, w', ran, -, finds, -⟩ := resolve_run env peers w cookie
    rw [ran, ← finds actor]
    simp
  constructor
  · intro only cookie actor signedIn
    exact (only cookie actor ((returns cookie actor).2 signedIn)).active
  · intro active cookie actor returned
    have signedIn := (returns cookie actor).1 returned
    obtain ⟨id, session, -, -, -, -, stored, office⟩ := id signedIn
    have named : actor.actorId = session.actorId := keyed (.actors session.actorId) actor stored
    exact ⟨by rw [named, stored], active cookie actor signedIn, office⟩

/-! ## What a step leaves -/

/-- The roster is the same, and there is no new session. -/
structure NothingNew (kv kv' : Kv) : Prop where
  actors : ∀ id, kv' (.actors id) = kv (.actors id)
  sessions : ∀ id session, kv' (.consoleSessions id) = some session →
    kv (.consoleSessions id) = some session

/-- The actor is on the roster, and nothing else is new. -/
structure NewlyEnrolled (kv kv' : Kv) (actor : Actor) : Prop where
  actors : ∀ id, kv' (.actors id) = if id = actor.actorId then some actor else kv (.actors id)
  sessions : ∀ id, kv' (.consoleSessions id) = kv (.consoleSessions id)

omit [Unicode] in
theorem NothingNew.refl (kv : Kv) : NothingNew kv kv := ⟨fun _ => rfl, fun _ _ h => h⟩

omit [Unicode] in
theorem NothingNew.deleteConsoleSession (kv : Kv) (id : String) :
    NothingNew kv ((StoreCall.deleteConsoleSession id).exec kv) := by
  refine ⟨fun _ => rfl, fun id' session stored => ?_⟩
  rw [StoreCall.deleteConsoleSession_consoleSessions] at stored
  split_ifs at stored
  exact stored

omit [Unicode] in
theorem LookedUp.nothingNew {w w' : World} (h : LookedUp w w') : NothingNew w.kv w'.kv := by
  rcases h.contents with same | ⟨id, same⟩
  · rw [same]
    exact .refl w.kv
  · rw [same]
    exact .deleteConsoleSession w.kv id

omit [Unicode] in
theorem NewlyEnrolled.saveActor (kv : Kv) (actor : Actor) :
    NewlyEnrolled kv ((StoreCall.saveActor actor).exec kv) actor :=
  ⟨StoreCall.saveActor_actors kv actor, fun _ => rfl⟩

variable (env : Env) (peers : Peers) (console : ConsoleAuthService) {w : World}

omit [Unicode] in
/-- What becomes of the answer of a program does not change what it leaves. -/
theorem run_answer (w : World) {α β : Type} (p : Service α) (f : α → β) :
    (Prog.run (handle env peers) (p >>= fun a => pure (f a)) w).2 =
      (Prog.run (handle env peers) p w).2 := by
  rw [Prog.run_bind]
  rcases Prog.run (handle env peers) p w with ⟨e | a, w'⟩ <;> rfl

variable [UnicodeDigits]

omit [UnicodeDigits] in
theorem enroll_leaves (w : World) (salt : Bytes) (cookie : Option String) (data : EnrollmentRequest) :
    let w' := (Prog.run (handle env peers)
      (ActorsController.enrollActor console salt cookie data).run w).2
    (∃ authority, SignedIn env w cookie authority) ∧ NewlyEnrolled w.kv w'.kv data.actor ∨
      (∀ authority, ¬ SignedIn env w cookie authority) ∧ NothingNew w.kv w'.kv := by
  by_cases someone : ∃ authority, SignedIn env w cookie authority
  swap
  · obtain ⟨w', refused, looked⟩ :=
      requireConsoleActor_run_refused peers (not_exists.1 someone)
    rw [ActorsController.enrollActor, Prog.run_except_bind, refused]
    exact .inr ⟨not_exists.1 someone, looked.nothingNew⟩
  obtain ⟨authority, signedIn⟩ := someone
  refine .inl ⟨⟨authority, signedIn⟩, ?_⟩
  have saved : NewlyEnrolled w.kv (ActorsController.enrolled w.tick.tick data.actor
      (ActorsController.bindingAt env w data)).kv data.actor :=
    ⟨StoreCall.saveActor_actors w.kv data.actor, fun _ => rfl⟩
  rw [ActorsController.enrollActor_run signedIn]
  rcases data.password.filter (· ≠ "") with _ | password
  · exact saved
  have keeps := @ActorsController.initialPassword_keeps env peers console salt data.actor.actorId
    password (ActorsController.enrolled w.tick.tick data.actor
      (ActorsController.bindingAt env w data))
  dsimp only
  generalize Prog.run (handle env peers)
    (ActorsController.initialPassword console salt data.actor.actorId password).run _ = result
      at keeps ⊢
  have both : NewlyEnrolled w.kv result.2.kv data.actor := by
    rcases keeps with same | ⟨credential, same⟩
    · rwa [same]
    · rw [same]
      exact ⟨saved.actors, saved.sessions⟩
  obtain ⟨e | (e | ⟨⟩), w''⟩ := result <;> exact both

omit [UnicodeDigits] in
/-- A permission update leaves everybody with the role and the status they had. -/
theorem updatePermissions_leaves (cookie : Option String) (actorId : String)
    (data : PermissionUpdateRequest) (keyed : w.kv.Keyed) :
    let w' := (Prog.run (handle env peers)
      (ActorsController.updatePermissions cookie actorId data).run w).2
    NothingNew w.kv w'.kv ∨ ∃ stored updated, w.kv (.actors updated.actorId) = some stored ∧
      updated = { stored with permissions := updated.permissions } ∧
        NewlyEnrolled w.kv w'.kv updated := by
  by_cases someone : ∃ authority, SignedIn env w cookie authority
  swap
  · obtain ⟨w', refused, looked⟩ :=
      requireConsoleActor_run_refused peers (not_exists.1 someone)
    rw [ActorsController.updatePermissions, Prog.run_except_bind, refused]
    exact .inl looked.nothingNew
  obtain ⟨authority, signedIn⟩ := someone
  rw [ActorsController.updatePermissions, Prog.run_except_bind, requireConsoleActor_run signedIn]
  simp only [Prog.run_lift_bind, Prog.perform_eq, Prog.call_bind, Prog.ret_bind, run_store,
    StoreCall.answer, World.after_getActor, World.kv_tick]
  rcases stored : w.kv (.actors actorId) with _ | actor
  · exact .inl (.refl w.kv)
  dsimp only
  split_ifs
  · exact .inl (.refl w.kv)
  · have named : actor.actorId = actorId := keyed (.actors actorId) actor stored
    refine .inr ⟨actor, _, ?_, rfl, .saveActor w.kv _⟩
    rw [← stored, ← named]

/-- A sign-in opens a session of an actor who may sign in, or nothing is new. -/
theorem signIn_leaves (sessionId actorId password : String) (keyed : w.kv.Keyed) :
    let w' := (Prog.run (handle env peers) (console.signIn sessionId actorId password).run w).2
    NothingNew w.kv w'.kv ∨ ∃ actor session, MaySignIn w.kv actor ∧
      session.actorId = actor.actorId ∧ w'.kv = (StoreCall.saveConsoleSession session).exec w.kv := by
  simp only [ConsoleAuthService.signIn, Prog.run_lift_bind, Prog.perform_eq, Prog.call_bind,
    Prog.ret_bind, run_store, StoreCall.answer, World.after_getActor, World.after_getCredential]
  have unknown : (Prog.run (handle env peers) (do
      let _ ← ConsoleAuthService.hashing (verifyPassword console.pbkdf2 password
        "pbkdf2_sha256$240000$00$00")
      throw (.invalidCredentials ConsoleAuthService.genericMessage) :
        Console (Actor × ConsoleSession)).run w).2 = w := by
    rcases verifyPassword console.pbkdf2 password "pbkdf2_sha256$240000$00$00" with _ | _ <;> rfl
  rcases stored : w.kv (.actors actorId) with _ | actor
  · exact .inl (by rw [unknown]; exact .refl w.kv)
  rcases w.kv (.consoleCredentials actorId) with _ | credential
  · exact .inl (by rw [unknown]; exact .refl w.kv)
  dsimp only
  rcases verifyPassword console.pbkdf2 password credential.passwordHash with _ | _ | _
  · exact .inl (.refl w.kv)
  · exact .inl (.refl w.kv)
  rcases refused : ConsoleAuthService.refusal actorId actor with _ | e
  · obtain ⟨active, office⟩ := ConsoleAuthService.refusal_eq_none_iff.1 refused
    have named : actor.actorId = actorId := keyed (.actors actorId) actor stored
    exact .inr ⟨actor, _, ⟨by rw [named, stored], active, office⟩, named.symm, rfl⟩
  · exact .inl (.refl w.kv)

/-- What a step leaves in the store. -/
inductive StepLeaves (env : Env) (w : World) (step : ConsoleStep) (kv' : Kv) : Prop
  | enrols (actor : Actor) (h : step.Enrols env w actor) (leaves : NewlyEnrolled w.kv kv' actor)
  | edits (stored updated : Actor) (h : ∀ actor, ¬ step.Enrols env w actor)
      (enrolled : w.kv (.actors updated.actorId) = some stored)
      (same : updated = { stored with permissions := updated.permissions })
      (leaves : NewlyEnrolled w.kv kv' updated)
  | opens (actor : Actor) (session : ConsoleSession) (h : ∀ actor, ¬ step.Enrols env w actor)
      (may : MaySignIn w.kv actor) (own : session.actorId = actor.actorId)
      (leaves : kv' = (StoreCall.saveConsoleSession session).exec w.kv)
  | nothing (h : ∀ actor, ¬ step.Enrols env w actor) (leaves : NothingNew w.kv kv')

theorem afterStep_leaves (step : ConsoleStep) (keyed : w.kv.Keyed) :
    StepLeaves env w step (w.afterStep console env peers step).kv := by
  unfold World.afterStep
  cases step with
  | enroll salt cookie data =>
    rw [ConsoleStep.program, run_answer]
    rcases enroll_leaves env peers console w salt cookie data with
      ⟨someone, leaves⟩ | ⟨nobody, leaves⟩
    · exact .enrols data.actor ⟨rfl, someone⟩ leaves
    · exact .nothing (fun _ h => h.2.elim nobody) leaves
  | updatePermissions cookie actorId data =>
    rw [ConsoleStep.program, run_answer]
    rcases updatePermissions_leaves env peers cookie actorId data keyed with
      leaves | ⟨stored, updated, enrolled, same, leaves⟩
    · exact .nothing (fun _ => id) leaves
    · exact .edits stored updated (fun _ => id) enrolled same leaves
  | wait => exact .nothing (fun _ => id) (.refl w.kv)
  | call c =>
    rw [ConsoleStep.program, run_answer]
    cases c with
    | saveActor actor => exact .enrols actor rfl (.saveActor w.kv actor)
    | signIn sessionId actorId password =>
      rw [ConsoleCall.program, run_answer]
      rcases signIn_leaves env peers console sessionId actorId password keyed with
        leaves | ⟨actor, session, may, own, leaves⟩
      · exact .nothing (fun _ => id) leaves
      · exact .opens actor session (fun _ => id) may own leaves
    | resolve sessionId =>
      rw [ConsoleCall.program, run_answer]
      obtain ⟨found, w', ran, looked, -⟩ := resolve_run env peers w sessionId
      rw [ran]
      exact .nothing (fun _ => id) looked.nothingNew
    | signOut sessionId =>
      refine .nothing (fun _ => id) ?_
      rw [ConsoleCall.program, ConsoleAuthService.signOut]
      rcases sessionId.filter (· ≠ "") with _ | id
      · exact .refl w.kv
      · exact .deleteConsoleSession w.kv id
    | setPassword salt actorId password =>
      rw [ConsoleCall.program, run_answer]
      refine .nothing (fun _ => id) ?_
      rcases @ActorsController.setPassword_keeps env peers console salt actorId password w with
        same | ⟨credential, same⟩
      · rw [same]
        exact .refl w.kv
      · rw [same]
        exact ⟨fun _ => rfl, fun _ _ h => h⟩

/-! ## What a step keeps -/

variable {env peers console}

/-- Whoever the step enrols without the right to sign in has no session that stands. -/
def ConsoleStep.NoSessionStands (env : Env) (w : World) (step : ConsoleStep) (readings : ℕ) : Prop :=
  ∀ actor, step.Enrols env w actor → actor.enrollmentStatus ≠ "ACTIVE" →
    isFieldRole actor.role = false → ¬ HasSession env w.kv readings actor.actorId

omit [UnicodeDigits] in
/-- An enrolment keeps the lookups right exactly when the actor may sign in, is of the field, or has
no session. -/
theorem onlyEligible_enrolled_iff {w' : World} {actor : Actor} (keyed : w.kv.Keyed)
    (keyed' : w'.kv.Keyed) (later : env.clock w.readings ≤ env.clock w'.readings)
    (leaves : NewlyEnrolled w.kv w'.kv actor) (only : OnlyEligible env peers w) :
    OnlyEligible env peers w' ↔ (actor.enrollmentStatus ≠ "ACTIVE" →
      isFieldRole actor.role = false → ¬ HasSession env w.kv w'.readings actor.actorId) := by
  rw [onlyEligible_iff keyed']
  rw [onlyEligible_iff keyed] at only
  constructor
  · rintro active suspended office ⟨id, session, given, stored, own, live⟩
    refine suspended (active (some id) actor ⟨id, session, rfl, given, ?_, live, ?_, office⟩)
    · rw [leaves.sessions, stored]
    · rw [leaves.actors, if_pos own]
  · rintro none cookie found ⟨id, session, rfl, given, stored, live, enrolled, office⟩
    rw [leaves.sessions] at stored
    rw [leaves.actors] at enrolled
    split_ifs at enrolled with own
    · obtain rfl := Option.some.inj enrolled
      by_contra suspended
      exact none suspended office ⟨id, session, given, stored, own, live⟩
    · exact only (some id) found
        ⟨id, session, rfl, given, stored, later.trans_lt live, enrolled, office⟩

theorem onlyEligible_afterStep_iff (stored : w.kv.Stored) (forward : Monotone env.clock)
    (only : OnlyEligible env peers w) (step : ConsoleStep) :
    OnlyEligible env peers (w.afterStep console env peers step) ↔
      step.NoSessionStands env w (w.afterStep console env peers step).readings := by
  have leaves := afterStep_leaves env peers console step stored.keyed
  have keyed' : (w.afterStep console env peers step).kv.Keyed := (run_stored _ stored).keyed
  have later : env.clock w.readings ≤ env.clock (w.afterStep console env peers step).readings :=
    forward ((step.program console).run_keeps (P := fun s : World => w.readings ≤ s.readings)
      (fun c s h => h.trans (handle_readings c s)) le_rfl)
  generalize w.afterStep console env peers step = w' at leaves keyed' later ⊢
  have active := (onlyEligible_iff stored.keyed).1 only
  rcases leaves with ⟨actor, enrols, leaves⟩ | ⟨former, updated, h, enrolled, same, leaves⟩ |
    ⟨actor, session, h, may, own, leaves⟩ | ⟨h, leaves⟩
  · rw [onlyEligible_enrolled_iff stored.keyed keyed' later leaves only]
    constructor
    · intro none actor' enrols'
      rwa [← enrols.unique enrols']
    · intro none
      exact none actor enrols
  · refine iff_of_true ?_ fun actor enrols => absurd enrols (h actor)
    rw [onlyEligible_enrolled_iff stored.keyed keyed' later leaves only]
    rintro suspended office ⟨id, session, given, found, own, live⟩
    have status : updated.enrollmentStatus = former.enrollmentStatus := by rw [same]
    have role : updated.role = former.role := by rw [same]
    rw [status] at suspended
    rw [role] at office
    exact suspended (active (some id) former
      ⟨id, session, rfl, given, found, later.trans_lt live, own ▸ enrolled, office⟩)
  · refine iff_of_true ?_ fun actor enrols => absurd enrols (h actor)
    rw [onlyEligible_iff keyed']
    rintro cookie found ⟨id, session', rfl, given, here, live, enrolled, office⟩
    have roster : w'.kv (.actors session'.actorId) = w.kv (.actors session'.actorId) := by
      rw [leaves]
      rfl
    rw [roster] at enrolled
    rw [leaves, StoreCall.saveConsoleSession_consoleSessions] at here
    split_ifs at here
    · obtain rfl := Option.some.inj here
      rw [own, may.enrolled] at enrolled
      obtain rfl := Option.some.inj enrolled
      exact may.active
    · exact active (some id) found
        ⟨id, session', rfl, given, here, later.trans_lt live, enrolled, office⟩
  · refine iff_of_true ?_ fun actor enrols => absurd enrols (h actor)
    rw [onlyEligible_iff keyed']
    rintro cookie found ⟨id, session, rfl, given, here, live, enrolled, office⟩
    rw [leaves.actors] at enrolled
    exact active (some id) found ⟨id, session, rfl, given, leaves.sessions id session here,
      later.trans_lt live, enrolled, office⟩

/-- In every run of a deployment without sessions, every actor that a lookup returns may sign in,
exactly when no step enrols somebody without the right to sign in while a session of theirs
stands. -/
theorem sessions_eligible_iff (console : ConsoleAuthService) (env : Env) (peers : Peers)
    (forward : Monotone env.clock) (w : World) (stored : w.kv.Stored)
    (closed : ∀ id, w.kv (.consoleSessions id) = none) (steps : List ConsoleStep) :
    let after := World.afterSteps console env peers w
    (∀ before rest, steps = before ++ rest → OnlyEligible env peers (after before)) ↔
      ∀ before step rest, steps = before ++ step :: rest →
        step.NoSessionStands env (after before)
          ((after before).afterStep console env peers step).readings := by
  intro after
  have start : OnlyEligible env peers w := by
    rw [onlyEligible_iff stored.keyed]
    rintro cookie actor ⟨id, session, -, -, found, -⟩
    rw [closed id] at found
    cases found
  have kept (before : List ConsoleStep) : (after before).kv.Stored := by
    induction before using List.reverseRecOn with
    | nil => exact stored
    | append_singleton before step ih =>
      rw [show after (before ++ [step]) = (after before).afterStep console env peers step from
        List.foldl_append ..]
      exact run_stored _ ih
  refine List.foldl_always_iff (C := fun w (step : ConsoleStep) => step.NoSessionStands env w
    (w.afterStep console env peers step).readings) start ?_
  intro before step rest _ only
  exact onlyEligible_afterStep_iff (kept before) forward only step

end Access

/-! ## A suspended supervisor -/

namespace Sample

/-- Nobody is enrolled. -/
def vacant : World := ⟨Kv.empty, PolicyConfig.default, 0, []⟩

def manager : Actor where
  actorId := "manager"
  role := "FACILITY_MANAGER"
  registeredPhoneNumber := "+4"
  registeredDeviceId := "desk"

/-- The supervisor, no longer active. -/
def suspension : EnrollmentRequest where
  actor := { supervisor with enrollmentStatus := "SUSPENDED" }
  password_length := EnrollmentRequest.length_none

/-- The supervisor and the manager sign in, and the manager suspends the supervisor. -/
def suspends : List ConsoleStep :=
  [.call (.saveActor supervisor), .call (.saveActor manager),
    .call (.setPassword [1] "boss" "long enough"), .call (.setPassword [2] "manager" "long enough"),
    .call (.signIn "session" "boss" "long enough"), .call (.signIn "other" "manager" "long enough"),
    .enroll [] (some "other") suspension]

end Sample

theorem sessions_eligible_iff_suspends :
    let _ := Sample.unicode
    let after :=
      @World.afterSteps Sample.unicode Sample.unicodeDigits Sample.console Sample.env Sample.peers
        Sample.vacant
    (∀ before rest, Sample.suspends = before ++ rest →
        OnlyEligible Sample.env Sample.peers (after before)) ↔
      ∀ before step rest, Sample.suspends = before ++ step :: rest →
        step.NoSessionStands Sample.env (after before)
          (@World.afterStep Sample.unicode Sample.unicodeDigits Sample.console Sample.env
            Sample.peers (after before) step).readings :=
  @sessions_eligible_iff Sample.unicode Sample.unicodeDigits Sample.console Sample.env Sample.peers
    (fun _ _ _ => Nat.le_refl _) Sample.vacant .empty (fun _ => rfl) Sample.suspends

/-- The supervisor is suspended, and the session stands for the supervisor all the same. -/
theorem suspended_and_signed_in :
    let _ := Sample.unicode
    ∃ actor, (Prog.run (handle Sample.env Sample.peers)
        (ConsoleAuthService.resolve (some "session"))
        (@World.afterSteps Sample.unicode Sample.unicodeDigits Sample.console Sample.env
          Sample.peers Sample.vacant Sample.suspends)).1 = .ok (some actor) ∧
      actor.enrollmentStatus = "SUSPENDED" :=
  ⟨Sample.suspension.actor, by decide +kernel, rfl⟩

end ZoneGate
