import ZoneGate.Api.Actors
import ZoneGate.Authorization.Runs

/-!
# Refused enrolments

An enrolment saves the actor and the binding before it looks at the password.
`refused_enrolment_iff` says when an enrolment that is answered with an error leaves the roster as
it was.
-/

namespace ZoneGate

open Py Effects

section Enrolment

variable [Unicode] {env : Env} {peers : Peers}

/-! ## Who is signed in -/

/-- The cookie names a session that has not expired, of an actor on the roster who works on the
console. -/
def SignedIn (env : Env) (w : World) (cookie : Option String) (actor : Actor) : Prop :=
  ∃ sessionId session, cookie = some sessionId ∧ sessionId ≠ "" ∧
    w.kv (.consoleSessions sessionId) = some session ∧ env.clock w.readings < session.expiresAt ∧
    w.kv (.actors session.actorId) = some actor ∧ isFieldRole actor.role = false

/-- A lookup reads the clock at most once, and deletes at most one session. -/
structure LookedUp (w w' : World) : Prop where
  config : w'.config = w.config
  forward : w.readings ≤ w'.readings
  contents : w'.kv = w.kv ∨ ∃ id, w'.kv = (StoreCall.deleteConsoleSession id).exec w.kv

/-- A lookup finds whoever is signed in, and nobody else. -/
theorem resolve_run (env : Env) (peers : Peers) (w : World) (cookie : Option String) :
    ∃ found w', Prog.run (handle env peers) (ConsoleAuthService.resolve cookie) w = (.ok found, w') ∧
      LookedUp w w' ∧ (∀ actor, found = some actor ↔ SignedIn env w cookie actor) ∧
        (found ≠ none → w' = w.tick) := by
  rcases named : cookie.filter (· ≠ "") with _ | id
  · rw [ConsoleAuthService.resolve_anonymous named]
    refine ⟨none, w, rfl, ⟨rfl, le_rfl, .inl rfl⟩, fun actor => ?_, fun h => absurd rfl h⟩
    refine iff_of_false nofun ?_
    rintro ⟨id, session, rfl, given, -⟩
    simp [Option.filter, given] at named
  obtain ⟨rfl, given⟩ := Option.filter_eq_some_iff.1 named
  have given : id ≠ "" := by simpa using given
  rw [ConsoleAuthService.resolve_named named, run_store, World.after_getConsoleSession]
  -- somebody signed in has a session under the cookie, which has not expired
  have unsigned (h : ∀ session, w.kv (.consoleSessions id) = some session →
      env.clock w.readings < session.expiresAt → ∀ actor,
        w.kv (.actors session.actorId) = some actor → isFieldRole actor.role ≠ false)
      (actor : Actor) : (none : Option Actor) = some actor ↔ SignedIn env w (some id) actor := by
    refine iff_of_false nofun ?_
    rintro ⟨_, session, ⟨⟩, -, stored, live, enrolled, console⟩
    exact h session stored live actor enrolled console
  rcases stored : w.kv (.consoleSessions id) with _ | session
  · rw [show (StoreCall.getConsoleSession id).answer w.kv = none from stored]
    exact ⟨none, w, rfl, ⟨rfl, le_rfl, .inl rfl⟩, unsigned (by simp [stored]),
      fun h => absurd rfl h⟩
  rw [show (StoreCall.getConsoleSession id).answer w.kv = some session from stored]
  dsimp only
  rw [run_utcnow]
  by_cases expired : session.expiresAt ≤ env.clock w.readings
  · rw [if_pos expired, run_store]
    refine ⟨none, _, rfl, ⟨rfl, Nat.le_succ _, .inr ⟨id, rfl⟩⟩, unsigned ?_, fun h => absurd rfl h⟩
    intro _ found live
    obtain rfl := Option.some.inj (stored.symm.trans found)
    exact absurd expired (Nat.not_le.2 live)
  rw [if_neg expired, run_store, World.after_getActor]
  refine ⟨_, _, rfl, ⟨rfl, Nat.le_succ _, .inl rfl⟩, fun actor => ?_, fun _ => rfl⟩
  rw [Option.filter_eq_some_iff]
  constructor
  · rintro ⟨enrolled, console⟩
    exact ⟨id, session, rfl, given, stored, Nat.not_le.1 expired, enrolled, by simpa using console⟩
  · rintro ⟨_, _, ⟨⟩, -, found, -, enrolled, console⟩
    obtain rfl := Option.some.inj (stored.symm.trans found)
    exact ⟨enrolled, by simpa using console⟩

theorem requireConsoleActor_run {w : World} {cookie : Option String} {actor : Actor}
    (h : SignedIn env w cookie actor) :
    Prog.run (handle env peers) (requireConsoleActor cookie).run w = (.ok (.ok actor), w.tick) := by
  obtain ⟨found, w', ran, -, finds, ticks⟩ := resolve_run env peers w cookie
  obtain rfl := (finds actor).2 h
  rw [requireConsoleActor_eq, Prog.run_bind, ran, ticks nofun]
  rfl

/-- Nobody is signed in: the request is refused, and at most a session is deleted. -/
theorem requireConsoleActor_run_refused (peers : Peers) {w : World} {cookie : Option String}
    (h : ∀ actor, ¬ SignedIn env w cookie actor) :
    ∃ w', Prog.run (handle env peers) (requireConsoleActor cookie).run w =
        (.ok (.error (.http 401 "Sign in to the console to do this")), w') ∧ LookedUp w w' := by
  obtain ⟨found, w', ran, looked, finds, -⟩ := resolve_run env peers w cookie
  have nobody : found = none :=
    Option.eq_none_iff_forall_ne_some.2 fun actor same => h actor ((finds actor).1 same)
  subst nobody
  refine ⟨w', ?_, looked⟩
  rw [requireConsoleActor_eq, Prog.run_bind, ran]
  rfl

/-! ## What an enrolment leaves -/

/-- The actors, the order of the roster, the device bindings and the credentials are the same. -/
structure SameRoster (kv kv' : Kv) : Prop where
  actors : ∀ id, kv' (.actors id) = kv (.actors id)
  order : kv'.actorIds = kv.actorIds
  bindings : ∀ id, kv' (.deviceBindings id) = kv (.deviceBindings id)
  credentials : ∀ id, kv' (.consoleCredentials id) = kv (.consoleCredentials id)

/-- The password is given, and it is too short. -/
def WeakPassword (password : Option String) : Prop :=
  ∃ p ∈ password, p ≠ "" ∧ p.length < minPasswordLength

/-- The same actor heads the roster, with the same binding. -/
structure AlreadyEnrolled (kv : Kv) (actor : Actor) (binding : DeviceBinding) : Prop where
  stored : kv (.actors actor.actorId) = some actor
  head : kv.actorIds = actor.actorId :: kv.actorIds.erase actor.actorId
  bound : kv (.deviceBindings binding.actorId) = some binding

namespace ActorsController

/-- The world once the actor and the binding are stored. -/
def enrolled (w : World) (actor : Actor) (binding : DeviceBinding) : World :=
  (w.after (.saveActor actor)).after (.saveDeviceBinding binding)

omit [Unicode] in
theorem sameRoster_enrolled_iff (w : World) (actor : Actor) (binding : DeviceBinding) :
    SameRoster w.kv (enrolled w actor binding).kv ↔ AlreadyEnrolled w.kv actor binding := by
  have actors (id : String) : (enrolled w actor binding).kv (.actors id) =
      if id = actor.actorId then some actor else w.kv (.actors id) :=
    StoreCall.saveActor_actors w.kv actor id
  have bindings (id : String) : (enrolled w actor binding).kv (.deviceBindings id) =
      if id = binding.actorId then some binding else w.kv (.deviceBindings id) :=
    StoreCall.saveDeviceBinding_deviceBindings _ binding id
  have order : (enrolled w actor binding).kv.actorIds =
      actor.actorId :: w.kv.actorIds.erase actor.actorId := rfl
  constructor
  · intro same
    refine ⟨?_, ?_, ?_⟩
    · rw [← same.actors, actors, if_pos rfl]
    · rw [← order, same.order]
    · rw [← same.bindings, bindings, if_pos rfl]
  · intro already
    refine ⟨fun id => ?_, ?_, fun id => ?_, fun id => rfl⟩
    · rw [actors]
      split_ifs with h
      · rw [h, already.stored]
      · rfl
    · rw [order, ← already.head]
    · rw [bindings]
      split_ifs with h
      · rw [h, already.bound]
      · rfl

variable {console : ConsoleAuthService}

omit [Unicode] in
/-- A password that is long enough is accepted and stored. -/
theorem initialPassword_run {salt : Bytes} {actorId password : String} {w : World}
    (hashes : console.pbkdf2.Hashes) (strong : ¬ password.length < minPasswordLength) :
    ∃ w', Prog.run (handle env peers) (initialPassword console salt actorId password).run w =
      (.ok (.ok ()), w') := by
  have present : password ≠ "" := by
    rintro rfl
    exact strong (by decide)
  obtain ⟨hash, hashed⟩ := hashes.hashPassword salt present
  rw [initialPassword, Prog.run_lift_bind, console.setPassword_strong strong hashed]
  exact ⟨_, rfl⟩

omit [Unicode] in
/-- A weak password is refused, and nothing is stored. -/
theorem initialPassword_run_weak {salt : Bytes} {actorId password : String} {w : World}
    (weak : password.length < minPasswordLength) :
    Prog.run (handle env peers) (initialPassword console salt actorId password).run w =
      (.ok (.error (.http 400 ConsoleAuthService.weakPasswordMessage)), w) := by
  rw [initialPassword, Prog.run_lift_bind, console.setPassword_weak weak]
  rfl

omit [Unicode] in
/-- A password that is set changes a credential at most, whatever the answer. -/
theorem setPassword_keeps (salt : Bytes) (actorId password : String) (w : World) :
    let w' := (Prog.run (handle env peers) (console.setPassword salt actorId password).run w).2
    w'.kv = w.kv ∨ ∃ credential, w'.kv = (StoreCall.saveCredential credential).exec w.kv := by
  by_cases weak : password.length < minPasswordLength
  · rw [console.setPassword_weak weak]
    exact .inl rfl
  rcases hashed : hashPassword console.pbkdf2 salt password with e | hash
  · rw [console.setPassword_unhashed weak hashed]
    exact .inl rfl
  · rw [console.setPassword_strong weak hashed]
    exact .inr ⟨_, rfl⟩

omit [Unicode] in
theorem initialPassword_keeps (salt : Bytes) (actorId password : String) (w : World) :
    let w' := (Prog.run (handle env peers) (initialPassword console salt actorId password).run w).2
    w'.kv = w.kv ∨ ∃ credential, w'.kv = (StoreCall.saveCredential credential).exec w.kv := by
  have sets := @setPassword_keeps env peers console salt actorId password w
  rw [initialPassword, Prog.run_lift_bind, Prog.run_bind]
  generalize Prog.run (handle env peers) (console.setPassword salt actorId password).run w = result
    at sets ⊢
  obtain ⟨e | (e | ⟨⟩), w'⟩ := result
  · exact sets
  · cases e <;> exact sets
  · exact sets

/-- The binding that the enrolment makes: the clock is read for the session first. -/
def bindingAt (env : Env) (w : World) (data : EnrollmentRequest) : DeviceBinding :=
  bindingFor data (env.clock w.tick.readings)

theorem enrollActor_run {salt : Bytes} {cookie : Option String} {authority : Actor} {w : World}
    (signedIn : SignedIn env w cookie authority) (data : EnrollmentRequest) :
    let binding := bindingAt env w data
    let w' := enrolled w.tick.tick data.actor binding
    Prog.run (handle env peers) (enrollActor console salt cookie data).run w =
      match data.password.filter (· ≠ "") with
      | none => (.ok (.ok ⟨data.actor, binding⟩), w')
      | some password =>
          match Prog.run (handle env peers)
              (initialPassword console salt data.actor.actorId password).run w' with
          | (.ok (.ok ()), w'') => (.ok (.ok ⟨data.actor, binding⟩), w'')
          | (.ok (.error e), w'') => (.ok (.error e), w'')
          | (.error e, w'') => (.error e, w'') := by
  intro binding w'
  rw [enrollActor, Prog.run_except_bind, requireConsoleActor_run signedIn]
  simp only [Prog.run_lift_bind, Prog.perform_eq, Prog.call_bind, Prog.ret_bind, run_utcnow,
    run_store]
  rcases data.password.filter (· ≠ "") with _ | password
  · rfl
  · dsimp only [w', binding, enrolled, bindingAt]
    rw [Prog.run_except_bind]
    rcases Prog.run (handle env peers)
        (initialPassword console salt data.actor.actorId password).run _ with
      ⟨e | e | ⟨⟩, w''⟩ <;> rfl

/-- An enrolment by a signed-in authority that is answered with an error leaves the roster as it
was, exactly when no weak password is given or there was nothing to change. -/
theorem refused_enrolment_iff (env : Env) (peers : Peers) (console : ConsoleAuthService)
    (hashes : console.pbkdf2.Hashes) (salt : Bytes) (w : World) {cookie : Option String}
    {authority : Actor} (signedIn : SignedIn env w cookie authority) (data : EnrollmentRequest) :
    let result := Prog.run (handle env peers) (enrollActor console salt cookie data).run w
    ((∀ response, result.1 ≠ .ok (.ok response)) → SameRoster w.kv result.2.kv) ↔
      ¬ WeakPassword data.password ∨
        AlreadyEnrolled w.kv data.actor (bindingAt env w data) := by
  rw [enrollActor_run signedIn]
  rcases hpassword : data.password.filter (· ≠ "") with _ | password
  · have strong : ¬ WeakPassword data.password := by
      rintro ⟨p, hp, given, -⟩
      rw [Option.mem_def.1 hp] at hpassword
      simp [Option.filter, given] at hpassword
    exact iff_of_true (fun refused => absurd rfl (refused _)) (.inl strong)
  obtain ⟨given, named⟩ := Option.filter_eq_some_iff.1 hpassword
  dsimp only
  by_cases weak : password.length < minPasswordLength
  · have short : WeakPassword data.password := ⟨password, given, by simpa using named, weak⟩
    rw [initialPassword_run_weak weak]
    have refused : ∀ response : EnrollmentResponse,
        (.ok (.error (.http 400 ConsoleAuthService.weakPasswordMessage)) :
          Except ServiceError (Except ApiError EnrollmentResponse)) ≠ .ok (.ok response) := by
      intro response h
      cases h
    have same := sameRoster_enrolled_iff w.tick.tick data.actor (bindingAt env w data)
    exact ⟨fun keeps => .inr (same.1 (keeps refused)),
      fun h _ => same.2 (h.resolve_left (not_not_intro short))⟩
  · have strong : ¬ WeakPassword data.password := by
      rintro ⟨p, hp, -, short⟩
      obtain rfl := Option.some.inj (given.symm.trans hp)
      exact weak short
    obtain ⟨w', accepted⟩ : ∃ w', Prog.run (handle env peers)
        (initialPassword console salt data.actor.actorId password).run
        (enrolled w.tick.tick data.actor (bindingAt env w data)) = (.ok (.ok ()), w') :=
      initialPassword_run hashes weak
    rw [accepted]
    exact iff_of_true (fun refused => absurd rfl (refused _)) (.inl strong)

end ActorsController

end Enrolment

/-! ## A refused enrolment -/

namespace Sample

/-- The supervisor is enrolled, next to the operator, and has opened a session. -/
def signedIn : World :=
  (world.after (.saveActor supervisor)).after
    (.saveConsoleSession ⟨"session", "boss", ⟨0⟩, ⟨1⟩⟩)

theorem supervisor_signedIn : @SignedIn unicode env signedIn (some "session") supervisor :=
  ⟨"session", _, rfl, by decide, rfl, by decide, rfl, by decide⟩

/-- A new officer with a password of five characters. -/
def officer : EnrollmentRequest where
  actor :=
    { actorId := "officer"
      role := "SAFETY_OFFICER"
      permissions := ["cargo:release"]
      registeredPhoneNumber := "+3"
      registeredDeviceId := "tablet" }
  password := some "short"
  password_length := by
    rintro p ⟨⟩
    decide

/-- The enrolment of the officer by the supervisor. -/
def officerEnrolled : Except ServiceError (Except ApiError EnrollmentResponse) × World :=
  Prog.run (handle env peers)
    (@ActorsController.enrollActor unicode console [] (some "session") officer).run signedIn

end Sample

open ActorsController in
theorem refused_enrolment_iff_officer :
    ((∀ response, Sample.officerEnrolled.1 ≠ .ok (.ok response)) →
        SameRoster Sample.signedIn.kv Sample.officerEnrolled.2.kv) ↔
      ¬ WeakPassword Sample.officer.password ∨
        AlreadyEnrolled Sample.signedIn.kv Sample.officer.actor
          (bindingAt Sample.env Sample.signedIn Sample.officer) := by
  unfold Sample.officerEnrolled
  exact @refused_enrolment_iff Sample.unicode Sample.env Sample.peers Sample.console
    Sample.pbkdf2_hashes [] Sample.signedIn (some "session") Sample.supervisor
    Sample.supervisor_signedIn Sample.officer

/-- The enrolment is refused, and the officer is enrolled all the same. -/
theorem refused_and_enrolled :
    @SignedIn Sample.unicode Sample.env Sample.signedIn (some "session") Sample.supervisor ∧
      (∀ response, Sample.officerEnrolled.1 ≠ .ok (.ok response)) ∧
      ¬ SameRoster Sample.signedIn.kv Sample.officerEnrolled.2.kv := by
  refine ⟨Sample.supervisor_signedIn, fun response returned => ?_, fun same => ?_⟩
  · have refused : Sample.officerEnrolled.1 =
        .ok (.error (.http 400 ConsoleAuthService.weakPasswordMessage)) := by decide +kernel
    rw [refused] at returned
    cases returned
  · have absent : Sample.signedIn.kv (.actors "officer") = none := by decide +kernel
    have enrolled : Sample.officerEnrolled.2.kv (.actors "officer") ≠ none := by decide +kernel
    exact enrolled ((same.actors "officer").trans absent)

end ZoneGate
