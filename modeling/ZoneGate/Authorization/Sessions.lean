import ZoneGate.Authorization.Calls
import ZoneGate.Authorization.Console
import ZoneGate.Library.Trace

/-!
# A dead session stays dead

Sign-ins, sign-outs, password changes, enrolments and lookups of sessions overlap, call by call.  A
session identifier is used once, so a session that was deleted does not come back, and the one that
a lookup finds is the one that a sign-in opened with the password of its actor.
-/

namespace ZoneGate

open Py Effects

/-! ## The calls of the console -/

/-- A call of the console service, with what `secrets` draws in it, or an enrolment. -/
inductive ConsoleCall
  | signIn (sessionId actorId password : String)
  | resolve (sessionId : Option String)
  | signOut (sessionId : Option String)
  | setPassword (salt : Bytes) (actorId password : String)
  | saveActor (actor : Actor)

inductive ConsoleAnswer
  | signedIn (result : Except ConsoleAuthError (Actor × ConsoleSession))
  | resolved (actor : Option Actor)
  | passwordSet (result : Except ConsoleAuthError Unit)
  | done

def ConsoleCall.program [Unicode] [UnicodeDigits] (console : ConsoleAuthService) :
    ConsoleCall → Service ConsoleAnswer
  | signIn sessionId actorId password => do
      let result ← ((console.signIn sessionId actorId password).run : Service _)
      return .signedIn result
  | resolve sessionId => do
      let actor ← ConsoleAuthService.resolve sessionId
      return .resolved actor
  | signOut sessionId => do
      ConsoleAuthService.signOut sessionId
      return .done
  | setPassword salt actorId password => do
      let result ← ((console.setPassword salt actorId password).run : Service _)
      return .passwordSet result
  | saveActor actor => do
      store (.saveActor actor)
      return .done

/-! ## What a call does to the sessions -/

section Programs

variable [Unicode] [UnicodeDigits] (console : ConsoleAuthService)

/-- A session is opened by a sign-in of its actor, once it has verified the password against the
stored one. -/
def OpensSession (request : ConsoleCall) (past : List (Handled Services)) : Effect → Prop
  | .store (.saveConsoleSession s) => ∃ password credential,
      request = .signIn s.sessionId s.actorId password ∧
        (⟨Effect.store (.getCredential s.actorId), some credential⟩ : Handled Services) ∈ past ∧
        verifyPassword console.pbkdf2 password credential.passwordHash = .ok true
  | _ => True

/-- The actor that a lookup returns is the one of the session it has found, which is not over. -/
def ResolvesTo (sessionId : Option String) (past : List (Handled Services)) (actor : Actor) :
    Prop :=
  ∃ id session now, sessionId.filter (· ≠ "") = some id ∧
    past = [⟨Effect.store (.getConsoleSession id), some session⟩, ⟨Effect.utcnow, now⟩,
      ⟨Effect.store (.getActor session.actorId), some actor⟩] ∧
    ¬ session.expiresAt ≤ now ∧ isFieldRole actor.role = false

/-- A lookup ends with the actor of a session, or nobody; a sign-out has deleted the session. -/
def EndsSession (past : List (Handled Services)) :
    ConsoleCall → Except ServiceError ConsoleAnswer → Prop
  | .resolve sessionId, .ok answer =>
      ∃ found, answer = .resolved found ∧
        ∀ actor, found = some actor → ResolvesTo sessionId past actor
  | .signOut sessionId, .ok _ => ∀ id, sessionId.filter (· ≠ "") = some id →
      (⟨Effect.store (.deleteConsoleSession id), ()⟩ : Handled Services) ∈ past
  | _, _ => True

theorem signIn_opens (sessionId actorId password : String) :
    (console.signIn sessionId actorId password).run.Upholds
      (OpensSession console (.signIn sessionId actorId password)) (fun _ _ => True) [] := by
  simp only [ConsoleAuthService.signIn, Prog.run_lift_bind, Prog.perform_eq, Prog.call_bind,
    Prog.ret_bind]
  refine ⟨trivial, fun _ => trivial, fun actor => ⟨trivial, fun _ => trivial, fun credential => ?_⟩⟩
  have unknown : ((do
      let _ ← ConsoleAuthService.hashing (verifyPassword console.pbkdf2 password
        "pbkdf2_sha256$240000$00$00")
      throw (.invalidCredentials ConsoleAuthService.genericMessage) :
        Console (Actor × ConsoleSession)).run).Upholds
      (OpensSession console (.signIn sessionId actorId password)) (fun _ _ => True)
      [⟨Effect.store (.getActor actorId), actor⟩,
        ⟨Effect.store (.getCredential actorId), credential⟩] := by
    rcases verifyPassword console.pbkdf2 password "pbkdf2_sha256$240000$00$00" with _ | _
    · trivial
    · trivial
  rcases actor with _ | actor
  · exact unknown
  rcases credential with _ | credential
  · exact unknown
  dsimp only
  rcases verified : verifyPassword console.pbkdf2 password credential.passwordHash with _ | _ | _
  · trivial
  · trivial
  rcases ConsoleAuthService.refusal actorId actor with _ | e
  · refine ⟨trivial, fun _ => trivial, fun now => ⟨?_, fun _ => trivial, fun _ => trivial⟩⟩
    exact ⟨password, credential, rfl, by simp, verified⟩
  · trivial

theorem resolve_opens (request : ConsoleCall) (sessionId : Option String) :
    (ConsoleAuthService.resolve sessionId).Upholds (OpensSession console request)
      (fun past end_ => ∀ actor, end_ = .ok (some actor) → ResolvesTo sessionId past actor) [] := by
  rcases h : sessionId.filter (· ≠ "") with _ | id
  · rw [ConsoleAuthService.resolve_anonymous h]
    rintro actor ⟨⟩
  rw [ConsoleAuthService.resolve_named h]
  refine ⟨trivial, fun _ => by rintro actor ⟨⟩, fun session => ?_⟩
  cases session with
  | none => rintro actor ⟨⟩
  | some session =>
    refine ⟨trivial, fun _ => by rintro actor ⟨⟩, fun now => ?_⟩
    dsimp only
    split_ifs with ended
    · exact ⟨trivial, fun _ => by rintro actor ⟨⟩, fun _ => by rintro actor ⟨⟩⟩
    · refine ⟨trivial, fun _ => by rintro actor ⟨⟩, fun found => ?_⟩
      rintro actor returned
      obtain ⟨rfl, office⟩ := Option.filter_eq_some_iff.1 (Except.ok.inj returned)
      exact ⟨id, session, now, h, rfl, ended, by simpa using office⟩

/-- What a call of any kind does to the sessions. -/
theorem ConsoleCall.program_opens (request : ConsoleCall) :
    (request.program console).Upholds (OpensSession console request)
      (fun past => EndsSession past request) [] := by
  cases request with
  | signIn sessionId actorId password =>
    exact (signIn_opens console sessionId actorId password).bind (fun _ _ _ => trivial)
      fun _ _ _ => trivial
  | resolve sessionId =>
    refine (resolve_opens console (.resolve sessionId) sessionId).bind (fun _ found h => ?_)
      fun _ _ _ => trivial
    exact ⟨found, rfl, fun actor eq => h actor (congrArg _ eq)⟩
  | signOut sessionId =>
    rcases h : sessionId.filter (· ≠ "") with _ | id
    · simp only [program, ConsoleAuthService.signOut, h]
      intro id named
      rw [h] at named
      cases named
    · simp only [program, ConsoleAuthService.signOut, h]
      refine ⟨trivial, fun _ => trivial, fun _ id' named => ?_⟩
      obtain rfl : id = id' := Option.some.inj (h.symm.trans named)
      exact List.mem_singleton_self _
  | setPassword salt actorId password =>
    by_cases weak : password.length < minPasswordLength
    · simp only [program, console.setPassword_weak weak]
      trivial
    rcases hashed : hashPassword console.pbkdf2 salt password with e | hash
    · simp only [program, ConsoleAuthService.setPassword, if_neg weak, hashed]
      trivial
    · simp only [program, console.setPassword_strong weak hashed]
      exact ⟨trivial, fun _ => trivial, fun _ => ⟨trivial, fun _ => trivial, fun _ => trivial⟩⟩
  | saveActor actor => exact ⟨trivial, fun _ => trivial, fun _ => trivial⟩

omit [UnicodeDigits] in
/-- A lookup makes three calls at most. -/
theorem resolve_within (sessionId : Option String) :
    (do let actor ← ConsoleAuthService.resolve sessionId
        return .resolved actor : Service ConsoleAnswer).Within (fun _ => True) 3 := by
  rcases h : sessionId.filter (· ≠ "") with _ | id
  · rw [ConsoleAuthService.resolve_anonymous h]
    trivial
  rw [ConsoleAuthService.resolve_named h]
  intro session _
  cases session with
  | none => trivial
  | some session =>
    intro now _
    dsimp only
    split_ifs <;> exact fun _ _ => trivial

end Programs

/-! ## Identifiers that are used once -/

/-- The identifier of the session that a call saves. -/
def savedSession : Effect → Option String
  | .store (.saveConsoleSession s) => some s.sessionId
  | _ => none

/-- The identifier of the session that a call is about. -/
def namedSession : Effect → Option String
  | .store (.getConsoleSession id) | .store (.deleteConsoleSession id) => some id
  | .store (.saveConsoleSession s) => some s.sessionId
  | _ => none

section Sessions

variable {ι : Type} {kv₀ : Kv} {trace more : List (Event Services ServiceError World ι)}

/-- No call is about a session that is saved later, and none of them was there at the start. -/
structure FreshSessions (kv₀ : Kv) (trace : List (Event Services ServiceError World ι)) : Prop where
  apart : trace.Pairwise fun e' e => ∀ id ∈ savedSession e.call, namedSession e'.call ≠ some id
  new : ∀ e ∈ trace, ∀ id ∈ savedSession e.call, kv₀ (.consoleSessions id) = none

/-- The session of an identifier: it was there at the start or was saved since. -/
def SessionOf (kv₀ : Kv) (trace : List (Event Services ServiceError World ι)) (id : String)
    (s : ConsoleSession) : Prop :=
  kv₀ (.consoleSessions id) = some s ∨
    s.sessionId = id ∧ ∃ e ∈ trace, e.call = .store (.saveConsoleSession s)

theorem FreshSessions.of_append (h : FreshSessions kv₀ (trace ++ more)) :
    FreshSessions kv₀ trace :=
  ⟨(List.pairwise_append.1 h.apart).1, fun e mem => h.new e (List.mem_append_left _ mem)⟩

theorem SessionOf.append {id : String} {s : ConsoleSession} (h : SessionOf kv₀ trace id s) :
    SessionOf kv₀ (trace ++ more) id s :=
  h.imp_right fun ⟨named, e, mem, saved⟩ => ⟨named, e, List.mem_append_left _ mem, saved⟩

/-- An identifier has one session. -/
theorem SessionOf.unique (fresh : FreshSessions kv₀ trace) {id : String} {s s' : ConsoleSession}
    (h : SessionOf kv₀ trace id s) (h' : SessionOf kv₀ trace id s') : s = s' := by
  have saves {s : ConsoleSession} {e : Event Services ServiceError World ι}
      (saved : e.call = .store (.saveConsoleSession s)) (named : s.sessionId = id) :
      savedSession e.call = some id ∧ namedSession e.call = some id := by
    rw [saved, ← named]
    exact ⟨rfl, rfl⟩
  rcases h with here | ⟨named, e, mem, saved⟩ <;> rcases h' with here' | ⟨named', e', mem', saved'⟩
  · exact Option.some.inj (here.symm.trans here')
  · rw [fresh.new e' mem' id (saves saved' named').1] at here
    cases here
  · rw [fresh.new e mem id (saves saved named).1] at here'
    cases here'
  -- of two saves the later one would not be fresh
  obtain ⟨before, after, rfl⟩ := List.append_of_mem mem
  obtain ⟨-, rest, apart⟩ := List.pairwise_append.1 fresh.apart
  rcases List.mem_append.1 mem' with earlier | there
  · exact absurd (saves saved' named').2
      (apart e' earlier e List.mem_cons_self id (saves saved named).1)
  rcases List.mem_cons.1 there with rfl | later
  · rw [saved] at saved'
    cases saved'
    rfl
  · exact absurd (saves saved named).2
      ((List.pairwise_cons.1 rest).1 e' later id (saves saved' named').1)

/-! ## What the calls keep -/

/-- Records are kept under their own keys; a stored session is the one of its identifier; and a
session that was deleted is not there. -/
structure SessionsKept (kv₀ kv : Kv) (trace : List (Event Services ServiceError World ι)) :
    Prop where
  keyed : kv.Keyed
  origin : ∀ id s, kv (.consoleSessions id) = some s → SessionOf kv₀ trace id s
  revoked : ∀ e ∈ trace, ∀ id, e.call = .store (.deleteConsoleSession id) →
    kv (.consoleSessions id) = none

variable {env : Env} {peers : ι → Peers} {w : World} {i : ι}

/-- The save of a session. -/
theorem SessionsKept.save {s : ConsoleSession} (inv : SessionsKept kv₀ w.kv trace)
    {e : Event Services ServiceError World ι} (saves : e.call = .store (.saveConsoleSession s))
    (fresh : FreshSessions kv₀ (trace ++ [e])) :
    SessionsKept kv₀ (w.after (.saveConsoleSession s)).kv (trace ++ [e]) := by
  have stored (id : String) : (w.after (.saveConsoleSession s)).kv (.consoleSessions id) =
      if id = s.sessionId then some s else w.kv (.consoleSessions id) :=
    StoreCall.saveConsoleSession_consoleSessions ..
  have unnamed (e' : Event Services ServiceError World ι) (mem : e' ∈ trace) :
      namedSession e'.call ≠ some s.sessionId :=
    (List.pairwise_append.1 fresh.apart).2.2 e' mem e (List.mem_singleton_self e) _
      (by rw [saves]; rfl)
  refine ⟨(StoreCall.saveConsoleSession s).exec_keyed inv.keyed, fun id s' found => ?_,
    fun e' mem id deleted => ?_⟩
  · rcases ite_eq_iff.1 ((stored id).symm.trans found) with ⟨rfl, eq⟩ | ⟨-, old⟩
    · cases eq
      exact .inr ⟨rfl, e, by simp, saves⟩
    · exact (inv.origin id s' old).append
  · rcases List.mem_append.1 mem with earlier | last
    · -- the identifier of the new session was not named, so it is another one that was deleted
      have other : id ≠ s.sessionId := by
        rintro rfl
        refine unnamed e' earlier ?_
        rw [deleted]
        exact rfl
      rw [stored, if_neg other]
      exact inv.revoked e' earlier id deleted
    · rw [List.mem_singleton.1 last, saves] at deleted
      cases deleted

/-- The deletion of a session. -/
theorem SessionsKept.delete {sessionId : String} (inv : SessionsKept kv₀ w.kv trace)
    {e : Event Services ServiceError World ι}
    (deletes : e.call = .store (.deleteConsoleSession sessionId)) :
    SessionsKept kv₀ (w.after (.deleteConsoleSession sessionId)).kv (trace ++ [e]) := by
  have stored (id : String) : (w.after (.deleteConsoleSession sessionId)).kv (.consoleSessions id) =
      if id = sessionId then none else w.kv (.consoleSessions id) :=
    StoreCall.deleteConsoleSession_consoleSessions ..
  refine ⟨(StoreCall.deleteConsoleSession sessionId).exec_keyed inv.keyed, fun id s found => ?_,
    fun e' mem id deleted => ?_⟩
  · rcases ite_eq_iff.1 ((stored id).symm.trans found) with ⟨-, eq⟩ | ⟨-, old⟩
    · cases eq
    · exact (inv.origin id s old).append
  · rw [stored]
    split_ifs with same
    · rfl
    · rcases List.mem_append.1 mem with earlier | last
      · exact inv.revoked e' earlier id deleted
      · rw [List.mem_singleton.1 last, deletes] at deleted
        cases deleted
        exact absurd rfl same

/-- A session is saved or deleted. -/
def WritesSession : Effect → Prop
  | .store (.saveConsoleSession _) | .store (.deleteConsoleSession _) => True
  | _ => False

theorem handle_consoleSessions (env : Env) (peers : Peers) {c : Effect} (hc : ¬ WritesSession c)
    (w : World) (id : String) :
    (handle env peers c w).2.kv (.consoleSessions id) = w.kv (.consoleSessions id) := by
  cases c with
  | store c =>
    cases c with
    | saveConsoleSession s => exact absurd trivial hc
    | deleteConsoleSession id => exact absurd trivial hc
    | _ => rfl
  | _ => rfl

/-- A call that writes no session. -/
theorem SessionsKept.other {c : Effect} (inv : SessionsKept kv₀ w.kv trace)
    (hc : ¬ WritesSession c) : SessionsKept kv₀ (handleAll env peers i c w).2.kv
      (trace ++ [⟨i, c, w, (handleAll env peers i c w).1⟩]) := by
  have same := handle_consoleSessions env (peers i) hc w
  refine ⟨handle_keyed c w inv.keyed, fun id s found => ?_, fun e mem id deleted => ?_⟩
  · exact (inv.origin id s ((same id).symm.trans found)).append
  · rcases List.mem_append.1 mem with earlier | last
    · exact (same id).trans (inv.revoked e earlier id deleted)
    · rw [List.mem_singleton.1 last] at deleted
      dsimp only at deleted
      subst deleted
      exact absurd trivial hc

theorem SessionsKept.call (c : Effect) (inv : SessionsKept kv₀ w.kv trace)
    (fresh : FreshSessions kv₀ (trace ++ [⟨i, c, w, (handleAll env peers i c w).1⟩])) :
    SessionsKept kv₀ (handleAll env peers i c w).2.kv
      (trace ++ [⟨i, c, w, (handleAll env peers i c w).1⟩]) := by
  by_cases hc : WritesSession c
  · unfold WritesSession at hc
    split at hc
    · exact inv.save rfl fresh
    · exact inv.delete rfl
    · exact hc.elim
  · exact inv.other hc

end Sessions

/-! ## Runs -/

section Runs

variable [Unicode] [UnicodeDigits] {ι : Type} [DecidableEq ι] (console : ConsoleAuthService)
  (env : Env) (peers : ι → Peers)

/-- Calls of the console of all kinds, about to start. -/
def atConsole (requests : ι → ConsoleCall) (w : World) :
    Pool Services ServiceError ConsoleAnswer World ι where
  threads i := (requests i).program console
  state := w

/-- A sign-out of the session has completed. -/
def SignedOut (requests : ι → ConsoleCall) (c : Pool Services ServiceError ConsoleAnswer World ι)
    (sessionId : Option String) : Prop :=
  ∃ j answer, requests j = .signOut sessionId ∧ c.threads j = .ret answer

/-- The clock has reached the end of the session. -/
def SessionOver (kv₀ : Kv) (trace : List (Event Services ServiceError World ι))
    (c : Pool Services ServiceError ConsoleAnswer World ι) (sessionId : Option String) : Prop :=
  ∃ id session m, sessionId = some id ∧ SessionOf kv₀ trace id session ∧
    m ≤ c.state.readings ∧ session.expiresAt ≤ env.clock m

/-- A sign-in of its actor has opened the session, with a password it has verified against the
stored one. -/
def OpenedBySignIn (requests : ι → ConsoleCall)
    (trace : List (Event Services ServiceError World ι)) (id : String) (session : ConsoleSession) :
    Prop :=
  ∃ e ∈ trace, e.call = .store (.saveConsoleSession session) ∧ ∃ password credential,
    requests e.thread = .signIn id session.actorId password ∧
      (⟨Effect.store (.getCredential session.actorId), some credential⟩ : Handled Services) ∈
        history e.thread trace ∧
      verifyPassword console.pbkdf2 password credential.passwordHash = .ok true

/-- Lookup `i` has found the session, there at the start or opened since, and then the stored record
of its actor, whose role is not a field role. -/
def StandsFor (kv₀ : Kv) (requests : ι → ConsoleCall)
    (trace : List (Event Services ServiceError World ι)) (i : ι) (id : String) (actor : Actor) :
    Prop :=
  ∃ session : ConsoleSession, isFieldRole actor.role = false ∧
    (∃ e ∈ trace, e.thread = i ∧ e.call = .store (.getActor session.actorId) ∧
      e.state.kv (.actors session.actorId) = some actor) ∧
    ∃ before e after, trace = before ++ e :: after ∧ e.thread = i ∧
      e.call = .store (.getConsoleSession id) ∧ e.state.kv (.consoleSessions id) = some session ∧
      (kv₀ (.consoleSessions id) = some session ∨
        OpenedBySignIn console requests before id session)

omit [Unicode] [UnicodeDigits] in
/-- What a store call was answered is what it answers on the state it found. -/
theorem answer_of_event {α : Type} {c : Pool Services ServiceError α World ι} {i : ι}
    {e : Event Services ServiceError World ι} (event : c.event (handleAll env peers) i = some e)
    {call : StoreCall} {r : call.Reply} (answered : e.answered = some ⟨.store call, r⟩) :
    call.answer c.state.kv = r := by
  obtain ⟨-, state, handled⟩ := Pool.event_eq_some event
  rw [← state]
  exact Except.ok.inj (Event.reply_of_answered handled answered)

omit [Unicode] [UnicodeDigits] in
theorem readings_run {α : Type} (c : Pool Services ServiceError α World ι) (schedule : List ι) :
    c.state.readings ≤ (c.run (handleAll env peers) schedule).state.readings :=
  Pool.trace_induct (P := fun s _ => c.state.readings ≤ s.readings) (Nat.le_refl _)
    (fun s _ _ op le => le.trans (handle_readings op s)) schedule

variable {w : World} {requests : ι → ConsoleCall}

theorem console_upholds (schedule : List ι) :
    ((atConsole console requests w).run (handleAll env peers) schedule).AllUphold
      (fun i => OpensSession console (requests i)) (fun i past => EndsSession past (requests i))
      ((atConsole console requests w).trace (handleAll env peers) schedule) :=
  Pool.upholds_run (fun i => (requests i).program_opens console) schedule

theorem sessions_kept (stored : w.kv.Stored) {schedule : List ι}
    (fresh : FreshSessions w.kv
      ((atConsole console requests w).trace (handleAll env peers) schedule)) :
    SessionsKept w.kv ((atConsole console requests w).run (handleAll env peers) schedule).state.kv
      ((atConsole console requests w).trace (handleAll env peers) schedule) := by
  refine Pool.trace_induct (c := atConsole console requests w) (h := handleAll env peers)
    (P := fun s trace => FreshSessions w.kv trace → SessionsKept w.kv s.kv trace)
    (fun _ => ?_) (fun s trace i op ih fresh => (ih fresh.of_append).call op fresh) schedule fresh
  exact ⟨stored.keyed, fun id s found => .inl found, fun e mem => by cases mem⟩

section Lookup

variable {first last : List ι} {i : ι} {sessionId : Option String} {answer : ConsoleAnswer}

/-- A lookup that has returned has found nobody, or the actor of a session. -/
theorem resolves_of_ret {schedule : List ι} (asks : requests i = .resolve sessionId)
    (returned : ((atConsole console requests w).run (handleAll env peers) schedule).threads i =
      .ret answer) :
    ∃ found, answer = .resolved found ∧ ∀ actor, found = some actor → ResolvesTo sessionId
      (history i ((atConsole console requests w).trace (handleAll env peers) schedule)) actor := by
  have ends := (console_upholds console env peers schedule).of_ret returned
  rw [asks] at ends
  exact ends

/-- The session that a lookup finds, when it starts after the first part of the schedule. -/
theorem found_session (stored : w.kv.Stored) (late : i ∉ first) (fresh : FreshSessions w.kv
      ((atConsole console requests w).trace (handleAll env peers) (first ++ last))) {id : String}
    {session : ConsoleSession} (mem : ⟨Effect.store (.getConsoleSession id), some session⟩ ∈
      history i ((atConsole console requests w).trace (handleAll env peers) (first ++ last))) :
    ∃ part rest e, last = part ++ i :: rest ∧
      ((atConsole console requests w).run (handleAll env peers) (first ++ part)).event
        (handleAll env peers) i = some e ∧ e.call = .store (.getConsoleSession id) ∧
      e.state.kv (.consoleSessions id) = some session ∧ SessionsKept w.kv e.state.kv
        ((atConsole console requests w).trace (handleAll env peers) (first ++ part)) := by
  obtain ⟨part, rest, e, rfl, event, answered⟩ := Pool.event_after late mem
  refine ⟨part, rest, e, rfl, event, Event.call_of_answered answered, ?_⟩
  rw [← List.append_assoc, Pool.trace_append] at fresh
  rw [(Pool.event_eq_some event).2.1]
  exact ⟨answer_of_event env peers event answered,
    sessions_kept console env peers stored fresh.of_append⟩

/-- Who looks up a session after a sign-out of it has completed finds nobody. -/
theorem resolved_none_of_signedOut (stored : w.kv.Stored) (asks : requests i = .resolve sessionId)
    (late : i ∉ first) (fresh : FreshSessions w.kv
      ((atConsole console requests w).trace (handleAll env peers) (first ++ last)))
    (out : SignedOut requests ((atConsole console requests w).run (handleAll env peers) first)
      sessionId)
    (returned : ((atConsole console requests w).run (handleAll env peers)
      (first ++ last)).threads i = .ret answer) : answer = .resolved none := by
  obtain ⟨found, rfl, resolves⟩ := resolves_of_ret console env peers asks returned
  rcases found with _ | actor
  · rfl
  exfalso
  obtain ⟨id, session, now, named, past, -, -⟩ := resolves actor rfl
  obtain ⟨j, answer, signs, done⟩ := out
  have ends := (console_upholds console env peers first).of_ret done
  rw [signs] at ends
  obtain ⟨e', deleted, -, revoked⟩ := mem_history.1 (ends id named)
  obtain ⟨part, rest, e, -, -, -, there, kept⟩ :=
    found_session console env peers stored late fresh (past ▸ List.mem_cons_self)
  rw [Pool.trace_append] at kept
  have gone := kept.revoked e' (List.mem_append_left _ deleted) id (Event.call_of_answered revoked)
  rw [there] at gone
  cases gone

/-- Who looks up a session after the clock has reached its end finds nobody. -/
theorem resolved_none_of_over (stored : w.kv.Stored) (forward : Monotone env.clock)
    (asks : requests i = .resolve sessionId) (late : i ∉ first) (fresh : FreshSessions w.kv
      ((atConsole console requests w).trace (handleAll env peers) (first ++ last)))
    (ended : SessionOver env w.kv
      ((atConsole console requests w).trace (handleAll env peers) (first ++ last))
      ((atConsole console requests w).run (handleAll env peers) first) sessionId)
    (returned : ((atConsole console requests w).run (handleAll env peers)
      (first ++ last)).threads i = .ret answer) : answer = .resolved none := by
  obtain ⟨found, rfl, resolves⟩ := resolves_of_ret console env peers asks returned
  rcases found with _ | actor
  · rfl
  exfalso
  obtain ⟨id, session, now, named, past, notOver, -⟩ := resolves actor rfl
  obtain ⟨id', session', m, rfl, known, shown, reached⟩ := ended
  obtain rfl : id' = id := Option.some.inj (Option.filter_eq_some_iff.1 named).1
  -- the session it has found is the only one that the identifier has
  obtain ⟨part, rest, e, rfl, -, -, there, kept⟩ :=
    found_session console env peers stored late fresh (past ▸ List.mem_cons_self)
  have same : session = session' := by
    refine SessionOf.unique fresh ?_ known
    rw [← List.append_assoc, Pool.trace_append]
    exact (kept.origin id' session there).append
  -- and the clock it reads is past the end
  obtain ⟨part', -, e', -, event, answered⟩ := Pool.event_after late
    (x := (⟨Effect.utcnow, now⟩ : Handled Services)) (by rw [past]; simp)
  obtain ⟨-, state, handled⟩ := Pool.event_eq_some event
  have shows : env.clock e'.state.readings = now :=
    Except.ok.inj (Event.reply_of_answered handled answered)
  have later := readings_run env peers
    ((atConsole console requests w).run (handleAll env peers) first) part'
  rw [← Pool.run_append, ← state] at later
  refine notOver ?_
  rw [same, ← shows]
  exact reached.trans (forward (shown.trans later))

/-- A session that is stored was there at the start or was opened by a sign-in. -/
theorem openedBySignIn {schedule : List ι} {id : String} {session : ConsoleSession}
    (known : SessionOf w.kv ((atConsole console requests w).trace (handleAll env peers) schedule) id
      session) :
    w.kv (.consoleSessions id) = some session ∨ OpenedBySignIn console requests
      ((atConsole console requests w).trace (handleAll env peers) schedule) id session := by
  refine known.imp_right fun ⟨named, e, mem, saves⟩ => ⟨e, mem, saves, ?_⟩
  obtain ⟨before, after, split⟩ := List.append_of_mem mem
  have opens := Pool.upholds_event (h := handleAll env peers)
    (fun i => (requests i).program_opens console) split
  rw [saves] at opens
  obtain ⟨password, credential, asks, read, verified⟩ := opens
  refine ⟨password, credential, named ▸ asks, ?_, verified⟩
  rw [split, history_append]
  exact List.mem_append_left _ read

/-- The actor that a lookup returns. -/
theorem standsFor_of_resolved (stored : w.kv.Stored) {schedule : List ι}
    (asks : requests i = .resolve sessionId) (fresh : FreshSessions w.kv
      ((atConsole console requests w).trace (handleAll env peers) schedule)) {actor : Actor}
    (returned : ((atConsole console requests w).run (handleAll env peers) schedule).threads i =
      .ret (.resolved (some actor))) :
    ∃ id, sessionId = some id ∧ StandsFor console w.kv requests
      ((atConsole console requests w).trace (handleAll env peers) schedule) i id actor := by
  obtain ⟨_, ⟨⟩, resolves⟩ := resolves_of_ret console env peers asks returned
  obtain ⟨id, session, now, named, past, -, office⟩ := resolves actor rfl
  refine ⟨id, (Option.filter_eq_some_iff.1 named).1, session, office, ?_, ?_⟩
  · have read : (⟨Effect.store (.getActor session.actorId), some actor⟩ : Handled Services) ∈
        history i ((atConsole console requests w).trace (handleAll env peers)
          ([] ++ schedule)) := by
      rw [List.nil_append, past]
      simp
    obtain ⟨part, rest, e, rfl, event, answered⟩ :=
      Pool.event_after List.not_mem_nil read
    rw [List.nil_append] at event
    obtain ⟨after, split⟩ := Pool.trace_of_event event rest
    obtain ⟨mine, state, -⟩ := Pool.event_eq_some event
    refine ⟨e, ?_, mine, Event.call_of_answered answered, ?_⟩
    · rw [split]
      simp
    · rw [state]
      exact answer_of_event env peers event answered
  · obtain ⟨part, rest, e, rfl, event, call, there, kept⟩ := found_session console env peers stored
      List.not_mem_nil fresh (past ▸ List.mem_cons_self)
    obtain ⟨after, split⟩ := Pool.trace_of_event event rest
    exact ⟨_, e, after, split, (Pool.event_eq_some event).1, call, there,
      openedBySignIn console env peers (kept.origin id session there)⟩

end Lookup

/-- In every interleaving of calls of the console, as long as the session identifiers are fresh and
the clock does not go back, who looks up a session after a sign-out of it has completed, or after
the clock has reached its end, finds nobody; and an actor that is found is the stored record of the
one whose password opened the session, and is not of the field.  Every lookup ends when it has had
three turns. -/
theorem dead_sessions_stay_dead (stored : w.kv.Stored) (forward : Monotone env.clock)
    (requests : ι → ConsoleCall) (schedule : List ι) (fresh : FreshSessions w.kv
      ((atConsole console requests w).trace (handleAll env peers) schedule)) :
    let run := fun schedule => (atConsole console requests w).run (handleAll env peers) schedule
    let trace := (atConsole console requests w).trace (handleAll env peers) schedule
    ∀ i sessionId, requests i = .resolve sessionId →
      (∀ first last, schedule = first ++ last → i ∉ first →
        SignedOut requests (run first) sessionId ∨
          SessionOver env w.kv trace (run first) sessionId →
        ∀ answer, (run schedule).threads i = .ret answer → answer = .resolved none) ∧
      (∀ actor, (run schedule).threads i = .ret (.resolved (some actor)) →
        ∃ id, sessionId = some id ∧ StandsFor console w.kv requests trace i id actor) ∧
      (3 ≤ schedule.count i → ∃ found, (run schedule).threads i = .ret (.resolved found)) := by
  intro run trace i sessionId asks
  refine ⟨fun first last eq late dead answer returned => ?_, fun actor returned => ?_,
    fun turns => ?_⟩
  · subst eq
    rcases dead with out | ended
    · exact resolved_none_of_signedOut console env peers stored asks late fresh out returned
    · exact resolved_none_of_over console env peers stored forward asks late fresh ended returned
  · exact standsFor_of_resolved console env peers stored asks fresh returned
  · obtain ⟨answer, returned⟩ := Pool.ret_of_within (c := atConsole console requests w)
      (fun i => handle_ok env (peers i)) (i := i) (n := 3)
      (by simpa [atConsole, asks, ConsoleCall.program] using resolve_within sessionId)
      (fun _ _ => trivial) turns
    obtain ⟨found, rfl, -⟩ := resolves_of_ret console env peers asks returned
    exact ⟨found, returned⟩

end Runs

namespace Sample

/-- The supervisor is enrolled, sets a password, signs in, is looked up, signs out, and is looked
up again. -/
def shift : ℕ → ConsoleCall
  | 0 => .saveActor supervisor
  | 1 => .setPassword [1] "boss" "long enough"
  | 2 => .signIn "session" "boss" "long enough"
  | 4 => .signOut (some "session")
  | _ => .resolve (some "session")

/-- Those calls on an empty store. -/
def shiftStart : Pool Services ServiceError ConsoleAnswer World ℕ :=
  @atConsole unicode unicodeDigits ℕ console shift ⟨Kv.empty, PolicyConfig.default, 0, []⟩

/-- One after the other; the last lookup has two turns more than it needs. -/
def shiftSchedule : List ℕ := [0, 1, 1, 2, 2, 2, 2, 3, 3, 3, 4, 5, 5, 5]

end Sample

theorem shift_fresh : FreshSessions Kv.empty
    (Sample.shiftStart.trace (handleAll Sample.env fun _ => Sample.peers) Sample.shiftSchedule) :=
  ⟨by decide +kernel, by decide +kernel⟩

theorem dead_sessions_stay_dead_shift :
    let run := fun schedule =>
      Sample.shiftStart.run (handleAll Sample.env fun _ => Sample.peers) schedule
    let trace :=
      Sample.shiftStart.trace (handleAll Sample.env fun _ => Sample.peers) Sample.shiftSchedule
    ∀ i sessionId, Sample.shift i = .resolve sessionId →
      (∀ first last, Sample.shiftSchedule = first ++ last → i ∉ first →
        SignedOut Sample.shift (run first) sessionId ∨
          SessionOver Sample.env Kv.empty trace (run first) sessionId →
        ∀ answer, (run Sample.shiftSchedule).threads i = .ret answer → answer = .resolved none) ∧
      (∀ actor, (run Sample.shiftSchedule).threads i = .ret (.resolved (some actor)) →
        ∃ id, sessionId = some id ∧ @StandsFor Sample.unicode Sample.unicodeDigits ℕ _
          Sample.console Kv.empty Sample.shift trace i id actor) ∧
      (3 ≤ Sample.shiftSchedule.count i →
        ∃ found, (run Sample.shiftSchedule).threads i = .ret (.resolved found)) := by
  have fresh := shift_fresh
  unfold Sample.shiftStart at *
  exact @dead_sessions_stay_dead Sample.unicode Sample.unicodeDigits ℕ _ Sample.console Sample.env
    (fun _ => Sample.peers) ⟨Kv.empty, PolicyConfig.default, 0, []⟩ .empty
    (fun _ _ _ => Nat.le_refl _) Sample.shift Sample.shiftSchedule fresh

end ZoneGate
