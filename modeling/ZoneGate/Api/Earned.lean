import ZoneGate.Api.References
import ZoneGate.Authorization.SpentTokens

/-!
# What tokens are issued for

Requests to all endpoints overlap, call by call.  Every token that comes on record can be traced
back to the request that issued it, and to what this request had in its hands: the carrier's answers
to an authorization, or the verdict of somebody who was signed in and held the authority.
-/

namespace ZoneGate

open Py Effects

section Runs

variable {ι : Type} [DecidableEq ι] {env : Env} {peers : ι → Peers}

/-- The request that issued the token had earned it. -/
def IssuedIn (svc : AuthorizationService) (requests : ι → HttpRequest) (trace : HttpTrace ι)
    (t : ScopedAuthorizationToken) : Prop :=
  ∃ before e after t₀, trace = before ++ e :: after ∧ e.call = .store (.saveToken t₀) ∧
    t₀.core = t.core ∧ Earned svc (requests e.thread).AsksFor (history e.thread before) t₀

theorem IssuedIn.snoc {svc : AuthorizationService} {requests : ι → HttpRequest}
    {trace : HttpTrace ι} {t : ScopedAuthorizationToken} (h : IssuedIn svc requests trace t)
    (e : Event Services ServiceError World ι) : IssuedIn svc requests (trace ++ [e]) t := by
  obtain ⟨before, e₀, after, t₀, rfl, issues, same, earned⟩ := h
  exact ⟨before, e₀, after ++ [e], t₀, by simp, issues, same, earned⟩

theorem IssuedIn.of_core {svc : AuthorizationService} {requests : ι → HttpRequest}
    {trace : HttpTrace ι} {t t' : ScopedAuthorizationToken} (h : IssuedIn svc requests trace t)
    (same : t.core = t'.core) : IssuedIn svc requests trace t' := by
  obtain ⟨before, e, after, t₀, split, issues, same₀, earned⟩ := h
  exact ⟨before, e, after, t₀, split, issues, same₀.trans same, earned⟩

/-- Every token of the store was there at the start, or has been issued since. -/
def TokensIssued (svc : AuthorizationService) (requests : ι → HttpRequest) (start : Kv)
    (trace : HttpTrace ι) (kv : Kv) : Prop :=
  ∀ id t, kv (.tokens id) = some t → start (.tokens id) ≠ none ∨ IssuedIn svc requests trace t

theorem TokensIssued.snoc {svc : AuthorizationService} {requests : ι → HttpRequest} {start kv : Kv}
    {trace : HttpTrace ι} (h : TokensIssued svc requests start trace kv)
    (e : Event Services ServiceError World ι) :
    TokensIssued svc requests start (trace ++ [e]) kv :=
  fun id t stored => (h id t stored).imp_right (·.snoc e)

/-- What every call of a run keeps: all stores so far had tokens of known origin only. -/
structure OriginsKnown (svc : AuthorizationService) (env : Env) (peers : ι → Peers)
    (requests : ι → HttpRequest) (start : Kv) (trace : HttpTrace ι) (kv : Kv) : Prop where
  answered : AnsweredBy env peers trace
  keyed : kv.Keyed
  issued : TokensIssued svc requests start trace kv
  keyedBefore : ∀ e ∈ trace, e.state.kv.Keyed
  issuedBefore : ∀ e ∈ trace, TokensIssued svc requests start trace e.state.kv

/-- A token that a request saves on the strength of its history is one of known origin. -/
theorem OriginsKnown.saved {svc : AuthorizationService} {requests : ι → HttpRequest} {start kv : Kv}
    {trace : HttpTrace ι} (h : OriginsKnown svc env peers requests start trace kv) {i : ι}
    {t : ScopedAuthorizationToken}
    (justified : Justified svc (requests i).AsksFor (history i trace) (.store (.saveToken t)))
    (reply : Except ServiceError Unit) (s : World) :
    start (.tokens t.tokenId) ≠ none ∨
      IssuedIn svc requests (trace ++ [⟨i, .store (.saveToken t), s, reply⟩]) t := by
  rcases justified with ⟨-, earned⟩ | ⟨identifier, found, now, mem, rfl⟩
  · exact .inr ⟨trace, _, [], t, rfl, rfl, rfl, earned⟩
  · -- a claim: the token was on record when the request read it
    obtain ⟨e, there, -, answer⟩ := mem_history.1 mem
    have read : e.state.kv.getToken identifier = some found :=
      Except.ok.inj (Event.reply_of_answered (h.answered e there) answer)
    have stored := Kv.tokens_of_getToken (h.keyedBefore e there) read
    exact (h.issuedBefore e there _ found stored).imp_right fun issued =>
      (issued.snoc _).of_core rfl

theorem OriginsKnown.call {svc : AuthorizationService} {requests : ι → HttpRequest} {start : Kv}
    {trace : HttpTrace ι} {w : World} (h : OriginsKnown svc env peers requests start trace w.kv)
    {i : ι} {c : Effect} (justified : Justified svc (requests i).AsksFor (history i trace) c) :
    OriginsKnown svc env peers requests start
      (trace ++ [⟨i, c, w, (handleAll env peers i c w).1⟩]) (handleAll env peers i c w).2.kv := by
  refine ⟨h.answered.snoc i c w, handle_keyed c w h.keyed, fun id t stored => ?_,
    fun e mem => ?_, fun e mem => ?_⟩
  · by_cases saves : IsSaveToken c
    · obtain ⟨t', rfl⟩ : ∃ t', c = .store (.saveToken t') := by
        unfold IsSaveToken at saves
        split at saves
        · exact ⟨_, rfl⟩
        · exact saves.elim
      rcases ite_eq_iff.1 ((StoreCall.saveToken_tokens w.kv t' id).symm.trans stored) with
        ⟨rfl, eq⟩ | ⟨-, old⟩
      · cases eq
        exact h.saved justified _ w
      · exact (h.issued id t old).imp_right (·.snoc _)
    · rw [show (handleAll env peers i c w).2.kv (.tokens id) = w.kv (.tokens id) from
        handle_tokens env (peers i) saves w id] at stored
      exact (h.issued id t stored).imp_right (·.snoc _)
  · rcases List.mem_append.1 mem with before | last
    · exact h.keyedBefore e before
    · obtain rfl := List.mem_singleton.1 last
      exact h.keyed
  · rcases List.mem_append.1 mem with before | last
    · exact (h.issuedBefore e before).snoc _
    · obtain rfl := List.mem_singleton.1 last
      exact h.issued.snoc _

/-! ## What the issuing request had -/

/-- Request `i` asks for this very scope; it has looked up the actor and the device that the actor is
bound to, and then has asked the carrier for all that a release needs; the carrier has answered each
check with what lets a release through. -/
def OnEvidence [Unicode] (svc : AuthorizationService) (requests : ι → HttpRequest)
    (before : HttpTrace ι) (i : ι) (t : ScopedAuthorizationToken) : Prop :=
  ∃ transaction actor binding area, ScopedTo transaction t ∧
    Identified World.kv requests before i transaction actor binding ∧
    areaOf svc.zoneRegistry transaction.zone = some area ∧
    ∀ c ∈ checks binding.phoneNumber area, c.kind ∈ svc.requires releaseCargoPolicy →
      Asked World.kv requests before i transaction actor binding c fun e => ∃ a,
        e.answered = some ⟨Effect.carrier c, .answered a⟩ ∧ Passes c a

/-- Somebody who was signed in to request `i` and held the authority has approved the hold that the
token names; the request has looked up the transaction on file under that of the hold, and the token
is for this one. -/
def OnAuthority [Unicode] (env : Env) (requests : ι → HttpRequest) (before : HttpTrace ι) (i : ι)
    (t : ScopedAuthorizationToken) : Prop :=
  ∃ cookie data who d r transaction first e rest,
    requests i = .resolveHold cookie t.decisionId data ∧
    before = first ++ e :: rest ∧ Authenticated env first i cookie who ∧
    e.thread = i ∧ e.call = .store (.saveDecision d) ∧
    d.decisionId = t.decisionId ∧ ResolvedBy who data d r ∧ r.outcome = .approve ∧
    ScopedTo transaction t ∧ ∃ e' ∈ before, e'.thread = i ∧
      e'.call = .store (.getTransaction d.transactionId) ∧
      e'.state.kv (.transactions d.transactionId) = some transaction

variable [Unicode] [UnicodeDigits] (svc : AuthorizationService) (console : ConsoleAuthService)
  (settings : Settings)

theorem origins_known (env : Env) (peers : ι → Peers) (requests : ι → HttpRequest) {w : World}
    (keyed : w.kv.Keyed) (schedule : List ι) :
    OriginsKnown svc env peers requests w.kv
      ((serving svc console settings requests w).trace (handleAll env peers) schedule)
      ((serving svc console settings requests w).run (handleAll env peers) schedule).state.kv := by
  have start : (serving svc console settings requests w).AllUphold
      (fun i => Justified svc (requests i).AsksFor) (fun _ _ _ => True) [] := fun i =>
    (requests i).program_justified svc console settings
  have known := (start.induct (h := handleAll env peers) (P := fun s trace =>
    OriginsKnown svc env peers requests w.kv trace s.kv) ?_ ?_ schedule).2
  · rwa [List.nil_append] at known
  · have there (id : String) (t : ScopedAuthorizationToken) (stored : w.kv (.tokens id) = some t) :
        w.kv (.tokens id) ≠ none := by simp [stored]
    refine ⟨fun e mem => ?_, keyed, fun id t stored => .inl (there id t stored), fun e mem => ?_,
      fun e mem => ?_⟩ <;> cases mem
  · exact fun s trace i c justified known => known.call justified

/-- However the requests to the endpoints overlap, a token under an identifier that was not in use
has been issued either to a request for its very scope, after the carrier had confirmed all that a
release needs, or to the resolution of a hold by somebody who was signed in and held the authority
that the hold required, who approved it. -/
theorem tokens_earned (env : Env) (peers : ι → Peers) (requests : ι → HttpRequest) {w : World}
    (keyed : w.kv.Keyed) (schedule : List ι) {id : String} {t : ScopedAuthorizationToken}
    (stored : ((serving svc console settings requests w).run (handleAll env peers)
      schedule).state.kv (.tokens id) = some t) (new : w.kv (.tokens id) = none) :
    ∃ before e after issued,
      (serving svc console settings requests w).trace (handleAll env peers) schedule =
        before ++ e :: after ∧
      e.call = .store (.saveToken issued) ∧ issued.core = t.core ∧
      (OnEvidence svc requests before e.thread t ∨
        OnAuthority env requests before e.thread t) := by
  have known := origins_known svc console settings env peers requests keyed schedule
  obtain ⟨before, e, after, t₀, split, issues, same, earned⟩ :=
    (known.issued id t stored).resolve_left (not_not.2 new)
  refine ⟨before, e, after, t₀, split, issues, same, ?_⟩
  have scopes {tx : TransactionRequest} (h : ScopedTo tx t₀) : ScopedTo tx t := by
    cases t₀
    cases t
    cases same
    exact ⟨h.actorId, h.action, h.resourceId, h.zone⟩
  have handled : ∀ e' ∈ before, e'.reply =
      (handleAll env peers e'.thread e'.call e'.state).1 := fun e' earlier =>
    known.answered e' (mem_of_split split earlier)
  have found {c : Effect} {r : c.Reply}
      (there : (⟨c, r⟩ : Handled Services) ∈ history e.thread before) :
      ∃ e' ∈ before, e'.thread = e.thread ∧ e'.call = c ∧ e'.answered = some ⟨c, r⟩ ∧
        (handleAll env peers e'.thread c e'.state).1 = .ok r := by
    obtain ⟨e', mem, thread, answered⟩ := mem_history.1 there
    exact ⟨e', mem, thread, Event.call_of_answered answered, answered,
      Event.reply_of_answered (known.answered e' (mem_of_split split mem)) answered⟩
  cases earned with
  | @approved transaction actor binding area asks attested scope =>
    have identified : Identified World.kv requests before e.thread transaction actor binding :=
      .of_read (fun _ _ _ => rfl) handled asks attested.bound attested.read
    obtain ⟨e₁, mem₁, -, -, enrolled⟩ := identified.enrolled
    have itself : actor.actorId = transaction.actorId := known.keyedBefore e₁
      (mem_of_split split mem₁) (.actors transaction.actorId) actor enrolled
    refine .inl ⟨transaction, actor, binding, area, scopes (scope itself), identified,
      attested.located, fun c mem required => ?_⟩
    obtain ⟨a, replied, passes⟩ := attested.passed c mem required
    refine (Asked.of_replied (fun _ _ _ => rfl) handled asks attested.bound replied).mono ?_
    exact fun e' found => ⟨a, found.2, passes⟩
  | @released d r transaction saved resolved approves names read scope =>
    obtain ⟨e₁, mem₁, thread₁, saves, -⟩ := found saved
    obtain ⟨e₂, mem₂, thread₂, looksUp, -, transactionRead⟩ := found read
    obtain ⟨first, rest, split₁⟩ := List.append_of_mem mem₁
    have whole : (serving svc console settings requests w).trace (handleAll env peers) schedule =
        first ++ e₁ :: (rest ++ e :: after) := by
      rw [split, split₁]
      simp
    obtain ⟨cookie, data, who, asks, authenticated, by_⟩ :=
      resolvedBy_of_saved svc console settings keyed whole saves resolved
    have names' : d.decisionId = t.decisionId := by
      cases t₀
      cases t
      cases same
      exact names.symm
    rw [thread₁, names'] at asks
    rw [thread₁] at authenticated
    exact .inr ⟨cookie, data, who, d, r, transaction, first, e₁, rest, asks, split₁, authenticated,
      thread₁, saves, names', by_, approves, scopes scope, e₂, mem₂, thread₂, looksUp,
      Except.ok.inj transactionRead⟩

end Runs

/-! ## A release with a token -/

theorem tokens_earned_release :
    ∃ t, (Sample.releasing.run (handleAll Sample.env fun _ => Sample.peers)
        (List.replicate 25 ())).state.kv (.tokens "tok_000000000001") = some t ∧
      ∃ before e after issued, Sample.releasingTrace = before ++ e :: after ∧
        e.call = .store (.saveToken issued) ∧ issued.core = t.core ∧
        (@OnEvidence Unit Sample.unicode Sample.service
            (fun _ => .requestAuthorization Sample.general) before e.thread t ∨
          @OnAuthority Unit Sample.unicode Sample.env
            (fun _ => .requestAuthorization Sample.general) before e.thread t) := by
  have issued : ((Sample.releasing.run (handleAll Sample.env fun _ => Sample.peers)
      (List.replicate 25 ())).state.kv (.tokens "tok_000000000001")).isSome = true := by
    decide +kernel
  obtain ⟨t, stored⟩ := Option.isSome_iff_exists.1 issued
  exact ⟨t, stored, @tokens_earned Unit _ Sample.unicode Sample.unicodeDigits Sample.service
    Sample.console {} Sample.env (fun _ => Sample.peers)
    (fun _ => .requestAuthorization Sample.general) Sample.world Sample.world_consistent.keyed
    (List.replicate 25 ()) "tok_000000000001" t stored rfl⟩

end ZoneGate
