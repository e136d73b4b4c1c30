import ZoneGate.App.Startup
import ZoneGate.Library.Registers

/-!
# Updates of the policy

An update saves the configuration and then gives it to the engine, in two steps between which other
requests go on.  So the engine runs what an update of somebody who was signed in has saved before,
but two updates that cross leave the one in the store and the other in the engine, and the next
start-up changes how the engine decides.
-/

namespace ZoneGate

open Py Effects

section Registers

variable {ι : Type} (env : Env) (peers : ι → Peers)

/-- What the store has for the next start-up. -/
def storedPolicy : Register (handleAll env peers) PolicyConfig where
  read w := w.booted.config
  writes
    | .store (.savePolicyConfig config) => some config
    | _ => none
  read_after i c w := by
    cases c with
    | store c =>
      cases c with
      | savePolicyConfig config =>
        have stored : (PolicyText.categories config.restrictedCategories).parse = some config := by
          rw [PolicyText.parse, PolicyConfig.checkCategories_self]
          rfl
        exact congrArg (fun found => Option.getD found PolicyConfig.default) stored
      | _ => rfl
    | _ => rfl

/-- What the engine decides by. -/
def enginePolicy : Register (handleAll env peers) PolicyConfig where
  read w := w.config
  writes
    | .setEngineConfig config => some config
    | _ => none
  read_after i c w := by cases c <;> rfl

variable {env peers} {e : Event Services ServiceError World ι} {config : PolicyConfig}

theorem storedPolicy_puts :
    (storedPolicy env peers).Puts e config ↔ e.call = .store (.savePolicyConfig config) := by
  obtain ⟨i, c, w, reply⟩ := e
  change (storedPolicy env peers).writes c = _ ↔ c = _
  unfold storedPolicy
  dsimp only
  split <;> simp_all

theorem enginePolicy_puts :
    (enginePolicy env peers).Puts e config ↔ e.call = .setEngineConfig config := by
  obtain ⟨i, c, w, reply⟩ := e
  change (enginePolicy env peers).writes c = _ ↔ c = _
  unfold enginePolicy
  dsimp only
  split <;> simp_all

end Registers

/-! ## What an update does -/

section Programs

/-- An update gives to the engine what it has saved before. -/
def HttpRequest.SavesFirst (request : HttpRequest) (past : List (Handled Services)) (c : Effect) :
    Prop :=
  ∀ cookie data, request = .updateConfig cookie data → c = .setEngineConfig data →
    (⟨Effect.store (.savePolicyConfig data), ()⟩ : Handled Services) ∈ past

/-- An update that has ended has given to the engine what it has saved. -/
def HttpRequest.Finishes (request : HttpRequest) (past : List (Handled Services)) :
    Except ServiceError HttpAnswer → Prop
  | .ok _ => ∀ cookie data, request = .updateConfig cookie data →
      (⟨Effect.store (.savePolicyConfig data), ()⟩ : Handled Services) ∈ past →
        (⟨Effect.setEngineConfig data, ()⟩ : Handled Services) ∈ past
  | .error _ => True

/-- No policy is saved. -/
def NoPolicies (past : List (Handled Services)) : Prop :=
  ∀ config, (⟨Effect.store (.savePolicyConfig config), ()⟩ : Handled Services) ∉ past

variable [Unicode]

/-- The lookup of whoever is signed in saves no policy. -/
theorem requireConsoleActor_noPolicies (request : HttpRequest) (cookie : Option String) :
    Prog.Upholds request.SavesFirst (fun past _ => NoPolicies past)
      (requireConsoleActor cookie).run [] := by
  refine .of_callsOnly (P := NoPolicies) (requireConsoleActor_callsOnly cookie)
    (fun past c hc none => ⟨fun _ _ _ sets => ?_, fun r config mem => ?_⟩) fun _ => List.not_mem_nil
  · rw [sets] at hc
    exact hc.elim
  · rcases List.mem_append.1 mem with earlier | new
    · exact none config earlier
    · cases List.mem_singleton.1 new
      exact hc.elim

variable [UnicodeDigits] (svc : AuthorizationService) (console : ConsoleAuthService)
  (settings : Settings)

theorem HttpRequest.program_savesFirst (request : HttpRequest) :
    (request.program svc console settings).Upholds request.SavesFirst request.Finishes [] := by
  by_cases updates : ∃ cookie data, request = .updateConfig cookie data
  swap
  · refine Prog.upholds_of_forall (fun _ _ cookie data same => ?_) (fun _ result => ?_) _ _
    · exact absurd ⟨cookie, data, same⟩ updates
    · cases result with
      | ok answer => exact fun cookie data same => absurd ⟨cookie, data, same⟩ updates
      | error e => trivial
  obtain ⟨cookie, data, rfl⟩ := updates
  refine Prog.Upholds.bind (ρ := fun past result => ∀ answer, result = .ok answer →
    (⟨Effect.store (.savePolicyConfig data), ()⟩ : Handled Services) ∈ past →
      (⟨Effect.setEngineConfig data, ()⟩ : Handled Services) ∈ past) ?_
    (fun past answer finishes => ?_) fun _ _ _ => trivial
  · refine (requireConsoleActor_noPolicies _ cookie).except_bind (fun past who none => ?_)
      (fun past _ none _ _ saved => absurd saved (none data)) fun _ _ _ => by rintro _ ⟨⟩
    refine ⟨?_, ?_, fun _ => ⟨?_, ?_, fun _ => ?_⟩⟩
    · rintro _ _ - ⟨⟩
    · rintro _ _ ⟨⟩
    · rintro _ _ ⟨⟩ -
      simp
    · rintro _ _ ⟨⟩
    · intro _ _ _
      simp
  · rintro cookie' data' ⟨⟩
    exact finishes answer rfl

end Programs

/-! ## Runs -/

section Runs

variable {ι : Type} [DecidableEq ι] {env : Env} {peers : ι → Peers} [Unicode] [UnicodeDigits]
  {svc : AuthorizationService} {console : ConsoleAuthService} {settings : Settings}
  {requests : ι → HttpRequest} {w : World} {schedule : List ι}

/-- Whoever saves a policy or gives one to the engine updates it, signed in. -/
theorem updates_of_policy {before after : HttpTrace ι} {e : Event Services ServiceError World ι}
    (keyed : w.kv.Keyed)
    (split : (serving svc console settings requests w).trace (handleAll env peers) schedule =
      before ++ e :: after) {config : PolicyConfig}
    (policy : e.call = .store (.savePolicyConfig config) ∨ e.call = .setEngineConfig config) :
    ∃ cookie who, requests e.thread = .updateConfig cookie config ∧
      Authenticated env before e.thread cookie who := by
  have upholds := Pool.upholds_event
    (fun i => (requests i).program_gated console svc settings) split
  have protects : e.call.Protected := by
    rcases policy with saves | sets
    · rw [saves]; trivial
    · rw [sets]; trivial
  obtain ⟨who, signedIn, entitled⟩ := upholds protects
  have authenticated := signedIn.authenticated
    (c := serving svc console settings requests w) keyed schedule split
  cases asks : requests e.thread with
  | updateConfig cookie data =>
    rw [asks] at entitled authenticated
    obtain rfl : config = data := by
      rcases policy with saves | sets
      · rw [saves] at entitled
        exact entitled
      · rw [sets] at entitled
        exact entitled
    exact ⟨cookie, who, rfl, authenticated⟩
  | _ =>
    rw [asks] at entitled
    rcases policy with saves | sets
    · rw [saves] at entitled
      exact entitled.elim
    · rw [sets] at entitled
      exact entitled.elim

/-- What an update gives to the engine it has saved before. -/
theorem saved_of_sets {before after : HttpTrace ι} {e : Event Services ServiceError World ι}
    (keyed : w.kv.Keyed)
    (split : (serving svc console settings requests w).trace (handleAll env peers) schedule =
      before ++ e :: after) {config : PolicyConfig} (sets : e.call = .setEngineConfig config) :
    ∃ e' ∈ before, e'.thread = e.thread ∧ e'.call = .store (.savePolicyConfig config) := by
  obtain ⟨cookie, who, asks, -⟩ := updates_of_policy keyed split (.inr sets)
  have first := Pool.upholds_event
    (fun i => (requests i).program_savesFirst svc console settings) split cookie config asks sets
  obtain ⟨e', mem, same, answered⟩ := mem_history.1 first
  exact ⟨e', mem, same, Event.call_of_answered answered⟩

/-- Every update that has saved its policy has ended. -/
def UpdatesEnded (c : HttpRequests ι) (trace : HttpTrace ι) : Prop :=
  ∀ e ∈ trace, ∀ config, e.call = .store (.savePolicyConfig config) →
    ∃ answer, c.threads e.thread = .ret answer

/-- The store and the engine are written alike, once no update is on its way. -/
theorem updates_mirror (keyed : w.kv.Keyed)
    (ended : UpdatesEnded ((serving svc console settings requests w).run (handleAll env peers)
      schedule) ((serving svc console settings requests w).trace (handleAll env peers) schedule)) :
    (storedPolicy env peers).Mirrors (enginePolicy env peers)
      ((serving svc console settings requests w).trace (handleAll env peers) schedule) := by
  refine ⟨fun before e after config split sets => ?_, fun e mem config saves => ?_⟩
  · obtain ⟨e', mem, same, saves⟩ := saved_of_sets keyed split (enginePolicy_puts.1 sets)
    exact ⟨e', mem, same, storedPolicy_puts.2 saves⟩
  have saves := storedPolicy_puts.1 saves
  obtain ⟨before, after, split⟩ := List.append_of_mem mem
  obtain ⟨cookie, who, asks, -⟩ := updates_of_policy keyed split (.inl saves)
  obtain ⟨answer, returned⟩ := ended e mem config saves
  have finishes := (Pool.upholds_run (h := handleAll env peers)
    (fun i => (requests i).program_savesFirst svc console settings) schedule).of_ret returned
  have there : (⟨Effect.store (.savePolicyConfig config), ()⟩ : Handled Services) ∈
      history e.thread ((serving svc console settings requests w).trace (handleAll env peers)
        schedule) := by
    refine mem_history.2 ⟨e, mem, rfl, ?_⟩
    obtain ⟨i, c, s, reply⟩ := e
    obtain rfl : c = .store (.savePolicyConfig config) := saves
    have replied : reply = .ok () := Pool.reply_of_mem_trace mem
    rw [replied]
    rfl
  obtain ⟨e', mem', same, answered⟩ := mem_history.1 (finishes cookie config asks there)
  exact ⟨e', mem', same, enginePolicy_puts.2 (Event.call_of_answered answered)⟩

variable (svc console settings) in
/-- However the requests to the endpoints overlap, the engine decides by what it had at the start or
by what an update of somebody who was signed in has saved before; and if the next start-up would
make it decide by anything else while no update is on its way, then two updates have crossed. -/
theorem updates_settle (env : Env) (peers : ι → Peers) (requests : ι → HttpRequest) {w : World}
    (keyed : w.kv.Keyed) (started : w.booted.config = w.config) (schedule : List ι) :
    let c := (serving svc console settings requests w).run (handleAll env peers) schedule
    let trace := (serving svc console settings requests w).trace (handleAll env peers) schedule
    (c.state.config = w.config ∨ ∃ before e middle e' after cookie who,
      trace = before ++ e :: (middle ++ e' :: after) ∧
      e.call = .store (.savePolicyConfig c.state.config) ∧
      e'.call = .setEngineConfig c.state.config ∧ e'.thread = e.thread ∧
      requests e.thread = .updateConfig cookie c.state.config ∧
      Authenticated env before e.thread cookie who) ∧
    (UpdatesEnded c trace → c.state.booted.config ≠ c.state.config → ∃ i j cookie cookie',
      requests i = .updateConfig cookie c.state.config ∧
      requests j = .updateConfig cookie' c.state.booted.config ∧
      (storedPolicy env peers).Crossed (enginePolicy env peers) trace i c.state.config j
        c.state.booted.config) := by
  intro c trace
  refine ⟨?_, fun ended differ => ?_⟩
  · rcases (enginePolicy env peers).origin (serving svc console settings requests w) schedule with
      ⟨same, -⟩ | ⟨before, e', after, split, last⟩
    · exact .inl same
    · have sets := enginePolicy_puts.1 last.puts
      obtain ⟨e, mem, same, saves⟩ := saved_of_sets keyed split sets
      obtain ⟨first, middle, rfl⟩ := List.append_of_mem mem
      have whole : trace = first ++ e :: (middle ++ e' :: after) := by simpa using split
      obtain ⟨cookie, who, asks, authenticated⟩ := updates_of_policy keyed whole (.inl saves)
      exact .inr ⟨first, e, middle, e', after, cookie, who, whole, saves, sets, same.symm, asks,
        authenticated⟩
  · obtain ⟨i, j, crossed⟩ := (updates_mirror keyed ended).crossed started differ
    have asked {t₁ t₂ : HttpTrace ι} {e : Event Services ServiceError World ι} {i : ι}
        {config : PolicyConfig} (split : trace = t₁ ++ e :: t₂) (thread : e.thread = i)
        (puts : (storedPolicy env peers).Puts e config) :
        ∃ cookie, requests i = .updateConfig cookie config := by
      obtain ⟨cookie, who, asks, -⟩ := updates_of_policy keyed split (.inl (storedPolicy_puts.1 puts))
      exact ⟨cookie, thread ▸ asks⟩
    obtain ⟨t₁, e, t₂, e', t₃, split, thread, puts, thread', puts'⟩ := crossed.2.1
    obtain ⟨cookie, asks⟩ := asked split thread puts
    have split' : trace = (t₁ ++ e :: t₂) ++ e' :: t₃ := by simpa using split
    obtain ⟨cookie', asks'⟩ := asked split' thread' puts'
    exact ⟨i, j, cookie, cookie', asks, asks', crossed⟩

end Runs

/-! ## Two updates that cross -/

namespace Sample

/-- The officer updates the policy in two windows of the console. -/
def updates (first : Bool) : HttpRequest :=
  .updateConfig (some "session") (if first then weapons else .default)

def updating : HttpRequests Bool :=
  @serving unicode unicodeDigits Bool service console {} updates officerSignedIn

/-- The second update goes on between the two steps of the first one. -/
def crossing : List Bool := List.replicate 4 true ++ List.replicate 5 false ++ [true]

def hasEnded : Service HttpAnswer → Bool
  | .ret _ => true
  | _ => false

theorem updating_ended : UpdatesEnded (updating.run (handleAll env fun _ => peers) crossing)
    (updating.trace (handleAll env fun _ => peers) crossing) := by
  intro e _ _ _
  have all (i : Bool) : hasEnded ((updating.run (handleAll env fun _ => peers) crossing).threads i) =
      true := by
    cases i <;> decide +kernel
  have mine := all e.thread
  unfold hasEnded at mine
  split at mine
  · exact ⟨_, by assumption⟩
  · cases mine

end Sample

theorem updates_settle_crossing :
    let c := Sample.updating.run (handleAll Sample.env fun _ => Sample.peers) Sample.crossing
    c.state.booted.config ≠ c.state.config ∧ ∃ i j,
      (storedPolicy Sample.env fun _ => Sample.peers).Crossed
        (enginePolicy Sample.env fun _ => Sample.peers)
        (Sample.updating.trace (handleAll Sample.env fun _ => Sample.peers) Sample.crossing)
        i c.state.config j c.state.booted.config := by
  intro c
  have differ : c.state.booted.config ≠ c.state.config := by decide +kernel
  refine ⟨differ, ?_⟩
  obtain ⟨i, j, _, _, -, -, crossed⟩ := (@updates_settle Bool _ Sample.unicode Sample.unicodeDigits
    Sample.service Sample.console {} Sample.env (fun _ => Sample.peers) Sample.updates
    Sample.officerSignedIn Sample.officerSignedIn_keyed rfl Sample.crossing).2
    Sample.updating_ended differ
  exact ⟨i, j, crossed⟩

end ZoneGate
