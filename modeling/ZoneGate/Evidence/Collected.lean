import ZoneGate.Authorization.Runs
import ZoneGate.Library.Trace

/-!
# What the gateway asks

The gateway asks the planned checks in its own order, each once, and nothing after a check that
raised.  The evidence has a value for what was planned and answered and for nothing else.
-/

namespace ZoneGate

open Py Effects

/-- A list up to the first element with `p`, and with it. -/
def upTo {α : Type} (p : α → Prop) [DecidablePred p] : List α → List α
  | [] => []
  | a :: as => if p a then [a] else a :: upTo p as

example : upTo (2 ≤ ·) [0, 1, 2, 3] = [0, 1, 2] := by decide

instance {α : Type} : DecidablePred (@CarrierReply.Errs α) := fun reply =>
  match reply with
  | .answered _ | .declined _ => inferInstanceAs (Decidable False)
  | .gatewayError _ | .raised _ => inferInstanceAs (Decidable True)

/-- The calls of the carrier in a history, oldest first. -/
def carrierCalls (past : List (Handled Services)) : List CarrierCall :=
  past.filterMap fun x => match x.1 with
    | .carrier c => some c
    | _ => none

theorem carrierCalls_append (first last : List (Handled Services)) :
    carrierCalls (first ++ last) = carrierCalls first ++ carrierCalls last :=
  List.filterMap_append ..

/-- The checks of the plan. -/
def plannedOf (plan : ValidatedEvidencePlan) (calls : List CarrierCall) : List CarrierCall :=
  calls.filter fun c => c.kind ∈ plan.combined

/-- The gateway refuses before it asks anything. -/
def Blocked (actor : Actor) (binding : DeviceBinding) (plan : ValidatedEvidencePlan) : Prop :=
  Mismatched actor binding ∨ ∃ k ∈ plan.combined, k ∉ supportedCapabilities

/-- The fields of the evidence, each with the check that fills it. -/
def CanonicalEvidence.fields (evidence : CanonicalEvidence) (phoneNumber : String)
    (area : Geofence) : List (CarrierCall × Option Bool) :=
  [(.verifyNumber phoneNumber, evidence.numberVerified),
    (.verifyLocation phoneNumber area, evidence.locationVerified),
    (.checkSimSwap phoneNumber, evidence.recentSimSwap),
    (.checkDeviceSwap phoneNumber, evidence.recentDeviceSwap),
    (.getReachability phoneNumber, evidence.reachable)]

/-- The evidence is what the carrier answered to the planned checks. -/
structure Records (carrier : (c : CarrierCall) → CarrierReply c.Answer)
    (plan : ValidatedEvidencePlan) (phoneNumber : String) (area : Geofence)
    (evidence : CanonicalEvidence) : Prop where
  filled : ∀ x ∈ evidence.fields phoneNumber area, x.2 ≠ none →
    x.1.kind ∈ plan.combined ∧ ∃ a, carrier x.1 = .answered a
  answered : ∀ x ∈ evidence.fields phoneNumber area, x.1.kind ∈ plan.combined →
    ∀ a, carrier x.1 = .answered a → x.2 = x.1.read a
  silent : ∀ x ∈ evidence.fields phoneNumber area,
    x.1.kind ∉ plan.combined ∨ (∃ m, carrier x.1 = .declined m) → x.2 = none
  located : evidence.locationVerified = some true ↔
    .locationVerification ∈ plan.combined ∧
      carrier (.verifyLocation phoneNumber area) = .answered .true
  elsewhere : evidence.locationVerified = some false ↔
    .locationVerification ∈ plan.combined ∧
      ∃ a, carrier (.verifyLocation phoneNumber area) = .answered a ∧ a ≠ .true
  kycMatch : evidence.kycMatch = none

/-! ## The calls -/

section Calls

variable {env : Env} {peers : Peers} {plan : ValidatedEvidencePlan} {w : World}

/-- One check, before the ones that come after it whatever it gives. -/
theorem carrierCalls_ask {β : Type} (c : CarrierCall) {later : List CarrierCall}
    {f : Option Bool → ExceptT GatewayError Service β}
    (rest : ∀ a, carrierCalls (Prog.answers (handle env peers) (f a).run w) =
      upTo (fun c => (peers.carrier c).Errs) (plannedOf plan later)) :
    carrierCalls (Prog.answers (handle env peers) (askCarrier plan c >>= f).run w) =
      upTo (fun c => (peers.carrier c).Errs) (plannedOf plan (c :: later)) := by
  rw [Prog.answers_except_bind, carrierCalls_append, askCarrier_run]
  by_cases hk : c.kind ∈ plan.combined
  · have asks : carrierCalls (Prog.answers (handle env peers) (askCarrier plan c).run w) = [c] := by
      simp only [askCarrier, ExceptT.run_mk, if_pos hk]
      rfl
    have planned : plannedOf plan (c :: later) = c :: plannedOf plan later := by
      simp [plannedOf, hk]
    rw [asks, planned, upTo, asked, if_pos hk]
    rcases peers.carrier c with a | m | e | m
    · simp [readReply, CarrierReply.Errs, rest]
    · simp [readReply, CarrierReply.Errs, rest]
    · simp [readReply, CarrierReply.Errs, carrierCalls]
    · simp [readReply, CarrierReply.Errs, carrierCalls]
  · have asks : Prog.answers (handle env peers) (askCarrier plan c).run w = [] := by
      simp only [askCarrier, ExceptT.run_mk, if_neg hk]
      rfl
    have planned : plannedOf plan (c :: later) = plannedOf plan later := by
      simp [plannedOf, hk]
    rw [asks, planned, asked, if_neg hk, ← rest none]
    rfl

/-- The five checks. -/
theorem carrierCalls_gather (phoneNumber : String) (area : Geofence) :
    carrierCalls (Prog.answers (handle env peers)
        (gather (askCarrier plan) phoneNumber area).run w) =
      upTo (fun c => (peers.carrier c).Errs) (plannedOf plan (checks phoneNumber area)) := by
  unfold gather checks
  apply carrierCalls_ask
  intro number
  apply carrierCalls_ask
  intro location
  apply carrierCalls_ask
  intro simSwap
  apply carrierCalls_ask
  intro deviceSwap
  apply carrierCalls_ask
  intro reachable
  rfl

variable {registry : List (String × Geofence)} {actor : Actor} {binding : DeviceBinding}
  {transaction : TransactionRequest} {area : Geofence}

theorem checks_of_not_blocked (h : ¬ Blocked actor binding plan) :
    validateActorDeviceBinding actor binding = .ok () ∧
      checkCapabilities plan.combined = .ok () := by
  simp only [Blocked, not_or, not_exists, not_and, not_not] at h
  exact ⟨validateActorDeviceBinding_eq_ok.2 h.1, checkCapabilities_eq_ok.2 h.2⟩

variable (registry transaction) in
/-- A refusal comes before any call. -/
theorem collectEvidence_blocked (h : Blocked actor binding plan) :
    ∃ e, (collectEvidence registry actor binding transaction plan).run = Prog.ret (.error e) := by
  rcases hbinding : validateActorDeviceBinding actor binding with e | ⟨⟩
  · exact ⟨e, by simp only [collectEvidence, hbinding]; rfl⟩
  rcases hplan : checkCapabilities plan.combined with e | ⟨⟩
  · exact ⟨e, by simp only [collectEvidence, hbinding, hplan]; rfl⟩
  rcases h with bad | ⟨k, hk, bad⟩
  · exact absurd bad (validateActorDeviceBinding_eq_ok.1 hbinding)
  · exact absurd (checkCapabilities_eq_ok.1 hplan k hk) bad

theorem carrierCalls_collectEvidence (harea : areaOf registry transaction.zone = some area)
    (h : ¬ Blocked actor binding plan) :
    carrierCalls (Prog.answers (handle env peers)
        (collectEvidence registry actor binding transaction plan).run w) =
      upTo (fun c => (peers.carrier c).Errs)
        (plannedOf plan (checks binding.phoneNumber area)) := by
  obtain ⟨hbinding, hplan⟩ := checks_of_not_blocked h
  simp only [collectEvidence, harea, hbinding, hplan]
  change carrierCalls (Prog.answers _
    (gather (askCarrier plan) binding.phoneNumber area >>= _).run w) = _
  rw [Prog.answers_except_bind, carrierCalls_append, carrierCalls_gather]
  apply List.append_right_eq_self.2
  split <;> rfl

/-! ## The evidence -/

theorem collected_of_not_blocked (carrier : (c : CarrierCall) → CarrierReply c.Answer)
    (area : Geofence) (h : ¬ Blocked actor binding plan) :
    collected carrier actor binding area plan =
      gather (asked carrier plan) binding.phoneNumber area := by
  obtain ⟨hbinding, hplan⟩ := checks_of_not_blocked h
  rw [collected, hbinding, hplan]
  rfl

theorem fields_asked {carrier : (c : CarrierCall) → CarrierReply c.Answer} {phoneNumber : String}
    {evidence : CanonicalEvidence} (h : Reads carrier plan phoneNumber area evidence) :
    ∀ x ∈ evidence.fields phoneNumber area, asked carrier plan x.1 = .ok x.2 := by
  simp only [CanonicalEvidence.fields, List.forall_mem_cons]
  exact ⟨h.number, h.location, h.simSwap, h.deviceSwap, h.reachable, by simp⟩

/-- What was read is what was answered. -/
theorem Reads.records {carrier : (c : CarrierCall) → CarrierReply c.Answer} {phoneNumber : String}
    {evidence : CanonicalEvidence} (h : Reads carrier plan phoneNumber area evidence)
    (kycMatch : evidence.kycMatch = none) : Records carrier plan phoneNumber area evidence where
  filled x hx some := by
    obtain ⟨b, hb⟩ := Option.ne_none_iff_exists'.1 some
    have read := fields_asked h x hx
    rw [hb] at read
    obtain ⟨hk, a, ha, -⟩ := (asked_eq_some carrier plan x.1 b).1 read
    exact ⟨hk, a, ha⟩
  answered x hx hk a ha := by
    have read := fields_asked h x hx
    rw [asked, if_pos hk, ha] at read
    exact (Except.ok.inj read).symm
  silent x hx quiet := by
    have read := fields_asked h x hx
    rw [asked] at read
    split_ifs at read with hk
    · obtain ⟨m, hm⟩ := quiet.resolve_left (not_not_intro hk)
      rw [hm] at read
      exact (Except.ok.inj read).symm
    · exact (Except.ok.inj read).symm
  located := by
    have iff := asked_eq_some carrier plan (.verifyLocation phoneNumber area) true
    rw [h.location] at iff
    simpa [CarrierCall.read, CarrierCall.kind] using iff
  elsewhere := by
    have iff := asked_eq_some carrier plan (.verifyLocation phoneNumber area) false
    rw [h.location] at iff
    simpa [CarrierCall.read, CarrierCall.kind] using iff
  kycMatch := kycMatch

end Calls

/-- The gateway asks exactly what is planned: nothing when it refuses, and else the planned checks
in its order up to the first that raises.  It raises in these cases and in no other, and the
evidence is what was answered. -/
theorem collectEvidence_total (env : Env) (peers : Peers) (registry : List (String × Geofence))
    (actor : Actor) (binding : DeviceBinding) (transaction : TransactionRequest)
    (plan : ValidatedEvidencePlan) (w : World) (default : Geofence)
    (hdefault : registry.lookup "DEFAULT_ZONE" = some default) :
    let area := (registry.lookup transaction.zone).getD default
    let planned := plannedOf plan (checks binding.phoneNumber area)
    let program := (collectEvidence registry actor binding transaction plan).run
    let calls := carrierCalls (program.answers (handle env peers) w)
    (Blocked actor binding plan → calls = []) ∧
      (¬ Blocked actor binding plan → calls = upTo (fun c => (peers.carrier c).Errs) planned) ∧
      ∃ outcome, (program.run (handle env peers) w).1 = .ok outcome ∧
        ((∃ e, outcome = .error e) ↔
          Blocked actor binding plan ∨ ∃ c ∈ planned, (peers.carrier c).Errs) ∧
        ∀ evidence, outcome = .ok evidence →
          Records peers.carrier plan binding.phoneNumber area evidence := by
  intro area planned program calls
  have harea : areaOf registry transaction.zone = some area := by
    rw [areaOf, hdefault]
    rfl
  by_cases blocked : Blocked actor binding plan
  · obtain ⟨e, refused⟩ := collectEvidence_blocked registry transaction blocked
    refine ⟨fun _ => ?_, fun h => absurd blocked h, .error e, ?_, by simp [blocked], by simp⟩
    · rw [show calls = carrierCalls (program.answers (handle env peers) w) from rfl,
        show program = .ret (.error e) from refused]
      rfl
    · rw [show program = .ret (.error e) from refused]
      rfl
  have run : program.run (handle env peers) w = _ :=
    collectEvidence_run harea actor binding plan w
  rw [collected_of_not_blocked peers.carrier area blocked] at run
  have mem (c : CarrierCall) : c ∈ planned ↔
      c ∈ checks binding.phoneNumber area ∧ c.kind ∈ plan.combined := by
    simp [planned, plannedOf]
  refine ⟨fun h => absurd h blocked, fun _ => carrierCalls_collectEvidence harea blocked, ?_⟩
  rcases gather_cases (asked peers.carrier plan) binding.phoneNumber area with
    ⟨evidence, hgather, answers, fields⟩ | ⟨e, hgather, c, hc, raised⟩
  · rw [hgather] at run
    refine ⟨_, congrArg Prod.fst run, ⟨by simp, ?_⟩, ?_⟩
    · rintro (h | ⟨c, hc, errs⟩)
      · exact absurd h blocked
      · obtain ⟨hc, hk⟩ := (mem c).1 hc
        obtain ⟨e, he⟩ := asked_eq_error.2 ⟨hk, errs⟩
        obtain ⟨a, ha⟩ := answers c hc
        rw [ha] at he
        cases he
    · rintro _ ⟨⟩
      obtain ⟨number, location, simSwap, deviceSwap, reachable, -, kycMatch⟩ :=
        fields (env.clock w.readings)
      exact Reads.records ⟨number, location, simSwap, deviceSwap, reachable⟩ kycMatch
  · rw [hgather] at run
    obtain ⟨hk, errs⟩ := asked_eq_error.1 ⟨e, raised⟩
    refine ⟨_, congrArg Prod.fst run, ⟨fun _ => ?_, fun _ => ⟨e, rfl⟩⟩, by simp⟩
    exact .inr ⟨c, (mem c).2 ⟨hc, hk⟩, errs⟩

/-! ### A carrier that fails -/

namespace Sample

/-- The SIM swap check breaks down. -/
def failingPeers : Peers :=
  { peers with
    carrier := fun
      | .checkSimSwap _ => .raised "timeout"
      | c => peers.carrier c }

/-- Three checks, in no order and with a repetition. -/
def scatteredPlan : ValidatedEvidencePlan where
  mandatory := [.numberVerification]
  combined := [.reachability, .simSwap, .numberVerification, .simSwap]

end Sample

/-- The number is asked, then the SIM swap, and then nothing. -/
theorem collectEvidence_total_failing :
    carrierCalls ((collectEvidence defaultZoneRegistry Sample.operator Sample.binding
        Sample.general Sample.scatteredPlan).run.answers (handle Sample.env Sample.failingPeers)
          Sample.world) = [.verifyNumber "+1", .checkSimSwap "+1"] := by
  have collects := collectEvidence_total Sample.env Sample.failingPeers defaultZoneRegistry
    Sample.operator Sample.binding Sample.general Sample.scatteredPlan Sample.world
    ⟨⟨false, 377749, -4⟩, ⟨true, 1224194, -4⟩, 1000⟩ (by decide)
  have asks : ¬ Blocked Sample.operator Sample.binding Sample.scatteredPlan := by
    simp [Blocked, Mismatched, Sample.operator, Sample.binding, Sample.scatteredPlan,
      supportedCapabilities]
  exact (collects.2.1 asks).trans (by decide)

end ZoneGate
