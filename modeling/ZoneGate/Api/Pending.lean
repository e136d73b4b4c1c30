import ZoneGate.Api.Authorization
import ZoneGate.Authorization.Requests

/-!
# The queue of pending holds

The listing takes the newest holds first and drops the resolved ones afterwards.
`pending_queue_iff` says when that hides a hold that is still awaiting its authority.
-/

namespace ZoneGate

open Py Effects

/-! ## Taking and filtering -/

section Lists

variable {α : Type} (p : α → Bool)

/-- To filter what was taken is to take what was filtered, exactly when nothing is filtered out of
what was taken or nothing is left in the rest. -/
theorem filter_take_eq_take_filter_iff (l : List α) (m : ℕ) :
    (l.take m).filter p = (l.filter p).take m ↔
      (∀ a ∈ l.take m, p a = true) ∨ ∀ a ∈ l.drop m, p a = false := by
  have split : (l.take m).filter p ++ (l.drop m).filter p = l.filter p := by
    rw [← List.filter_append, List.take_append_drop]
  have bound : (l.take m).length ≤ m := List.length_take_le m l
  constructor
  · intro same
    by_contra neither
    obtain ⟨someOut, someLeft⟩ := not_or.1 neither
    push Not at someOut someLeft
    obtain ⟨a, ha, out⟩ := someOut
    obtain ⟨b, hb, left⟩ := someLeft
    have shorter : ((l.take m).filter p).length < (l.take m).length :=
      List.length_filter_lt_length_iff_exists.2 ⟨a, ha, out⟩
    have left' : 0 < ((l.drop m).filter p).length :=
      List.length_pos_of_mem (List.mem_filter.2 ⟨hb, by simpa using left⟩)
    have total := congrArg List.length split
    have lengths := congrArg List.length same
    rw [List.length_append] at total
    rw [List.length_take (l := l.filter p)] at lengths
    omega
  · rintro (kept | gone)
    · have whole : (l.take m).filter p = l.take m := List.filter_eq_self.2 kept
      rw [← split, whole]
      by_cases short : (l.take m).length = m
      · rw [List.take_append_of_le_length (Nat.le_of_eq short.symm), List.take_take, Nat.min_self]
      · have all : l.length ≤ m := by
          rw [List.length_take] at short bound
          omega
        rw [List.drop_eq_nil_of_le all, List.filter_nil, List.append_nil, List.take_take,
          Nat.min_self]
    · have none : (l.drop m).filter p = [] :=
        List.filter_eq_nil_iff.2 fun a ha => by simp [gone a ha]
      rw [← split, none, List.append_nil]
      exact (List.take_of_length_le ((List.length_filter_le _ _).trans bound)).symm

end Lists

/-! ## The holds in the store -/

/-- The stored holds, newest first. -/
def Kv.holds (kv : Kv) : List PolicyDecision :=
  (kv.decisionIds.filterMap fun id => kv (.decisions id)).filter fun d => d.decision = .hold

/-- Every stored decision is on the list of decisions. -/
theorem Kv.Stored.mem_decisionIds {kv : Kv} (h : kv.Stored) {id : String} {d : PolicyDecision}
    (hd : kv (.decisions id) = some d) : id ∈ kv.decisionIds := by
  induction h with
  | empty => cases hd
  | @exec c kv _ ih =>
    cases c with
    | saveDecision d' =>
      change id ∈ d'.decisionId :: kv.decisionIds.erase d'.decisionId
      rw [StoreCall.saveDecision_decisions] at hd
      split_ifs at hd with hid
      · rw [hid]
        exact List.mem_cons_self
      · exact List.mem_cons_of_mem _ ((List.mem_erase_of_ne hid).2 (ih hd))
    | _ => exact ih hd

theorem Kv.Stored.mem_holds {kv : Kv} (h : kv.Stored) (d : PolicyDecision) :
    d ∈ kv.holds ↔ d.decision = .hold ∧ ∃ id, kv (.decisions id) = some d := by
  rw [Kv.holds, List.mem_filter, List.mem_filterMap]
  constructor
  · rintro ⟨⟨id, -, stored⟩, hold⟩
    exact ⟨by simpa using hold, id, stored⟩
  · rintro ⟨hold, id, stored⟩
    exact ⟨⟨id, h.mem_decisionIds stored, stored⟩, by simpa using hold⟩

namespace AuthorizationController

variable {env : Env} {peers : Peers}

theorem listAuthorizationDecisions_run (decision : Option DecisionOutcome) (pending : Bool)
    (limit : ℤ) (w : World) :
    (listAuthorizationDecisions decision pending limit).run (handle env peers) w =
      (.ok (narrow pending (w.kv.listDecisions (decision.map DecisionOutcome.value)
        (clamp limit 500))), w) := rfl

/-- The store lists the newest holds, up to the limit. -/
theorem listDecisions_hold (kv : Kv) (limit : ℤ) :
    kv.listDecisions (some DecisionOutcome.hold.value) limit = kv.holds.take limit.toNat := by
  have wanted : wantedOutcome (some DecisionOutcome.hold.value) =
      fun d : PolicyDecision => decide (d.decision = .hold) := by
    funext d
    cases h : d.decision <;> simp [wantedOutcome, h, DecisionOutcome.value]
  rw [Kv.listDecisions, Kv.listLoop_eq _ _ _ _ _ (by simp), wanted]
  simp [Kv.holds]

/-- The listing is the first part of all pending holds, and not empty if there is one. -/
def HidesNothing (kv : Kv) (size : ℕ) (listed : List PolicyDecision) : Prop :=
  listed = (kv.holds.filter isPending).take size ∧
    ((∃ d ∈ kv.holds, isPending d = true) → listed ≠ [])

/-- The pending queue hides nothing exactly when the newest holds, up to the limit, are all pending
or no older hold is. -/
theorem pending_queue_iff (env : Env) (peers : Peers) (w : World) (stored : w.kv.Stored) (n : ℤ) :
    let size := (min (max 1 n) 500).toNat
    (∀ d, d ∈ w.kv.holds ↔ d.decision = .hold ∧ ∃ id, w.kv (.decisions id) = some d) ∧
      ∃ listed, (listAuthorizationDecisions (some .hold) true n).run (handle env peers) w =
          (.ok listed, w) ∧
        (HidesNothing w.kv size listed ↔
          (∀ d ∈ w.kv.holds.take size, isPending d = true) ∨
            ∀ d ∈ w.kv.holds.drop size, isPending d = false) := by
  intro size
  have clamped : (clamp n 500).toNat = size := by
    simp only [clamp, size]
    omega
  have positive : 0 < size := by
    simp only [size]
    omega
  refine ⟨stored.mem_holds, _, listAuthorizationDecisions_run (some .hold) true n w, ?_⟩
  rw [Option.map_some, listDecisions_hold, clamped, narrow, if_pos rfl,
    ← filter_take_eq_take_filter_iff]
  refine ⟨fun h => h.1, fun same => ⟨same, ?_⟩⟩
  rintro ⟨d, hd, pending⟩ none
  rw [none] at same
  have waiting : 0 < (w.kv.holds.filter isPending).length :=
    List.length_pos_of_mem (List.mem_filter.2 ⟨hd, pending⟩)
  have empty := congrArg List.length same
  rw [List.length_take, List.length_nil] at empty
  omega

end AuthorizationController

/-! ## A hold that is hidden -/

/-- Two holds, of which the later one is denied. -/
def Sample.twoHolds : Served :=
  Sample.served [.enroll Sample.operator, .bindDevice Sample.binding,
    .authorize false (Sample.hazardous "r"), .authorize false (Sample.hazardous "s"),
    .resolve "dec_000000000001" .deny "Officer" "" none]

theorem Sample.twoHolds_stored : Sample.twoHolds.world.kv.Stored := by
  unfold Sample.twoHolds Sample.served
  exact @Served.serve_stored Sample.unicode Sample.service Sample.env (fun _ => Sample.peers) _
    .empty _

open AuthorizationController in
theorem pending_queue_iff_twoHolds :
    ∃ listed, (listAuthorizationDecisions (some .hold) true 1).run
        (handle Sample.env Sample.peers) Sample.twoHolds.world = (.ok listed, Sample.twoHolds.world) ∧
      (HidesNothing Sample.twoHolds.world.kv 1 listed ↔
        (∀ d ∈ Sample.twoHolds.world.kv.holds.take 1, isPending d = true) ∨
          ∀ d ∈ Sample.twoHolds.world.kv.holds.drop 1, isPending d = false) :=
  (pending_queue_iff Sample.env Sample.peers Sample.twoHolds.world Sample.twoHolds_stored 1).2

/-- The listing of one pending hold is empty, and a hold is still pending. -/
theorem pending_hold_hidden :
    let listing := (AuthorizationController.listAuthorizationDecisions (some .hold) true 1).run
      (handle Sample.env Sample.peers) Sample.twoHolds.world
    listing.1 = .ok [] ∧
      (∃ d ∈ Sample.twoHolds.world.kv.holds, AuthorizationController.isPending d = true) ∧
      ∀ listed, listing.1 = .ok listed →
        ¬ AuthorizationController.HidesNothing Sample.twoHolds.world.kv 1 listed := by
  intro listing
  have empty : listing.1 = .ok [] := by decide +kernel
  have pending : Sample.twoHolds.world.kv.holds.any AuthorizationController.isPending = true := by
    decide +kernel
  have waiting := List.any_eq_true.1 pending
  refine ⟨empty, waiting, fun listed returned hides => ?_⟩
  rw [empty] at returned
  cases returned
  exact hides.2 waiting rfl

end ZoneGate
