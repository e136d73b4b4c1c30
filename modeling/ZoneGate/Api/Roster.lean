import ZoneGate.Api.Requests

/-!
# Edits of the permissions that overlap

An update checks the permissions it has read and writes the whole record back in a later store
call.  `no_lost_update_iff` says when that loses what somebody else has written.
-/

namespace ZoneGate

open Py Effects

section Updates

variable [Unicode]

/-! ## What an update writes -/

/-- The calls that led here end with the read of an actor. -/
def LastRead (past : List (Handled Services)) (actorId : String) (read : Actor) : Prop :=
  past.getLast? = some ⟨Effect.store (.getActor actorId), some read⟩

/-- An update writes the record it has just read, with the permissions it was sent, provided that
the record has the expected ones. -/
def WritesRead (actorId : String) (data : PermissionUpdateRequest) (past : List (Handled Services))
    (c : Effect) : Prop :=
  ∀ u, c = .store (.saveActor u) → ∃ read, LastRead past actorId read ∧
    read.permissions.Perm data.expectedPermissions ∧
    u = { read with permissions := ActorsController.cleaned data.permissions }

/-- The actor was saved. -/
def Saved (past : List (Handled Services)) (u : Actor) : Prop :=
  ⟨Effect.store (.saveActor u), ()⟩ ∈ past

namespace ActorsController

theorem updatePermissions_upholds (cookie : Option String) (actorId : String)
    (data : PermissionUpdateRequest) :
    Prog.Upholds (WritesRead actorId data)
      (fun past result => ∀ u, result = .ok (.ok u) → Saved past u)
      (updatePermissions cookie actorId data).run [] := by
  have guard : Prog.Upholds (WritesRead actorId data) (fun _ _ => True)
      (requireConsoleActor cookie).run [] := by
    refine Prog.Upholds.of_callsOnly (requireConsoleActor_callsOnly cookie) ?_ trivial
    intro past c ofSession _
    refine ⟨fun u save => ?_, fun _ => trivial⟩
    rw [save] at ofSession
    exact ofSession.elim
  rw [updatePermissions]
  refine guard.except_bind (fun past _ _ => ?_) (fun _ _ _ => nofun) (fun _ _ _ => nofun)
  simp only [Prog.run_lift_bind, Prog.perform_eq, Prog.call_bind, Prog.ret_bind]
  refine ⟨nofun, fun _ => nofun, fun found => ?_⟩
  cases found with
  | none => exact nofun
  | some read =>
    dsimp only
    split_ifs with differs
    · exact nofun
    have expected : read.permissions.Perm data.expectedPermissions :=
      sorted_eq_iff.1 (not_not.1 differs)
    rw [Prog.run_lift_bind]
    refine ⟨?_, fun _ => nofun, fun _ => ?_⟩
    · rintro u ⟨⟩
      exact ⟨read, List.getLast?_concat, expected, rfl⟩
    · rintro u ⟨⟩
      exact List.mem_append_right _ (List.mem_singleton.2 rfl)

end ActorsController

theorem ApiRequest.program_upholds (svc : AuthorizationService) (console : ConsoleAuthService)
    (request : ApiRequest) :
    (request.program svc console).Upholds
      (fun past c => ∀ cookie actorId data, request = .updatePermissions cookie actorId data →
        WritesRead actorId data past c)
      (fun past result => ∀ u, result = .ok (.updated u) → Saved past u) [] := by
  cases request with
  | updatePermissions cookie actorId data =>
    have updates := ActorsController.updatePermissions_upholds cookie actorId data
    refine Prog.Upholds.bind (updates.mono ?_ fun _ _ h => h) (fun past result h => ?_)
      fun _ _ _ => nofun
    · rintro past c writes _ _ _ ⟨⟩
      exact writes
    · cases result with
      | error e => exact nofun
      | ok a =>
        rintro u ⟨⟩
        exact h a rfl
  | authorize listener transaction =>
    refine Prog.Upholds.bind (Prog.upholds_of_forall (fun _ _ => nofun) (fun _ _ => trivial) _ _)
      (fun _ _ _ => nofun) fun _ _ _ => nofun
  | enroll salt cookie data =>
    refine Prog.Upholds.bind (Prog.upholds_of_forall (fun _ _ => nofun) (fun _ _ => trivial) _ _)
      (fun past result _ => ?_) fun _ _ _ => nofun
    cases result <;> exact nofun

end Updates

/-! ## Runs -/

section Runs

variable {ι : Type} [DecidableEq ι]

/-- The write of an update: the event, with the events before it. -/
structure UpdateWrite (requests : ι → ApiRequest) (trace before : ApiTrace ι)
    (e : Event Services ServiceError World ι) (actorId : String) (data : PermissionUpdateRequest)
    (u : Actor) : Prop where
  split : ∃ after, trace = before ++ e :: after
  request : ∃ cookie, requests e.thread = .updatePermissions cookie actorId data
  call : e.call = .store (.saveActor u)

/-- The stored record differs from the other one in the permissions at most. -/
def SameButPermissions (stored other : Actor) : Prop :=
  { stored with permissions := other.permissions } = other

/-- Who answers that the permissions are updated has made a write, and every write of an update
replaces a record with the permissions it expected, and changes only these. -/
structure NoLostUpdate (requests : ι → ApiRequest) (c : ApiRequests ι) (trace : ApiTrace ι) :
    Prop where
  written : ∀ i cookie actorId data u, requests i = .updatePermissions cookie actorId data →
    c.threads i = .ret (.updated u) →
      ∃ before e, e.thread = i ∧ UpdateWrite requests trace before e actorId data u
  replaced : ∀ before e actorId data u, UpdateWrite requests trace before e actorId data u →
    ∃ stored, e.state.kv (.actors actorId) = some stored ∧
      stored.permissions.Perm data.expectedPermissions ∧ SameButPermissions stored u

/-- At every write of an update the stored record is the one the update has read, up to the order
of the permissions. -/
def WritesOnRead (requests : ι → ApiRequest) (trace : ApiTrace ι) : Prop :=
  ∀ before e actorId data u, UpdateWrite requests trace before e actorId data u →
    ∀ read, LastRead (history e.thread before) actorId read →
      ∃ stored, e.state.kv (.actors actorId) = some stored ∧
        stored.permissions.Perm read.permissions ∧ SameButPermissions stored read

theorem SameButPermissions.of_update {stored read : Actor} (permissions : List String) :
    SameButPermissions stored { read with permissions := permissions } ↔
      SameButPermissions stored read := by
  cases stored
  cases read
  simp [SameButPermissions]

variable [Unicode]

/-- No update is lost exactly when every update writes on the record it has read. -/
theorem no_lost_update_iff (svc : AuthorizationService) (console : ConsoleAuthService) (env : Env)
    (peers : ι → Peers) (w : World) (requests : ι → ApiRequest) (schedule : List ι) :
    let start := concurrent svc console requests w
    let trace := start.trace (handleAll env peers) schedule
    NoLostUpdate requests (start.run (handleAll env peers) schedule) trace ↔
      WritesOnRead requests trace := by
  intro start trace
  have programs (i : ι) := (requests i).program_upholds svc console
  -- what an update writes is what it has read last, but for the permissions
  have writes {before e actorId data u} (h : UpdateWrite requests trace before e actorId data u) :
      WritesRead actorId data (history e.thread before) e.call := by
    obtain ⟨⟨after, split⟩, ⟨cookie, request⟩, -⟩ := h
    exact Pool.upholds_event (h := handleAll env peers) programs split cookie actorId data request
  constructor
  · intro safe before e actorId data u h read last
    obtain ⟨stored, found, expected, same⟩ := safe.replaced before e actorId data u h
    obtain ⟨read', last', perm, rfl⟩ := writes h u h.call
    obtain rfl : read' = read := by
      have same := last'.symm.trans last
      cases same
      rfl
    exact ⟨stored, found, expected.trans perm.symm, (SameButPermissions.of_update _).1 same⟩
  · intro onRead
    refine ⟨fun i cookie actorId data u request answered => ?_, fun before e actorId data u h => ?_⟩
    · have saved :=
        (Pool.upholds_run (h := handleAll env peers) programs schedule).of_ret answered u
        rfl
      obtain ⟨e, mem, mine, reply⟩ := mem_history.1 saved
      obtain ⟨before, after, split⟩ := List.append_of_mem mem
      exact ⟨before, e, mine, ⟨after, split⟩, ⟨cookie, mine ▸ request⟩,
        Event.call_of_answered reply⟩
    · obtain ⟨read, last, perm, rfl⟩ := writes h u h.call
      obtain ⟨stored, found, order, same⟩ := onRead before e actorId data _ h read last
      exact ⟨stored, found, order.trans perm, (SameButPermissions.of_update _).2 same⟩

end Runs

/-! ## A lost update -/

/-- Two editors who both see the one permission of the operator and replace it, each by another. -/
def twoEditors (first : Bool) : ApiRequest :=
  .updatePermissions (some "session") "op"
    ⟨[if first then "cargo:inspect" else "cargo:weigh"], ["cargo:release"], by simp⟩

/-- The first editor has read the record before the second one reads and writes. -/
def editedTwice : List Bool :=
  List.replicate 4 true ++ List.replicate 5 false ++ [true]

/-- The two updates, run to their ends. -/
def editedTwiceRun : ApiRequests Bool :=
  (Sample.overlap twoEditors).run (handleAll Sample.env fun _ => Sample.peers) editedTwice

def editedTwiceTrace : ApiTrace Bool :=
  (Sample.overlap twoEditors).trace (handleAll Sample.env fun _ => Sample.peers) editedTwice

/-- The actor that a call saves, with the permissions of the operator at that time. -/
def savedOver (e : Event Services ServiceError World Bool) : Option (Actor × List String) :=
  match e.call with
  | .store (.saveActor u) => (e.state.kv (.actors "op")).map fun stored => (u, stored.permissions)
  | _ => none

theorem savedOver_eq_some {e : Event Services ServiceError World Bool} {u : Actor}
    {permissions : List String} (h : savedOver e = some (u, permissions)) :
    e.call = .store (.saveActor u) ∧
      (e.state.kv (.actors "op")).map (·.permissions) = some permissions := by
  unfold savedOver at h
  split at h
  · rename_i hcall
    obtain ⟨stored, found, same⟩ := Option.map_eq_some_iff.1 h
    cases same
    exact ⟨hcall, by rw [found]; rfl⟩
  · cases h

/-- Both updates succeed, and the first editor replaces what the second one has just written. -/
theorem update_lost :
    (∀ first, ∃ u, editedTwiceRun.threads first = .ret (.updated u)) ∧
      ¬ NoLostUpdate twoEditors editedTwiceRun editedTwiceTrace := by
  constructor
  · intro first
    refine ⟨{ Sample.operator with
      permissions := [if first then "cargo:inspect" else "cargo:weigh"] }, ?_⟩
    apply Prog.eq_ret_of_returned
    revert first
    decide +kernel
  intro safe
  have written : (true, some ({ Sample.operator with permissions := ["cargo:inspect"] },
      ["cargo:weigh"])) ∈ editedTwiceTrace.map fun e => (e.thread, savedOver e) := by
    decide +kernel
  obtain ⟨e, mem, seen⟩ := List.mem_map.1 written
  obtain ⟨mine, saved⟩ := Prod.mk.inj seen
  obtain ⟨call, permissions⟩ := savedOver_eq_some saved
  obtain ⟨before, after, split⟩ := List.append_of_mem mem
  obtain ⟨stored, found, expected, -⟩ := safe.replaced before e "op" _ _
    ⟨⟨after, split⟩, ⟨some "session", by rw [mine]; rfl⟩, call⟩
  have other : stored.permissions = ["cargo:weigh"] := by simpa [found] using permissions
  rw [other] at expected
  revert expected
  decide

end ZoneGate
