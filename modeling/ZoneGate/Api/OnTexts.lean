import ZoneGate.Api.References
import ZoneGate.Library.Refinement
import ZoneGate.Storage.Texts

/-!
# Requests on the database of texts

The requests of the deployment, served from the texts in the database instead of from records.  A
store call runs its job, of which any write may fail, and reads may find a text that is no such
record.  `texts_refine_records` shows that requests are served from texts as they are from records.
-/

namespace ZoneGate

open Py Effects Cells Cells.Session

/-! ## Serving from a database -/

/-- What the service keeps, with the database it uses. -/
structure Deployed (D : Type) where
  db : D
  config : PolicyConfig
  readings : ℕ
  drawn : List String

/-- A job on a database: what it returns or raises, and the database it leaves. -/
abbrev StoreJob (D : Type) := (c : StoreCall) → D → Except ServiceError c.Reply × D

/-- Answer the calls of a request, where a store call is a job on the database. -/
def handleOn {D : Type} (job : StoreJob D) (env : Env) (peers : Peers) :
    Handler Services ServiceError (Deployed D)
  | .store c, s => ((job c s.db).1, { s with db := (job c s.db).2 })
  | .utcnow, s => (.ok (env.clock s.readings), { s with readings := s.readings + 1 })
  | .uuid4, s =>
      (.ok (env.uuid s.drawn.length), { s with drawn := env.uuid s.drawn.length :: s.drawn })
  | .engineConfig, s => (.ok s.config, s)
  | .setEngineConfig config, s => (.ok (), { s with config := config })
  | .notify _, s => (.ok (), s)
  | .plan transaction workflowName allowed, s =>
      (.ok (peers.planner transaction workflowName allowed), s)
  | .evaluateContext transaction evidence, s => (.ok (peers.evaluator transaction evidence), s)
  | .carrier c, s => (.ok (peers.carrier c), s)

/-- What a job on records raises is a write that failed. -/
def raisedOn {α D : Type} : Except Fault α × D → Except ServiceError α × D
  | (.ok a, db) => (.ok a, db)
  | (.error fault, db) => (.error (.store (toString fault.attempt)), db)

/-- What a job on texts raises is that, or the `ValidationError` of a text, which is a
`ValueError`. -/
def raisedOnTexts {α D : Type} : Except Fault (Except Cell α) × D → Except ServiceError α × D
  | (.ok (.ok a), db) => (.ok a, db)
  | (.ok (.error cell), db) => (.error (.value cell.address.1), db)
  | (.error fault, db) => (.error (.store (toString fault.attempt)), db)

/-- The jobs on records. -/
def onRecords (faults : ℕ → Bool) : StoreJob (Database Cell.Doc) :=
  fun c db => raisedOn ((c.job faults).on db)

/-- The jobs on texts. -/
def onTexts (faults : ℕ → Bool) : StoreJob (Database (Raw (String × String) String)) :=
  fun c db => raisedOnTexts (Session.on (c.textJob faults).run db)

/-! ## The same replies -/

/-- Databases that are related, and the same of all else. -/
structure Deployed.Same {D' D : Type} (R : D' → D → Prop) (s' : Deployed D') (s : Deployed D) :
    Prop where
  db : R s'.db s.db
  config : s'.config = s.config
  readings : s'.readings = s.readings
  drawn : s'.drawn = s.drawn

/-- Jobs that agree on related databases are served alike. -/
theorem handleOn_matches {D' D : Type} {R : D' → D → Prop} {job' : StoreJob D'} {job : StoreJob D}
    (agree : ∀ c db' db, R db' db → (job' c db').1 = (job c db).1 ∧ R (job' c db').2 (job c db).2)
    (env : Env) (peers : Peers) :
    Matches (Deployed.Same R) (handleOn job' env peers) (handleOn job env peers) := by
  rintro c ⟨db', config, readings, drawn⟩ ⟨db, _, _, _⟩ ⟨related, rfl, rfl, rfl⟩
  cases c with
  | store c => exact ⟨(agree c db' db related).1, (agree c db' db related).2, rfl, rfl, rfl⟩
  | _ => exact ⟨rfl, related, rfl, rfl, rfl⟩

theorem onTexts_agree (faults : ℕ → Bool) (c : StoreCall)
    (raw : Database (Raw (String × String) String)) (db : Database Cell.Doc)
    (mirrors : storedTexts.Mirrors raw db) :
    (onTexts faults c raw).1 = (onRecords faults c db).1 ∧
      storedTexts.Mirrors (onTexts faults c raw).2 (onRecords faults c db).2 := by
  unfold onTexts onRecords
  obtain ⟨raw', db', after, ⟨e, h', h⟩ | ⟨r, h', h⟩⟩ :=
    (c.textJob_decodes faults).outcome mirrors
  · rw [h', h]
    exact ⟨rfl, after⟩
  · rw [h', h]
    exact ⟨rfl, after⟩

/-- The world, with its contents in a database without an open transaction. -/
structure Deployed.Holds (s : Deployed (Database Cell.Doc)) (w : World) : Prop where
  committed : s.db.committed = w.kv
  closed : s.db.working = none
  config : s.config = w.config
  readings : s.readings = w.readings
  drawn : s.drawn = w.drawn

/-- When no write fails, jobs on records are answered as the calls of a world. -/
theorem handleOn_records_matches {faults : ℕ → Bool} (quiet : ∀ k, faults k = false) (env : Env)
    (peers : Peers) :
    Matches Deployed.Holds (handleOn (onRecords faults) env peers) (handle env peers) := by
  rintro c ⟨⟨kv, _, n⟩, config, readings, drawn⟩ ⟨_, _, _, _⟩ ⟨rfl, rfl, rfl, rfl, rfl⟩
  cases c with
  | store c =>
    obtain ⟨m, completes⟩ := c.job_on_quiet quiet kv n
    have returned : onRecords faults c ⟨kv, none, n⟩ =
        (.ok (c.answer kv), ⟨c.exec kv, none, m⟩) := by
      rw [onRecords, completes, raisedOn]
    simp only [handleOn, handle, returned]
    exact ⟨trivial, rfl, rfl, rfl, rfl, rfl⟩
  | _ => exact ⟨rfl, rfl, rfl, rfl, rfl, rfl⟩

/-! ## Every run -/

section Runs

variable {ι : Type} [DecidableEq ι] [Unicode] [UnicodeDigits] (svc : AuthorizationService)
  (console : ConsoleAuthService) (settings : Settings)

/-- Requests to the endpoints, about to start on a database with these contents; all else is as in
the world. -/
def servingFrom {L : Type} {V : L → Type} (requests : ι → HttpRequest) (contents : Store V)
    (w : World) : Pool Services ServiceError HttpAnswer (Deployed (Database V)) ι where
  threads i := (requests i).program svc console settings
  state := ⟨⟨contents, none, 0⟩, w.config, w.readings, w.drawn⟩

/-- Requests are served from the texts in the database as from the records these texts stand for:
however they overlap, wherever they stop and whatever writes fail, every request makes the same
calls and returns or raises the same, and the texts stand for the records that are left.  When no
write fails, both are the run on the world. -/
theorem texts_refine_records (faults : ℕ → Bool) (env : Env) (peers : ι → Peers)
    (requests : ι → HttpRequest) {texts : Texts} {w : World}
    (represented : storedTexts.Represents texts w.kv) (schedule : List ι) :
    let fromTexts := (servingFrom svc console settings requests texts w).run
      (fun i => handleOn (onTexts faults) env (peers i)) schedule
    let fromRecords := (servingFrom svc console settings requests w.kv w).run
      (fun i => handleOn (onRecords faults) env (peers i)) schedule
    let run := (serving svc console settings requests w).run (handleAll env peers) schedule
    (fromTexts.threads = fromRecords.threads ∧
      storedTexts.Represents fromTexts.state.db.committed fromRecords.state.db.committed) ∧
    ((∀ k, faults k = false) → fromTexts.threads = run.threads ∧
      storedTexts.Represents fromTexts.state.db.committed run.state.kv) := by
  have texts_records : Pool.Mirrors (Deployed.Same storedTexts.Mirrors)
      (servingFrom svc console settings requests texts w)
      (servingFrom svc console settings requests w.kv w) :=
    ⟨rfl, ⟨represented, .none, rfl⟩, rfl, rfl, rfl⟩
  have records_world : Pool.Mirrors Deployed.Holds
      (servingFrom svc console settings requests w.kv w)
      (serving svc console settings requests w) := ⟨rfl, rfl, rfl, rfl, rfl, rfl⟩
  have refined := texts_records.run
    (fun i => handleOn_matches (onTexts_agree faults) env (peers i)) schedule
  refine ⟨⟨refined.threads, refined.state.db.committed⟩, fun quiet => ?_⟩
  have served := records_world.run (fun i => handleOn_records_matches quiet env (peers i)) schedule
  refine ⟨refined.threads.trans served.threads, ?_⟩
  rw [← served.state.committed]
  exact refined.state.db.committed

end Runs

/-! ## A release, from texts -/

namespace Sample

/-- The writes of the enrolment. -/
def enrolling : List (Write Cell.Doc) :=
  actorWrites operator [] ++ [.put (.deviceBindings binding.actorId) binding]

def texts : Texts := Store.writes (fun _ => none) (enrolling.map storedTexts.encode)

theorem texts_represent : storedTexts.Represents texts world.kv :=
  (((Encoding.represents_none (E := storedTexts)).write
    (Write.put (Cell.actors operator.actorId) operator)).write
      (Write.put Cell.actorList [operator.actorId])).write
        (Write.put (Cell.deviceBindings binding.actorId) binding)

end Sample

/-- The third write of the release fails, on the texts as on the records. -/
theorem texts_refine_records_release :
    let fails : ℕ → Bool := fun n => n = 2
    let fromTexts := (@servingFrom Unit Sample.unicode Sample.unicodeDigits Sample.service
      Sample.console {} _ _ (fun _ => .requestAuthorization Sample.general) Sample.texts
      Sample.world).run (fun _ => handleOn (onTexts fails) Sample.env Sample.peers)
        (List.replicate 25 ())
    let fromRecords := (@servingFrom Unit Sample.unicode Sample.unicodeDigits Sample.service
      Sample.console {} _ _ (fun _ => .requestAuthorization Sample.general) Sample.world.kv
      Sample.world).run (fun _ => handleOn (onRecords fails) Sample.env Sample.peers)
        (List.replicate 25 ())
    Sample.texts ("indexes", "actors") = some "[\"op\"]" ∧
      fromTexts.threads = fromRecords.threads ∧
      storedTexts.Represents fromTexts.state.db.committed fromRecords.state.db.committed :=
  ⟨by decide +kernel, (@texts_refine_records Unit _ Sample.unicode Sample.unicodeDigits
    Sample.service Sample.console {} (fun n => n = 2) Sample.env (fun _ => Sample.peers)
    (fun _ => .requestAuthorization Sample.general) Sample.texts Sample.world
    Sample.texts_represent (List.replicate 25 ())).1⟩

end ZoneGate
