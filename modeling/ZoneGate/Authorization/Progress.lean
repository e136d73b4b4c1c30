import Mathlib.Data.List.Basic

/-!
# Pipeline progress

The events the pipeline emits as it goes: which stage it is on, and which stage refused.
-/

namespace ZoneGate

inductive Stage
  | identity | plan | validate | evidence | context | policy
deriving DecidableEq, Repr

inductive StageStatus
  | started | done | skipped | failed
deriving DecidableEq, Repr

/-- The place of the stage in the pipeline. -/
def Stage.position : Stage → ℕ
  | identity => 0
  | plan => 1
  | validate => 2
  | evidence => 3
  | context => 4
  | policy => 5

/-- What each stage is doing, in the words a field operator would use. -/
def Stage.label : Stage → String
  | identity => "Checking enrolment and device binding"
  | plan => "Agent choosing which evidence to collect"
  | validate => "Validating the plan against workflow policy"
  | evidence => "Collecting network evidence from the carrier"
  | context => "Agent assessing risk from the evidence"
  | policy => "Deterministic policy engine deciding"

structure StageEvent where
  stage : Stage
  status : StageStatus
  label : String
  detail : String := ""
deriving DecidableEq, Repr

end ZoneGate
