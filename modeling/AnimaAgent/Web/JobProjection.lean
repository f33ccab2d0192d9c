import AnimaAgent.Agent.Upserts
import AnimaAgent.Cache.Lru
import AnimaAgent.Runtime.ProjectedStatus

namespace AnimaAgent

structure ProjectionExecutionSummary where
  planType : String
  status : String
  cacheHit : Bool
  workerId : Option String
  errorCode : Option String
  errorStage : Option String
  taskDurationMs : UInt64
  stages : Value
  deriving DecidableEq

structure ProjectionFailureSummary where
  errorCode : String
  errorStage : String
  messageId : String
  channel : String
  chatId : Option String
  occurredAtMs : UInt64
  internalMessage : String
  deriving DecidableEq

structure JobProjectionView extends RuntimeProjectionView where
  executionSummaries : AList (fun _ : String => ProjectionExecutionSummary) := ∅
  failures : AList (fun _ : String => ProjectionFailureSummary) := ∅

namespace ProjectionExecutionSummary

def fromValue : Value → Option ProjectionExecutionSummary
  | .array [planType, status, cacheHit, workerId, errorCode, errorStage, durationMs, stages] => do
    some {
      planType := ← planType.asStr
      status := ← status.asStr
      cacheHit := ← cacheHit.asBool
      workerId := ← Value.optField Value.asStr (some workerId)
      errorCode := ← Value.optField Value.asStr (some errorCode)
      errorStage := ← Value.optField Value.asStr (some errorStage)
      taskDurationMs := ← durationMs.asU64
      stages }
  | value => do
    some {
      planType := ← value.stringAt "plan_type"
      status := ← value.stringAt "status"
      cacheHit := ← value.boolAt "cache_hit"
      workerId := ← value.optStringAt "worker_id"
      errorCode := ← value.optStringAt "error_code"
      errorStage := ← value.optStringAt "error_stage"
      taskDurationMs := ← value.u64At "task_duration_ms"
      stages := ← value.get "stages" }

def ofHint (value : Value) : ProjectionExecutionSummary :=
  (fromValue value).getD {
    planType := (value.stringAt "plan_type").getD "runtime"
    status := (value.stringAt "status").getD "running"
    cacheHit := (value.boolAt "cache_hit").getD false
    workerId := value.stringAt "worker_id"
    errorCode := value.stringAt "error_code"
    errorStage := value.stringAt "error_stage"
    taskDurationMs := (value.u64At "task_duration_ms").getD 0
    stages := (value.get "stages").getD (.object []) }

end ProjectionExecutionSummary

namespace RuntimeStateSnapshot

variable (snapshot : RuntimeStateSnapshot) (run : RunRecord)

def runStatusText : String :=
  match run.status with
  | .completed => "success"
  | .failed => "failure"
  | .running =>
    if (snapshot.activeSuspensionOf run.runId).isSome
        || (snapshot.activeRequirement run.runId).any
          (fun requirement => requirement.status == .waitingUserInput) then
      "waiting_user_input"
    else
      "running"

def deriveExecutionSummary : ProjectionExecutionSummary :=
  let hinted := (snapshot.projectionHints.lookup run.runId).bind
    (fun hints => hints.lookup "execution.summary")
  match hinted with
  | some value => .ofHint value
  | none =>
    { planType :=
        if (values snapshot.tasks).any
            (fun task => task.runId == run.runId && task.kind == .plan) then
          "orchestration-v1"
        else
          "single"
      status := snapshot.runStatusText run
      cacheHit := false
      workerId := none
      errorCode := none
      errorStage := none
      taskDurationMs := saturatingSub (run.completedAtMs.getD run.updatedAtMs) run.createdAtMs
      stages := .object [] }

def deriveFailureSummary : Option ProjectionFailureSummary :=
  run.latestError.map fun latestError =>
    { errorCode := "runtime_run_failed"
      errorStage := "runtime"
      messageId := run.jobId
      channel := run.channel
      chatId := run.chatId
      occurredAtMs := run.completedAtMs.getD run.updatedAtMs
      internalMessage := latestError }

def buildJobProjection : JobProjectionView where
  toRuntimeProjectionView := snapshot.buildProjection
  executionSummaries := (values snapshot.runs).foldl
    (fun summaries run => summaries.insert run.jobId (snapshot.deriveExecutionSummary run)) ∅
  failures := (values snapshot.runs).foldl
    (fun failures run => insertSome failures run.jobId (deriveFailureSummary run)) ∅

end RuntimeStateSnapshot

structure JobProjectionView.SameJob (view other : JobProjectionView) (jobId : String) : Prop where
  orchestration : other.orchestration.lookup jobId = view.orchestration.lookup jobId
  pendingQuestions : other.pendingQuestions.lookup jobId = view.pendingQuestions.lookup jobId
  toolStates : other.toolStates.lookup jobId = view.toolStates.lookup jobId
  jobStatuses : other.jobStatuses.lookup jobId = view.jobStatuses.lookup jobId
  executionSummaries : other.executionSummaries.lookup jobId = view.executionSummaries.lookup jobId
  failures : other.failures.lookup jobId = view.failures.lookup jobId

namespace RuntimeStateSnapshot

structure SameShown (snapshot other : RuntimeStateSnapshot) (run : RunRecord) : Prop where
  orchestration : other.deriveOrchestrationSummary run = snapshot.deriveOrchestrationSummary run
  pendingQuestion : other.derivePendingQuestion run = snapshot.derivePendingQuestion run
  toolState : other.runToolState run (snapshot.derivePendingQuestion run)
    = snapshot.runToolState run (snapshot.derivePendingQuestion run)
  jobStatus : other.deriveJobStatusSummary run = snapshot.deriveJobStatusSummary run
  executionSummary : other.deriveExecutionSummary run = snapshot.deriveExecutionSummary run

variable {snapshot other : RuntimeStateSnapshot} {jobId : String}

theorem lookup_foldl_insertSome_ne {ρ : Type} (f : RunRecord → Option ρ) {runs : List RunRecord}
    (h : ∀ run ∈ runs, run.jobId ≠ jobId) (map : AList (fun _ : String => ρ))
    : (runs.foldl (fun map run => insertSome map run.jobId (f run)) map).lookup jobId
        = map.lookup jobId := by
  induction runs generalizing map with
  | nil => rfl
  | cons run runs ih =>
    rw [List.foldl_cons, ih (fun run' hmem => h run' (List.mem_cons_of_mem _ hmem))]
    exact lookup_insertSome_ne (h run (List.mem_cons_self ..)).symm _

theorem lookup_foldl_insertSome {ρ : Type} (f : RunRecord → Option ρ) {runs : List RunRecord}
    (hjobs : (runs.map RunRecord.jobId).Nodup) {map : AList (fun _ : String => ρ)}
    (hmap : map.lookup jobId = none)
    : (runs.foldl (fun map run => insertSome map run.jobId (f run)) map).lookup jobId
        = (runs.find? (fun run => run.jobId == jobId)).bind f := by
  induction runs generalizing map with
  | nil => exact hmap
  | cons run runs ih =>
    obtain ⟨hfirst, hrest⟩ := List.nodup_cons.mp hjobs
    rw [List.foldl_cons]
    by_cases hjob : run.jobId = jobId
    . have hfound : (run :: runs).find? (fun run => run.jobId == jobId) = some run :=
        List.find?_cons_of_pos (beq_iff_eq.mpr hjob)
      rw [hfound, Option.bind_some, lookup_foldl_insertSome_ne f]
      . subst hjob
        exact lookup_insertSome_self hmap _
      . intro run' hmem hjob'
        exact hfirst (List.mem_map.mpr ⟨run', hmem, hjob'.trans hjob.symm⟩)
    . have hne : jobId ≠ run.jobId := fun h => hjob h.symm
      rw [ih hrest ((lookup_insertSome_ne hne _).trans hmap), List.find?_cons_of_neg]
      exact fun h => hjob (beq_iff_eq.mp h)

section Fold

variable (runs : List RunRecord) (view : RuntimeProjectionView)

theorem orchestration_projectRuns
    : (runs.foldl (fun view run => snapshot.projectRun run view) view).orchestration
        = runs.foldl
          (fun map run => insertSome map run.jobId (snapshot.deriveOrchestrationSummary run))
          view.orchestration := by
  induction runs generalizing view with
  | nil => rfl
  | cons run runs ih => exact ih _

theorem pendingQuestions_projectRuns
    : (runs.foldl (fun view run => snapshot.projectRun run view) view).pendingQuestions
        = runs.foldl (fun map run => insertSome map run.jobId (snapshot.derivePendingQuestion run))
          view.pendingQuestions := by
  induction runs generalizing view with
  | nil => rfl
  | cons run runs ih => exact ih _

theorem toolStates_projectRuns
    : (runs.foldl (fun view run => snapshot.projectRun run view) view).toolStates
        = runs.foldl
          (fun map run => insertSome map run.jobId
            (snapshot.runToolState run (snapshot.derivePendingQuestion run)))
          view.toolStates := by
  induction runs generalizing view with
  | nil => rfl
  | cons run runs ih => exact ih _

end Fold

namespace RunsOfJobs

variable (h : snapshot.RunsOfJobs)

include h

theorem find?_runs
    : (values snapshot.runs).find? (fun run => run.jobId == jobId)
        = snapshot.runs.lookup (runtimeRunId jobId) := by
  have hid : ∀ run ∈ values snapshot.runs, run.jobId = jobId
      → snapshot.runs.lookup (runtimeRunId jobId) = some run := by
    rintro run hmem rfl
    obtain ⟨id, hlookup⟩ := mem_values_iff.mp hmem
    rwa [← h id run hlookup]
  cases hfound : (values snapshot.runs).find? (fun run => run.jobId == jobId) with
  | some run =>
    have hjob : (run.jobId == jobId) = true :=
      List.find?_some (p := fun run : RunRecord => run.jobId == jobId) hfound
    exact (hid run (List.mem_of_find?_eq_some hfound) (beq_iff_eq.mp hjob)).symm
  | none =>
    cases hlookup : snapshot.runs.lookup (runtimeRunId jobId) with
    | none => rfl
    | some run =>
      have hjob := runtimeRunId_inj.mp (h _ run hlookup)
      have hnot := List.find?_eq_none.mp hfound run (mem_values_iff.mpr ⟨_, hlookup⟩)
      exact absurd (beq_iff_eq.mpr hjob.symm) hnot

theorem lookup_foldl_runs {ρ : Type} (f : RunRecord → Option ρ)
    : ((values snapshot.runs).foldl (fun map run => insertSome map run.jobId (f run)) ∅).lookup jobId
        = (snapshot.runs.lookup (runtimeRunId jobId)).bind f := by
  rw [lookup_foldl_insertSome f h.nodup_jobIds (AList.lookup_empty jobId), h.find?_runs]

theorem lookup_jobStatuses_of_none (hnone : snapshot.runs.lookup (runtimeRunId jobId) = none)
    : snapshot.buildProjection.jobStatuses.lookup jobId = none := by
  refine projectRuns_of_other ?_ {}
  rintro run hmem rfl
  obtain ⟨id, hlookup⟩ := mem_values_iff.mp hmem
  rw [h id run hlookup, hnone] at hlookup
  cases hlookup

theorem sameJob (hother : other.RunsOfJobs)
    (hrun : other.runs.lookup (runtimeRunId jobId) = snapshot.runs.lookup (runtimeRunId jobId))
    (hshown : ∀ run, snapshot.runs.lookup (runtimeRunId jobId) = some run
      → SameShown snapshot other run)
    : snapshot.buildJobProjection.SameJob other.buildJobProjection jobId := by
  have hbind : ∀ {ρ : Type} {f g : RunRecord → Option ρ},
      (∀ run, SameShown snapshot other run → g run = f run)
        → (other.runs.lookup (runtimeRunId jobId)).bind g
          = (snapshot.runs.lookup (runtimeRunId jobId)).bind f := by
    intro ρ f g hfg
    rw [hrun]
    exact Option.bind_congr (fun run hlookup => hfg run (hshown run hlookup))
  constructor
  . unfold buildJobProjection buildProjection
    dsimp only
    rw [orchestration_projectRuns, orchestration_projectRuns, hother.lookup_foldl_runs,
      h.lookup_foldl_runs]
    exact hbind (fun _ hrun => hrun.orchestration)
  . unfold buildJobProjection buildProjection
    dsimp only
    rw [pendingQuestions_projectRuns, pendingQuestions_projectRuns, hother.lookup_foldl_runs,
      h.lookup_foldl_runs]
    exact hbind (fun _ hrun => hrun.pendingQuestion)
  . unfold buildJobProjection buildProjection
    dsimp only
    rw [toolStates_projectRuns, toolStates_projectRuns, hother.lookup_foldl_runs,
      h.lookup_foldl_runs]
    refine hbind (fun _ hrun => ?_)
    rw [hrun.pendingQuestion, hrun.toolState]
  . change other.buildProjection.jobStatuses.lookup jobId
      = snapshot.buildProjection.jobStatuses.lookup jobId
    cases hlookup : snapshot.runs.lookup (runtimeRunId jobId) with
    | none =>
      rw [h.lookup_jobStatuses_of_none hlookup,
        hother.lookup_jobStatuses_of_none (hrun.trans hlookup)]
    | some run =>
      have hjob := runtimeRunId_inj.mp (h _ run hlookup)
      have hsame := hshown run hlookup
      rw [hjob, lookup_jobStatuses h hlookup, lookup_jobStatuses hother (hrun.trans hlookup),
        hsame.pendingQuestion, hsame.toolState, hsame.orchestration, hsame.jobStatus]
  . have hderived := fun snapshot (h : snapshot.RunsOfJobs) =>
      @lookup_foldl_runs snapshot jobId h _
        (fun run => some (snapshot.deriveExecutionSummary run))
    exact (hderived other hother).trans ((hbind (fun _ hrun => by rw [hrun.executionSummary])).trans
      (hderived snapshot h).symm)
  . exact (hother.lookup_foldl_runs deriveFailureSummary).trans
      ((hbind (fun _ _ => rfl)).trans (h.lookup_foldl_runs deriveFailureSummary).symm)

end RunsOfJobs

end RuntimeStateSnapshot

end AnimaAgent
