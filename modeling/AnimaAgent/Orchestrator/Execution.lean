import AnimaAgent.Agent.InitialExecution
import AnimaAgent.Orchestrator.Plan
import AnimaAgent.Runtime.PersistedState
import AnimaAgent.Tasks.Query

namespace AnimaAgent

open ToolInvocationRecord (optString)

inductive LoweringPrimitive where
  | apiCall
  | query
  | transform
  deriving DecidableEq

namespace LoweringPrimitive

def asTaskType : LoweringPrimitive → String
  | apiCall => "api-call"
  | query => "query"
  | transform => "transform"

def resultKind : LoweringPrimitive → String
  | apiCall => "upstream"
  | query => "query"
  | transform => "transform"

end LoweringPrimitive

structure WorkerTask where
  id : String
  traceId : String
  payload : Value

structure LoweredTask where
  name : String
  originalTaskType : String
  loweredTaskType : String
  primitive : LoweringPrimitive
  parallelSafe : Bool
  task : WorkerTask

def determineLoweringPrimitive (subtask : SubTask) : LoweringPrimitive :=
  match subtask.taskType with
  | "generic" => .query
  | "reporting" => .transform
  | _ => .apiCall

inductive ExecutionMode where
  | serial
  | whitelistParallel
  deriving DecidableEq

def ExecutionMode.label : ExecutionMode → String
  | serial => "serial"
  | whitelistParallel => "whitelist_parallel"

structure GroupPlace where
  executionMode : ExecutionMode
  groupIndex : Nat
  groupSize : Nat

/-- What is published of the subtasks; a subtask is completed or failed as its result says. -/
inductive OrchestrationEvent where
  | subtaskStarted (subtask : SubTask) (lowered : LoweredTask) (place : GroupPlace)
  | subtaskFinished (subtask : SubTask) (lowered : LoweredTask) (place : GroupPlace)
    (result : TaskResult)

inductive Submission where
  | refused (error : String) (durationMs : UInt64) (workerId : Option String)
  | closed
  | executed (workerId : String) (durationMs : UInt64)

structure LlmContextInferResult where
  needsQuestion : Bool
  prompt : String := ""
  options : List String := []

structure OrchestratorEnvironment where
  now : UInt64
  serde : SerdeJson
  request : String
  parentJobId : String
  sessionId : String
  enableParallel : Bool
  workerTaskId : String → String
  submission : String → Submission
  sendPrompt : String → Value → Except String Value
  inferContext : String → Option LlmContextInferResult

structure OrchestrationState where
  runtimeState : RuntimeStateSnapshot
  subtaskResults : List (String × Value) := []
  events : List OrchestrationEvent := []

section Runtime

variable (now : UInt64)

def runtimePlanTaskId (planId : String) : String :=
  "task_plan_" ++ planId

def runtimeSubtaskTaskId (subtaskId : String) : String :=
  "task_subtask_" ++ subtaskId

def currentTurnIdForJob (snapshot : RuntimeStateSnapshot) (jobId : String) : Option String :=
  (snapshot.runs.lookup (runtimeRunId jobId)).bind RunRecord.currentTurnId

def taskCompletedAt (status : TaskStatus) (existing : Option TaskRecord) : Option UInt64 :=
  match status with
  | .completed => some now
  | .failed => some now
  | _ => existing.bind TaskRecord.completedAtMs

def upsertRuntimePlanTask (plan : OrchestrationPlan) (status : TaskStatus) (error : Option String)
    (snapshot : RuntimeStateSnapshot)
    : RuntimeStateSnapshot :=
  let taskId := runtimePlanTaskId plan.id
  let existing := snapshot.tasks.lookup taskId
  reduceEvent snapshot (.taskUpserted
    { taskId
      runId := runtimeRunId plan.parentJobId
      turnId := currentTurnIdForJob snapshot plan.parentJobId
      parentTaskId := none
      traceId := plan.traceId
      jobId := plan.parentJobId
      parentJobId := none
      planId := some plan.id
      kind := .plan
      name := "orchestration_plan"
      taskType := "orchestration_plan"
      description := plan.originalRequest
      status
      executionMode := none
      resultKind := some "orchestration_plan"
      specialistType := plan.matchedRule
      dependencies := []
      metadata := .object [
        ("execution_order", .ofStrings plan.executionOrder),
        ("matched_rule", optString plan.matchedRule),
        ("parallel_groups", .array (plan.parallelGroups.map Value.ofStrings))]
      startedAtMs := (existing.bind TaskRecord.startedAtMs).or (some plan.createdAt)
      updatedAtMs := now
      completedAtMs := taskCompletedAt now status existing
      error })

def upsertRuntimeSubtaskTask (subtask : SubTask) (lowered : LoweredTask)
    (startedAt : Option UInt64) (status : TaskStatus) (place : Option GroupPlace)
    (error : Option String) (snapshot : RuntimeStateSnapshot)
    : RuntimeStateSnapshot :=
  let taskId := runtimeSubtaskTaskId subtask.id
  let existing := snapshot.tasks.lookup taskId
  let optUsize := fun n : Option Nat => (n.map Value.ofUsize).getD .null
  reduceEvent snapshot (.taskUpserted
    { taskId
      runId := runtimeRunId subtask.parentJobId
      turnId := currentTurnIdForJob snapshot subtask.parentJobId
      parentTaskId := some (runtimePlanTaskId subtask.parentId)
      traceId := subtask.traceId
      jobId := subtask.parentJobId
      parentJobId := some subtask.parentJobId
      planId := some subtask.parentId
      kind := .subtask
      name := subtask.name
      taskType := lowered.originalTaskType
      description := subtask.description
      status
      executionMode := place.map (fun place => place.executionMode.label)
      resultKind := some lowered.primitive.resultKind
      specialistType := if subtask.specialistType.isEmpty then none else some subtask.specialistType
      dependencies := subtask.dependencies
      metadata := .object [
        ("lowered_task_type", .string lowered.loweredTaskType),
        ("original_task_type", .string lowered.originalTaskType),
        ("parallel_group_index", optUsize (place.map GroupPlace.groupIndex)),
        ("parallel_group_size", optUsize (place.map GroupPlace.groupSize)),
        ("parallel_safe", .bool lowered.parallelSafe),
        ("subtask_id", .string subtask.id),
        ("worker_task_id", .string lowered.task.id)]
      startedAtMs := (existing.bind TaskRecord.startedAtMs).or startedAt
      updatedAtMs := now
      completedAtMs := taskCompletedAt now status existing
      error })

end Runtime

def subtaskContent (plan : OrchestrationPlan) (subtask : SubTask) : String :=
  "[orchestration/" ++ plan.id ++ "/" ++ subtask.name ++ "] original_task_type=" ++ subtask.taskType
    ++ "\nparent_job_id=" ++ subtask.parentJobId ++ "\nrequest=" ++ plan.originalRequest
    ++ "\nsubtask_description=" ++ subtask.description
    ++ "\n\nYou are executing exactly one orchestration subtask inside a larger plan. Focus only on "
    ++ "this subtask and return the concrete result needed by downstream steps. Do not re-decompose "
    ++ "the whole project. Do not keep planning indefinitely. Do not create or manage todo lists "
    ++ "unless the user explicitly asked for that exact output. Do not use tools. Do not spawn "
    ++ "subagents. Assume reasonable defaults for minor missing details when you can still produce a "
    ++ "useful concrete result. Only ask one focused question if a truly critical detail is missing "
    ++ "and you cannot proceed without it. Otherwise, produce a concise final deliverable for this "
    ++ "subtask and stop after the result."

def queryContext : List Value → Value → Except String Value
  | [], current => .ok current
  | segment :: path, current =>
    match segment.asStr with
    | none => .error "Query path must contain string keys"
    | some key =>
      match current.get key with
      | none => .error "Query path not found in context"
      | some next => queryContext path next

namespace OrchestratorEnvironment

variable (env : OrchestratorEnvironment) (plan : OrchestrationPlan)

def subtaskPayload (primitive : LoweringPrimitive) (subtask : SubTask) : Value :=
  match primitive with
  | .apiCall =>
    .object [
      ("content", .string (subtaskContent plan subtask)),
      ("opencode-session-id", .string env.sessionId),
      ("orchestration_subtask", .bool true),
      ("original_task_type", .string subtask.taskType),
      ("parent_job_id", .string subtask.parentJobId),
      ("plan_id", .string subtask.parentId),
      ("streaming_observable", .bool false),
      ("subtask_id", .string subtask.id),
      ("subtask_name", .string subtask.name)]
  | .query =>
    .object [
      ("context", .null),
      ("original_task_type", .string subtask.taskType),
      ("parent_job_id", .string subtask.parentJobId),
      ("plan_id", .string subtask.parentId),
      ("query", .array [.string "request"]),
      ("subtask_id", .string subtask.id),
      ("subtask_name", .string subtask.name)]
  | .transform =>
    .object [
      ("data", .object [
        ("description", .string subtask.description),
        ("original_task_type", .string subtask.taskType),
        ("parent_job_id", .string plan.parentJobId),
        ("plan_id", .string plan.id),
        ("request", .string plan.originalRequest),
        ("subtask_name", .string subtask.name)]),
      ("original_task_type", .string subtask.taskType),
      ("parent_job_id", .string subtask.parentJobId),
      ("plan_id", .string subtask.parentId),
      ("subtask_id", .string subtask.id),
      ("subtask_name", .string subtask.name)]

def lowerSubtask (subtask : SubTask) : LoweredTask :=
  let primitive := determineLoweringPrimitive subtask
  { name := subtask.name
    originalTaskType := subtask.taskType
    loweredTaskType := primitive.asTaskType
    primitive
    parallelSafe := primitive == .query || primitive == .transform
    task := {
      id := env.workerTaskId subtask.name
      traceId := subtask.traceId
      payload := env.subtaskPayload plan primitive subtask } }

def loweredTasks : List LoweredTask :=
  (plan.executionOrder.filterMap plan.subtasks.get).map (env.lowerSubtask plan)

def contextValue (state : OrchestrationState) : Value :=
  .object [
    ("parent_job_id", .string env.parentJobId),
    ("plan_id", .string plan.id),
    ("request", .string env.request),
    ("session_id", .string env.sessionId),
    ("subtask_results", .object state.subtaskResults)]

def transformData (lowered : LoweredTask) (state : OrchestrationState) : Value :=
  .object [
    ("parent_job_id", .string env.parentJobId),
    ("plan_id", .string plan.id),
    ("request", .string env.request),
    ("session_id", .string env.sessionId),
    ("source", ((Value.object state.subtaskResults).get lowered.name).getD .null),
    ("subtask_name", .string lowered.name)]

def prepareLoweredTask (lowered : LoweredTask) (state : OrchestrationState) : WorkerTask :=
  match lowered.primitive with
  | .query =>
    { lowered.task with payload := lowered.task.payload.insert "context" (env.contextValue plan state) }
  | .transform =>
    { lowered.task with
      payload := lowered.task.payload.insert "data" (env.transformData plan lowered state) }
  | .apiCall => lowered.task

def executeTask (primitive : LoweringPrimitive) (payload : Value) : Except String Value :=
  match primitive with
  | .apiCall =>
    match (payload.get "opencode-session-id").bind Value.asStr, payload.get "content" with
    | some sessionId, some content => env.sendPrompt sessionId content
    | _, _ => .error "Missing required fields: opencode-session-id or content"
  | .transform =>
    match payload.get "data" with
    | some data => .ok data
    | none => .error "Missing transform data"
  | .query =>
    match (payload.get "query").bind Value.asArray, payload.get "context" with
    | some path, some context => queryContext path context
    | _, _ => .error "Missing query or context"

def submitTask (lowered : LoweredTask) (task : WorkerTask) : TaskResult :=
  let failure := fun error durationMs workerId =>
    { taskId := task.id, traceId := task.traceId, status := "failure", result := none,
      error := some error, durationMs, workerId, blockedReason := none : TaskResult }
  match env.submission lowered.name with
  | .refused error durationMs workerId => failure error durationMs workerId
  | .closed => failure "Task result channel closed" 0 none
  | .executed workerId durationMs =>
    match env.executeTask lowered.primitive task.payload with
    | .error error => failure error durationMs (some workerId)
    | .ok value =>
      { taskId := task.id
        traceId := task.traceId
        status := "success"
        result := some value
        error := none
        durationMs
        workerId := some workerId
        blockedReason := (value.get "blocked_reason").filter (fun reason => reason != .null) }

def asksQuestion (result : Option Value) : Bool :=
  (detectPendingQuestion env.now "" result env.sessionId).isSome

def markSubtaskStarted (subtask : SubTask) (lowered : LoweredTask) (place : GroupPlace)
    (state : OrchestrationState)
    : OrchestrationState :=
  { state with
    runtimeState := upsertRuntimeSubtaskTask env.now subtask lowered (some env.now) .running
      (some place) none state.runtimeState
    events := state.events ++ [.subtaskStarted subtask lowered place] }

def finalizeSubtaskResult (subtask : SubTask) (lowered : LoweredTask) (result : TaskResult)
    (place : GroupPlace) (state : OrchestrationState)
    : OrchestrationState :=
  let upsert := upsertRuntimeSubtaskTask env.now subtask lowered (some env.now)
  { state with
    runtimeState :=
      if result.status = "success" then
        upsert .completed (some place) none state.runtimeState
      else
        upsert .failed (some place) result.error state.runtimeState
    events := state.events ++ [.subtaskFinished subtask lowered place result] }

def resultEntry (lowered : LoweredTask) (result : TaskResult) : Value :=
  .object [
    ("blocked_reason", result.blockedReason.getD .null),
    ("duration_ms", .ofU64 result.durationMs),
    ("error", optString result.error),
    ("lowered_task_type", .string lowered.loweredTaskType),
    ("original_task_type", .string lowered.originalTaskType),
    ("result", result.result.getD .null),
    ("result_kind", .string lowered.primitive.resultKind),
    ("status", .string result.status),
    ("worker_id", optString result.workerId)]

def applySubtaskResultToContext (lowered : LoweredTask) (result : TaskResult)
    (state : OrchestrationState)
    : OrchestrationState :=
  { state with
    subtaskResults :=
      Value.setField lowered.name (resultEntry lowered result) state.subtaskResults }

def recordResult (subtask : SubTask) (lowered : LoweredTask) (place : GroupPlace)
    (result : TaskResult) (state : OrchestrationState)
    : OrchestrationState :=
  let state := env.finalizeSubtaskResult subtask lowered result place state
  if result.status = "success" then applySubtaskResultToContext lowered result state else state

def failure (error : String) : TaskResult where
  taskId := ""
  traceId := ""
  status := "failure"
  result := none
  error := some error
  durationMs := 0
  workerId := none
  blockedReason := none

def executeLoweredSubtask (lowered : LoweredTask) (place : GroupPlace) (state : OrchestrationState)
    : TaskResult × OrchestrationState :=
  match plan.subtasks.get lowered.name with
  | none => (failure ("Subtask not found: " ++ lowered.name), state)
  | some subtask =>
    let result := env.submitTask lowered (env.prepareLoweredTask plan lowered state)
    (result, env.recordResult subtask lowered place result
      (env.markSubtaskStarted subtask lowered place state))

def executeGroupSerial (place : GroupPlace) (lastSuccess : Option TaskResult)
    : List LoweredTask → OrchestrationState → Option TaskResult × OrchestrationState
  | [], state => (lastSuccess, state)
  | lowered :: group, state =>
    let (result, state) := env.executeLoweredSubtask plan lowered place state
    if result.status = "success" then
      if result.blockedReason.isSome then
        (some result, state)
      else if lowered.primitive = .apiCall ∧ env.asksQuestion result.result then
        (some result, state)
      else
        executeGroupSerial place (some result) group state
    else
      (some result, state)

def submitGroup (place : GroupPlace)
    : List LoweredTask → OrchestrationState → List (LoweredTask × TaskResult) × OrchestrationState
  | [], state => ([], state)
  | lowered :: group, state =>
    match plan.subtasks.get lowered.name with
    | none => submitGroup place group state
    | some subtask =>
      let result := env.submitTask lowered (env.prepareLoweredTask plan lowered state)
      let (receivers, state) :=
        submitGroup place group (env.markSubtaskStarted subtask lowered place state)
      ((lowered, result) :: receivers, state)

def receiveGroup (place : GroupPlace) (lastSuccess : Option TaskResult)
    : List (LoweredTask × TaskResult) → OrchestrationState → Option TaskResult × OrchestrationState
  | [], state => (lastSuccess, state)
  | (lowered, result) :: receivers, state =>
    match plan.subtasks.get lowered.name with
    | none => receiveGroup place lastSuccess receivers state
    | some subtask =>
      let state := env.recordResult subtask lowered place result state
      if result.status = "success" then
        receiveGroup place (some result) receivers state
      else
        (some result, state)

def executeGroupParallel (place : GroupPlace) (group : List LoweredTask)
    (state : OrchestrationState)
    : Option TaskResult × OrchestrationState :=
  let (receivers, state) := env.submitGroup plan place group state
  env.receiveGroup plan place none receivers state

def shouldExecuteGroupInParallel (group : List LoweredTask) : Bool :=
  env.enableParallel && decide (group.length > 1) && group.all LoweredTask.parallelSafe

def executeGroup (groupIndex : Nat) (group : List LoweredTask) (state : OrchestrationState)
    : Option TaskResult × OrchestrationState :=
  let place := fun executionMode =>
    ({ executionMode, groupIndex, groupSize := group.length } : GroupPlace)
  if env.shouldExecuteGroupInParallel group then
    env.executeGroupParallel plan (place .whitelistParallel) group state
  else
    env.executeGroupSerial plan (place .serial) none group state

def updatePlanRuntimeStatus (status : TaskStatus) (error : Option String)
    (state : OrchestrationState)
    : OrchestrationState :=
  { state with
    runtimeState := upsertRuntimePlanTask env.now plan status error state.runtimeState }

inductive GroupsEnd where
  | failed (result : TaskResult)
  | done (lastSuccess : Option TaskResult)

def executeGroups (lastSuccess : Option TaskResult)
    : List (Nat × List LoweredTask) → OrchestrationState → GroupsEnd × OrchestrationState
  | [], state => (.done lastSuccess, state)
  | (groupIndex, group) :: groups, state =>
    let (result, state) := env.executeGroup plan groupIndex group state
    match result with
    | none => executeGroups lastSuccess groups state
    | some result =>
      if result.status = "success" then
        if env.asksQuestion result.result then
          (.done (some result), env.updatePlanRuntimeStatus plan .completed none state)
        else
          executeGroups (some result) groups state
      else
        (.failed result, env.updatePlanRuntimeStatus plan .failed result.error state)

def groupTasks : List (Nat × List LoweredTask) :=
  let lowered := env.loweredTasks plan
  (plan.parallelGroups.zipIdx.map (fun (group, i) =>
    (i, group.filterMap (fun name => lowered.find? (fun task => task.name == name))))).filter
      (fun (_, tasks) => !tasks.isEmpty)

end OrchestratorEnvironment

end AnimaAgent
