import AnimaAgent.Orchestrator.Execution

namespace AnimaAgent

open ToolInvocationRecord (optString)

def extractResultText (serde : SerdeJson) : Option Value → String
  | none => ""
  | some value =>
    let content := value.get "content"
    let chunks := (((content.bind Value.asArray).getD []).filter
      (fun part => (part.get "type").bind Value.asStr == some "text")).filterMap
        (fun part => (part.get "text").bind Value.asStr)
    match content.bind Value.asStr with
    | some text => text
    | none =>
      if chunks.isEmpty then
        value.asStr.getD (serde.toString value)
      else
        "\n".intercalate chunks

def missingContextWords : List String :=
  ["只问一个", "聚焦问题", "关键问题", "what business", "business type", "核心用户流程", "核心页面",
    "核心实体"]

namespace OrchestratorEnvironment

structure OrchestrationExecutionResult where
  result : TaskResult
  loweredTasks : List LoweredTask
  wasDecomposed : Bool

variable (env : OrchestratorEnvironment) (plan : OrchestrationPlan) (loweredTasks : List LoweredTask)

section Results

variable (subtaskResults : Value)

def summaryLine (lowered : LoweredTask) : String :=
  let entry := (subtaskResults.get lowered.name).getD .null
  let status := ((entry.get "status").bind Value.asStr).getD "unknown"
  let resultText := extractResultText env.serde (entry.get "result")
  let preview :=
    if resultText.isEmpty then
      ((entry.get "error").bind Value.asStr).getD "(no result)"
    else if resultText.length > 280 then
      String.ofList (resultText.toList.take 280) ++ "…"
    else
      resultText
  "- " ++ lowered.name ++ " [" ++ lowered.originalTaskType ++ " / " ++ status ++ "]: " ++ preview

def buildOrchestrationSummaryText : String :=
  "\n".intercalate
    (["Orchestration completed for request: " ++ plan.originalRequest, "", "Subtask outcomes:"]
      ++ loweredTasks.map (env.summaryLine subtaskResults))

def blockedEntry (lowered : LoweredTask) : Option Value := do
  let entry ← subtaskResults.get lowered.name
  (entry.get "blocked_reason").filter (fun reason => reason != .null)

def blockedSubtasks : List Value :=
  loweredTasks.filterMap (fun lowered =>
    (blockedEntry subtaskResults lowered).map (fun reason =>
      .object [("reason", reason), ("subtask", .string lowered.name)]))

def collectBlockedReasons : Option Value :=
  let blocked := blockedSubtasks loweredTasks subtaskResults
  if blocked.isEmpty then
    none
  else
    some (.object [("blocked_subtasks", .array blocked), ("type", .string "subtask_blocked")])

def resultSummaries : List String :=
  loweredTasks.filterMap (fun lowered =>
    let text := (((subtaskResults.get lowered.name).bind (Value.get "result")).map
      (fun result => extractResultText env.serde (some result))).getD ""
    if text.isEmpty then none else some ("[" ++ lowered.name ++ "]: " ++ text))

def contextQuestion (prompt : String) (options : List String)
    (orchestration : List (String × Value))
    : Value :=
  .object [
    ("question", .object [
      ("id", .string ("orchestration-context-" ++ plan.id)),
      ("kind", .string "input"),
      ("options", .ofStrings options),
      ("orchestration", .object orchestration),
      ("prompt", .string prompt)]),
    ("type", .string "question")]

def tryLlmInferMissingContext : Option Value := do
  let summaries := env.resultSummaries loweredTasks subtaskResults
  guard (summaries ≠ [])
  let infer ← env.inferContext ("\n\n".intercalate summaries)
  guard (infer.needsQuestion ∧ infer.prompt ≠ "")
  some (contextQuestion plan infer.prompt infer.options [
    ("reason", .string "llm_inferred_missing_context"),
    ("subtasks", .ofStrings (loweredTasks.map LoweredTask.name))])

def resultTexts : Option (List String) :=
  loweredTasks.mapM (fun lowered => do
    let entry ← subtaskResults.get lowered.name
    let result ← entry.get "result"
    some (extractResultText env.serde (some result)))

def inferMissingContextByWords : Option Value := do
  let texts ← env.resultTexts loweredTasks subtaskResults
  let prompts := texts.filter (fun text =>
    missingContextWords.any (fun word => Text.contains word (Text.toAsciiLowercase text)))
  guard (2 ≤ prompts.length)
  some (contextQuestion plan
    ("为了继续完成这个复杂 Web App 的整体拆分与最终交付，我需要一个统一的业务上下文：请告诉我产品类型、核心用户，以及 3-5 " ++
      "个核心功能。若有特殊需求，也请补充是否需要登录、支付、文件上传、实时功能或多租户。")
    ["电商平台", "项目管理系统", "AI SaaS", "内容社区"] [
    ("collected_prompts", .ofStrings prompts),
    ("reason", .string "multiple_subtasks_missing_shared_context"),
    ("subtasks", .ofStrings (loweredTasks.map LoweredTask.name))])

def inferMissingContextQuestion : Option Value :=
  (env.tryLlmInferMissingContext plan loweredTasks subtaskResults).or
    (env.inferMissingContextByWords plan loweredTasks subtaskResults)

def aggregatedResult : Value :=
  ((collectBlockedReasons loweredTasks subtaskResults).or
    (env.inferMissingContextQuestion plan loweredTasks subtaskResults)).getD
    (.object [
      ("content",
        .string (env.buildOrchestrationSummaryText plan loweredTasks subtaskResults)),
      ("parent_job_id", .string plan.parentJobId),
      ("plan_id", .string plan.id),
      ("subtask_results", subtaskResults)])

end Results

def insertProgressCounts (snapshot : RuntimeStateSnapshot) (value : Value) : Value :=
  let subtasks := snapshot.subtasksForPlan plan.id
  let count := fun status : TaskStatus => (subtasks.filter (fun task => task.status == status)).length
  ((value.insert "subtasks_total" (.ofUsize subtasks.length)).insert "subtasks_completed"
    (.ofUsize (count .completed))).insert "subtasks_failed" (.ofUsize (count .failed))

def firstBlockedReason (value : Value) : Option Value := do
  guard ((value.get "type").bind Value.asStr = some "subtask_blocked")
  let blocked ← (value.get "blocked_subtasks").bind Value.asArray
  let entry ← blocked.head?
  entry.get "reason"

def buildOrchestrationFinalResult (lastSuccess : Option TaskResult) (state : OrchestrationState)
    : TaskResult :=
  let result := insertProgressCounts plan state.runtimeState
    (env.aggregatedResult plan loweredTasks (.object state.subtaskResults))
  let elapsed := if plan.createdAt ≤ env.now then env.now - plan.createdAt else 0
  { taskId := plan.id
    traceId := plan.traceId
    status := "success"
    result := some result
    error := none
    durationMs := (lastSuccess.map (fun last => max elapsed last.durationMs)).getD elapsed
    workerId := lastSuccess.bind TaskResult.workerId
    blockedReason := firstBlockedReason result }

def loweredTaskValue (task : LoweredTask) : Value :=
  .object [
    ("lowered_task_type", .string task.loweredTaskType),
    ("name", .string task.name),
    ("original_task_type", .string task.originalTaskType),
    ("parallel_safe", .bool task.parallelSafe),
    ("result_kind", .string task.primitive.resultKind)]

def insertPlan (value : Value) : Value :=
  ((value.insert "plan_id" (.string plan.id)).insert "parent_job_id" (.string plan.parentJobId)).insert
    "orchestration" (.object [
      ("parent_job_id", .string plan.parentJobId),
      ("plan_id", .string plan.id),
      ("rule", optString plan.matchedRule),
      ("subtasks", .array (loweredTasks.map loweredTaskValue))])

def finalResult (lastSuccess : Option TaskResult) (state : OrchestrationState) : TaskResult :=
  let result :=
    (lastSuccess.filter (fun result => env.asksQuestion result.result)).getD
      (env.buildOrchestrationFinalResult plan loweredTasks lastSuccess state)
  { result with result := result.result.map (insertPlan plan loweredTasks) }

def upsertPendingSubtask (lowered : LoweredTask) (snapshot : RuntimeStateSnapshot)
    : RuntimeStateSnapshot :=
  (plan.subtasks.get lowered.name).elim snapshot (fun subtask =>
    upsertRuntimeSubtaskTask env.now subtask lowered none .pending none none snapshot)

def startPlan (snapshot : RuntimeStateSnapshot) : OrchestrationState :=
  let snapshot := upsertRuntimePlanTask env.now plan .pending none snapshot
  let snapshot := (env.loweredTasks plan).foldl
    (fun snapshot lowered => env.upsertPendingSubtask plan lowered snapshot) snapshot
  env.updatePlanRuntimeStatus plan .running none { runtimeState := snapshot }

def executeOrchestrationPlanImpl (snapshot : RuntimeStateSnapshot)
    : OrchestrationExecutionResult × OrchestrationState :=
  let loweredTasks := env.loweredTasks plan
  let (groupsEnd, state) :=
    env.executeGroups plan none (env.groupTasks plan) (env.startPlan plan snapshot)
  match groupsEnd with
  | .failed result => ({ result, loweredTasks, wasDecomposed := true }, state)
  | .done lastSuccess =>
    let result := env.finalResult plan loweredTasks lastSuccess state
    ({ result, loweredTasks, wasDecomposed := true },
      env.updatePlanRuntimeStatus plan .completed none state)

end OrchestratorEnvironment

end AnimaAgent
