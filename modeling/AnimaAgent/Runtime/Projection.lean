import AnimaAgent.Agent.Question
import AnimaAgent.Runtime.RecordFormat
import AnimaAgent.Tasks.Query

namespace AnimaAgent

structure ProjectionJobStatusSummary where
  status : String
  statusLabel : String
  currentStep : String
  deriving DecidableEq

structure ProjectionOrchestrationSummary where
  planId : Option String
  activeSubtaskName : Option String
  activeSubtaskType : Option String
  activeSubtaskId : Option String
  totalSubtasks : Nat
  activeSubtasks : Nat
  completedSubtasks : Nat
  failedSubtasks : Nat
  deriving DecidableEq

structure ProjectionToolStateSummary where
  invocationId : Option String
  toolName : Option String
  toolUseId : Option String
  phase : String
  permissionState : Option String
  inputPreview : Option String
  resultPreview : Option String
  error : Option String
  awaitsUserConfirmation : Bool
  deriving DecidableEq

structure RuntimeProjectionView where
  orchestration : AList (fun _ : String => ProjectionOrchestrationSummary) := ∅
  pendingQuestions : AList (fun _ : String => PendingQuestion) := ∅
  toolStates : AList (fun _ : String => ProjectionToolStateSummary) := ∅
  jobStatuses : AList (fun _ : String => ProjectionJobStatusSummary) := ∅

def followupCurrentStep : String :=
  "主 agent 判断结果尚未满足需求，正在自动继续补充处理"

def completedCurrentStep : String :=
  "主 agent 已确认结果满足需求"

def failedCurrentStep : String :=
  "执行失败"

def toolPermissionResolvedCurrentStep : String :=
  "工具权限已确认，准备执行"

def toolExecutionFinishedCurrentStep : String :=
  "工具执行完成，正在整理结果"

def toolExecutionFailedCurrentStep : String :=
  "工具执行失败，正在处理失败结果"

def toolResultRecordedCurrentStep : String :=
  "工具结果已记录，等待后续推进"

def toolPhaseCurrentStep (phase : String) : String :=
  "工具调用阶段：" ++ phase

def executingJobCurrentStep : String :=
  "该 Job 已经过了规划阶段，正在执行实际任务。"

def preparingContextCurrentStep : String :=
  "正在准备上下文"

def queuedCurrentStep : String :=
  "已进入队列"

def planningStalledCurrentStep : String :=
  "规划已完成，但长时间没有新的运行时进展"

def waitingUserInputCurrentStep : String :=
  "等待用户提供所需输入"

def questionWaitingStep (question : PendingQuestion) : String :=
  let isToolPermission := question.rawQuestion.stringAt "type" == some "tool_permission"
  if question.answerSummary.isSome then
    if isToolPermission then
      "已提交工具权限决定，等待主 agent 继续处理"
    else
      "已提交回答，等待主 agent 继续处理"
  else if isToolPermission then
    "等待用户确认工具调用权限"
  else if Text.trim question.prompt ≠ "" then
    question.prompt
  else
    waitingUserInputCurrentStep

namespace ProjectionJobStatusSummary

def completed : ProjectionJobStatusSummary where
  status := "completed"
  statusLabel := "completed"
  currentStep := completedCurrentStep

def failed : ProjectionJobStatusSummary where
  status := "failed"
  statusLabel := "failed"
  currentStep := failedCurrentStep

def executing (currentStep : String) : ProjectionJobStatusSummary where
  status := "executing"
  statusLabel := "executing"
  currentStep := currentStep

def waitingUserInput (currentStep : String) : ProjectionJobStatusSummary where
  status := "waiting_user_input"
  statusLabel := "waiting_user_input"
  currentStep := currentStep

def fromValue : Value → Option ProjectionJobStatusSummary
  | .array [.string status, .string statusLabel, .string currentStep] =>
    some { status, statusLabel, currentStep }
  | value => do
    some {
      status := ← value.stringAt "status"
      statusLabel := ← value.stringAt "status_label"
      currentStep := ← value.stringAt "current_step" }

end ProjectionJobStatusSummary

namespace RuntimeStateSnapshot

variable (snapshot : RuntimeStateSnapshot) (run : RunRecord)

def deriveOrchestrationSummary : Option ProjectionOrchestrationSummary := do
  let planTasks := (values snapshot.tasks).filter
    (fun task => task.runId == run.runId && task.kind == .plan)
  let latestPlan ← (planTasks.mergeSort
    (fun a b => decide (a.updatedAtMs ≤ b.updatedAtMs))).getLast?
  let planId := latestPlan.planId.getD latestPlan.taskId
  let _ ← snapshot.planTask planId
  let subtasks := snapshot.subtasksForPlan planId
  let count := fun status : TaskStatus =>
    (subtasks.filter (fun task => task.status == status)).length
  let activeSubtask :=
    maxByKey TaskRecord.updatedAtMs (subtasks.filter (fun task => task.status == .running))
  some {
    planId := some planId
    activeSubtaskName := activeSubtask.map TaskRecord.name
    activeSubtaskType := activeSubtask.map TaskRecord.taskType
    activeSubtaskId := activeSubtask.map TaskRecord.taskId
    totalSubtasks := subtasks.length
    activeSubtasks := count .running
    completedSubtasks := count .completed
    failedSubtasks := count .failed }

def shownSourceKind : SuspensionKind → PendingQuestionSourceKind
  | .toolPermission => .toolPermission
  | .subtaskBlocked => .subtaskBlocked
  | .humanApproval => .planApproval
  | _ => .upstreamQuestion

def shownSession (rawQuestion : Value) : String :=
  let session := rawQuestion.get "opencode_session_id"
  ((session.or ((rawQuestion.get "session_id").or (session.bind (fun value => value.get "id")))).bind
    Value.asStr).getD ""

def derivePendingQuestion : Option PendingQuestion := do
  let suspension ← snapshot.activeSuspensionOf run.runId
  some {
    questionId := suspension.questionId.getD suspension.suspensionId
    jobId := run.jobId
    opencodeSessionId := shownSession suspension.rawPayload
    questionKind := .confirm
    prompt := suspension.prompt.getD ""
    options := suspension.options
    rawQuestion := suspension.rawPayload
    decisionMode := .userRequired
    riskLevel := .high
    requiresUserConfirmation := true
    sourceKind := shownSourceKind suspension.kind
    continuationToken := some suspension.suspensionId
    askedAtMs := suspension.createdAtMs
    answerSubmitted := false
    answerSummary := suspension.answerSummary
    resolutionSource := suspension.resolutionSource
    inbound := none }

def deriveToolStateSummary (invocation : ToolInvocationRuntimeRecord)
    (pendingQuestion : Option PendingQuestion)
    : ProjectionToolStateSummary where
  invocationId := some invocation.invocationId
  toolName := some invocation.toolName
  toolUseId := invocation.toolUseId
  phase := invocation.phase
  permissionState := some invocation.permissionState
  inputPreview := invocation.inputPreview
  resultPreview := invocation.resultSummary
  error := invocation.errorSummary
  awaitsUserConfirmation :=
    match pendingQuestion with
    | some question =>
      question.requiresUserConfirmation
        && question.rawQuestion.stringAt "type" == some "tool_permission"
    | none => invocation.permissionState == "requested"

def toolCurrentStep (toolState : ProjectionToolStateSummary) : String :=
  match toolState.phase with
  | "permission_resolved" => toolPermissionResolvedCurrentStep
  | "execution_started" => "正在执行工具：" ++ toolState.toolName.getD "工具"
  | "executing" => "正在执行工具：" ++ toolState.toolName.getD "工具"
  | "execution_finished" => toolExecutionFinishedCurrentStep
  | "completed" => toolExecutionFinishedCurrentStep
  | "execution_failed" => toolExecutionFailedCurrentStep
  | "failed" => toolExecutionFailedCurrentStep
  | "result_recorded" => toolResultRecordedCurrentStep
  | other => toolPhaseCurrentStep other

def orchestrationStep (summary : ProjectionOrchestrationSummary) : Option String :=
  match summary.activeSubtaskName with
  | some activeSubtaskName => some ("正在执行子任务：" ++ activeSubtaskName)
  | none =>
    if summary.totalSubtasks > 0 then
      some ("orchestration v1：共 " ++ toString summary.totalSubtasks ++ " 个子任务")
    else
      none

def hintedSummary (orchestrationStep : Option String) (value : Value)
    : Option ProjectionJobStatusSummary :=
  (ProjectionJobStatusSummary.fromValue value).or <|
    (value.stringAt "status_label").map fun statusLabel =>
      let defaultStep :=
        match statusLabel with
        | "queued" => queuedCurrentStep
        | "preparing_context" => preparingContextCurrentStep
        | "creating_session" => "正在创建上游会话"
        | "planning" => "正在构建计划"
        | "stalled" => planningStalledCurrentStep
        | _ => orchestrationStep.getD executingJobCurrentStep
      { status := (value.stringAt "status").getD statusLabel
        statusLabel
        currentStep := (value.stringAt "current_step").getD defaultStep }

def requirementSummary (pendingQuestion : Option PendingQuestion)
    (requirement : RequirementRecord)
    : Option ProjectionJobStatusSummary :=
  match requirement.status with
  | .exhausted => some .failed
  | .satisfied => if run.status = .completed then some .completed else none
  | .waitingUserInput =>
    some (.waitingUserInput
      ((pendingQuestion.map questionWaitingStep).getD waitingUserInputCurrentStep))
  | .followupScheduled => some (.executing followupCurrentStep)
  | .active => none

def turnSummary (pendingQuestion : Option PendingQuestion) (turn : TurnRecord)
    : Option ProjectionJobStatusSummary :=
  match turn.status with
  | .waiting =>
    some (.waitingUserInput
      ((pendingQuestion.map questionWaitingStep).getD waitingUserInputCurrentStep))
  | .completed => some .completed
  | .failed => some .failed
  | .running => none

def runSummary (pendingQuestion : Option PendingQuestion)
    (orchestration : Option ProjectionOrchestrationSummary)
    : ProjectionJobStatusSummary :=
  let orchestrationStep := orchestration.bind orchestrationStep
  match run.status with
  | .completed => .completed
  | .failed => .failed
  | .running =>
    let currentTurn := run.currentTurnId.bind snapshot.turns.lookup
    let lifecycleHint :=
      (snapshot.projectionHints.lookup run.runId).bind (fun hints => hints.lookup "job.lifecycle")
    ((currentTurn.bind (turnSummary pendingQuestion)).or
      (lifecycleHint.bind (hintedSummary orchestrationStep))).getD
        (.executing (orchestrationStep.getD executingJobCurrentStep))

def deriveJobStatusSummary (pendingQuestion : Option PendingQuestion)
    (toolState : Option ProjectionToolStateSummary)
    (orchestration : Option ProjectionOrchestrationSummary)
    : ProjectionJobStatusSummary :=
  match (snapshot.activeRequirement run.runId).bind (requirementSummary run pendingQuestion) with
  | some summary => summary
  | none =>
    match pendingQuestion with
    | some question => .waitingUserInput (questionWaitingStep question)
    | none =>
      match toolState with
      | some toolState => .executing (toolCurrentStep toolState)
      | none => runSummary snapshot run pendingQuestion orchestration

def runToolState (pendingQuestion : Option PendingQuestion) : Option ProjectionToolStateSummary :=
  ((pendingQuestion.bind (fun question => snapshot.invocationByQuestionId question.questionId)).or
    (snapshot.latestToolInvocation run.runId)).map
      (fun invocation => deriveToolStateSummary invocation pendingQuestion)

def insertSome {ρ : Type} (map : AList (fun _ : String => ρ)) (key : String)
    : Option ρ → AList (fun _ : String => ρ)
  | some record => map.insert key record
  | none => map

def projectRun (view : RuntimeProjectionView) : RuntimeProjectionView :=
  let orchestrationSummary := snapshot.deriveOrchestrationSummary run
  let pendingQuestion := snapshot.derivePendingQuestion run
  let toolStates :=
    insertSome view.toolStates run.jobId (snapshot.runToolState run pendingQuestion)
  -- the tool of another run of the job may be there already
  let toolState := toolStates.lookup run.jobId
  { orchestration := insertSome view.orchestration run.jobId orchestrationSummary
    toolStates
    jobStatuses := view.jobStatuses.insert run.jobId
      (snapshot.deriveJobStatusSummary run pendingQuestion toolState orchestrationSummary)
    pendingQuestions := insertSome view.pendingQuestions run.jobId pendingQuestion }

def buildProjection : RuntimeProjectionView :=
  (values snapshot.runs).foldl (fun view run => snapshot.projectRun run view) {}

end RuntimeStateSnapshot

end AnimaAgent
