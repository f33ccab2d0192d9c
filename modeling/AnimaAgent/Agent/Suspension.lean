import AnimaAgent.Agent.EventEmitter

namespace AnimaAgent

inductive AgentError where
  | executionFailed (message : String)
  | continuationFailed (message : String)
  | noPendingQuestion (jobId : String)
  | questionIdMismatch (jobId expected got : String)
  | missingInboundContext (jobId : String)
  | orchestrationForcedFallback
  | orchestrationNoDecomposition
  deriving DecidableEq

def PendingQuestionSourceKind.suspensionKind : PendingQuestionSourceKind → SuspensionKind
  | toolPermission => .toolPermission
  | subtaskBlocked => .subtaskBlocked
  | planApproval => .humanApproval
  | upstreamQuestion => .question

def ToolInvocationPhase.ofWireName (name : String) : Option ToolInvocationPhase :=
  [detected, validatingInput, permissionChecking, permissionRequested, permissionResolved, executing,
    completed, failed, resultRecorded].find? (fun phase => phase.wireName == name)

def ToolPermissionState.ofWireName (name : String) : Option ToolPermissionState :=
  [notRequired, checking, requested, allowed, denied].find? (fun state => state.wireName == name)

def Value.strAt (payload : Value) (key default : String) : String :=
  ((payload.get key).bind Value.asStr).getD default

namespace RuntimeStateSnapshot

def turnMessages (snapshot : RuntimeStateSnapshot) (runId : String) (turnId : Option String)
    : List InternalMsg :=
  let turnCheckpoint :=
    ((turnId.bind snapshot.turns.lookup).map TurnRecord.transcriptCheckpoint).getD 0
  ((snapshot.transcript.drop turnCheckpoint).filter
    (fun record => record.runId == runId && record.turnId == turnId)).map MessageRecord.toInternal

def rebuildTurnMessages (snapshot : RuntimeStateSnapshot) (suspension : SuspensionRecord)
    : List InternalMsg :=
  let effectiveTurnId :=
    if suspension.turnId = "" then
      (snapshot.runs.lookup suspension.runId).bind RunRecord.currentTurnId
    else
      some suspension.turnId
  snapshot.turnMessages suspension.runId effectiveTurnId

def suspensionOf (snapshot : RuntimeStateSnapshot) (questionId : String)
    : Option SuspensionRecord :=
  (snapshot.index.suspensionIdsByQuestionId.lookup questionId).bind snapshot.suspensions.lookup

def opencodeSessionId (suspension : SuspensionRecord) : String :=
  ((((suspension.rawPayload.get "opencode_session_id").bind Value.asStr).or
    ((suspension.rawPayload.get "session_id").bind Value.asStr))).getD ""

def inboundOf (suspension : SuspensionRecord) (jobId : String) (run : RunRecord)
    : InboundMessage where
  id := jobId
  channel := suspension.rawPayload.strAt "channel" "unknown"
  senderId := suspension.rawPayload.strAt "sender_id" "unknown"
  chatId := run.chatId
  content := suspension.rawPayload.strAt "original_user_request" ""

def rebuildToolInvocation (snapshot : RuntimeStateSnapshot) (questionId : String)
    : Option SuspendedToolInvocationState := do
  let suspension ←
    (snapshot.suspensionOf questionId).filter (fun record => record.status = .active)
  let invocationId ← suspension.invocationId
  let record ← snapshot.toolInvocations.lookup invocationId
  let run ← snapshot.runs.lookup suspension.runId
  let toolUseId ← record.toolUseId.or ((suspension.rawPayload.get "tool_use_id").bind Value.asStr)
  let toolInput :=
    ((suspension.rawPayload.get "tool_input").or (suspension.rawPayload.get "raw_input")).getD .null
  let riskLevel :=
    match suspension.rawPayload.strAt "risk_level" "high" with
    | "low" => PermissionRiskLevel.low
    | _ => PermissionRiskLevel.high
  some
    { suspension :=
        { suspendedTool :=
            { toolUseId
              toolName := record.toolName
              toolInput
              permissionRequest :=
                { toolName := record.toolName
                  prompt := suspension.prompt.getD ""
                  options := suspension.options
                  riskLevel
                  requiresUserConfirmation := true
                  rawInput := toolInput
                  inputPreview := record.inputPreview.getD "" }
              invocation :=
                { invocationId
                  toolName := record.toolName
                  phase := (ToolInvocationPhase.ofWireName record.phase).getD .detected
                  permissionState :=
                    (ToolPermissionState.ofWireName record.permissionState).getD .checking
                  startedAtMs := record.startedAtMs
                  finishedAtMs := record.finishedAtMs
                  toolUseId := some (record.toolUseId.getD "")
                  resultSummary := record.resultSummary
                  errorSummary := record.errorSummary } }
          messages := snapshot.rebuildTurnMessages suspension
          -- the payload has both counters, but they are not read back
          iterations := 0
          compactCount := 0 }
      inbound := inboundOf suspension run.jobId run
      opencodeSessionId := opencodeSessionId suspension }

def rebuiltSourceKind (suspension : SuspensionRecord) : PendingQuestionSourceKind :=
  let rawType := (suspension.rawPayload.get "type").bind Value.asStr
  if suspension.kind = .toolPermission ∨ rawType = some "tool_permission" then
    .toolPermission
  else if suspension.kind = .humanApproval ∨ rawType = some "plan_approval" then
    .planApproval
  else
    .upstreamQuestion

/-- `order` is the order in which the suspensions are gone through. -/
def rebuildQuestion (order : List String) (snapshot : RuntimeStateSnapshot) (jobId : String)
    : Option PendingQuestion := do
  let run ← snapshot.runs.lookup (runtimeRunId jobId)
  let suspension ←
    ((order.filterMap snapshot.suspensions.lookup).filter
      (fun record => record.runId == run.runId)).find? (fun record => record.status = .active)
  let questionId ← suspension.questionId
  let sourceKind := rebuiltSourceKind suspension
  let riskLevel :=
    match suspension.rawPayload.strAt "risk_level" "high" with
    | "low" => QuestionRiskLevel.low
    | _ => QuestionRiskLevel.high
  some
    { questionId
      jobId
      opencodeSessionId := opencodeSessionId suspension
      questionKind := if suspension.options.length > 2 then .choice else .confirm
      prompt := suspension.prompt.getD ""
      options := suspension.options
      rawQuestion := suspension.rawPayload
      decisionMode := match riskLevel with
        | .low => .autoAllowed
        | .high => .userRequired
      riskLevel
      requiresUserConfirmation :=
        sourceKind = .toolPermission
          || ((suspension.rawPayload.get "requires_user_confirmation").bind Value.asBool).getD true
      sourceKind
      continuationToken := some suspension.suspensionId
      askedAtMs := suspension.createdAtMs
      answerSubmitted := suspension.status = .resolved
      answerSummary := (suspension.rawPayload.get "answer_summary").bind Value.asStr
      resolutionSource := (suspension.rawPayload.get "resolution_source").bind Value.asStr
      inbound := some (inboundOf suspension jobId run) }

end RuntimeStateSnapshot

structure SuspensionCoordinator where
  runtimeState : RuntimeStateSnapshot := {}
  pendingQuestions : AList (fun _ : String => PendingQuestion) := ∅
  suspendedToolInvocations : AList (fun _ : String => SuspendedToolInvocationState) := ∅

namespace SuspensionCoordinator

variable (now : UInt64) (coordinator : SuspensionCoordinator)

def storeQuestion (jobId : String) (question : PendingQuestion) : SuspensionCoordinator :=
  let phase : RuntimeTaskPhase :=
    if question.sourceKind = .toolPermission then .toolPermission else .question
  let invocationId := (question.rawQuestion.get "invocation_id").bind Value.asStr
  let runtimeState :=
    match question.inbound with
    | some inbound =>
      (coordinator.runtimeState.upsertTask now inbound phase .suspended question.prompt none
        ).upsertSuspension now inbound question (some (runtimeTaskId inbound.id phase)) invocationId
          question.sourceKind.suspensionKind .active
    | none => coordinator.runtimeState
  { coordinator with
    runtimeState
    pendingQuestions := coordinator.pendingQuestions.insert jobId question }

def toolPermissionQuestion (questionId jobId : String) (state : SuspendedToolInvocationState)
    (rawQuestion : Value)
    : PendingQuestion where
  questionId := questionId
  jobId := jobId
  opencodeSessionId := state.opencodeSessionId
  questionKind := .confirm
  prompt := state.suspension.suspendedTool.permissionRequest.prompt
  options := ["allow", "deny"]
  rawQuestion := rawQuestion
  decisionMode := .userRequired
  riskLevel :=
    permissionRiskToQuestionRisk state.suspension.suspendedTool.permissionRequest.riskLevel
  requiresUserConfirmation := true
  sourceKind := .toolPermission
  continuationToken := some questionId
  askedAtMs := now
  answerSubmitted := false
  answerSummary := none
  resolutionSource := none
  inbound := some state.inbound

def toolPermissionPayload (state : SuspendedToolInvocationState) : Value :=
  let tool := state.suspension.suspendedTool
  .object [
    ("input_preview", .string tool.permissionRequest.inputPreview),
    ("invocation_id", .string state.invocationId),
    ("prompt", .string tool.permissionRequest.prompt),
    ("raw_input", tool.permissionRequest.rawInput),
    ("tool_input", tool.toolInput),
    ("tool_name", .string state.toolName),
    ("tool_use_id", .string tool.toolUseId),
    ("type", .string "tool_permission")]

def storeToolInvocation (questionId : String) (state : SuspendedToolInvocationState)
    : SuspensionCoordinator :=
  let question :=
    toolPermissionQuestion now questionId (runtimeMessageId state.inbound) state
      (toolPermissionPayload state)
  let taskId := runtimeTaskId (runtimeMessageId state.inbound) .toolPermission
  let runtimeState :=
    coordinator.runtimeState.upsertTask now state.inbound .toolPermission .suspended
      ("awaiting permission for tool " ++ state.toolName) none
  let runtimeState :=
    runtimeState.upsertSuspension now state.inbound question (some taskId) (some state.invocationId)
      .toolPermission .active
  { coordinator with
    runtimeState :=
      runtimeState.upsertToolInvocation state.inbound state.suspension.suspendedTool.invocation
        state.inputPreview
    suspendedToolInvocations := coordinator.suspendedToolInvocations.insert questionId state }

/-- The question that a job waits for; the memory follows the runtime state if it knows the job. -/
def questionState (order : List String) (jobId : String) (hydrateCache : Bool)
    : Option PendingQuestion × SuspensionCoordinator :=
  if (coordinator.runtimeState.index.runIdsByJobId.lookup jobId).isSome then
    match coordinator.runtimeState.rebuildQuestion order jobId with
    | some question =>
      if hydrateCache then
        (some question,
          { coordinator with
            pendingQuestions := coordinator.pendingQuestions.insert jobId question })
      else
        (some question, coordinator)
    | none =>
      (none,
        { coordinator with pendingQuestions := coordinator.pendingQuestions.erase jobId })
  else
    (coordinator.pendingQuestions.lookup jobId, coordinator)

def toolInvocationState (questionId : String)
    : Option SuspendedToolInvocationState × SuspensionCoordinator :=
  if (coordinator.runtimeState.index.suspensionIdsByQuestionId.lookup questionId).isSome then
    match coordinator.runtimeState.rebuildToolInvocation questionId with
    | some state =>
      (some state,
        { coordinator with
          suspendedToolInvocations :=
            coordinator.suspendedToolInvocations.insert questionId state })
    | none =>
      (none,
        { coordinator with
          suspendedToolInvocations := coordinator.suspendedToolInvocations.erase questionId })
  else
    (coordinator.suspendedToolInvocations.lookup questionId, coordinator)

def clearQuestion (order : List String) (jobId : String) : SuspensionCoordinator :=
  let removed := coordinator.pendingQuestions.lookup jobId
  let coordinator :=
    { coordinator with pendingQuestions := coordinator.pendingQuestions.erase jobId }
  match removed.or (coordinator.runtimeState.rebuildQuestion order jobId) with
  | none => coordinator
  | some question =>
    match question.inbound with
    | none => coordinator
    | some inbound =>
      let kind : SuspensionKind :=
        if question.sourceKind = .subtaskBlocked then .subtaskBlocked else .question
      { coordinator with
        runtimeState :=
          (coordinator.runtimeState.upsertTask now inbound .question .completed question.prompt none
            ).upsertSuspension now inbound question (some (runtimeTaskId jobId .question)) none kind
              .cleared }

def clearToolInvocation (questionId : String) : SuspensionCoordinator :=
  let existing := coordinator.runtimeState.suspensionOf questionId
  let removed := coordinator.suspendedToolInvocations.lookup questionId
  let coordinator :=
    { coordinator with
      suspendedToolInvocations := coordinator.suspendedToolInvocations.erase questionId }
  match removed.or (coordinator.runtimeState.rebuildToolInvocation questionId) with
  | none => coordinator
  | some state =>
    let jobId := runtimeMessageId state.inbound
    let question :=
      { toolPermissionQuestion now questionId jobId state
          (.object [("tool_name", .string state.toolName),
            ("tool_use_id", .string state.suspension.suspendedTool.toolUseId),
            ("type", .string "tool_permission")]) with
        riskLevel := .high
        answerSubmitted := (existing.bind SuspensionRecord.answerSummary).isSome
        answerSummary := existing.bind SuspensionRecord.answerSummary
        resolutionSource := existing.bind SuspensionRecord.resolutionSource }
    { coordinator with
      runtimeState :=
        coordinator.runtimeState.upsertSuspension now state.inbound question
          (some (runtimeTaskId jobId .toolPermission)) (some state.invocationId) .toolPermission
          .cleared }

def resolveQuestion (jobId : String) (pending : PendingQuestion) (inbound : InboundMessage)
    : SuspensionCoordinator :=
  let kind : SuspensionKind :=
    match pending.sourceKind with
    | .subtaskBlocked => .subtaskBlocked
    | .planApproval => .humanApproval
    | _ => .question
  { coordinator with
    runtimeState :=
      (coordinator.runtimeState.upsertSuspension now inbound pending
        (some (runtimeTaskId jobId .question)) none kind .resolved
        ).upsertTask now inbound .question .completed ("question answered: " ++ pending.prompt) none }

def acceptAnswer (jobId : String) (answer : QuestionAnswerInput) (answerSummary : String)
    (pending : PendingQuestion)
    : Except AgentError PendingQuestion × SuspensionCoordinator :=
  if pending.questionId ≠ answer.questionId then
    (.error (.questionIdMismatch jobId pending.questionId answer.questionId), coordinator)
  else
    let pending :=
      { pending with
        answerSubmitted := true
        answerSummary := some answerSummary
        resolutionSource := some answer.source }
    let coordinator :=
      { coordinator with pendingQuestions := coordinator.pendingQuestions.insert jobId pending }
    match pending.inbound with
    | none => (.error (.missingInboundContext jobId), coordinator)
    | some inbound =>
      -- an answered tool permission stays active until the tool has run
      if pending.sourceKind = .toolPermission then
        (.ok pending, coordinator)
      else
        (.ok pending, coordinator.resolveQuestion now jobId pending inbound)

def submitAnswer (order : List String) (jobId : String) (answer : QuestionAnswerInput)
    (answerSummary : String)
    : Except AgentError PendingQuestion × SuspensionCoordinator :=
  match coordinator.questionState order jobId true with
  | (none, coordinator) => (.error (.noPendingQuestion jobId), coordinator)
  | (some pending, coordinator) => coordinator.acceptAnswer now jobId answer answerSummary pending

@[simp]
theorem runtimeState_questionState (order : List String) (jobId : String) (hydrateCache : Bool)
    : (coordinator.questionState order jobId hydrateCache).2.runtimeState
        = coordinator.runtimeState := by
  unfold questionState
  split
  . split
    . split
      . rfl
      . rfl
    . rfl
  . rfl

@[simp]
theorem runtimeState_toolInvocationState (questionId : String)
    : (coordinator.toolInvocationState questionId).2.runtimeState = coordinator.runtimeState := by
  unfold toolInvocationState
  split
  . split
    . rfl
    . rfl
  . rfl

end SuspensionCoordinator

end AnimaAgent
