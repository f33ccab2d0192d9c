import AnimaAgent.Agent.Question
import AnimaAgent.Runtime.StateStore

namespace AnimaAgent

namespace RuntimeStateSnapshot

variable (now : UInt64) (inbound : InboundMessage)

def upsertRun (status : RunStatus) (currentTurnId : Option String) (state : RuntimeStateSnapshot)
    : RuntimeStateSnapshot :=
  let runId := runtimeRunId inbound.id
  reduceEvent state (.runUpserted
    { runId
      traceId := inbound.id
      jobId := inbound.id
      chatId := inbound.chatId
      channel := inbound.channel
      status
      currentTurnId
      latestError := none
      createdAtMs := ((state.runs.lookup runId).map RunRecord.createdAtMs).getD now
      updatedAtMs := now
      completedAtMs := none })

def upsertTurn (source : String) (status : TurnStatus) (state : RuntimeStateSnapshot)
    : RuntimeStateSnapshot :=
  let turnId := runtimeTurnId inbound.id source
  let entered := reduceEvent state (.turnUpserted
    { turnId
      runId := runtimeRunId inbound.id
      source
      status
      transcriptCheckpoint := state.transcript.length
      requirementId := some (runtimeRequirementId inbound.id)
      suspensionId := none
      startedAtMs := ((state.turns.lookup turnId).map TurnRecord.startedAtMs).getD now
      updatedAtMs := now
      completedAtMs := none })
  entered.upsertRun now inbound .running (some turnId)

def currentTurnId (state : RuntimeStateSnapshot) (inbound : InboundMessage) : Option String :=
  (state.runs.lookup (runtimeRunId inbound.id)).bind RunRecord.currentTurnId

def taskKind : RuntimeTaskPhase → TaskKind
  | .main => .main
  | .question => .question
  | .toolPermission => .toolInvocation
  | .followup => .followup
  | .requirement => .requirement

def upsertTask (phase : RuntimeTaskPhase) (status : TaskStatus) (description : String)
    (error : Option String) (state : RuntimeStateSnapshot)
    : RuntimeStateSnapshot :=
  let taskId := runtimeTaskId inbound.id phase
  let existing := state.tasks.lookup taskId
  reduceEvent state (.taskUpserted
    { taskId
      runId := runtimeRunId inbound.id
      turnId := state.currentTurnId inbound
      parentTaskId := none
      traceId := inbound.id
      jobId := inbound.id
      parentJobId := none
      planId := none
      kind := taskKind phase
      name := phase.label
      taskType := phase.label
      description
      status
      executionMode := none
      resultKind := existing.bind TaskRecord.resultKind
      specialistType := none
      dependencies := (existing.map TaskRecord.dependencies).getD []
      metadata := .object [("channel", .string inbound.channel),
        ("chat_id", ToolInvocationRecord.optString inbound.chatId)]
      startedAtMs := (existing.bind TaskRecord.startedAtMs).or (some now)
      updatedAtMs := now
      completedAtMs := existing.bind TaskRecord.completedAtMs
      error })

def rawPayload (question : PendingQuestion) : Value :=
  let payload := question.rawQuestion
  let payload := payload.entryOrInsert "opencode_session_id" (.string question.opencodeSessionId)
  let payload := payload.entryOrInsert "original_user_request" (.string inbound.content)
  let payload := payload.entryOrInsert "sender_id" (.string inbound.senderId)
  let payload :=
    match inbound.chatId with
    | some chatId => payload.entryOrInsert "chat_id" (.string chatId)
    | none => payload
  payload.entryOrInsert "channel" (.string inbound.channel)

def suspensionRecord (question : PendingQuestion) (taskId invocationId : Option String)
    (kind : SuspensionKind) (status : SuspensionStatus) (state : RuntimeStateSnapshot)
    : SuspensionRecord :=
  let suspensionId := runtimeSuspensionId question.questionId
  { suspensionId
    runId := runtimeRunId inbound.id
    turnId := (state.currentTurnId inbound).getD (runtimeTurnId inbound.id "initial")
    taskId
    questionId := some question.questionId
    invocationId
    kind
    status
    prompt := some question.prompt
    options := question.options
    rawPayload := rawPayload inbound question
    resolutionSource := question.resolutionSource
    answerSummary := question.answerSummary
    createdAtMs :=
      ((state.suspensions.lookup suspensionId).map SuspensionRecord.createdAtMs).getD
        question.askedAtMs
    updatedAtMs := now
    resolvedAtMs := if question.answerSubmitted then some now else none
    clearedAtMs := none }

def upsertSuspension (question : PendingQuestion) (taskId invocationId : Option String)
    (kind : SuspensionKind) (status : SuspensionStatus) (state : RuntimeStateSnapshot)
    : RuntimeStateSnapshot :=
  reduceEvent state (.suspensionUpserted
    (state.suspensionRecord now inbound question taskId invocationId kind status))

def upsertToolInvocation (invocation : ToolInvocationRecord) (inputPreview : Option String)
    (state : RuntimeStateSnapshot)
    : RuntimeStateSnapshot :=
  reduceEvent state (.toolInvocationUpserted
    { invocationId := invocation.invocationId
      runId := runtimeRunId inbound.id
      turnId := state.currentTurnId inbound
      taskId := some (runtimeTaskId inbound.id .toolPermission)
      toolName := invocation.toolName
      toolUseId := invocation.toolUseId
      phase := invocation.phase.wireName
      permissionState := invocation.permissionState.wireName
      inputPreview
      resultSummary := invocation.resultSummary
      errorSummary := invocation.errorSummary
      startedAtMs := invocation.startedAtMs
      finishedAtMs := invocation.finishedAtMs })

def appendTranscriptMessage (message : InternalMsg) (state : RuntimeStateSnapshot)
    : RuntimeStateSnapshot :=
  reduceEvent state (.messageAppended
    (.fromInternal (runtimeRunId inbound.id) (state.currentTurnId inbound) now message))

def appendTranscriptMessages (messages : List InternalMsg) (state : RuntimeStateSnapshot)
    : RuntimeStateSnapshot :=
  messages.foldl (fun state message => state.appendTranscriptMessage now inbound message) state

end RuntimeStateSnapshot

end AnimaAgent
