import AnimaAgent.Agent.AnswerSubmission
import AnimaAgent.Cache.Lru

namespace AnimaAgent

structure TaskResult where
  taskId : String
  traceId : String
  status : String
  result : Option Value
  error : Option String
  durationMs : UInt64
  workerId : Option String
  blockedReason : Option Value
  deriving DecidableEq

def AgenticLoopResult.toResult (loopResult : AgenticLoopResult) : Value :=
  .object [
    ("hit_limit", .bool loopResult.hitLimit),
    ("iterations", .number (.posInt (UInt64.ofNat loopResult.iterations))),
    ("text", .string loopResult.finalText)]

def AgenticLoopSuspension.waitingResult (questionId : String) (suspension : AgenticLoopSuspension)
    : Value :=
  let tool := suspension.suspendedTool
  .object [
    ("question", .object [
      ("invocation_id", .string tool.invocation.invocationId),
      ("kind", .string "confirm"),
      ("options", .array [
        .object [("value", .string "allow")], .object [("value", .string "deny")]]),
      ("prompt", .string tool.permissionRequest.prompt),
      ("question_id", .string questionId),
      ("requires_user_confirmation", .bool true),
      ("risk_level", .string (questionRiskLevelStr
        (permissionRiskToQuestionRisk tool.permissionRequest.riskLevel))),
      ("tool_input", tool.toolInput),
      ("tool_name", .string tool.toolName),
      ("tool_use_id", .string tool.toolUseId),
      ("type", .string "tool_permission")]),
    ("question_id", .string questionId),
    ("status", .string "waiting_user_input"),
    ("tool_name", .string tool.toolName),
    ("type", .string "question")]

inductive LoopReturn where
  | taskResult (result : TaskResult)
  | autoResume (suspension : AgenticLoopSuspension)

structure LoopRun where
  next : LoopReturn
  coordinator : SuspensionCoordinator
  events : List LoopEvent

namespace CoreAgent

variable (agent : CoreAgent) (coordinator : SuspensionCoordinator) (inbound : InboundMessage)

def initialMsg : InternalMsg where
  role := .user
  blocks := [.text inbound.content]
  messageId := inbound.id
  toolUseId := none
  filtered := false
  metadata := .object []

def loopConfig (opencodeSessionId : String) : AgenticLoopConfig where
  maxIterations := 10
  sessionId := opencodeSessionId
  traceId := inbound.id
  systemPrompt := some agent.agenticLoopPrompt
  toolDefinitions := some agent.toolDefinitions
  streaming := true

def succeededTaskResult (taskId : String) (value : Value) : TaskResult where
  taskId := taskId
  traceId := inbound.id
  status := "success"
  result := some value
  error := none
  durationMs := 0
  workerId := none
  blockedReason := none

def failedAgenticLoopTaskResult (taskId : String) (error : String) : TaskResult where
  taskId := taskId
  traceId := inbound.id
  status := "error"
  result := none
  error := some error
  durationMs := 0
  workerId := none
  blockedReason := none

def skipInitialUser (messages : List InternalMsg) : List InternalMsg :=
  if messages.head?.map InternalMsg.role = some .user then messages.tail else messages

def finalizeCompletedAgenticLoopRun (taskId : String) (loopResult : AgenticLoopResult)
    : TaskResult × SuspensionCoordinator :=
  (succeededTaskResult inbound taskId loopResult.toResult,
    coordinator.appendTranscriptMessages agent.now inbound (skipInitialUser loopResult.messages))

/--
The first loop of a message. `dispatch` is the attempt to read the final text as a plan and to execute
it; `taskId` and `questionId` are the identifiers that may be drawn.
-/
def runAgenticLoopForPlan (autoApprove : Bool) (dispatch : String → Option TaskResult)
    (taskId questionId opencodeSessionId : String)
    : LoopRun :=
  let loop :=
    (agent.loopEnv (agent.loopConfig inbound opencodeSessionId)).runAgenticLoop
      [initialMsg inbound]
  match loop.outcome with
  | .ok (.completed loopResult) =>
    match dispatch loopResult.finalText with
    | some result => { next := .taskResult result, coordinator, events := loop.events }
    | none =>
      let (result, coordinator) :=
        agent.finalizeCompletedAgenticLoopRun coordinator inbound taskId loopResult
      { next := .taskResult result, coordinator, events := loop.events }
  | .ok (.suspended suspension) =>
    if autoApprove then
      { next := .autoResume suspension, coordinator, events := loop.events }
    else
      { next := .taskResult
          (succeededTaskResult inbound taskId (suspension.waitingResult questionId))
        coordinator :=
          coordinator.handleInitialToolPermissionSuspension agent.now questionId inbound
            opencodeSessionId suspension
        events := loop.events }
  | .error error =>
    { next := .taskResult (failedAgenticLoopTaskResult inbound taskId error.internalMessage)
      coordinator
      events := loop.events }

def autoResumeSuspendedTool (uuid taskId : String) (suspension : AgenticLoopSuspension)
    (config : AgenticLoopConfig)
    : LoopRun :=
  let env := agent.loopEnv config
  let resumed := env.resumeSuspendedToolInvocation uuid suspension true
  match resumed.outcome with
  | .error error =>
    { next := .taskResult (failedAgenticLoopTaskResult inbound taskId error.internalMessage)
      coordinator
      events := resumed.events }
  | .ok messages =>
    let loop := env.continueAgenticLoop messages suspension.iterations suspension.compactCount
    let events := resumed.events ++ loop.events
    match loop.outcome with
    | .ok (.completed loopResult) =>
      let (result, coordinator) :=
        agent.finalizeCompletedAgenticLoopRun coordinator inbound taskId loopResult
      { next := .taskResult result, coordinator, events }
    | .ok (.suspended nextSuspension) =>
      { next := .autoResume nextSuspension, coordinator, events }
    | .error error =>
      { next := .taskResult (failedAgenticLoopTaskResult inbound taskId error.internalMessage)
        coordinator
        events }

/-- A loop of its own for a prompt; `uuid` is the identifier of its first message. -/
def runAgenticLoopForFollowup (uuid taskId opencodeSessionId followupPrompt : String) : LoopRun :=
  let loop :=
    (agent.loopEnv (agent.loopConfig inbound opencodeSessionId)).runAgenticLoop
      [followupMessage uuid followupPrompt]
  match loop.outcome with
  | .ok (.completed loopResult) =>
    let (result, coordinator) :=
      agent.finalizeCompletedAgenticLoopRun coordinator inbound taskId loopResult
    { next := .taskResult result, coordinator, events := loop.events }
  | .ok (.suspended _) =>
    { next := .taskResult
        (failedAgenticLoopTaskResult inbound taskId "followup suspended on tool permission")
      coordinator
      events := loop.events }
  | .error error =>
    { next := .taskResult (failedAgenticLoopTaskResult inbound taskId error.internalMessage)
      coordinator
      events := loop.events }

end CoreAgent

structure OrchestrationExecutionResult where
  result : TaskResult
  wasDecomposed : Bool

structure InitialEnvironment where
  orchestration : Except AgentError OrchestrationExecutionResult
  planInstance : TaskResult
  autoApprove : Bool
  dispatch : String → Option TaskResult
  taskId : String
  questionId : String
  approvals : List (CoreAgent × String × String)

def InitialEnvironment.undecomposed (env : InitialEnvironment) : Bool :=
  match env.orchestration with
  | .ok execution => !execution.wasDecomposed
  | .error error => error == .orchestrationNoDecomposition

structure InitialExecutionOutcome where
  planType : String
  cacheHit : Bool
  result : TaskResult

structure ExecutionState where
  coordinator : SuspensionCoordinator
  cache : LruCache

namespace CoreAgent

def autoResumeSuspendedTools (inbound : InboundMessage) (config : AgenticLoopConfig)
    : List (CoreAgent × String × String) → LoopReturn → SuspensionCoordinator →
      Option (TaskResult × SuspensionCoordinator)
  | _, .taskResult result, coordinator => some (result, coordinator)
  | [], .autoResume _, _ => none
  | (agent, uuid, taskId) :: rest, .autoResume suspension, coordinator =>
    let run := agent.autoResumeSuspendedTool coordinator inbound uuid taskId suspension config
    autoResumeSuspendedTools inbound config rest run.next run.coordinator

theorem autoResumeSuspendedTools_taskResult (inbound : InboundMessage) (config : AgenticLoopConfig)
    (approvals : List (CoreAgent × String × String)) (result : TaskResult)
    (coordinator : SuspensionCoordinator)
    : autoResumeSuspendedTools inbound config approvals (.taskResult result) coordinator
        = some (result, coordinator) := by
  cases approvals with
  | nil => rfl
  | cons approval rest => rfl

variable (agent : CoreAgent) (coordinator : SuspensionCoordinator) (inbound : InboundMessage)
  (env : InitialEnvironment)

def executeInitialPlan (opencodeSessionId : String)
    : Option (TaskResult × SuspensionCoordinator) :=
  if agent.toolRegistry.keys.isEmpty then
    some (env.planInstance, coordinator)
  else
    let run :=
      agent.runAgenticLoopForPlan coordinator inbound env.autoApprove env.dispatch env.taskId
        env.questionId opencodeSessionId
    autoResumeSuspendedTools inbound (agent.loopConfig inbound opencodeSessionId) env.approvals
      run.next run.coordinator

def executeUncached (state : ExecutionState) (planType opencodeSessionId : String)
    : Option (InitialExecutionOutcome × ExecutionState) :=
  (agent.executeInitialPlan state.coordinator inbound env opencodeSessionId).map
    fun (result, coordinator) =>
      ({ planType, cacheHit := false, result }, { state with coordinator })

def executeAndCache (state : ExecutionState) (planType opencodeSessionId cacheKey : String)
    : Option (InitialExecutionOutcome × ExecutionState) :=
  (agent.executeInitialPlan state.coordinator inbound env opencodeSessionId).map
    fun (result, coordinator) =>
      let cache :=
        match result.status == "success", result.result with
        | true, some value => state.cache.set agent.now cacheKey value none
        | _, _ => state.cache
      ({ planType, cacheHit := false, result }, { coordinator, cache })

def executeUndecomposed (state : ExecutionState) (planType opencodeSessionId : String)
    : Option (InitialExecutionOutcome × ExecutionState) :=
  let cacheKey := makeApiCacheKey opencodeSessionId inbound.content
  if planType = "single" then
    match state.cache.get agent.now cacheKey with
    | (some cached, cache) =>
      some (
        { planType, cacheHit := true, result := succeededTaskResult inbound env.taskId cached },
        { state with cache })
    | (none, cache) =>
      agent.executeAndCache inbound env { state with cache } planType opencodeSessionId cacheKey
  else
    agent.executeUncached inbound env state planType opencodeSessionId

def executeInitialMessagePlan (state : ExecutionState) (plan : ExecutionPlan)
    (opencodeSessionId : String)
    : Option (InitialExecutionOutcome × ExecutionState) :=
  match env.orchestration with
  | .ok execution =>
    if execution.wasDecomposed then
      some (
        { planType := "orchestration-v1", cacheHit := false, result := execution.result },
        state)
    else
      agent.executeUndecomposed inbound env state plan.planType opencodeSessionId
  | .error error =>
    if error = .orchestrationNoDecomposition then
      agent.executeUndecomposed inbound env state plan.planType opencodeSessionId
    else
      agent.executeUncached inbound env state plan.planType opencodeSessionId

variable {agent inbound env} {state state' : ExecutionState} {plan : ExecutionPlan}
  {planType opencodeSessionId : String} {outcome : InitialExecutionOutcome}

theorem executeUncached_spec
    (h : agent.executeUncached inbound env state planType opencodeSessionId
      = some (outcome, state'))
    : state'.cache = state.cache ∧ outcome.cacheHit = false := by
  obtain ⟨⟨result, coordinator⟩, _, heq⟩ := Option.map_eq_some_iff.mp h
  obtain ⟨rfl, rfl⟩ := Prod.mk.inj heq
  exact ⟨rfl, rfl⟩

theorem executeInitialMessagePlan_of_undecomposed (h : env.undecomposed = true)
    : agent.executeInitialMessagePlan inbound env state plan opencodeSessionId
        = agent.executeUndecomposed inbound env state plan.planType opencodeSessionId := by
  unfold InitialEnvironment.undecomposed at h
  unfold executeInitialMessagePlan
  cases horchestration : env.orchestration with
  | ok execution =>
    rw [horchestration] at h
    exact if_neg (by rw [(Bool.not_eq_true' _).mp h]; exact Bool.false_ne_true)
  | error error =>
    rw [horchestration] at h
    exact if_pos (eq_of_beq h)

theorem executeInitialMessagePlan_of_decomposed (h : env.undecomposed = false)
    (hexecute : agent.executeInitialMessagePlan inbound env state plan opencodeSessionId
      = some (outcome, state'))
    : state'.cache = state.cache ∧ outcome.cacheHit = false := by
  unfold InitialEnvironment.undecomposed at h
  unfold executeInitialMessagePlan at hexecute
  cases horchestration : env.orchestration with
  | ok execution =>
    rw [horchestration] at h hexecute
    dsimp only at hexecute
    rw [if_pos ((Bool.not_eq_false' _).mp h)] at hexecute
    cases hexecute
    exact ⟨rfl, rfl⟩
  | error error =>
    rw [horchestration] at h hexecute
    dsimp only at hexecute
    rw [if_neg (beq_eq_false_iff_ne.mp h)] at hexecute
    exact executeUncached_spec hexecute

end CoreAgent

end AnimaAgent
