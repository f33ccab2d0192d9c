import AnimaAgent.Agent.Upserts

namespace AnimaAgent

def AgenticLoopError.internalMessage : AgenticLoopError → String
  | apiCall error => error.message
  | responseParse internalMessage => internalMessage
  | toolExecution (.timeout toolName timeoutMs) =>
    "tool '" ++ toolName ++ "' timed out after " ++ toString timeoutMs.toNat ++ "ms"
  | toolExecution (.validationFailed message) => message
  | toolExecution (.permissionDenied message) => message
  | toolExecution (.internal message) => message
  | allToolsFailed internalMessage => internalMessage

structure CoreAgent where
  provider : Provider
  toolRegistry : ToolRegistry
  permissionChecker : Option PermissionChecker
  hookRegistry : Option HookRegistry
  toolDefinitions : List Value
  agenticLoopPrompt : String
  toolResumePrompt : String
  serde : SerdeJson
  now : UInt64
  uuid : Nat → Nat → String

def suspensionPayload (source : String) (state : SuspendedToolInvocationState) : Value :=
  let suspension := state.suspension
  let tool := suspension.suspendedTool
  let inbound := state.inbound
  .object [
    ("channel", .string inbound.channel),
    ("chat_id", ToolInvocationRecord.optString inbound.chatId),
    ("compact_count", .number (.posInt (UInt64.ofNat suspension.compactCount))),
    ("input_preview", .string tool.permissionRequest.inputPreview),
    ("invocation_id", .string tool.invocation.invocationId),
    ("iterations", .number (.posInt (UInt64.ofNat suspension.iterations))),
    ("opencode_session_id", .string state.opencodeSessionId),
    ("original_user_request", .string inbound.content),
    ("prompt", .string tool.permissionRequest.prompt),
    ("raw_input", tool.permissionRequest.rawInput),
    ("risk_level", .string (questionRiskLevelStr
      (permissionRiskToQuestionRisk tool.permissionRequest.riskLevel))),
    ("sender_id", .string inbound.senderId),
    ("tool_input", tool.toolInput),
    ("tool_invocation",
      tool.invocation.toValue.entryOrInsert "details" (.object [("source", .string source)])),
    ("tool_name", .string tool.toolName),
    ("tool_use_id", .string tool.toolUseId),
    ("type", .string "tool_permission")]

namespace SuspensionCoordinator

variable (now : UInt64) (coordinator : SuspensionCoordinator)

def upsert (upsert : RuntimeUpsert) : SuspensionCoordinator :=
  { coordinator with runtimeState := coordinator.runtimeState.apply upsert }

def appendTranscriptMessages (inbound : InboundMessage) (messages : List InternalMsg)
    : SuspensionCoordinator :=
  { coordinator with
    runtimeState := coordinator.runtimeState.appendTranscriptMessages now inbound messages }

def askToolPermission (source jobId questionId : String) (state : SuspendedToolInvocationState)
    : SuspensionCoordinator :=
  let coordinator :=
    coordinator.appendTranscriptMessages now state.inbound state.suspension.messages
  let question :=
    toolPermissionQuestion now questionId jobId state (suspensionPayload source state)
  (coordinator.storeQuestion now jobId question).storeToolInvocation now questionId state

def handleInitialToolPermissionSuspension (questionId : String) (inbound : InboundMessage)
    (opencodeSessionId : String) (suspension : AgenticLoopSuspension)
    : SuspensionCoordinator :=
  coordinator.askToolPermission now "suspend" inbound.id questionId
    { suspension, inbound, opencodeSessionId }

def resuspendToolPermissionContinuation (nextQuestionId jobId : String) (pending : PendingQuestion)
    (suspended : SuspendedToolInvocationState) (nextSuspension : AgenticLoopSuspension)
    : SuspensionCoordinator :=
  (coordinator.askToolPermission now "resuspended" jobId nextQuestionId
    { suspended with suspension := nextSuspension }).clearToolInvocation now pending.questionId

def finishToolPermissionContinuation (order : List String) (jobId : String)
    (pending : PendingQuestion) (suspended : SuspendedToolInvocationState)
    (loopResult : AgenticLoopResult)
    : SuspensionCoordinator :=
  let inbound := suspended.inbound
  let coordinator := coordinator.appendTranscriptMessages now inbound loopResult.messages
  let coordinator := coordinator.clearQuestion now order jobId
  let coordinator := coordinator.clearToolInvocation now pending.questionId
  let coordinator :=
    coordinator.upsert
      (.turnOfRun now inbound "tool_permission_continuation" .completed .completed)
  coordinator.upsert
    (.task now inbound .toolPermission .completed "tool permission resolved" none)

def resolveToolPermission (jobId : String) (pending : PendingQuestion)
    (suspended : SuspendedToolInvocationState)
    : SuspensionCoordinator :=
  let coordinator :=
    coordinator.upsert
      (.suspension now suspended.inbound pending (some (runtimeTaskId jobId .toolPermission))
        (some suspended.invocationId) .toolPermission .resolved)
  coordinator.upsert
    (.task now suspended.inbound .toolPermission .running
      ("tool permission resolved for " ++ suspended.toolName) none)

def suspendedFor (pending : PendingQuestion)
    : Except AgentError SuspendedToolInvocationState × SuspensionCoordinator :=
  match coordinator.toolInvocationState pending.questionId with
  | (some suspended, coordinator) => (.ok suspended, coordinator)
  | (none, coordinator) =>
    (.error (.continuationFailed
      ("Missing suspended tool invocation for question: " ++ pending.questionId)), coordinator)

@[simp]
theorem runtimeState_suspendedFor (pending : PendingQuestion)
    : (coordinator.suspendedFor pending).2.runtimeState = coordinator.runtimeState := by
  have hstate := coordinator.runtimeState_toolInvocationState pending.questionId
  unfold suspendedFor
  cases hread : coordinator.toolInvocationState pending.questionId with
  | mk found read =>
    rw [hread] at hstate
    cases found <;> exact hstate

end SuspensionCoordinator

def isAllow (answer : String) : Bool :=
  answer == "allow" || answer == "ALLOW" || answer == "Allow"

namespace CoreAgent

variable (agent : CoreAgent)

def loopEnv (config : AgenticLoopConfig) : LoopEnv where
  provider := agent.provider
  toolRegistry := agent.toolRegistry
  permissionChecker := agent.permissionChecker
  hookRegistry := agent.hookRegistry
  config := config
  serde := agent.serde
  now := agent.now
  uuid := agent.uuid

def resumeConfig (suspended : SuspendedToolInvocationState) : AgenticLoopConfig where
  maxIterations := 10
  sessionId := suspended.opencodeSessionId
  traceId := suspended.inbound.id
  systemPrompt := some agent.toolResumePrompt
  toolDefinitions := some agent.toolDefinitions
  streaming := true

def resumeAnswered (suspended : SuspendedToolInvocationState) (uuid answer : String)
    : LoopM (List InternalMsg) :=
  (agent.loopEnv (agent.resumeConfig suspended)).resumeSuspendedToolInvocation uuid
    suspended.suspension (isAllow answer)

end CoreAgent

structure AgentRun (α : Type) where
  outcome : Except AgentError α
  coordinator : SuspensionCoordinator
  events : List LoopEvent

structure ToolPermissionResumePreparation where
  suspended : SuspendedToolInvocationState
  config : AgenticLoopConfig
  resumedMessages : List InternalMsg

namespace CoreAgent

variable (agent : CoreAgent) (coordinator : SuspensionCoordinator)

/-- `uuid` is the identifier drawn for the result message. -/
def prepareToolPermissionResume (jobId : String) (pending : PendingQuestion) (uuid answer : String)
    : AgentRun ToolPermissionResumePreparation :=
  match coordinator.suspendedFor pending with
  | (.error error, coordinator) => { outcome := .error error, coordinator, events := [] }
  | (.ok suspended, coordinator) =>
    let resumed := agent.resumeAnswered suspended uuid answer
    match resumed.outcome with
    | .error error =>
      { outcome := .error (.continuationFailed error.internalMessage)
        coordinator
        events := resumed.events }
    | .ok resumedMessages =>
      { outcome := .ok { suspended, config := agent.resumeConfig suspended, resumedMessages }
        coordinator := coordinator.resolveToolPermission agent.now jobId pending suspended
        events := resumed.events }

def continueResumed (preparation : ToolPermissionResumePreparation) : LoopM AgenticLoopOutcome :=
  (agent.loopEnv preparation.config).continueAgenticLoop preparation.resumedMessages
    preparation.suspended.suspension.iterations preparation.suspended.suspension.compactCount

def handleToolPermissionContinuationOutcome (order : List String) (nextQuestionId jobId : String)
    (pending : PendingQuestion) (suspended : SuspendedToolInvocationState)
    : AgenticLoopOutcome → SuspensionCoordinator
  | .completed loopResult =>
    coordinator.finishToolPermissionContinuation agent.now order jobId pending suspended loopResult
  | .suspended nextSuspension =>
    coordinator.resuspendToolPermissionContinuation agent.now nextQuestionId jobId pending suspended
      nextSuspension

def resumeSuspendedToolPermission (order : List String) (nextQuestionId jobId : String)
    (pending : PendingQuestion) (uuid answer : String)
    : AgentRun Unit :=
  let prepared := agent.prepareToolPermissionResume coordinator jobId pending uuid answer
  match prepared.outcome with
  | .error error =>
    { outcome := .error error, coordinator := prepared.coordinator, events := prepared.events }
  | .ok preparation =>
    let continued := agent.continueResumed preparation
    match continued.outcome with
    | .error error =>
      { outcome := .error (.continuationFailed error.internalMessage)
        coordinator := prepared.coordinator
        events := prepared.events ++ continued.events }
    | .ok outcome =>
      { outcome := .ok ()
        coordinator :=
          agent.handleToolPermissionContinuationOutcome prepared.coordinator order nextQuestionId
            jobId pending preparation.suspended outcome
        events := prepared.events ++ continued.events }

end CoreAgent

end AnimaAgent
