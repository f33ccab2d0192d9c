import AnimaAgent.Agent.UpstreamResolution

namespace AnimaAgent

inductive ClassificationKind where
  | direct
  | single
  | specialistRoute
  deriving DecidableEq, Repr

namespace AgentClassifier

variable (inbound : InboundMessage)

def specialist : Option String :=
  (inbound.metadata.get "specialist").bind Value.asStr

def classify : ClassificationKind :=
  let isSystem := ((inbound.metadata.get "system-command").bind Value.asBool).getD false
  if isSystem then
    .direct
  else if (specialist inbound).isSome then
    .specialistRoute
  else
    .single

/-- `uuid` is the identifier of the task, if there is one. -/
def buildPlan (uuid : String) : ExecutionPlan :=
  match classify inbound with
  | .direct => { kind := .direct, planType := "direct", tasks := [], specialist := none }
  | .specialistRoute =>
    { kind := .specialistRoute
      planType := "specialist-route"
      tasks :=
        [makeTask uuid ""
          { traceId := some inbound.id
            taskType := "api-call"
            payload := some (.object [("content", .string inbound.content)])
            metadata := some (.object
              [("specialist", .string ((specialist inbound).getD "default"))]) }]
      specialist := specialist inbound }
  | .single =>
    { kind := .single
      planType := "single"
      tasks :=
        [makeTask uuid ""
          { traceId := some inbound.id
            taskType := "api-call"
            payload := some (.object [("content", .string inbound.content)]) }]
      specialist := none }

theorem buildPlan_planType_eq_direct_iff (uuid : String)
    : (buildPlan inbound uuid).planType = "direct" ↔ classify inbound = .direct := by
  unfold buildPlan
  cases classify inbound with
  | direct => exact iff_of_true rfl rfl
  | single =>
    have hne : "single" ≠ "direct" := by decide
    exact iff_of_false hne (by decide)
  | specialistRoute =>
    have hne : "specialist-route" ≠ "direct" := by decide
    exact iff_of_false hne (by decide)

end AgentClassifier

inductive ApprovalMode where
  | auto
  | supervised
  | manual
  deriving DecidableEq, Repr

structure InboundEnvironment where
  format : PlanFormat
  session : Except RuntimeError String
  approvalMode : ApprovalMode
  initial : InitialEnvironment
  cache : LruCache
  latestSummaryStatus : Option String
  messageId : String
  planTaskId : String
  proposalId : String
  questionId : String

structure AnswerEnvironment where
  format : PlanFormat
  initial : InitialEnvironment
  cache : LruCache
  worker : ApiCallExecutionRequest → Except RuntimeError TaskResult
  latestSummaryStatus : Option String
  order : List String
  uuid : String
  taskId : String
  nextQuestionId : String

def ContinuationInput.opencodeSessionId : ContinuationInput → String
  | loop opencodeSessionId _ => opencodeSessionId
  | apiCall request => request.sessionId

namespace CoreAgent

variable (agent : CoreAgent) (inbound : InboundMessage) (state : AgentState)

section Inbound

variable (env : InboundEnvironment)

def receivedState : AgentState :=
  let state := state.upsert (.turn agent.now inbound "initial" .running)
  let state := state.upsert
    (.task agent.now inbound .main .running "processing inbound message" none)
  { state with
    toSuspensionCoordinator :=
      state.toSuspensionCoordinator.appendTranscriptMessages agent.now inbound
        [{ initialMsg inbound with messageId := env.messageId }] }

def prepareInboundSession : Except RuntimeError String :=
  if agent.toolRegistry.keys.isEmpty then
    env.session
  else
    .ok (inbound.sessionKey.getD inbound.id)

def finishSuccessfulInboundProcessing (opencodeSessionId : String) (result : TaskResult)
    : UpstreamPhase × AgentState :=
  let (context, state) :=
    state.assembleTurnContext agent.now env.latestSummaryStatus inbound .initial opencodeSessionId
      none (some inbound.content)
  (.handling
    { opencodeSessionId := context.metadata.opencodeSessionId
      result
      source := .initial
      resolvedQuestion := none },
    state)

def executeInboundPlan (plan : ExecutionPlan) (opencodeSessionId : String)
    : Option (UpstreamPhase × AgentState) :=
  (agent.executeInitialMessagePlan inbound env.initial
    { coordinator := state.toSuspensionCoordinator, cache := env.cache } plan
    opencodeSessionId).map (fun (outcome, execution) =>
      let state := { state with toSuspensionCoordinator := execution.coordinator }
      if outcome.result.status = "success" then
        agent.finishSuccessfulInboundProcessing inbound state env opencodeSessionId outcome.result
      else
        (.returned (.ok none), state))

def processInboundMessageFlow : Option (UpstreamPhase × AgentState) :=
  let state := agent.receivedState inbound state env
  match agent.prepareInboundSession inbound env with
  | .error _ => some (.returned (.ok none), state)
  | .ok opencodeSessionId =>
    let plan := AgentClassifier.buildPlan inbound env.planTaskId
    if plan.planType = "direct" then
      some (.returned (.ok none), state)
    else if env.approvalMode = .supervised ∨ env.approvalMode = .manual then
      let coordinator :=
        state.toSuspensionCoordinator.registerPlanApproval agent.now env.questionId inbound.id
          inbound opencodeSessionId env.format
          (.fromExecutionPlan env.proposalId plan)
      some (.returned (.ok none), { state with toSuspensionCoordinator := coordinator })
    else
      agent.executeInboundPlan inbound state env plan opencodeSessionId

end Inbound

section Answer

variable (env : AnswerEnvironment) (pending : PendingQuestion)

def answeredPass (opencodeSessionId : String) (result : TaskResult) : UpstreamPass where
  opencodeSessionId := opencodeSessionId
  result := result
  source := .questionContinuation
  resolvedQuestion := some pending
  returns := some (some pending)

def continuationResult : ContinuationInput → Except RuntimeError TaskResult × AgentState
  | .apiCall request => (env.worker request, state)
  | .loop opencodeSessionId messages =>
    let loop := agent.runAgenticLoopForFollowup state.toSuspensionCoordinator inbound env.uuid
      env.taskId opencodeSessionId (ContinuationInput.loop opencodeSessionId messages).prompt
    (.ok (match loop.next with
      | .taskResult result => result
      -- a loop that follows up is not approved automatically
      | .autoResume _ => failedAgenticLoopTaskResult inbound env.taskId ""),
      { state with toSuspensionCoordinator := loop.coordinator })

def continueAnswered (failure : String) (input : ContinuationInput) : UpstreamPhase × AgentState :=
  match agent.continuationResult inbound state env input with
  | (.error error, state) =>
    (.returned (.error (.continuationFailed error.internalMessage)), state)
  | (.ok result, state) =>
    if result.status = "success" then
      (.handling (answeredPass pending input.opencodeSessionId result), state)
    else
      (.returned (.error (.continuationFailed (result.error.getD failure))), state)

def continueToolPermission (jobId : String) (prepared : AgentRun ToolPermissionResumePreparation)
    : UpstreamPhase × AgentState :=
  match prepared.outcome with
  | .error error => (.returned (.error error), state)
  | .ok preparation =>
    match (agent.continueResumed preparation).outcome with
    | .error error =>
      (.returned (.error (.continuationFailed error.internalMessage)), state)
    | .ok outcome =>
      (.returned (.ok (some pending)),
        { state with
          toSuspensionCoordinator :=
            agent.handleToolPermissionContinuationOutcome state.toSuspensionCoordinator env.order
              env.nextQuestionId jobId pending preparation.suspended outcome })

def continueApprovedPlan (plan : ExecutionPlan) : Option (UpstreamPhase × AgentState) :=
  (agent.executeInitialMessagePlan inbound env.initial
    { coordinator := state.toSuspensionCoordinator, cache := env.cache } plan
    pending.opencodeSessionId).map (fun (outcome, execution) =>
      (.handling (answeredPass pending pending.opencodeSessionId outcome.result),
        { state with toSuspensionCoordinator := execution.coordinator }))

def continueAnswer (jobId : String)
    : AnswerContinuation → Option (UpstreamPhase × AgentState)
  | .upstream input =>
    some (agent.continueAnswered inbound state env pending "Continuation execution failed" input)
  | .subtaskBlocked input =>
    some (agent.continueAnswered inbound state env pending "Subtask blocked continuation failed"
      input)
  | .toolPermission prepared =>
    some (agent.continueToolPermission state env pending jobId prepared)
  | .planRejected _ => some (.returned (.ok (some pending)), state)
  | .planApproved plan => agent.continueApprovedPlan inbound state env pending plan
  | .planNotRestored error => some (.returned (.error error), state)

end Answer

def answerQuestion (env : AnswerEnvironment) (jobId : String) (answer : QuestionAnswerInput)
    : Option (UpstreamPhase × AgentState) :=
  match agent.acceptQuestionAnswer state env.order jobId answer with
  | (.error error, state) => some (.returned (.error error), state)
  | (.ok (pending, inbound), state) =>
    let (continuation, state) :=
      agent.continueSubmittedQuestionAnswer state env.format env.uuid jobId env.latestSummaryStatus
        inbound pending answer
    agent.continueAnswer inbound state env pending jobId continuation

end CoreAgent

end AnimaAgent
