import AnimaAgent.Agent.InitialExecution
import AnimaAgent.Agent.Registration

namespace AnimaAgent

inductive SuccessSource where
  | initial
  | questionContinuation
  | agentFollowup
  deriving DecidableEq

namespace SuccessSource

def label : SuccessSource → String
  | initial => "initial"
  | questionContinuation => "question_continuation"
  | agentFollowup => "agent_followup"

def assemblyMode : SuccessSource → ContextAssemblyMode
  | initial => .initial
  | questionContinuation => .questionContinuation
  | agentFollowup => .followup

end SuccessSource

/-- What the resolution of blocked subtasks is set up with: a prompt, and `str::to_lowercase`. -/
structure EscalationSetup where
  escalationResolve : String
  toLowercase : String → String

section Blocked

variable (setup : EscalationSetup) (inbound : InboundMessage)

def tryAutoResolveBlocked (reason : SubtaskBlockedReason) : Option String :=
  let userRequest := inbound.content
  if Text.trim userRequest = "" then
    none
  else
    let names := fun needed =>
      Text.contains (setup.toLowercase needed) (setup.toLowercase userRequest)
    match reason with
    | .missingParameter name _ =>
      if names name then
        some ("参数 `" ++ name ++ "` 可从用户原始请求中获取: " ++ userRequest)
      else
        none
    | .missingContext whatNeeded =>
      if names whatNeeded then
        some ("所需上下文 `" ++ whatNeeded ++ "` 可从用户原始请求中获取: " ++ userRequest)
      else
        none
    | _ => none

def escalationReason : SubtaskBlockedReason → String
  | .missingParameter name description => "缺少参数 `" ++ name ++ "`: " ++ description
  | .missingContext whatNeeded => "缺少上下文: " ++ whatNeeded
  | .needsDecision reason => "需要决策: " ++ reason
  | .multipleOptions options prompt =>
    "多选项: " ++ prompt ++ "\n选项: " ++ ", ".intercalate options

def escalationRequest (opencodeSessionId : String) (reason : SubtaskBlockedReason) : ChatRequest where
  messages :=
    [{ role := .user
       content := [.text ((setup.escalationResolve.replace "\x7brequest\x7d" inbound.content).replace
         "\x7breason\x7d" (escalationReason reason))] }]
  metadata := .object [("session_id", .string opencodeSessionId)]

def autoResolvedPrompt (reason : SubtaskBlockedReason) (resolved : String) : String :=
  let reasonDesc :=
    match reason with
    | .missingParameter name _ => "缺失参数 `" ++ name ++ "`"
    | .missingContext whatNeeded => "缺失上下文: " ++ whatNeeded
    | _ => "子任务阻塞"
  "[子任务阻塞自动恢复] 原因: " ++ reasonDesc ++ "\n补充信息: " ++ resolved
    ++ "\n请基于此信息继续执行。"

def SubtaskBlockedReason.toJson (serde : SerdeJson) (reason : SubtaskBlockedReason) : String :=
  let field := fun (key : String) (value : Value) => "\"" ++ key ++ "\":" ++ serde.toString value
  let fields : List (String × Value) :=
    match reason with
    | missingParameter name description =>
      [("kind", .string "missing_parameter"), ("name", .string name),
        ("description", .string description)]
    | missingContext whatNeeded =>
      [("kind", .string "missing_context"), ("what_needed", .string whatNeeded)]
    | multipleOptions options prompt =>
      [("kind", .string "multiple_options"), ("options", .array (options.map Value.string)),
        ("prompt", .string prompt)]
    | needsDecision reason => [("kind", .string "needs_decision"), ("reason", .string reason)]
  "\x7b" ++ ",".intercalate (fields.map (fun entry => field entry.1 entry.2)) ++ "\x7d"

def subtaskBlockedMessage (serde : SerdeJson) (reason : SubtaskBlockedReason) (autoResolved : Bool)
    : InternalMsg :=
  let label := if autoResolved then "subtask_auto_resolved" else "subtask_blocked"
  { role := .system
    blocks := [.text ("[" ++ label ++ "] " ++ reason.toJson serde)]
    messageId := inbound.id ++ "-" ++ label
    toolUseId := none
    filtered := false
    metadata := .object [("auto_resolved", .bool autoResolved), ("subtask_blocked", .bool true)] }

end Blocked

structure UpstreamPass where
  opencodeSessionId : String
  result : TaskResult
  source : SuccessSource
  resolvedQuestion : Option PendingQuestion
  /-- What an outer call returns in place of the question of this one, if there is an outer call. -/
  returns : Option (Option PendingQuestion) := none

inductive UpstreamPhase where
  | handling (pass : UpstreamPass)
  | returned (outcome : Except AgentError (Option PendingQuestion))

inductive FollowupReport where
  | exhausted (reason : String)
  | failed (error : String)
  deriving DecidableEq

structure UpstreamRun where
  state : AgentState
  phase : UpstreamPhase
  escalations : Nat := 0
  continuations : Nat := 0
  followups : List String := []
  reports : List FollowupReport := []

structure UpstreamAnswers where
  verdict : RequirementVerdict
  worker : ApiCallExecutionRequest → Except RuntimeError TaskResult
  uuid : String
  taskId : String
  order : List String
  latestSummaryStatus : Option String

namespace UpstreamRun

variable (run : UpstreamRun)

def withState (state : AgentState) : UpstreamRun :=
  { run with state }

def goOn (pass : UpstreamPass) : UpstreamRun :=
  { run with phase := .handling pass }

def done (pass : UpstreamPass) (question : Option PendingQuestion) : UpstreamRun :=
  { run with phase := .returned (.ok (pass.returns.getD question)) }

def report (report : FollowupReport) : UpstreamRun :=
  { run with reports := run.reports ++ [report] }

def fail (error : AgentError) : UpstreamRun :=
  { run with phase := .returned (.error error) }

end UpstreamRun

structure AgentFollowupPreparation where
  progress : RequirementProgressState
  nextRound : Nat
  fingerprint : String

def AgentFollowupPreparation.isExhausted (preparation : AgentFollowupPreparation) : Bool :=
  decide (preparation.nextRound > preparation.progress.maxRounds)
    || preparation.progress.lastResultFingerprint == some preparation.fingerprint

namespace CoreAgent

variable (agent : CoreAgent) (setup : EscalationSetup) (inbound : InboundMessage)
  (answers : UpstreamAnswers) (pass : UpstreamPass) (run : UpstreamRun)

/-- `calls` is the number of requests that the model got before. -/
def tryLlmResolveBlocked (calls : Nat) (opencodeSessionId : String) (reason : SubtaskBlockedReason)
    : Option String :=
  match agent.provider.chat calls (escalationRequest setup inbound opencodeSessionId reason) with
  | .error _ => none
  | .ok response =>
    let text := Text.trim ((response.content.findSome? ContentBlock.text?).getD "")
    if text = "" ∨ Text.contains "CANNOT_RESOLVE" text then none else some text

def assemble (mode : ContextAssemblyMode) (opencodeSessionId : String)
    (pendingQuestion : Option PendingQuestion) (followupPrompt : Option String)
    : ContextAssemblyResult × AgentState :=
  run.state.assembleTurnContext agent.now answers.latestSummaryStatus inbound mode opencodeSessionId
    pendingQuestion followupPrompt

def appendSubtaskBlockedTranscript (reason : SubtaskBlockedReason) (autoResolved : Bool)
    : UpstreamRun :=
  run.withState (run.state.upsert (.message agent.now inbound
    (subtaskBlockedMessage inbound agent.serde reason autoResolved)))

def handleContinuation (opencodeSessionId : String)
    : Except RuntimeError TaskResult → UpstreamRun
  | .error error => run.fail (.executionFailed error.internalMessage)
  | .ok result =>
    if result.status = "success" then
      run.goOn
        { opencodeSessionId
          result
          source := .questionContinuation
          resolvedQuestion := none
          returns := pass.returns }
    else
      run.fail (.executionFailed (result.error.getD "Auto-resolved continuation failed"))

def continueWithAutoResolved (reason : SubtaskBlockedReason) (resolved : String) : UpstreamRun :=
  let (context, state) :=
    agent.assemble inbound answers run .subtaskBlockedContinuation pass.opencodeSessionId none
      (some (autoResolvedPrompt reason resolved))
  handleContinuation pass { run with state, continuations := run.continuations + 1 }
    context.metadata.opencodeSessionId
    (answers.worker
      { traceId := inbound.id
        sessionId := context.metadata.opencodeSessionId
        content := context.promptText
        kind := .questionContinuation
        metadata := some (.object []) })

def registerBlocked (reason : SubtaskBlockedReason) : UpstreamRun :=
  let coordinator := run.state.toSuspensionCoordinator.registerSubtaskBlocked agent.now answers.uuid
    inbound.id inbound pass.opencodeSessionId reason
  let (question, coordinator) := coordinator.questionState answers.order inbound.id false
  (run.withState { run.state with toSuspensionCoordinator := coordinator }).done pass question

def handleBlocked (reason : SubtaskBlockedReason) : UpstreamRun :=
  match tryAutoResolveBlocked setup inbound reason with
  | some resolved =>
    agent.continueWithAutoResolved inbound answers pass
      (agent.appendSubtaskBlockedTranscript inbound run reason true) reason resolved
  | none =>
    let run := agent.appendSubtaskBlockedTranscript inbound run reason false
    let asked := { run with escalations := run.escalations + 1 }
    match agent.tryLlmResolveBlocked setup inbound run.escalations pass.opencodeSessionId reason with
    | some resolved =>
      agent.continueWithAutoResolved inbound answers pass
        (agent.appendSubtaskBlockedTranscript inbound asked reason true) reason resolved
    | none => agent.registerBlocked inbound answers pass asked reason

def completedState (order : List String) (label : String) (state : AgentState) : AgentState :=
  let (progress, state) := state.requirementState inbound.id false
  let state :=
    { state with
      toSuspensionCoordinator :=
        state.toSuspensionCoordinator.clearQuestion agent.now order inbound.id }
  let state := state.clearRequirement inbound.id
  let state := state.upsert (.turnOfRun agent.now inbound label .completed .completed)
  let state := state.upsert
    (.task agent.now inbound .main .completed "upstream result completed successfully" none)
  match progress with
  | some progress => state.upsertRuntimeRequirement agent.now inbound progress .satisfied
  | none => state

def handleUpstreamResultComplete : UpstreamRun :=
  (run.withState
    (agent.completedState inbound answers.order pass.source.label run.state)).done pass
      pass.resolvedQuestion

def waitingState (label : String) (question : PendingQuestion) (state : AgentState) : AgentState :=
  let state :=
    { state with
      toSuspensionCoordinator :=
        state.toSuspensionCoordinator.storeQuestion agent.now inbound.id question }
  let state := state.upsert (.turnOfRun agent.now inbound label .waiting .running)
  let state := state.upsert
    (.task agent.now inbound .main .suspended "waiting for required user input" none)
  let (progress, state) := state.requirementState inbound.id false
  match progress with
  | some progress => state.upsertRuntimeRequirement agent.now inbound progress .waitingUserInput
  | none => state

def handleUpstreamResultWaitingUserInput (requirement : UserInputRequirement) : UpstreamRun :=
  let question := preparePendingQuestionForStorage requirement.pendingQuestion inbound
  (run.withState (agent.waitingState inbound pass.source.label question run.state)).done pass
    (some question)

def prepareAgentFollowup (plan : AgentFollowupPlan) (state : AgentState)
    : AgentFollowupPreparation × AgentState :=
  let (progress, state) :=
    state.ensureRequirement agent.now inbound defaultMaxRequirementFollowupRounds
  let state := state.upsert (.turn agent.now inbound "agent_followup" .running)
  let state := state.upsert
    (.task agent.now inbound .followup .running ("followup scheduled: " ++ plan.reason) none)
  ({ progress, nextRound := progress.attemptedRounds + 1, fingerprint := plan.resultFingerprint },
    state.upsertRuntimeRequirement agent.now inbound progress .followupScheduled)

def updateFollowupRequirementProgress (plan : AgentFollowupPlan)
    (preparation : AgentFollowupPreparation) (state : AgentState)
    : AgentState :=
  state.updateRequirement agent.now inbound.id preparation.nextRound (some preparation.fingerprint)
    (some plan.reason)

def exhaustedState (plan : AgentFollowupPlan) (preparation : AgentFollowupPreparation)
    (state : AgentState)
    : AgentState :=
  let state := agent.updateFollowupRequirementProgress inbound plan preparation state
  let state := state.upsert
    (.task agent.now inbound .followup .failed "followup exhausted" (some plan.reason))
  -- the record gets the progress from before the update
  let state := state.upsertRuntimeRequirement agent.now inbound preparation.progress .exhausted
  state.upsert (.turn agent.now inbound "agent_followup" .failed)

def handleExhaustedFollowup (plan : AgentFollowupPlan) (preparation : AgentFollowupPreparation)
    : UpstreamRun :=
  ((run.withState (agent.exhaustedState inbound plan preparation run.state)).report
    (.exhausted plan.reason)).done pass pass.resolvedQuestion

def followupResult (plan : AgentFollowupPlan) : Except RuntimeError TaskResult × AgentState :=
  if agent.toolRegistry.keys.isEmpty then
    let (context, state) :=
      agent.assemble inbound answers run .followup pass.opencodeSessionId none
        (some plan.followupPrompt)
    (answers.worker
      { traceId := inbound.id
        sessionId := context.metadata.opencodeSessionId
        content := context.promptText
        kind := .followup
        metadata := some (.object []) }, state)
  else
    let loop := agent.runAgenticLoopForFollowup run.state.toSuspensionCoordinator inbound answers.uuid
      answers.taskId pass.opencodeSessionId plan.followupPrompt
    (.ok (match loop.next with
      | .taskResult result => result
      -- a loop that follows up is not approved automatically
      | .autoResume _ => failedAgenticLoopTaskResult inbound answers.taskId ""),
      { run.state with toSuspensionCoordinator := loop.coordinator })

def failedFollowupState (error : Option String) (state : AgentState) : AgentState :=
  let state := state.upsert (.task agent.now inbound .followup .failed "followup request failed"
    (some (error.getD "Unknown runtime error")))
  state.upsert (.turn agent.now inbound "agent_followup" .failed)

def handleFollowup : Except RuntimeError TaskResult → UpstreamRun
  | .error error => run.fail (.executionFailed error.internalMessage)
  | .ok result =>
    if result.status = "success" then
      run.goOn
        { opencodeSessionId := pass.opencodeSessionId
          result
          source := .agentFollowup
          resolvedQuestion := none
          returns := some (pass.returns.getD pass.resolvedQuestion) }
    else
      ((run.withState (agent.failedFollowupState inbound result.error run.state)).report
        (.failed (result.error.getD "Unknown runtime error"))).done pass pass.resolvedQuestion

def startedState (plan : AgentFollowupPlan) (preparation : AgentFollowupPreparation)
    (state : AgentState)
    : AgentState :=
  (agent.updateFollowupRequirementProgress inbound plan preparation state).upsert
    (.task agent.now inbound .followup .running "executing followup request" none)

def executeScheduledFollowup (plan : AgentFollowupPlan) (preparation : AgentFollowupPreparation)
    : UpstreamRun :=
  let run :=
    { run with
      state := agent.startedState inbound plan preparation run.state
      followups := run.followups ++ [preparation.fingerprint] }
  let (result, state) := agent.followupResult inbound answers pass run plan
  agent.handleFollowup inbound pass (run.withState state) result

def scheduleAgentFollowup (plan : AgentFollowupPlan) : UpstreamRun :=
  let (preparation, state) := agent.prepareAgentFollowup inbound plan run.state
  if preparation.isExhausted then
    agent.handleExhaustedFollowup inbound pass (run.withState state) plan preparation
  else
    agent.executeScheduledFollowup inbound answers pass (run.withState state) plan preparation

def dispatchUpstreamTurnPlan : TurnOutcomePlan → UpstreamRun
  | .complete _ => agent.handleUpstreamResultComplete inbound answers pass run
  | .askUserInput _ requirement =>
    agent.handleUpstreamResultWaitingUserInput inbound pass run requirement
  | .scheduleFollowup plan => agent.scheduleAgentFollowup inbound answers pass run plan

def evaluatedState (state : AgentState) : AgentState :=
  (state.upsert (.turn agent.now inbound pass.source.label .running)).upsert
    (.task agent.now inbound .main .running
      ("handling upstream result via " ++ pass.source.label) none)

def evaluateUpstreamResult : UpstreamRun :=
  let (_, state) :=
    agent.assemble inbound answers run pass.source.assemblyMode pass.opencodeSessionId
      pass.resolvedQuestion none
  let turnPlan := planTurnOutcome pass.resolvedQuestion.isSome
    (judgeRequirement agent.serde pass.result.result answers.verdict)
  agent.dispatchUpstreamTurnPlan inbound answers pass
    (run.withState (agent.evaluatedState inbound pass state)) turnPlan

def blockedReasonOf (result : TaskResult) : Option SubtaskBlockedReason :=
  result.blockedReason.bind SubtaskBlockedReason.fromValue

def handleUpstreamResult : UpstreamRun :=
  match blockedReasonOf pass.result with
  | some reason => agent.handleBlocked setup inbound answers pass run reason
  | none => agent.evaluateUpstreamResult inbound answers pass run

def advance (current : UpstreamRun) (answers : UpstreamAnswers) : Option UpstreamRun :=
  match current.phase with
  | .handling pass => some (agent.handleUpstreamResult setup inbound answers pass current)
  | .returned _ => none

section Advance

variable {agent setup inbound answers pass} {current reached : UpstreamRun}

theorem advance_eq_some (h : agent.advance setup inbound current answers = some reached)
    : ∃ pass, current.phase = .handling pass
        ∧ agent.handleUpstreamResult setup inbound answers pass current = reached := by
  unfold advance at h
  split at h
  . next pass hphase => exact ⟨pass, hphase, Option.some.inj h⟩
  . cases h

theorem advance_of_handling (h : current.phase = .handling pass)
    : agent.advance setup inbound current answers
        = some (agent.handleUpstreamResult setup inbound answers pass current) := by
  unfold advance
  rw [h]

end Advance

end CoreAgent

end AnimaAgent
