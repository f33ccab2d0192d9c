import AnimaAgent.Agent.Requirement
import AnimaAgent.Tasks.Plan

namespace AnimaAgent

inductive ExecutionKind where
  | initial
  | questionContinuation
  | followup
  deriving DecidableEq, Repr

structure ApiCallExecutionRequest where
  traceId : String
  sessionId : String
  content : String
  kind : ExecutionKind
  metadata : Option Value
  deriving DecidableEq

/-- What the model or a worker gets to go on with: the messages of a new loop, or one request. -/
inductive ContinuationInput where
  | loop (opencodeSessionId : String) (messages : List InternalMsg)
  | apiCall (request : ApiCallExecutionRequest)
  deriving DecidableEq

def ContinuationInput.prompt : ContinuationInput → String
  | loop _ messages => String.join (messages.flatMap (fun msg => msg.blocks.filterMap
      ContentBlock.text?))
  | apiCall request => request.content

inductive AnswerContinuation where
  | upstream (input : ContinuationInput)
  | subtaskBlocked (input : ContinuationInput)
  | toolPermission (prepared : AgentRun ToolPermissionResumePreparation)
  | planRejected (reason : String)
  | planApproved (plan : ExecutionPlan)
  | planNotRestored (error : AgentError)

/-- The first message of a loop that goes on; `uuid` is its identifier. -/
def followupMessage (uuid followupPrompt : String) : InternalMsg where
  role := .user
  blocks := [.text followupPrompt]
  messageId := uuid
  toolUseId := none
  filtered := false
  metadata := .object []

def subtaskBlockedPrompt (pending : PendingQuestion) (answer : QuestionAnswerInput) : String :=
  let reasonDesc := pending.rawQuestion.strAt "kind" "unknown"
  "[子任务阻塞恢复] 阻塞类型: " ++ reasonDesc ++ "\n原始问题: " ++ pending.prompt ++ "\n用户回答: "
    ++ answer.answer ++ "\n请基于此信息继续执行。"

def planApprovalVerdict (format : PlanFormat) (pending : PendingQuestion) (answer : String)
    : AnswerContinuation :=
  let verdict := Text.trim answer
  if (Text.stripPrefix "rejected" verdict).isSome then
    .planRejected ((Text.stripPrefix "rejected:" verdict).getD "user rejected")
  else
    match format.fromValue ((pending.rawQuestion.get "plan").getD .null) with
    | .ok plan => .planApproved plan
    | .error e => .planNotRestored (.continuationFailed ("failed to restore plan: " ++ e))

namespace CoreAgent

variable (agent : CoreAgent) (state : AgentState)

def continuationInput (uuid : String) (inbound : InboundMessage) (context : ContextAssemblyResult)
    : ContinuationInput :=
  if agent.toolRegistry.keys.isEmpty then
    .apiCall
      { traceId := inbound.id
        sessionId := context.metadata.opencodeSessionId
        content := context.promptText
        kind := .questionContinuation
        metadata := some (.object []) }
  else
    .loop context.metadata.opencodeSessionId [followupMessage uuid context.promptText]

def upstreamContext (latestSummaryStatus : Option String) (inbound : InboundMessage)
    (pending : PendingQuestion)
    : ContextAssemblyResult × AgentState :=
  state.assembleTurnContext agent.now latestSummaryStatus inbound .questionContinuation
    pending.opencodeSessionId (some pending) none

def subtaskBlockedContext (latestSummaryStatus : Option String) (inbound : InboundMessage)
    (pending : PendingQuestion) (answer : QuestionAnswerInput)
    : ContextAssemblyResult × AgentState :=
  state.assembleTurnContext agent.now latestSummaryStatus inbound .subtaskBlockedContinuation
    pending.opencodeSessionId (some pending) (some (subtaskBlockedPrompt pending answer))

/-- `uuid` is the identifier of the message that the continuation starts with or that it adds. -/
def continueSubmittedQuestionAnswer (format : PlanFormat) (uuid jobId : String)
    (latestSummaryStatus : Option String) (inbound : InboundMessage) (pending : PendingQuestion)
    (answer : QuestionAnswerInput)
    : AnswerContinuation × AgentState :=
  match pending.sourceKind with
  | .upstreamQuestion =>
    let (context, state) := agent.upstreamContext state latestSummaryStatus inbound pending
    (.upstream (agent.continuationInput uuid inbound context), state)
  | .subtaskBlocked =>
    let (context, state) :=
      agent.subtaskBlockedContext state latestSummaryStatus inbound pending answer
    (.subtaskBlocked (agent.continuationInput uuid inbound context), state)
  | .toolPermission =>
    let prepared :=
      agent.prepareToolPermissionResume state.toSuspensionCoordinator jobId pending uuid
        (Text.trim answer.answer)
    (.toolPermission prepared, { state with toSuspensionCoordinator := prepared.coordinator })
  | .planApproval => (planApprovalVerdict format pending answer.answer, state)

def acceptQuestionAnswer (order : List String) (jobId : String) (answer : QuestionAnswerInput)
    : Except AgentError (PendingQuestion × InboundMessage) × AgentState :=
  let (pending, coordinator) :=
    state.toSuspensionCoordinator.submitAnswer agent.now order jobId answer
      (truncatePreview answer.answer 120)
  let state := { state with toSuspensionCoordinator := coordinator }
  match pending with
  | .error error => (.error error, state)
  | .ok pending =>
    match pending.inbound with
    | none => (.error (.missingInboundContext jobId), state)
    | some inbound => (.ok (pending, inbound), state)

def submitQuestionAnswer (format : PlanFormat) (order : List String) (uuid jobId : String)
    (latestSummaryStatus : Option String) (answer : QuestionAnswerInput)
    : Except AgentError AnswerContinuation × AgentState :=
  match agent.acceptQuestionAnswer state order jobId answer with
  | (.error error, state) => (.error error, state)
  | (.ok (pending, inbound), state) =>
    let (continuation, state) :=
      agent.continueSubmittedQuestionAnswer state format uuid jobId latestSummaryStatus inbound
        pending answer
    (.ok continuation, state)

end CoreAgent

def PendingQuestion.answered (question : PendingQuestion) (answer : QuestionAnswerInput)
    (answerSummary : String)
    : PendingQuestion :=
  { question with
    answerSubmitted := true
    answerSummary := some answerSummary
    resolutionSource := some answer.source }

theorem SuspensionCoordinator.acceptAnswer_eq_ok (now : UInt64)
    (coordinator : SuspensionCoordinator) (jobId : String) {answer : QuestionAnswerInput}
    (answerSummary : String) {question : PendingQuestion} {inbound : InboundMessage}
    (hid : question.questionId = answer.questionId) (hinbound : question.inbound = some inbound)
    : ∃ coordinator', coordinator.acceptAnswer now jobId answer answerSummary question
          = (.ok (question.answered answer answerSummary), coordinator')
        ∧ coordinator'.runtimeState.requirements = coordinator.runtimeState.requirements := by
  unfold SuspensionCoordinator.acceptAnswer
  rw [if_neg (not_not.mpr hid)]
  cases question with
  | mk =>
    subst hinbound
    dsimp only
    split
    . exact ⟨_, rfl, rfl⟩
    . exact ⟨_, rfl, rfl⟩

namespace CoreAgent

variable (agent : CoreAgent)

theorem acceptQuestionAnswer_eq_ok {state : AgentState} {order : List String} {jobId : String}
    {answer : QuestionAnswerInput} {question : PendingQuestion} {inbound : InboundMessage}
    (hread : (state.toSuspensionCoordinator.questionState order jobId true).1 = some question)
    (hid : question.questionId = answer.questionId) (hinbound : question.inbound = some inbound)
    : ∃ state', agent.acceptQuestionAnswer state order jobId answer
          = (.ok (question.answered answer (truncatePreview answer.answer 120), inbound), state')
        ∧ state'.requirementProgress = state.requirementProgress
        ∧ state'.runtimeState.requirements = state.runtimeState.requirements := by
  unfold acceptQuestionAnswer SuspensionCoordinator.submitAnswer
  have hstate := state.toSuspensionCoordinator.runtimeState_questionState order jobId true
  cases hquestion : state.toSuspensionCoordinator.questionState order jobId true with
  | mk found coordinator =>
    rw [hquestion] at hread hstate
    dsimp only at hread hstate
    subst hread
    obtain ⟨coordinator', haccept, hrequirements⟩ := coordinator.acceptAnswer_eq_ok agent.now jobId
      (truncatePreview answer.answer 120) hid hinbound
    dsimp only
    rw [haccept]
    dsimp only
    rw [show (question.answered answer _).inbound = some inbound from hinbound]
    refine ⟨_, rfl, rfl, ?_⟩
    rw [← hstate]
    exact hrequirements

theorem prompt_continuationInput (uuid : String) (inbound : InboundMessage)
    (context : ContextAssemblyResult)
    : (agent.continuationInput uuid inbound context).prompt = context.promptText := by
  unfold continuationInput
  split
  . rfl
  . change String.join [context.promptText] = context.promptText
    simp [String.join]

theorem acceptQuestionAnswer_of_ok {state accepted : AgentState} {order : List String}
    {jobId : String} {answer : QuestionAnswerInput} {pending : PendingQuestion}
    {inbound : InboundMessage}
    (h : agent.acceptQuestionAnswer state order jobId answer = (.ok (pending, inbound), accepted))
    : ∃ question,
        (state.toSuspensionCoordinator.questionState order jobId true).1 = some question
          ∧ question.questionId = answer.questionId
          ∧ question.inbound = some inbound
          ∧ pending = question.answered answer (truncatePreview answer.answer 120) := by
  unfold acceptQuestionAnswer SuspensionCoordinator.submitAnswer at h
  cases hquestion : state.toSuspensionCoordinator.questionState order jobId true with
  | mk found coordinator =>
    rw [hquestion] at h
    cases found with
    | none => cases h
    | some question =>
      by_cases hid : question.questionId = answer.questionId
      . cases hinbound : question.inbound with
        | none =>
          dsimp only at h
          unfold SuspensionCoordinator.acceptAnswer at h
          rw [if_neg (not_not.mpr hid)] at h
          dsimp only at h
          rw [hinbound] at h
          cases h
        | some inbound' =>
          obtain ⟨coordinator', haccept, _⟩ := coordinator.acceptAnswer_eq_ok agent.now jobId
            (truncatePreview answer.answer 120) hid hinbound
          dsimp only at h
          rw [haccept] at h
          dsimp only at h
          rw [show (question.answered answer _).inbound = some inbound' from hinbound] at h
          cases h
          exact ⟨question, rfl, hid, hinbound, rfl⟩
      . dsimp only at h
        unfold SuspensionCoordinator.acceptAnswer at h
        rw [if_pos hid] at h
        cases h

theorem submitQuestionAnswer_of_ok (format : PlanFormat) {state accepted : AgentState}
    {order : List String} (uuid : String) {jobId : String} (latestSummaryStatus : Option String)
    {answer : QuestionAnswerInput} {pending : PendingQuestion} {inbound : InboundMessage}
    (h : agent.acceptQuestionAnswer state order jobId answer = (.ok (pending, inbound), accepted))
    : agent.submitQuestionAnswer state format order uuid jobId latestSummaryStatus answer
        = (let continued := agent.continueSubmittedQuestionAnswer accepted format uuid jobId
            latestSummaryStatus inbound pending answer
          (.ok continued.1, continued.2)) := by
  unfold submitQuestionAnswer
  rw [h]

theorem submitQuestionAnswer_of_error (format : PlanFormat) {state accepted : AgentState}
    {order : List String} (uuid : String) {jobId : String} (latestSummaryStatus : Option String)
    {answer : QuestionAnswerInput} {error : AgentError}
    (h : agent.acceptQuestionAnswer state order jobId answer = (.error error, accepted))
    : agent.submitQuestionAnswer state format order uuid jobId latestSummaryStatus answer
        = (.error error, accepted) := by
  unfold submitQuestionAnswer
  rw [h]

theorem continueSubmittedQuestionAnswer_of_planApproval (format : PlanFormat) (state : AgentState)
    (uuid jobId : String) (latestSummaryStatus : Option String) (inbound : InboundMessage)
    {pending : PendingQuestion} (answer : QuestionAnswerInput)
    (h : pending.sourceKind = .planApproval)
    : agent.continueSubmittedQuestionAnswer state format uuid jobId latestSummaryStatus inbound
          pending answer
        = (planApprovalVerdict format pending answer.answer, state) := by
  unfold continueSubmittedQuestionAnswer
  rw [h]

end CoreAgent

end AnimaAgent
