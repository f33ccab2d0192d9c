import AnimaAgent.Agent.AnswerSubmission
import AnimaAgent.Agent.QuestionRoundTrip

namespace AnimaAgent

/--
The prompt contains the whole answer, and what the user has asked for at first does not stand in the
place of the answer.
-/
structure SendsAnswer (prompt answer originalRequest : String) : Prop where
  whole : answer.toList <:+: prompt.toList
  inPlace : prompt = originalRequest → answer = originalRequest

/-- The preview of the answer is the answer, and it is not taken for a missing one. -/
def KeptByPreview (answer originalRequest : String) : Prop :=
  (answer.toList.length ≤ 120 ∧ (Text.trim answer ≠ "" ∨ answer = originalRequest))
    ∨ answer.toList = answer.toList.take 120 ++ ['…']

def previewPrompt (answer originalRequest : String) : String :=
  if Text.trim (truncatePreview answer 120) = "" then
    originalRequest
  else
    truncatePreview answer 120

theorem sendsAnswer_of_short {answer originalRequest : String} (h : answer.toList.length ≤ 120)
    : SendsAnswer (previewPrompt answer originalRequest) answer originalRequest
        ↔ Text.trim answer ≠ "" ∨ answer = originalRequest := by
  unfold previewPrompt
  rw [truncatePreview_of_le h]
  split
  . next hblank =>
    rw [or_iff_right (not_not.mpr hblank)]
    constructor
    . intro hsends
      exact hsends.inPlace rfl
    . rintro rfl
      exact ⟨List.infix_refl _, fun h => h⟩
  . next hblank =>
    exact iff_of_true ⟨List.infix_refl _, fun h => h⟩ (.inl hblank)

theorem sendsAnswer_of_long {answer originalRequest : String} (h : 120 < answer.toList.length)
    : SendsAnswer (previewPrompt answer originalRequest) answer originalRequest
        ↔ answer.toList = answer.toList.take 120 ++ ['…'] := by
  have hpreview := toList_truncatePreview_of_lt h
  have hblank : Text.trim (truncatePreview answer 120) ≠ "" := by
    refine Text.trim_ne (c := '…') ?_ (by decide) List.not_mem_nil
    rw [hpreview]
    exact List.mem_append_right _ (List.mem_singleton.mpr rfl)
  unfold previewPrompt
  rw [if_neg hblank]
  constructor
  . intro hsends
    have hwhole := hsends.whole
    rw [hpreview] at hwhole
    -- the preview has at most one character more than the start of the answer
    have hlength := hwhole.length_le
    rw [List.length_append, List.length_take, List.length_singleton] at hlength
    apply hwhole.eq_of_length
    rw [List.length_append, List.length_take, List.length_singleton]
    omega
  . intro heq
    have hsame : truncatePreview answer 120 = answer := by
      rw [← String.toList_inj, hpreview, ← heq]
    rw [hsame]
    exact ⟨List.infix_refl _, fun h => h⟩

theorem sendsAnswer_previewPrompt_iff (answer originalRequest : String)
    : SendsAnswer (previewPrompt answer originalRequest) answer originalRequest
        ↔ KeptByPreview answer originalRequest := by
  unfold KeptByPreview
  by_cases h : answer.toList.length ≤ 120
  . rw [sendsAnswer_of_short h, and_iff_right h]
    constructor
    . exact .inl
    . rintro (hkept | heq)
      . exact hkept
      . have hlength := congrArg List.length heq
        rw [List.take_of_length_le h, List.length_append, List.length_singleton] at hlength
        omega
  . rw [sendsAnswer_of_long (by omega), or_iff_right (fun hkept => h hkept.1)]

namespace CoreAgent

variable (agent : CoreAgent)

theorem submitQuestionAnswer_upstream (format : PlanFormat) {state : AgentState}
    {order : List String} (uuid : String) {jobId : String} (latestSummaryStatus : Option String)
    {answer : QuestionAnswerInput} {question : PendingQuestion} {inbound : InboundMessage}
    (hread : (state.toSuspensionCoordinator.questionState order jobId true).1 = some question)
    (hid : question.questionId = answer.questionId) (hinbound : question.inbound = some inbound)
    (hkind : question.sourceKind = .upstreamQuestion)
    : ∃ input state',
        agent.submitQuestionAnswer state format order uuid jobId latestSummaryStatus answer
            = (.ok (.upstream input), state')
          ∧ input.prompt = previewPrompt answer.answer (state.originalUserRequest inbound) := by
  obtain ⟨accepted, haccept, hprogress, hrequirements⟩ :=
    agent.acceptQuestionAnswer_eq_ok hread hid hinbound
  have hrequest : accepted.originalUserRequest inbound = state.originalUserRequest inbound := by
    unfold AgentState.originalUserRequest
    rw [accepted.requirementState_fst, state.requirementState_fst, hprogress]
    unfold RuntimeStateSnapshot.rebuildRequirement
    rw [hrequirements]
  unfold submitQuestionAnswer
  rw [haccept]
  dsimp only
  unfold continueSubmittedQuestionAnswer
  rw [show (question.answered answer _).sourceKind = .upstreamQuestion from hkind]
  refine ⟨_, _, rfl, ?_⟩
  rw [prompt_continuationInput]
  unfold upstreamContext previewPrompt
  rw [← hrequest]
  exact accepted.promptText_questionContinuation agent.now latestSummaryStatus inbound _ rfl

/--
The prompt that goes on after an upstream question has the whole answer of the user exactly if the
preview keeps it.
-/
theorem upstreamPrompt_iff (format : PlanFormat) {state : AgentState} {order : List String}
    (uuid : String) {jobId : String} (latestSummaryStatus : Option String)
    {answer : QuestionAnswerInput} {question : PendingQuestion} {inbound : InboundMessage}
    (hread : (state.toSuspensionCoordinator.questionState order jobId true).1 = some question)
    (hid : question.questionId = answer.questionId) (hinbound : question.inbound = some inbound)
    (hkind : question.sourceKind = .upstreamQuestion)
    : ∃ input state',
        agent.submitQuestionAnswer state format order uuid jobId latestSummaryStatus answer
            = (.ok (.upstream input), state')
          ∧ (SendsAnswer input.prompt answer.answer (state.originalUserRequest inbound)
            ↔ KeptByPreview answer.answer (state.originalUserRequest inbound)) := by
  obtain ⟨input, state', hsubmit, hprompt⟩ := agent.submitQuestionAnswer_upstream format uuid
    latestSummaryStatus hread hid hinbound hkind
  refine ⟨input, state', hsubmit, ?_⟩
  rw [hprompt]
  exact sendsAnswer_previewPrompt_iff answer.answer (state.originalUserRequest inbound)

def idle : CoreAgent where
  provider := .offline
  toolRegistry := ∅
  permissionChecker := none
  hookRegistry := none
  toolDefinitions := []
  agenticLoopPrompt := ""
  toolResumePrompt := ""
  serde := .small
  now := 0
  uuid i place := toString i ++ "/" ++ toString place

def askedState : AgentState where
  toSuspensionCoordinator :=
    (AskedQuestion.stored "job_1" AskedQuestion.inputQuestion).store 0 AskedQuestion.noPlans
      (({} : SuspensionCoordinator).upsert
        (.turn 0 AskedQuestion.askingMessage "initial" .running))

def askedQuestion : PendingQuestion :=
  ((askedState.toSuspensionCoordinator.questionState
    ["suspension_question_1"] "job_1" true).1).getD AskedQuestion.inputQuestion

def answerOf (text : String) : QuestionAnswerInput where
  questionId := "question_1"
  source := "user"
  answerType := "text"
  answer := text

theorem questionState_askedState
    : (askedState.toSuspensionCoordinator.questionState ["suspension_question_1"] "job_1" true).1
        = some askedQuestion := by
  have hsome : (askedState.toSuspensionCoordinator.questionState
      ["suspension_question_1"] "job_1" true).1.isSome := by
    decide +kernel
  unfold askedQuestion
  obtain ⟨question, hquestion⟩ := Option.isSome_iff_exists.mp hsome
  rw [hquestion]
  rfl

theorem upstreamPrompt_iff_askedState
    : ∃ input state',
        idle.submitQuestionAnswer askedState AskedQuestion.noPlans ["suspension_question_1"] "msg_1"
            "job_1" none (answerOf "a.txt")
          = (.ok (.upstream input), state')
        ∧ (SendsAnswer input.prompt "a.txt" (askedState.originalUserRequest
            AskedQuestion.askingMessage)
          ↔ KeptByPreview "a.txt" (askedState.originalUserRequest AskedQuestion.askingMessage)) := by
  exact idle.upstreamPrompt_iff AskedQuestion.noPlans "msg_1" none questionState_askedState
    (by decide +kernel) (by decide +kernel) (by decide +kernel)

theorem longAnswer_not_sent
    : ∃ input state',
        idle.submitQuestionAnswer askedState AskedQuestion.noPlans ["suspension_question_1"] "msg_1"
            "job_1" none (answerOf (String.ofList (List.replicate 121 'a')))
          = (.ok (.upstream input), state')
        ∧ ¬SendsAnswer input.prompt (String.ofList (List.replicate 121 'a'))
          (askedState.originalUserRequest AskedQuestion.askingMessage) := by
  obtain ⟨input, state', hsubmit, hprompt⟩ := idle.submitQuestionAnswer_upstream
    AskedQuestion.noPlans "msg_1" none questionState_askedState
    (show askedQuestion.questionId
      = (answerOf (String.ofList (List.replicate 121 'a'))).questionId by decide +kernel)
    (show askedQuestion.inbound = some AskedQuestion.askingMessage by decide +kernel)
    (by decide +kernel)
  refine ⟨input, state', hsubmit, ?_⟩
  rw [hprompt]
  change ¬SendsAnswer (previewPrompt (String.ofList (List.replicate 121 'a')) _) _ _
  rw [sendsAnswer_of_long (by rw [String.toList_ofList]; decide), String.toList_ofList]
  decide

end CoreAgent

end AnimaAgent
