import AnimaAgent.Agent.AnsweredPrompt
import AnimaAgent.Execution.Lemmas.Segments

namespace AnimaAgent

namespace AnswerContinuation

def CallsTool : AnswerContinuation → Prop
  | toolPermission prepared => loopToolCalls prepared.events ≠ []
  | _ => False

def ExecutesPlan : AnswerContinuation → Prop
  | planApproved _ => True
  | _ => False

end AnswerContinuation

def StartsWith (lead s : String) : Prop :=
  (Text.stripPrefix lead s).isSome

structure FailsClosed (answer : String) (continuation : AnswerContinuation) : Prop where
  tool : continuation.CallsTool → Text.trim answer ∈ ["allow", "ALLOW", "Allow"]
  plan : continuation.ExecutesPlan → StartsWith "approved" (Text.trim answer)

theorem isAllow_iff (answer : String) : isAllow answer = true ↔ answer ∈ ["allow", "ALLOW", "Allow"] := by
  unfold isAllow
  simp only [Bool.or_eq_true, beq_iff_eq, List.mem_cons, List.not_mem_nil, or_false, or_assoc]

namespace CoreAgent

variable (agent : CoreAgent)

theorem isAllow_of_callsTool {coordinator : SuspensionCoordinator} {jobId uuid answer : String}
    {pending : PendingQuestion}
    (h : loopToolCalls
      (agent.prepareToolPermissionResume coordinator jobId pending uuid answer).events ≠ [])
    : isAllow answer = true := by
  by_contra hdeny
  rw [Bool.not_eq_true] at hdeny
  apply h
  unfold prepareToolPermissionResume
  split
  . rfl
  . next suspended _ _ =>
    dsimp only
    unfold resumeAnswered
    rw [hdeny]
    rfl

theorem failsClosed_toolPermission {coordinator : SuspensionCoordinator} {jobId uuid : String}
    {answer : String} {pending : PendingQuestion}
    : FailsClosed answer (.toolPermission (agent.prepareToolPermissionResume coordinator jobId
      pending uuid (Text.trim answer))) := by
  refine ⟨?_, fun h => h.elim⟩
  intro h
  exact (isAllow_iff _).mp (agent.isAllow_of_callsTool h)

def Restorable (format : PlanFormat) (question : PendingQuestion) : Prop :=
  ∃ plan, format.fromValue ((question.rawQuestion.get "plan").getD .null) = .ok plan

theorem failsClosed_planApproval_iff (format : PlanFormat) (pending : PendingQuestion)
    (answer : String)
    : FailsClosed answer (planApprovalVerdict format pending answer)
        ↔ (Restorable format pending
          → StartsWith "approved" (Text.trim answer) ∨ StartsWith "rejected" (Text.trim answer)) := by
  unfold planApprovalVerdict
  dsimp only
  by_cases hrejected : (Text.stripPrefix "rejected" (Text.trim answer)).isSome
  . rw [if_pos hrejected]
    exact iff_of_true ⟨fun h => h.elim, fun h => h.elim⟩ (fun _ => .inr hrejected)
  . rw [if_neg hrejected]
    cases hplan : format.fromValue ((pending.rawQuestion.get "plan").getD .null) with
    | error e =>
      refine iff_of_true ⟨fun h => h.elim, fun h => h.elim⟩ ?_
      rintro ⟨plan, hplan'⟩
      rw [hplan] at hplan'
      cases hplan'
    | ok plan =>
      constructor
      . intro h _
        exact .inl (h.plan trivial)
      . intro h
        refine ⟨fun h => h.elim, fun _ => ?_⟩
        exact (h ⟨plan, hplan⟩).resolve_right hrejected

theorem continueSubmittedQuestionAnswer_failsClosed_iff (format : PlanFormat) (state : AgentState)
    (uuid jobId : String) (latestSummaryStatus : Option String) (inbound : InboundMessage)
    (pending : PendingQuestion) (answer : QuestionAnswerInput)
    : FailsClosed answer.answer (agent.continueSubmittedQuestionAnswer state format uuid jobId
          latestSummaryStatus inbound pending answer).1
        ↔ (pending.sourceKind = .planApproval → Restorable format pending
          → StartsWith "approved" (Text.trim answer.answer)
            ∨ StartsWith "rejected" (Text.trim answer.answer)) := by
  cases hkind : pending.sourceKind with
  | planApproval =>
    rw [agent.continueSubmittedQuestionAnswer_of_planApproval format state uuid jobId
      latestSummaryStatus inbound answer hkind, failsClosed_planApproval_iff]
    exact ⟨fun h _ => h, fun h => h rfl⟩
  | toolPermission =>
    refine iff_of_true ?_ (fun h => by cases h)
    unfold continueSubmittedQuestionAnswer
    rw [hkind]
    exact agent.failsClosed_toolPermission
  | upstreamQuestion =>
    refine iff_of_true ?_ (fun h => by cases h)
    unfold continueSubmittedQuestionAnswer
    rw [hkind]
    exact ⟨fun h => h.elim, fun h => h.elim⟩
  | subtaskBlocked =>
    refine iff_of_true ?_ (fun h => by cases h)
    unfold continueSubmittedQuestionAnswer
    rw [hkind]
    exact ⟨fun h => h.elim, fun h => h.elim⟩

/--
An answer sets off nothing that it does not allow exactly if it is no answer to a plan, or approves or
rejects the plan in so many words.
-/
theorem submitQuestionAnswer_failsClosed_iff (format : PlanFormat) (state : AgentState)
    (order : List String) (uuid jobId : String) (latestSummaryStatus : Option String)
    (answer : QuestionAnswerInput)
    : (∀ continuation state',
          agent.submitQuestionAnswer state format order uuid jobId latestSummaryStatus answer
            = (.ok continuation, state') → FailsClosed answer.answer continuation)
        ↔ ∀ question,
          (state.toSuspensionCoordinator.questionState order jobId true).1 = some question
            → question.questionId = answer.questionId → question.inbound.isSome
            → question.sourceKind = .planApproval → Restorable format question
            → StartsWith "approved" (Text.trim answer.answer)
              ∨ StartsWith "rejected" (Text.trim answer.answer) := by
  constructor
  . intro h question hread hid hinbound
    obtain ⟨inbound, hinbound⟩ := Option.isSome_iff_exists.mp hinbound
    obtain ⟨accepted, haccept, _⟩ := agent.acceptQuestionAnswer_eq_ok hread hid hinbound
    rw [agent.submitQuestionAnswer_of_ok format uuid latestSummaryStatus haccept] at h
    exact (agent.continueSubmittedQuestionAnswer_failsClosed_iff format accepted uuid jobId
      latestSummaryStatus inbound (question.answered answer (truncatePreview answer.answer 120))
      answer).mp (h _ _ rfl)
  . intro h continuation state' hsubmit
    cases haccept : agent.acceptQuestionAnswer state order jobId answer with
    | mk accepted accepting =>
      cases accepted with
      | error error =>
        rw [agent.submitQuestionAnswer_of_error format uuid latestSummaryStatus haccept] at hsubmit
        cases hsubmit
      | ok accepted =>
        obtain ⟨pending, inbound⟩ := accepted
        obtain ⟨question, hread, hid, hinbound, hpending⟩ :=
          agent.acceptQuestionAnswer_of_ok haccept
        rw [agent.submitQuestionAnswer_of_ok format uuid latestSummaryStatus haccept] at hsubmit
        cases hsubmit
        rw [agent.continueSubmittedQuestionAnswer_failsClosed_iff, hpending]
        exact h question hread hid (by rw [hinbound]; rfl)

def onePlan : ExecutionPlan where
  kind := .single
  planType := "single"
  tasks := []
  specialist := none

def onePlanFormat : PlanFormat where
  toValue _ := .null
  fromValue _ := .ok onePlan

def approvalState : AgentState where
  toSuspensionCoordinator :=
    (AskedQuestion.planApproval "question_1" "job_1" AskedQuestion.askingMessage "session_1"
      (.fromExecutionPlan "proposal_1" onePlan)).store 0 onePlanFormat
        (({} : SuspensionCoordinator).upsert
          (.turn 0 AskedQuestion.askingMessage "initial" .running))

theorem refusedPlan_not_failsClosed
    : ∃ continuation state',
        idle.submitQuestionAnswer approvalState onePlanFormat ["suspension_question_1"] "msg_1"
            "job_1" none (answerOf "no")
          = (.ok continuation, state')
        ∧ ¬FailsClosed "no" continuation := by
  have hasked : (approvalState.toSuspensionCoordinator.questionState ["suspension_question_1"]
      "job_1" true).1.map (fun question => (question.questionId, question.inbound,
        question.sourceKind))
      = some ("question_1", some AskedQuestion.askingMessage, .planApproval) := by
    decide +kernel
  obtain ⟨question, hread, hquestion⟩ := Option.map_eq_some_iff.mp hasked
  simp only [Prod.mk.injEq] at hquestion
  obtain ⟨hid, hinbound, hkind⟩ := hquestion
  have hid : question.questionId = (answerOf "no").questionId := hid
  obtain ⟨accepted, haccept, _⟩ := idle.acceptQuestionAnswer_eq_ok hread hid hinbound
  refine ⟨_, _, idle.submitQuestionAnswer_of_ok onePlanFormat "msg_1" none haccept, ?_⟩
  rw [idle.continueSubmittedQuestionAnswer_of_planApproval onePlanFormat accepted "msg_1" "job_1"
    none AskedQuestion.askingMessage _
    (show (question.answered (answerOf "no") _).sourceKind = .planApproval from hkind)]
  intro h
  have hverdict := (failsClosed_planApproval_iff onePlanFormat
    (question.answered (answerOf "no") (truncatePreview "no" 120)) "no").mp h ⟨onePlan, rfl⟩
  have hno : ¬StartsWith "approved" (Text.trim "no") ∧ ¬StartsWith "rejected" (Text.trim "no") := by
    unfold StartsWith
    decide +kernel
  exact hverdict.elim hno.1 hno.2

end CoreAgent

end AnimaAgent
