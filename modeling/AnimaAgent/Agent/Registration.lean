import AnimaAgent.Agent.Upserts
import AnimaAgent.Tasks.Plan

namespace AnimaAgent

def SubtaskBlockedReason.toQuestion : SubtaskBlockedReason → String × List String × QuestionKind
  | missingParameter name description =>
    ("子任务需要参数 `" ++ name ++ "`: " ++ description, [], .input)
  | missingContext whatNeeded => ("子任务缺少上下文: " ++ whatNeeded, [], .input)
  | multipleOptions options prompt => (prompt, options, .choice)
  | needsDecision reason => ("子任务需要决策: " ++ reason, [], .input)

namespace SuspensionCoordinator

variable (now : UInt64) (uuid : String) (jobId : String) (inbound : InboundMessage)
  (opencodeSessionId : String) (coordinator : SuspensionCoordinator)

def planApprovalQuestion (format : PlanFormat) (proposal : PlanProposal) : PendingQuestion where
  questionId := uuid
  jobId := jobId
  opencodeSessionId := opencodeSessionId
  questionKind := .confirm
  prompt := "执行计划待审批：" ++ proposal.summary ++ "（共 "
    ++ toString proposal.plan.tasks.length ++ " 个子任务）"
  options := ["approved", "rejected"]
  rawQuestion := .object [
    ("plan", format.toValue proposal.plan),
    ("proposal_id", .string proposal.proposalId),
    ("summary", .string proposal.summary),
    ("type", .string "plan_approval")]
  decisionMode := .userRequired
  riskLevel := .high
  requiresUserConfirmation := true
  sourceKind := .planApproval
  continuationToken := some uuid
  askedAtMs := now
  answerSubmitted := false
  answerSummary := none
  resolutionSource := none
  inbound := some inbound

def subtaskBlockedQuestion (reason : SubtaskBlockedReason) : PendingQuestion where
  questionId := uuid
  jobId := jobId
  opencodeSessionId := opencodeSessionId
  questionKind := reason.toQuestion.2.2
  prompt := reason.toQuestion.1
  options := reason.toQuestion.2.1
  rawQuestion := reason.toValue
  decisionMode := .userRequired
  riskLevel := .low
  requiresUserConfirmation := true
  sourceKind := .subtaskBlocked
  continuationToken := some uuid
  askedAtMs := now
  answerSubmitted := false
  answerSummary := none
  resolutionSource := none
  inbound := some inbound

def registerQuestion (question : PendingQuestion) (kind : SuspensionKind) : SuspensionCoordinator :=
  { coordinator with
    runtimeState :=
      (coordinator.runtimeState.upsertTask now inbound .question .suspended question.prompt none
        ).upsertSuspension now inbound question (some (runtimeTaskId inbound.id .question)) none
          kind .active
    pendingQuestions := coordinator.pendingQuestions.insert jobId question }

def registerPlanApproval (format : PlanFormat) (proposal : PlanProposal) : SuspensionCoordinator :=
  coordinator.registerQuestion now jobId inbound
    (planApprovalQuestion now uuid jobId inbound opencodeSessionId format proposal) .humanApproval

def registerSubtaskBlocked (reason : SubtaskBlockedReason) : SuspensionCoordinator :=
  coordinator.registerQuestion now jobId inbound
    (subtaskBlockedQuestion now uuid jobId inbound opencodeSessionId reason) .subtaskBlocked

theorem registerPlanApproval_eq (format : PlanFormat) (proposal : PlanProposal)
    : coordinator.registerPlanApproval now uuid jobId inbound opencodeSessionId format proposal
        = coordinator.storeQuestion now jobId
          (planApprovalQuestion now uuid jobId inbound opencodeSessionId format proposal) := by
  rfl

theorem registerSubtaskBlocked_eq (reason : SubtaskBlockedReason)
    : coordinator.registerSubtaskBlocked now uuid jobId inbound opencodeSessionId reason
        = coordinator.storeQuestion now jobId
          (subtaskBlockedQuestion now uuid jobId inbound opencodeSessionId reason) := by
  unfold registerSubtaskBlocked registerQuestion storeQuestion subtaskBlockedQuestion
  cases reason <;> rfl

end SuspensionCoordinator

end AnimaAgent
