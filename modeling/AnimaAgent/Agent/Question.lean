import AnimaAgent.Execution.AgenticLoop
import AnimaAgent.Runtime.Types

namespace AnimaAgent

def runtimeRunId (jobId : String) : String :=
  "run_" ++ jobId

def runtimeTurnId (jobId source : String) : String :=
  "turn_" ++ jobId ++ "_" ++ source

inductive RuntimeTaskPhase where
  | main
  | question
  | toolPermission
  | followup
  | requirement
  deriving DecidableEq, Repr

def RuntimeTaskPhase.label : RuntimeTaskPhase → String
  | main => "main"
  | question => "question"
  | toolPermission => "tool_permission"
  | followup => "followup"
  | requirement => "requirement"

def runtimeTaskId (jobId : String) (phase : RuntimeTaskPhase) : String :=
  "task_" ++ jobId ++ "_" ++ phase.label

def runtimeRequirementId (jobId : String) : String :=
  "requirement_" ++ jobId

def runtimeSuspensionId (questionId : String) : String :=
  "suspension_" ++ questionId

def runtimeMessageId (inbound : InboundMessage) : String :=
  ((inbound.metadata.get "subtask_id").bind Value.asStr).getD inbound.id

inductive QuestionKind where
  | confirm
  | choice
  | input
  deriving DecidableEq, Repr

inductive QuestionDecisionMode where
  | autoAllowed
  | userRequired
  deriving DecidableEq, Repr

inductive QuestionRiskLevel where
  | low
  | high
  deriving DecidableEq, Repr

inductive PendingQuestionSourceKind where
  | upstreamQuestion
  | toolPermission
  | subtaskBlocked
  | planApproval
  deriving DecidableEq, Repr

structure PendingQuestion where
  questionId : String
  jobId : String
  opencodeSessionId : String
  questionKind : QuestionKind
  prompt : String
  options : List String
  rawQuestion : Value
  decisionMode : QuestionDecisionMode
  riskLevel : QuestionRiskLevel
  requiresUserConfirmation : Bool
  sourceKind : PendingQuestionSourceKind
  continuationToken : Option String
  askedAtMs : UInt64
  answerSubmitted : Bool
  answerSummary : Option String
  resolutionSource : Option String
  inbound : Option InboundMessage
  deriving DecidableEq

structure QuestionAnswerInput where
  questionId : String
  source : String
  answerType : String
  answer : String
  deriving DecidableEq

structure SuspendedToolInvocationState where
  suspension : AgenticLoopSuspension
  inbound : InboundMessage
  opencodeSessionId : String
  deriving DecidableEq

namespace SuspendedToolInvocationState

def invocationId (state : SuspendedToolInvocationState) : String :=
  state.suspension.suspendedTool.invocation.invocationId

def toolName (state : SuspendedToolInvocationState) : String :=
  state.suspension.suspendedTool.toolName

def toolUseId (state : SuspendedToolInvocationState) : Option String :=
  some state.suspension.suspendedTool.toolUseId

def inputPreview (state : SuspendedToolInvocationState) : Option String :=
  some state.suspension.suspendedTool.permissionRequest.inputPreview

end SuspendedToolInvocationState

def questionRiskLevelStr : QuestionRiskLevel → String
  | .low => "low"
  | .high => "high"

def permissionRiskToQuestionRisk : PermissionRiskLevel → QuestionRiskLevel
  | .low => .low
  | .high => .high

def optionText (value : Value) : Option String :=
  (((value.get "value").bind Value.asStr).or ((value.get "label").bind Value.asStr)).or value.asStr

def classifyQuestionKind (question : Value) (options : List String) : QuestionKind :=
  match (question.get "kind").bind Value.asStr with
  | some "confirm" => .confirm
  | some "choice" => .choice
  | some "input" => .input
  | _ => if options.isEmpty then .input else .choice

def confirmationWords : List String :=
  ["delete", "remove", "overwrite", "rollback", "force", "deploy", "production", "database", "sql",
    "drop table", "grant", "permission", "credential", "secret", "token", "send email",
    "send message", "post", "external", "write operation"]

def classifyQuestionRequiresUserConfirmation (prompt : String) (options : List String) : Bool :=
  let normalized :=
    Text.toAsciiLowercase prompt ++ " " ++ Text.toAsciiLowercase (" ".intercalate options)
  confirmationWords.any (fun needle => Text.contains needle normalized)

def classifyQuestionDecisionMode (prompt : String) (options : List String) : QuestionDecisionMode :=
  if classifyQuestionRequiresUserConfirmation prompt options then .userRequired else .autoAllowed

def classifyQuestionRiskLevel (prompt : String) (options : List String) : QuestionRiskLevel :=
  if classifyQuestionRequiresUserConfirmation prompt options then .high else .low

/-- A question without an identifier gets `uuid`. -/
def buildPendingQuestion (now : UInt64) (uuid : String) (question : Value)
    (opencodeSessionId : String)
    : Option PendingQuestion := do
  let text ← (((question.get "prompt").or (question.get "message")).or (question.get "text")).bind
    Value.asStr
  let prompt := Text.trim text
  let options :=
    (((question.get "options").bind Value.asArray).map (fun values => values.filterMap optionText)).getD
      []
  let questionKind := classifyQuestionKind question options
  let decisionMode := classifyQuestionDecisionMode prompt options
  some {
    questionId :=
      (((question.get "question_id").or (question.get "id")).bind Value.asStr).getD uuid
    jobId := ""
    opencodeSessionId
    questionKind
    prompt
    options
    rawQuestion := question
    decisionMode
    riskLevel := classifyQuestionRiskLevel prompt options
    requiresUserConfirmation := decisionMode == .userRequired || questionKind == .confirm
    sourceKind :=
      if (question.get "type").bind Value.asStr = some "tool_permission" then
        .toolPermission
      else
        .upstreamQuestion
    continuationToken := none
    askedAtMs := now
    answerSubmitted := false
    answerSummary := none
    resolutionSource := none
    inbound := none }

def detectPendingQuestion (now : UInt64) (uuid : String) (result : Option Value)
    (opencodeSessionId : String)
    : Option PendingQuestion := do
  let response ← result
  let question ← response.get "question"
  buildPendingQuestion now uuid question opencodeSessionId

end AnimaAgent
