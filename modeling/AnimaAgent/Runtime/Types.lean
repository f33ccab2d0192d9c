import Mathlib.Data.List.AList
import AnimaAgent.Messages.Types

namespace AnimaAgent

structure InboundMessage where
  id : String
  channel : String
  senderId : String
  chatId : Option String
  content : String
  sessionKey : Option String := none
  media : List String := []
  metadata : Value := .object []
  deriving DecidableEq

inductive RunStatus where
  | running
  | completed
  | failed
  deriving DecidableEq, Repr

inductive TurnStatus where
  | running
  | waiting
  | completed
  | failed
  deriving DecidableEq, Repr

inductive TaskKind where
  | main
  | plan
  | subtask
  | followup
  | question
  | toolInvocation
  | requirement
  deriving DecidableEq, Repr

inductive TaskStatus where
  | pending
  | running
  | suspended
  | completed
  | failed
  deriving DecidableEq, Repr

inductive SuspensionKind where
  | question
  | toolPermission
  | followupWait
  | externalCallback
  | humanApproval
  | subtaskBlocked
  deriving DecidableEq, Repr

inductive SuspensionStatus where
  | active
  | resolved
  | cleared
  deriving DecidableEq, Repr

inductive RequirementStatus where
  | active
  | satisfied
  | waitingUserInput
  | followupScheduled
  | exhausted
  deriving DecidableEq, Repr

structure RunRecord where
  runId : String
  traceId : String
  jobId : String
  chatId : Option String
  channel : String
  status : RunStatus
  currentTurnId : Option String
  latestError : Option String
  createdAtMs : UInt64
  updatedAtMs : UInt64
  completedAtMs : Option UInt64
  deriving DecidableEq

structure TurnRecord where
  turnId : String
  runId : String
  source : String
  status : TurnStatus
  transcriptCheckpoint : Nat
  requirementId : Option String
  suspensionId : Option String
  startedAtMs : UInt64
  updatedAtMs : UInt64
  completedAtMs : Option UInt64
  deriving DecidableEq

structure TaskRecord where
  taskId : String
  runId : String
  turnId : Option String
  parentTaskId : Option String
  traceId : String
  jobId : String
  parentJobId : Option String
  planId : Option String
  kind : TaskKind
  name : String
  taskType : String
  description : String
  status : TaskStatus
  executionMode : Option String
  resultKind : Option String
  specialistType : Option String
  dependencies : List String
  metadata : Value
  startedAtMs : Option UInt64
  updatedAtMs : UInt64
  completedAtMs : Option UInt64
  error : Option String
  deriving DecidableEq

structure SuspensionRecord where
  suspensionId : String
  runId : String
  turnId : String
  taskId : Option String
  questionId : Option String
  invocationId : Option String
  kind : SuspensionKind
  status : SuspensionStatus
  prompt : Option String
  options : List String
  rawPayload : Value
  resolutionSource : Option String
  answerSummary : Option String
  createdAtMs : UInt64
  updatedAtMs : UInt64
  resolvedAtMs : Option UInt64
  clearedAtMs : Option UInt64
  deriving DecidableEq

structure ToolInvocationRuntimeRecord where
  invocationId : String
  runId : String
  turnId : Option String
  taskId : Option String
  toolName : String
  toolUseId : Option String
  phase : String
  permissionState : String
  inputPreview : Option String
  resultSummary : Option String
  errorSummary : Option String
  startedAtMs : UInt64
  finishedAtMs : Option UInt64
  deriving DecidableEq

structure RequirementRecord where
  requirementId : String
  runId : String
  turnId : Option String
  jobId : String
  originalUserRequest : String
  attemptedRounds : Nat
  maxRounds : Nat
  lastResultFingerprint : Option String
  lastReason : Option String
  status : RequirementStatus
  createdAtMs : UInt64
  updatedAtMs : UInt64
  deriving DecidableEq

structure MessageRecord where
  messageId : String
  runId : String
  turnId : Option String
  role : MessageRole
  blocks : List ContentBlock
  toolUseId : Option String
  metadata : Value
  filtered : Bool
  appendedAtMs : UInt64
  deriving DecidableEq

namespace MessageRecord

def fromInternal (runId : String) (turnId : Option String) (appendedAtMs : UInt64)
    (msg : InternalMsg)
    : MessageRecord where
  messageId := msg.messageId
  runId := runId
  turnId := turnId
  role := msg.role
  blocks := msg.blocks
  toolUseId := msg.toolUseId
  metadata := msg.metadata
  filtered := msg.filtered
  appendedAtMs := appendedAtMs

def toInternal (record : MessageRecord) : InternalMsg where
  role := record.role
  blocks := record.blocks
  messageId := record.messageId
  toolUseId := record.toolUseId
  filtered := record.filtered
  metadata := record.metadata

@[simp]
theorem toInternal_fromInternal (runId : String) (turnId : Option String) (appendedAtMs : UInt64)
    (msg : InternalMsg)
    : (fromInternal runId turnId appendedAtMs msg).toInternal = msg := by
  rfl

@[simp]
theorem runId_fromInternal (runId : String) (turnId : Option String) (appendedAtMs : UInt64)
    (msg : InternalMsg)
    : (fromInternal runId turnId appendedAtMs msg).runId = runId := by
  rfl

@[simp]
theorem turnId_fromInternal (runId : String) (turnId : Option String) (appendedAtMs : UInt64)
    (msg : InternalMsg)
    : (fromInternal runId turnId appendedAtMs msg).turnId = turnId := by
  rfl

end MessageRecord

structure RuntimeTaskIndex where
  runIdsByJobId : AList (fun _ : String => String) := ∅
  taskIdsByPlanId : AList (fun _ : String => List String) := ∅
  suspensionIdsByQuestionId : AList (fun _ : String => String) := ∅
  invocationIdsByQuestionId : AList (fun _ : String => String) := ∅

structure RuntimeStateSnapshot where
  runs : AList (fun _ : String => RunRecord) := ∅
  turns : AList (fun _ : String => TurnRecord) := ∅
  tasks : AList (fun _ : String => TaskRecord) := ∅
  suspensions : AList (fun _ : String => SuspensionRecord) := ∅
  toolInvocations : AList (fun _ : String => ToolInvocationRuntimeRecord) := ∅
  requirements : AList (fun _ : String => RequirementRecord) := ∅
  transcript : List MessageRecord := []
  projectionHints : AList (fun _ : String => AList (fun _ : String => Value)) := ∅
  index : RuntimeTaskIndex := {}
  sessionTitles : AList (fun _ : String => String) := ∅

end AnimaAgent
