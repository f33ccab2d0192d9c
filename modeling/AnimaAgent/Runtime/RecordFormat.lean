import AnimaAgent.Runtime.Types
import AnimaAgent.Tools.Record

namespace AnimaAgent

open ToolInvocationRecord (optString)

namespace Value

def ofU64 (n : UInt64) : Value :=
  .number (.posInt n)

def ofUsize (n : Nat) : Value :=
  .ofU64 (UInt64.ofNat n)

def optU64 : Option UInt64 → Value
  | none => .null
  | some n => .ofU64 n

@[simp]
def stringAt (value : Value) (key : String) : Option String :=
  (value.get key).bind asStr

@[simp]
def u64At (value : Value) (key : String) : Option UInt64 :=
  (value.get key).bind asU64

@[simp]
def usizeAt (value : Value) (key : String) : Option Nat :=
  (value.u64At key).map UInt64.toNat

@[simp]
def boolAt (value : Value) (key : String) : Option Bool :=
  (value.get key).bind asBool

@[simp]
def stringsAt (value : Value) (key : String) : Option (List String) :=
  ((value.get key).bind asArray).bind (fun items => items.mapM asStr)

def optField {α : Type} (read : Value → Option α) : Option Value → Option (Option α)
  | none => some none
  | some .null => some none
  | some field => (read field).map some

@[simp]
def optStringAt (value : Value) (key : String) : Option (Option String) :=
  optField asStr (value.get key)

@[simp]
def optU64At (value : Value) (key : String) : Option (Option UInt64) :=
  optField asU64 (value.get key)

@[simp]
def variantAt {α : Type} (variants : List α) (name : α → String) (value : Value) (key : String)
    : Option α :=
  (value.stringAt key).bind (fun wire => variants.find? (fun variant => name variant == wire))

end Value

namespace RunStatus

def wireName : RunStatus → String
  | running => "running"
  | completed => "completed"
  | failed => "failed"

def variants : List RunStatus :=
  [running, completed, failed]

end RunStatus

namespace TurnStatus

def wireName : TurnStatus → String
  | running => "running"
  | waiting => "waiting"
  | completed => "completed"
  | failed => "failed"

def variants : List TurnStatus :=
  [running, waiting, completed, failed]

end TurnStatus

namespace TaskKind

def wireName : TaskKind → String
  | main => "main"
  | plan => "plan"
  | subtask => "subtask"
  | followup => "followup"
  | question => "question"
  | toolInvocation => "tool_invocation"
  | requirement => "requirement"

def variants : List TaskKind :=
  [main, plan, subtask, followup, question, toolInvocation, requirement]

end TaskKind

namespace TaskStatus

def wireName : TaskStatus → String
  | pending => "pending"
  | running => "running"
  | suspended => "suspended"
  | completed => "completed"
  | failed => "failed"

def variants : List TaskStatus :=
  [pending, running, suspended, completed, failed]

end TaskStatus

namespace SuspensionKind

def wireName : SuspensionKind → String
  | question => "question"
  | toolPermission => "tool_permission"
  | followupWait => "followup_wait"
  | externalCallback => "external_callback"
  | humanApproval => "human_approval"
  | subtaskBlocked => "subtask_blocked"

def variants : List SuspensionKind :=
  [question, toolPermission, followupWait, externalCallback, humanApproval, subtaskBlocked]

end SuspensionKind

namespace SuspensionStatus

def wireName : SuspensionStatus → String
  | active => "active"
  | resolved => "resolved"
  | cleared => "cleared"

def variants : List SuspensionStatus :=
  [active, resolved, cleared]

end SuspensionStatus

namespace RequirementStatus

def wireName : RequirementStatus → String
  | active => "active"
  | satisfied => "satisfied"
  | waitingUserInput => "waiting_user_input"
  | followupScheduled => "followup_scheduled"
  | exhausted => "exhausted"

def variants : List RequirementStatus :=
  [active, satisfied, waitingUserInput, followupScheduled, exhausted]

end RequirementStatus

namespace MessageRole

def wireName : MessageRole → String
  | user => "user"
  | assistant => "assistant"
  | system => "system"

def variants : List MessageRole :=
  [user, assistant, system]

end MessageRole

namespace RunRecord

def toValue (run : RunRecord) : Value :=
  .object [
    ("channel", .string run.channel),
    ("chat_id", optString run.chatId),
    ("completed_at_ms", .optU64 run.completedAtMs),
    ("created_at_ms", .ofU64 run.createdAtMs),
    ("current_turn_id", optString run.currentTurnId),
    ("job_id", .string run.jobId),
    ("latest_error", optString run.latestError),
    ("run_id", .string run.runId),
    ("status", .string run.status.wireName),
    ("trace_id", .string run.traceId),
    ("updated_at_ms", .ofU64 run.updatedAtMs)]

def fromValue (value : Value) : Option RunRecord := do
  some {
    runId := ← value.stringAt "run_id"
    traceId := ← value.stringAt "trace_id"
    jobId := ← value.stringAt "job_id"
    chatId := ← value.optStringAt "chat_id"
    channel := ← value.stringAt "channel"
    status := ← value.variantAt RunStatus.variants RunStatus.wireName "status"
    currentTurnId := ← value.optStringAt "current_turn_id"
    latestError := ← value.optStringAt "latest_error"
    createdAtMs := ← value.u64At "created_at_ms"
    updatedAtMs := ← value.u64At "updated_at_ms"
    completedAtMs := ← value.optU64At "completed_at_ms" }

end RunRecord

namespace TurnRecord

def toValue (turn : TurnRecord) : Value :=
  .object [
    ("completed_at_ms", .optU64 turn.completedAtMs),
    ("requirement_id", optString turn.requirementId),
    ("run_id", .string turn.runId),
    ("source", .string turn.source),
    ("started_at_ms", .ofU64 turn.startedAtMs),
    ("status", .string turn.status.wireName),
    ("suspension_id", optString turn.suspensionId),
    ("transcript_checkpoint", .ofUsize turn.transcriptCheckpoint),
    ("turn_id", .string turn.turnId),
    ("updated_at_ms", .ofU64 turn.updatedAtMs)]

def fromValue (value : Value) : Option TurnRecord := do
  some {
    turnId := ← value.stringAt "turn_id"
    runId := ← value.stringAt "run_id"
    source := ← value.stringAt "source"
    status := ← value.variantAt TurnStatus.variants TurnStatus.wireName "status"
    transcriptCheckpoint := ← value.usizeAt "transcript_checkpoint"
    requirementId := ← value.optStringAt "requirement_id"
    suspensionId := ← value.optStringAt "suspension_id"
    startedAtMs := ← value.u64At "started_at_ms"
    updatedAtMs := ← value.u64At "updated_at_ms"
    completedAtMs := ← value.optU64At "completed_at_ms" }

end TurnRecord

namespace TaskRecord

def toValue (task : TaskRecord) : Value :=
  .object [
    ("completed_at_ms", .optU64 task.completedAtMs),
    ("dependencies", .array (task.dependencies.map Value.string)),
    ("description", .string task.description),
    ("error", optString task.error),
    ("execution_mode", optString task.executionMode),
    ("job_id", .string task.jobId),
    ("kind", .string task.kind.wireName),
    ("metadata", task.metadata),
    ("name", .string task.name),
    ("parent_job_id", optString task.parentJobId),
    ("parent_task_id", optString task.parentTaskId),
    ("plan_id", optString task.planId),
    ("result_kind", optString task.resultKind),
    ("run_id", .string task.runId),
    ("specialist_type", optString task.specialistType),
    ("started_at_ms", .optU64 task.startedAtMs),
    ("status", .string task.status.wireName),
    ("task_id", .string task.taskId),
    ("task_type", .string task.taskType),
    ("trace_id", .string task.traceId),
    ("turn_id", optString task.turnId),
    ("updated_at_ms", .ofU64 task.updatedAtMs)]

def fromValue (value : Value) : Option TaskRecord := do
  some {
    taskId := ← value.stringAt "task_id"
    runId := ← value.stringAt "run_id"
    turnId := ← value.optStringAt "turn_id"
    parentTaskId := ← value.optStringAt "parent_task_id"
    traceId := ← value.stringAt "trace_id"
    jobId := ← value.stringAt "job_id"
    parentJobId := ← value.optStringAt "parent_job_id"
    planId := ← value.optStringAt "plan_id"
    kind := ← value.variantAt TaskKind.variants TaskKind.wireName "kind"
    name := ← value.stringAt "name"
    taskType := ← value.stringAt "task_type"
    description := ← value.stringAt "description"
    status := ← value.variantAt TaskStatus.variants TaskStatus.wireName "status"
    executionMode := ← value.optStringAt "execution_mode"
    resultKind := ← value.optStringAt "result_kind"
    specialistType := ← value.optStringAt "specialist_type"
    dependencies := ← value.stringsAt "dependencies"
    metadata := ← value.get "metadata"
    startedAtMs := ← value.optU64At "started_at_ms"
    updatedAtMs := ← value.u64At "updated_at_ms"
    completedAtMs := ← value.optU64At "completed_at_ms"
    error := ← value.optStringAt "error" }

end TaskRecord

namespace SuspensionRecord

def toValue (suspension : SuspensionRecord) : Value :=
  .object [
    ("answer_summary", optString suspension.answerSummary),
    ("cleared_at_ms", .optU64 suspension.clearedAtMs),
    ("created_at_ms", .ofU64 suspension.createdAtMs),
    ("invocation_id", optString suspension.invocationId),
    ("kind", .string suspension.kind.wireName),
    ("options", .array (suspension.options.map Value.string)),
    ("prompt", optString suspension.prompt),
    ("question_id", optString suspension.questionId),
    ("raw_payload", suspension.rawPayload),
    ("resolution_source", optString suspension.resolutionSource),
    ("resolved_at_ms", .optU64 suspension.resolvedAtMs),
    ("run_id", .string suspension.runId),
    ("status", .string suspension.status.wireName),
    ("suspension_id", .string suspension.suspensionId),
    ("task_id", optString suspension.taskId),
    ("turn_id", .string suspension.turnId),
    ("updated_at_ms", .ofU64 suspension.updatedAtMs)]

def fromValue (value : Value) : Option SuspensionRecord := do
  some {
    suspensionId := ← value.stringAt "suspension_id"
    runId := ← value.stringAt "run_id"
    turnId := ← value.stringAt "turn_id"
    taskId := ← value.optStringAt "task_id"
    questionId := ← value.optStringAt "question_id"
    invocationId := ← value.optStringAt "invocation_id"
    kind := ← value.variantAt SuspensionKind.variants SuspensionKind.wireName "kind"
    status := ← value.variantAt SuspensionStatus.variants SuspensionStatus.wireName "status"
    prompt := ← value.optStringAt "prompt"
    options := ← value.stringsAt "options"
    rawPayload := ← value.get "raw_payload"
    resolutionSource := ← value.optStringAt "resolution_source"
    answerSummary := ← value.optStringAt "answer_summary"
    createdAtMs := ← value.u64At "created_at_ms"
    updatedAtMs := ← value.u64At "updated_at_ms"
    resolvedAtMs := ← value.optU64At "resolved_at_ms"
    clearedAtMs := ← value.optU64At "cleared_at_ms" }

end SuspensionRecord

namespace ToolInvocationRuntimeRecord

def toValue (invocation : ToolInvocationRuntimeRecord) : Value :=
  .object [
    ("error_summary", optString invocation.errorSummary),
    ("finished_at_ms", .optU64 invocation.finishedAtMs),
    ("input_preview", optString invocation.inputPreview),
    ("invocation_id", .string invocation.invocationId),
    ("permission_state", .string invocation.permissionState),
    ("phase", .string invocation.phase),
    ("result_summary", optString invocation.resultSummary),
    ("run_id", .string invocation.runId),
    ("started_at_ms", .ofU64 invocation.startedAtMs),
    ("task_id", optString invocation.taskId),
    ("tool_name", .string invocation.toolName),
    ("tool_use_id", optString invocation.toolUseId),
    ("turn_id", optString invocation.turnId)]

def fromValue (value : Value) : Option ToolInvocationRuntimeRecord := do
  some {
    invocationId := ← value.stringAt "invocation_id"
    runId := ← value.stringAt "run_id"
    turnId := ← value.optStringAt "turn_id"
    taskId := ← value.optStringAt "task_id"
    toolName := ← value.stringAt "tool_name"
    toolUseId := ← value.optStringAt "tool_use_id"
    phase := ← value.stringAt "phase"
    permissionState := ← value.stringAt "permission_state"
    inputPreview := ← value.optStringAt "input_preview"
    resultSummary := ← value.optStringAt "result_summary"
    errorSummary := ← value.optStringAt "error_summary"
    startedAtMs := ← value.u64At "started_at_ms"
    finishedAtMs := ← value.optU64At "finished_at_ms" }

end ToolInvocationRuntimeRecord

namespace RequirementRecord

def toValue (requirement : RequirementRecord) : Value :=
  .object [
    ("attempted_rounds", .ofUsize requirement.attemptedRounds),
    ("created_at_ms", .ofU64 requirement.createdAtMs),
    ("job_id", .string requirement.jobId),
    ("last_reason", optString requirement.lastReason),
    ("last_result_fingerprint", optString requirement.lastResultFingerprint),
    ("max_rounds", .ofUsize requirement.maxRounds),
    ("original_user_request", .string requirement.originalUserRequest),
    ("requirement_id", .string requirement.requirementId),
    ("run_id", .string requirement.runId),
    ("status", .string requirement.status.wireName),
    ("turn_id", optString requirement.turnId),
    ("updated_at_ms", .ofU64 requirement.updatedAtMs)]

def fromValue (value : Value) : Option RequirementRecord := do
  some {
    requirementId := ← value.stringAt "requirement_id"
    runId := ← value.stringAt "run_id"
    turnId := ← value.optStringAt "turn_id"
    jobId := ← value.stringAt "job_id"
    originalUserRequest := ← value.stringAt "original_user_request"
    attemptedRounds := ← value.usizeAt "attempted_rounds"
    maxRounds := ← value.usizeAt "max_rounds"
    lastResultFingerprint := ← value.optStringAt "last_result_fingerprint"
    lastReason := ← value.optStringAt "last_reason"
    status := ← value.variantAt RequirementStatus.variants RequirementStatus.wireName "status"
    createdAtMs := ← value.u64At "created_at_ms"
    updatedAtMs := ← value.u64At "updated_at_ms" }

end RequirementRecord

namespace ContentBlock

def toTagged : ContentBlock → Value
  | text t => .object [("text", .string t), ("type", .string "text")]
  | toolUse id name input =>
    .object [("id", .string id), ("input", input), ("name", .string name),
      ("type", .string "tool_use")]
  | toolResult toolUseId content isError =>
    .object [("content", content), ("is_error", .bool isError), ("tool_use_id", .string toolUseId),
      ("type", .string "tool_result")]
  | thinking t => .object [("thinking", .string t), ("type", .string "thinking")]
  | json value => .object [("type", .string "json"), ("value", value)]

def fromTagged (value : Value) : Option ContentBlock := do
  match ← value.stringAt "type" with
  | "text" => some (.text (← value.stringAt "text"))
  | "tool_use" =>
    some (.toolUse (← value.stringAt "id") (← value.stringAt "name") (← value.get "input"))
  | "tool_result" =>
    some (.toolResult (← value.stringAt "tool_use_id") (← value.get "content")
      (← value.boolAt "is_error"))
  | "thinking" => some (.thinking (← value.stringAt "thinking"))
  | "json" => some (.json (← value.get "value"))
  | _ => none

end ContentBlock

namespace MessageRecord

def toValue (message : MessageRecord) : Value :=
  .object [
    ("appended_at_ms", .ofU64 message.appendedAtMs),
    ("blocks", .array (message.blocks.map ContentBlock.toTagged)),
    ("filtered", .bool message.filtered),
    ("message_id", .string message.messageId),
    ("metadata", message.metadata),
    ("role", .string message.role.wireName),
    ("run_id", .string message.runId),
    ("tool_use_id", optString message.toolUseId),
    ("turn_id", optString message.turnId)]

def fromValue (value : Value) : Option MessageRecord := do
  some {
    messageId := ← value.stringAt "message_id"
    runId := ← value.stringAt "run_id"
    turnId := ← value.optStringAt "turn_id"
    role := ← value.variantAt MessageRole.variants MessageRole.wireName "role"
    blocks := ← ((value.get "blocks").bind Value.asArray).bind
      (fun items => items.mapM ContentBlock.fromTagged)
    toolUseId := ← value.optStringAt "tool_use_id"
    metadata := ← value.get "metadata"
    filtered := ← value.boolAt "filtered"
    appendedAtMs := ← value.u64At "appended_at_ms" }

end MessageRecord

namespace Value

@[simp]
theorem asU64_ofU64 (n : UInt64) : (ofU64 n).asU64 = some n := by
  rfl

@[simp]
theorem asArray_array (items : List Value) : (array items).asArray = some items := by
  rfl

@[simp]
theorem optField_optString (s : Option String) : optField asStr (some (optString s)) = some s := by
  cases s with
  | none => rfl
  | some s => rfl

@[simp]
theorem optField_optU64 (n : Option UInt64) : optField asU64 (some (optU64 n)) = some n := by
  cases n with
  | none => rfl
  | some n => rfl

@[simp]
theorem map_toNat_ofUsize {n : Nat} (h : n < UInt64.size)
    : (ofUsize n).asU64.map UInt64.toNat = some n := by
  exact congrArg some (UInt64.toNat_ofNat_of_lt' h)

theorem mapM_eq_some_self {α : Type} {read : α → Option α} {items : List α}
    (h : ∀ item ∈ items, read item = some item)
    : items.mapM read = some items := by
  induction items with
  | nil => rfl
  | cons item rest ih =>
    rw [List.mapM_cons, h item (List.mem_cons_self ..),
      ih (fun item hmem => h item (List.mem_cons_of_mem _ hmem))]
    rfl

@[simp]
theorem mapM_asStr (items : List String) : items.mapM (asStr ∘ Value.string) = some items := by
  exact mapM_eq_some_self (fun _ _ => rfl)

end Value

@[simp]
theorem RunStatus.find?_variants (status : RunStatus)
    : variants.find? (fun other => other.wireName == status.wireName) = some status := by
  cases status <;> rfl

@[simp]
theorem TurnStatus.find?_variants (status : TurnStatus)
    : variants.find? (fun other => other.wireName == status.wireName) = some status := by
  cases status <;> rfl

@[simp]
theorem TaskKind.find?_variants (kind : TaskKind)
    : variants.find? (fun other => other.wireName == kind.wireName) = some kind := by
  cases kind <;> rfl

@[simp]
theorem TaskStatus.find?_variants (status : TaskStatus)
    : variants.find? (fun other => other.wireName == status.wireName) = some status := by
  cases status <;> rfl

@[simp]
theorem SuspensionKind.find?_variants (kind : SuspensionKind)
    : variants.find? (fun other => other.wireName == kind.wireName) = some kind := by
  cases kind <;> rfl

@[simp]
theorem SuspensionStatus.find?_variants (status : SuspensionStatus)
    : variants.find? (fun other => other.wireName == status.wireName) = some status := by
  cases status <;> rfl

@[simp]
theorem RequirementStatus.find?_variants (status : RequirementStatus)
    : variants.find? (fun other => other.wireName == status.wireName) = some status := by
  cases status <;> rfl

@[simp]
theorem MessageRole.find?_variants (role : MessageRole)
    : variants.find? (fun other => other.wireName == role.wireName) = some role := by
  cases role <;> rfl

theorem ContentBlock.fromTagged_toTagged (block : ContentBlock)
    : fromTagged block.toTagged = some block := by
  cases block <;> rfl

@[simp]
theorem ContentBlock.mapM_fromTagged (blocks : List ContentBlock)
    : blocks.mapM (fromTagged ∘ toTagged) = some blocks := by
  exact Value.mapM_eq_some_self (fun block _ => fromTagged_toTagged block)

theorem RunRecord.fromValue_toValue (run : RunRecord) : fromValue run.toValue = some run := by
  simp [fromValue, toValue]

theorem TurnRecord.fromValue_toValue {turn : TurnRecord}
    (h : turn.transcriptCheckpoint < UInt64.size)
    : fromValue turn.toValue = some turn := by
  simp [fromValue, toValue, h]

theorem TaskRecord.fromValue_toValue (task : TaskRecord) : fromValue task.toValue = some task := by
  simp [fromValue, toValue]

theorem SuspensionRecord.fromValue_toValue (suspension : SuspensionRecord)
    : fromValue suspension.toValue = some suspension := by
  simp [fromValue, toValue]

theorem ToolInvocationRuntimeRecord.fromValue_toValue (invocation : ToolInvocationRuntimeRecord)
    : fromValue invocation.toValue = some invocation := by
  simp [fromValue, toValue]

theorem RequirementRecord.fromValue_toValue {requirement : RequirementRecord}
    (hattempted : requirement.attemptedRounds < UInt64.size)
    (hmax : requirement.maxRounds < UInt64.size)
    : fromValue requirement.toValue = some requirement := by
  simp [fromValue, toValue, hattempted, hmax]

theorem MessageRecord.fromValue_toValue (message : MessageRecord)
    : fromValue message.toValue = some message := by
  simp [fromValue, toValue]

end AnimaAgent
