import AnimaAgent.Support.Value

namespace AnimaAgent

inductive ExecutionPlanKind where
  | direct
  | single
  | sequential
  | parallel
  | specialistRoute
  deriving DecidableEq, Repr

structure Task where
  id : String
  traceId : String
  taskType : String
  payload : Value
  priority : UInt8
  timeoutMs : UInt64
  metadata : Value
  deriving DecidableEq

structure MakeTask where
  traceId : Option String := none
  taskType : String
  payload : Option Value := none
  priority : Option UInt8 := none
  timeoutMs : Option UInt64 := none
  metadata : Option Value := none

def makeTask (uuid traceUuid : String) (input : MakeTask) : Task where
  id := uuid
  traceId := input.traceId.getD traceUuid
  taskType := input.taskType
  payload := input.payload.getD (.object [])
  priority := input.priority.getD 5
  timeoutMs := input.timeoutMs.getD 60000
  metadata := input.metadata.getD (.object [])

structure ExecutionPlan where
  kind : ExecutionPlanKind
  planType : String
  tasks : List Task
  specialist : Option String
  deriving DecidableEq

structure PlanFormat where
  toValue : ExecutionPlan → Value
  fromValue : Value → Except String ExecutionPlan

structure PlanProposal where
  proposalId : String
  jobId : String
  plan : ExecutionPlan
  summary : String
  proposedAtMs : UInt64
  deriving DecidableEq

def PlanProposal.fromExecutionPlan (uuid : String) (plan : ExecutionPlan) : PlanProposal where
  proposalId := uuid
  jobId := ""
  plan := plan
  summary := plan.planType ++ "（" ++ toString plan.tasks.length ++ " 个任务）"
  proposedAtMs := 0

inductive SubtaskBlockedReason where
  | missingParameter (name description : String)
  | missingContext (whatNeeded : String)
  | multipleOptions (options : List String) (prompt : String)
  | needsDecision (reason : String)
  deriving DecidableEq

def SubtaskBlockedReason.toValue : SubtaskBlockedReason → Value
  | missingParameter name description =>
    .object [
      ("description", .string description),
      ("kind", .string "missing_parameter"),
      ("name", .string name)]
  | missingContext whatNeeded =>
    .object [("kind", .string "missing_context"), ("what_needed", .string whatNeeded)]
  | multipleOptions options prompt =>
    .object [
      ("kind", .string "multiple_options"),
      ("options", .array (options.map Value.string)),
      ("prompt", .string prompt)]
  | needsDecision reason =>
    .object [("kind", .string "needs_decision"), ("reason", .string reason)]

namespace SubtaskBlockedReason

def tagOf : Value → Option String
  | .array (tag :: _) => tag.asStr
  | value => (value.get "kind").bind Value.asStr

def fieldsOf (names : List String) : Value → Option (List Value)
  | .array (_ :: fields) => if fields.length = names.length then some fields else none
  | value => names.mapM value.get

def fromValue (value : Value) : Option SubtaskBlockedReason := do
  match ← tagOf value with
  | "missing_parameter" =>
    match ← fieldsOf ["name", "description"] value with
    | [.string name, .string description] => some (missingParameter name description)
    | _ => none
  | "missing_context" =>
    match ← fieldsOf ["what_needed"] value with
    | [.string whatNeeded] => some (missingContext whatNeeded)
    | _ => none
  | "multiple_options" =>
    match ← fieldsOf ["options", "prompt"] value with
    | [.array options, .string prompt] =>
      (options.mapM Value.asStr).map (fun options => multipleOptions options prompt)
    | _ => none
  | "needs_decision" =>
    match ← fieldsOf ["reason"] value with
    | [.string reason] => some (needsDecision reason)
    | _ => none
  | _ => none

theorem fromValue_toValue (reason : SubtaskBlockedReason)
    : fromValue reason.toValue = some reason := by
  cases reason with
  | missingParameter name description => rfl
  | missingContext whatNeeded => rfl
  | needsDecision reason => rfl
  | multipleOptions options prompt =>
    have hoptions : (options.map Value.string).mapM Value.asStr = some options := by
      induction options with
      | nil => rfl
      | cons option options ih => simp [ih]
    change ((options.map Value.string).mapM Value.asStr).map
      (fun options => multipleOptions options prompt) = _
    rw [hoptions]
    rfl

end SubtaskBlockedReason

end AnimaAgent
