import AnimaAgent.Library.Traced
import AnimaAgent.Permissions.Checker
import AnimaAgent.Tools.Record

namespace AnimaAgent

structure RunToolOptions where
  toolName : String
  input : Value
  context : ToolContext
  invocationId : Option String
  deriving DecidableEq

structure AwaitingToolPermission where
  invocation : ToolInvocationRecord
  input : Value
  permissionRequest : PermissionRequest
  context : ToolContext
  deriving DecidableEq

inductive RunToolUseOutcome where
  | completed (invocation : ToolInvocationRecord) (result : ToolResult)
  | awaitingPermission (awaiting : AwaitingToolPermission)
  deriving DecidableEq

abbrev ToolM := Traced ToolEvent ToolError

def emitToolLifecycleEvent (event : String) (record : ToolInvocationRecord) (details : Value)
    : ToolM Unit :=
  Traced.emit (.lifecycle event record details)

section Execution

variable (serde : SerdeJson) (now : UInt64)

def applyPostHooks (toolName : String) (hookRegistry : Option HookRegistry) (result : ToolResult)
    : ToolM ToolResult :=
  match hookRegistry with
  | none => pure result
  | some hooks => do
    Traced.lift (hooks.runPostHooks (.postToolUse toolName result))
    match ← Traced.lift (hooks.runPostToolHooks toolName result) with
    | .continue => pure result
    | .transform modifiedResult => pure modifiedResult
    | .block feedback => pure (.error feedback)

def executeToolCall (tool : Tool) (options : RunToolOptions) (hookRegistry : Option HookRegistry)
    (invocation : ToolInvocationRecord)
    : ToolM (ToolInvocationRecord × ToolResult) := do
  let invocation := invocation.markPhase now .executing
  emitToolLifecycleEvent "tool_execution_started" invocation
    (.object [("tool_input", options.input)])
  Traced.emit (.call options.toolName options.input options.context)
  match tool.call options.input options.context with
  | .error err =>
    let invocation := (invocation.markPhase now .failed).setError err.display
    emitToolLifecycleEvent "tool_execution_failed" invocation
      (.object [("error", .string err.display)])
    throw err
  | .ok result =>
    let result ← applyPostHooks options.toolName hookRegistry result
    let invocation := (invocation.markPhase now .completed).setResult serde result
    emitToolLifecycleEvent "tool_execution_finished" invocation
      (.object [("is_error", .bool result.isError)])
    pure (invocation, result)

def applyPreHooks (options : RunToolOptions) (hookRegistry : Option HookRegistry)
    (invocation : ToolInvocationRecord)
    : ToolM RunToolOptions :=
  match hookRegistry with
  | none => pure options
  | some hooks => do
    match ← Traced.lift (hooks.runPreToolHooks options.toolName options.input) with
    | .continue => pure options
    | .transform value => pure { options with input := value }
    | .block reason =>
      let error := "blocked by hook: " ++ reason
      let invocation := (invocation.markPhase now .failed).setError error
      emitToolLifecycleEvent "tool_execution_failed" invocation
        (.object [("error", .string error), ("stage", .string "pre_hook")])
      throw (.permissionDenied error)
    | .transformToolResult _ => pure options

def validateToolInput (tool : Tool) (options : RunToolOptions) (invocation : ToolInvocationRecord)
    : ToolM ToolInvocationRecord :=
  let invocation := invocation.markPhase now .validatingInput
  match tool.validateInput options.input with
  | .ok () => pure invocation
  | .error msg => do
    let invocation := (invocation.markPhase now .failed).setError msg
    emitToolLifecycleEvent "tool_execution_failed" invocation
      (.object [("error", .string msg), ("stage", .string "validate_input")])
    throw (.validationFailed msg)

def checkPermission (tool : Tool) (options : RunToolOptions)
    (permissionChecker : Option PermissionChecker) (invocation : ToolInvocationRecord)
    : ToolM (ToolInvocationRecord × Option AwaitingToolPermission) :=
  let invocation := invocation.markPhase now .permissionChecking
  match permissionChecker with
  | none => pure (invocation.setPermissionState .notRequired, none)
  | some checker => do
    let invocation := invocation.setPermissionState .checking
    match checker.hasPermission serde tool.name options.input with
    | .allow =>
      let invocation := (invocation.setPermissionState .allowed).markPhase now .permissionResolved
      emitToolLifecycleEvent "tool_permission_resolved" invocation
        (.object [("decision", .string "allow"), ("source", .string "permission_checker")])
      pure (invocation, none)
    | .deny reason =>
      let invocation :=
        ((invocation.setPermissionState .denied).markPhase now .failed).setError reason
      emitToolLifecycleEvent "tool_permission_resolved" invocation
        (.object [("decision", .string "deny"), ("reason", .string reason),
          ("source", .string "permission_checker")])
      throw (.permissionDenied reason)
    | .ask permissionRequest =>
      let invocation :=
        (invocation.setPermissionState .requested).markPhase now .permissionRequested
      emitToolLifecycleEvent "tool_permission_requested" invocation
        (.object [("input_preview", .string permissionRequest.inputPreview),
          ("options", .array (permissionRequest.options.map Value.string)),
          ("prompt", .string permissionRequest.prompt)])
      let awaiting : AwaitingToolPermission :=
        { invocation
          input := options.input
          permissionRequest
          context := options.context }
      pure (invocation, some awaiting)

/-- `uuid` is drawn when the options carry no invocation id. -/
def runToolUse (tool : Tool) (options : RunToolOptions)
    (permissionChecker : Option PermissionChecker) (hookRegistry : Option HookRegistry)
    (uuid : String)
    : ToolM RunToolUseOutcome := do
  let invocationId := options.invocationId.getD ("toolinv_" ++ uuid)
  let invocation := ToolInvocationRecord.new now invocationId options.toolName none
  emitToolLifecycleEvent "tool_invocation_detected" invocation
    (.object [("tool_input", options.input)])
  let options ← applyPreHooks now options hookRegistry invocation
  let invocation ← validateToolInput now tool options invocation
  match ← checkPermission serde now tool options permissionChecker invocation with
  | (_, some awaiting) => pure (.awaitingPermission awaiting)
  | (invocation, none) =>
    let (invocation, result) ← executeToolCall serde now tool options hookRegistry invocation
    pure (.completed invocation result)

def executeToolAfterPermission (tool : Tool) (options : RunToolOptions)
    (hookRegistry : Option HookRegistry) (invocation : ToolInvocationRecord)
    : ToolM (ToolInvocationRecord × ToolResult) := do
  let options ← applyPreHooks now options hookRegistry invocation
  let invocation ← validateToolInput now tool options invocation
  let invocation := (invocation.setPermissionState .allowed).markPhase now .permissionResolved
  emitToolLifecycleEvent "tool_permission_resolved" invocation
    (.object [("decision", .string "allow"), ("source", .string "resume")])
  executeToolCall serde now tool options hookRegistry invocation

end Execution

end AnimaAgent
