import Mathlib.Control.Monad.Writer
import AnimaAgent.Tools.Types

namespace AnimaAgent

inductive ToolInvocationPhase where
  | detected
  | validatingInput
  | permissionChecking
  | permissionRequested
  | permissionResolved
  | executing
  | completed
  | failed
  | resultRecorded
  deriving DecidableEq, Repr

def ToolInvocationPhase.wireName : ToolInvocationPhase → String
  | detected => "detected"
  | validatingInput => "validating_input"
  | permissionChecking => "permission_checking"
  | permissionRequested => "permission_requested"
  | permissionResolved => "permission_resolved"
  | executing => "executing"
  | completed => "completed"
  | failed => "failed"
  | resultRecorded => "result_recorded"

inductive ToolPermissionState where
  | notRequired
  | checking
  | requested
  | allowed
  | denied
  deriving DecidableEq, Repr

def ToolPermissionState.wireName : ToolPermissionState → String
  | notRequired => "not_required"
  | checking => "checking"
  | requested => "requested"
  | allowed => "allowed"
  | denied => "denied"

structure ToolInvocationRecord where
  invocationId : String
  toolName : String
  phase : ToolInvocationPhase
  permissionState : ToolPermissionState
  startedAtMs : UInt64
  finishedAtMs : Option UInt64
  toolUseId : Option String
  resultSummary : Option String
  errorSummary : Option String
  deriving DecidableEq

namespace ToolInvocationRecord

def new (now : UInt64) (invocationId toolName : String) (toolUseId : Option String)
    : ToolInvocationRecord where
  invocationId := invocationId
  toolName := toolName
  phase := .detected
  permissionState := .notRequired
  startedAtMs := now
  finishedAtMs := none
  toolUseId := toolUseId
  resultSummary := none
  errorSummary := none

def markPhase (record : ToolInvocationRecord) (now : UInt64) (phase : ToolInvocationPhase)
    : ToolInvocationRecord :=
  match phase with
  | .completed | .failed => { record with phase := phase, finishedAtMs := some now }
  | phase => { record with phase := phase }

def setPermissionState (record : ToolInvocationRecord) (state : ToolPermissionState)
    : ToolInvocationRecord :=
  { record with permissionState := state }

def setResult (serde : SerdeJson) (record : ToolInvocationRecord) (result : ToolResult)
    : ToolInvocationRecord :=
  { record with resultSummary := summarizeToolResult serde result }

def setError (record : ToolInvocationRecord) (error : String) : ToolInvocationRecord :=
  { record with errorSummary := some error }

def optString : Option String → Value
  | some s => .string s
  | none => .null

theorem optString_inj {a b : Option String} (h : optString a = optString b) : a = b := by
  cases a <;> cases b <;> simp_all [optString]

def toValue (record : ToolInvocationRecord) : Value :=
  .object [
    ("error_summary", optString record.errorSummary),
    ("finished_at_ms", (record.finishedAtMs.map (fun n => Value.number (.posInt n))).getD .null),
    ("invocation_id", .string record.invocationId),
    ("permission_state", .string record.permissionState.wireName),
    ("phase", .string record.phase.wireName),
    ("result_summary", optString record.resultSummary),
    ("started_at_ms", .number (.posInt record.startedAtMs)),
    ("tool_name", .string record.toolName),
    ("tool_use_id", optString record.toolUseId)]

end ToolInvocationRecord

inductive ToolEvent where
  | lifecycle (event : String) (record : ToolInvocationRecord) (details : Value)
  | preHook (index : Nat) (event : HookEvent)
  | postHook (index : Nat) (event : HookEvent)
  | call (toolName : String) (input : Value) (context : ToolContext)
  deriving DecidableEq

end AnimaAgent

namespace AnimaAgent.HookRegistry

abbrev HookM := Writer (List ToolEvent)

namespace runPreToolHooks

def go (toolName : String) : List HookHandler → Nat → Value → Bool → HookM HookResult
  | [], _, effectiveInput, transformed =>
    pure (if transformed then .transform effectiveInput else .continue)
  | hook :: hooks, i, effectiveInput, transformed => do
    let event := HookEvent.preToolUse toolName effectiveInput
    tell [.preHook i event]
    match hook.handle event with
    | .continue => go toolName hooks (i + 1) effectiveInput transformed
    | .transform value => go toolName hooks (i + 1) value true
    | .block reason => pure (.block reason)
    | .transformToolResult _ => go toolName hooks (i + 1) effectiveInput transformed

end runPreToolHooks

def runPreToolHooks (registry : HookRegistry) (toolName : String) (input : Value)
    : HookM HookResult :=
  runPreToolHooks.go toolName registry.preHooks 0 input false

def runPostHooks (registry : HookRegistry) (event : HookEvent) : HookM Unit :=
  tell (registry.postHooks.mapIdx (fun i _ => .postHook i event))

namespace runPostToolHooks

def go (toolName : String) : List HookHandler → Nat → ToolResult → Bool → HookM PostToolHookResult
  | [], _, effectiveResult, transformed =>
    pure (if transformed then .transform effectiveResult else .continue)
  | hook :: hooks, i, effectiveResult, transformed => do
    let event := HookEvent.postToolUse toolName effectiveResult
    tell [.postHook i event]
    match hook.handle event with
    | .continue => go toolName hooks (i + 1) effectiveResult transformed
    | .transformToolResult result => go toolName hooks (i + 1) result true
    | .block reason => pure (.block reason)
    | .transform _ => go toolName hooks (i + 1) effectiveResult transformed

end runPostToolHooks

def runPostToolHooks (registry : HookRegistry) (toolName : String) (result : ToolResult)
    : HookM PostToolHookResult :=
  runPostToolHooks.go toolName registry.postHooks 0 result false

def preToolResult (registry : HookRegistry) (toolName : String) (input : Value) : HookResult :=
  (registry.runPreToolHooks toolName input).run.1

def postToolResult (registry : HookRegistry) (toolName : String) (result : ToolResult)
    : PostToolHookResult :=
  (registry.runPostToolHooks toolName result).run.1

end AnimaAgent.HookRegistry
