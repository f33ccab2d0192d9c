import Mathlib.Data.List.AList
import AnimaAgent.Support.Value

namespace AnimaAgent

structure ToolContext where
  sessionId : String
  traceId : String
  metadata : Value
  deriving DecidableEq

inductive ToolResultBlock where
  | text (text : String)
  | json (value : Value)
  | binary (mimeType : String) (data : String)
  deriving DecidableEq

structure ToolResult where
  blocks : List ToolResultBlock
  isError : Bool
  deriving DecidableEq

namespace ToolResult

def text (content : String) : ToolResult where
  blocks := [.text content]
  isError := false

def error (message : String) : ToolResult where
  blocks := [.text message]
  isError := true

end ToolResult

inductive ToolError where
  | validationFailed (msg : String)
  | permissionDenied (msg : String)
  | timeout (toolName : String) (timeoutMs : UInt64)
  | internal (msg : String)
  deriving DecidableEq

def ToolError.display : ToolError → String
  | validationFailed msg => "validation failed: " ++ msg
  | permissionDenied msg => "permission denied: " ++ msg
  | timeout toolName timeoutMs =>
    "tool '" ++ toolName ++ "' timed out after " ++ toString timeoutMs.toNat ++ "ms"
  | internal msg => "internal error: " ++ msg

/-- A registered tool; a call answers every input in the same way. -/
structure Tool where
  name : String
  validateInput : Value → Except String Unit
  call : Value → ToolContext → Except ToolError ToolResult
  isConcurrencySafe : Bool := true

abbrev ToolRegistry := AList (fun _ : String => Tool)

namespace ToolRegistry

def register (registry : ToolRegistry) (tool : Tool) : ToolRegistry :=
  AList.insert tool.name tool registry

def get (registry : ToolRegistry) (name : String) : Option Tool :=
  AList.lookup name registry

end ToolRegistry

section Summary

variable (serde : SerdeJson)

def ToolResultBlock.toText : ToolResultBlock → String
  | text t => t
  | json value => serde.toString value
  | binary mimeType data =>
    "[binary: " ++ mimeType ++ ", " ++ toString data.utf8ByteSize ++ " bytes]"

def summarizeToolResult (result : ToolResult) : Option String :=
  let parts := (result.blocks.take 2).map (ToolResultBlock.toText serde)
  if parts.isEmpty then
    none
  else
    some (String.ofList (("\n".intercalate parts).toList.take 240))

end Summary

inductive HookEvent where
  | preToolUse (toolName : String) (input : Value)
  | postToolUse (toolName : String) (result : ToolResult)
  | preSendMessage (content : String)
  | postSendMessage (content : String) (response : Option String)
  deriving DecidableEq

inductive HookResult where
  | continue
  | block (reason : String)
  | transform (value : Value)
  | transformToolResult (result : ToolResult)
  deriving DecidableEq

inductive PostToolHookResult where
  | continue
  | block (feedback : String)
  | transform (result : ToolResult)
  deriving DecidableEq

structure HookHandler where
  handle : HookEvent → HookResult

structure HookRegistry where
  preHooks : List HookHandler := []
  postHooks : List HookHandler := []

end AnimaAgent
