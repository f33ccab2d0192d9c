import AnimaAgent.Messages.Types

namespace AnimaAgent

namespace Streaming

inductive ContentBlock where
  | text (text : String)
  | toolUse (id : String) (name : String) (input : Value)
  | thinking (thinking : String)
  deriving DecidableEq

inductive ContentDelta where
  | textDelta (text : String)
  | inputJsonDelta (partialJson : String)
  | thinkingDelta (thinking : String)
  deriving DecidableEq

end Streaming

inductive StreamEvent where
  | messageStart (messageId : String)
  | contentBlockStart (index : Nat) (contentBlock : Streaming.ContentBlock)
  | contentBlockDelta (index : Nat) (delta : Streaming.ContentDelta)
  | contentBlockStop (index : Nat)
  | messageDelta (stopReason : Option String)
  | messageStop
  | ping
  | error (errorType : String) (message : String)
  deriving DecidableEq

def parseContentBlock (val : Value) : Option Streaming.ContentBlock := do
  match ← val.wireType with
  | "text" => pure (.text (val.strField "text"))
  | "tool_use" =>
    let id ← (← val.get "id").asStr
    let name ← (← val.get "name").asStr
    pure (.toolUse id name ((val.get "input").getD (.object [])))
  | "thinking" => pure (.thinking (val.strField "thinking"))
  | _ => none

def parseContentDelta (val : Value) : Option Streaming.ContentDelta := do
  match ← val.wireType with
  | "text_delta" => pure (.textDelta (← (← val.get "text").asStr))
  | "input_json_delta" => pure (.inputJsonDelta (← (← val.get "partial_json").asStr))
  | "thinking_delta" => pure (.thinkingDelta (← (← val.get "thinking").asStr))
  | _ => none

def Value.pointerStr (value : Value) (tokens : List String) (default : String) : String :=
  ((value.pointer tokens).bind Value.asStr).getD default

def Value.blockIndex (json : Value) : Option Nat := do
  pure (← (← json.get "index").asU64).toNat

def parseSseEvent (serde : SerdeJson) (data : String) : Option StreamEvent := do
  let json ← (serde.fromStr data).toOption
  match ← json.wireType with
  | "message_start" => pure (.messageStart (json.pointerStr ["message", "id"] ""))
  | "content_block_start" =>
    let index ← json.blockIndex
    let block ← parseContentBlock (← json.get "content_block")
    pure (.contentBlockStart index block)
  | "content_block_delta" =>
    let index ← json.blockIndex
    let delta ← parseContentDelta (← json.get "delta")
    pure (.contentBlockDelta index delta)
  | "content_block_stop" => pure (.contentBlockStop (← json.blockIndex))
  | "message_delta" =>
    pure (.messageDelta ((json.pointer ["delta", "stop_reason"]).bind Value.asStr))
  | "message_stop" => pure .messageStop
  | "ping" => pure .ping
  | "error" =>
    pure (.error (json.pointerStr ["error", "type"] "unknown")
      (json.pointerStr ["error", "message"] ""))
  | _ => none

inductive ChatRole where
  | user
  | assistant
  deriving DecidableEq, Repr

structure ChatMessage where
  role : ChatRole
  content : List ContentBlock
  deriving DecidableEq

structure ChatRequest where
  messages : List ChatMessage := []
  system : Option String := none
  tools : Option (List Value) := none
  model : Option String := none
  temperature : Option UInt64 := none
  maxTokens : Option UInt32 := none
  metadata : Value := .null
  deriving DecidableEq

inductive StopReason where
  | endTurn
  | toolUse
  | maxTokens
  | stopSequence
  deriving DecidableEq, Repr

structure Usage where
  inputTokens : UInt32
  outputTokens : UInt32
  deriving DecidableEq

structure ChatResponse where
  content : List ContentBlock
  stopReason : StopReason
  usage : Option Usage
  raw : Value
  deriving DecidableEq

inductive ProviderErrorKind where
  | authentication
  | rateLimit
  | invalidRequest
  | timeout
  | streamFailed
  | network
  | internal
  deriving DecidableEq, Repr

structure ProviderError where
  kind : ProviderErrorKind
  message : String
  deriving DecidableEq

def ProviderError.ofInternal (message : String) : ProviderError where
  kind := .internal
  message := message

/-- The items of a stream that ends; an item is an event or the error of the transport. -/
abbrev ChatStream := List (Except ProviderError StreamEvent)

/-- A provider. Its answer may depend on the request and on how many requests came before. -/
structure Provider where
  chat : Nat → ChatRequest → Except ProviderError ChatResponse
  chatStream : Nat → ChatRequest → Except ProviderError ChatStream

end AnimaAgent
