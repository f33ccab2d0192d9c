import AnimaAgent.Streaming.Executor

namespace AnimaAgent

def ContentBlock.isToolUse : ContentBlock → Bool
  | toolUse .. => true
  | _ => false

def Usage.ofValue (inputKey outputKey : String) (raw : Value) : Option Usage := do
  let usage ← raw.get "usage"
  let inputTokens ← (← usage.get inputKey).asU64
  let outputTokens ← (← usage.get outputKey).asU64
  pure { inputTokens := inputTokens.toUInt32, outputTokens := outputTokens.toUInt32 }

def StopReason.ofWire : Option String → StopReason
  | some "max_tokens" => .maxTokens
  | some "stop_sequence" => .stopSequence
  | some "tool_use" => .toolUse
  | _ => .endTurn

def ChatResponse.ofContent (raw : Value) : ChatResponse :=
  let blocks := blocksFromValue ((raw.get "content").getD .null) none
  { content := blocks
    stopReason :=
      if blocks.any ContentBlock.isToolUse then
        .toolUse
      else
        .ofWire ((raw.get "stop_reason").bind Value.asStr)
    usage := Usage.ofValue "input_tokens" "output_tokens" raw
    raw }

namespace AnthropicProvider

def parseResponse (raw : Value) : Except ProviderError ChatResponse :=
  .ok (.ofContent raw)

def streamItem (serde : SerdeJson) (lineResult : Except String String)
    : Option (Except ProviderError StreamEvent) := do
  let line ← lineResult.toOption
  let data ← Text.stripPrefix "data: " line
  if Text.trim data = "" || data = "[DONE]" then
    none
  else
    match parseSseEvent serde data with
    | some event => pure (.ok event)
    | none => pure (.error (.ofInternal ("unrecognized event: " ++ data)))

def streamItems (serde : SerdeJson) (lines : List (Except String String)) : ChatStream :=
  lines.filterMap (streamItem serde)

end AnthropicProvider

namespace OpenCodeProvider

def valueToChatResponse (raw : Value) : Except ProviderError ChatResponse :=
  .ok (.ofContent raw)

def mapExecutorError (err : TaskExecutorError) : ProviderError where
  kind :=
    match err.kind with
    | .upstreamTimeout => .timeout
    | .upstreamStreamFailed => .streamFailed
    | .sessionCreateFailed => .network
    | _ => .internal
  message := err.internalMessage

def parseSseToStreamEvent (serde : SerdeJson) (line : String) : Except ProviderError StreamEvent :=
  let data := (Text.stripPrefix "data: " line).getD line
  match parseSseEvent serde data with
  | some event => .ok event
  | none => .error (.ofInternal ("unrecognized stream event: " ++ data))

def streamItem (serde : SerdeJson)
    : Except TaskExecutorError String → Option (Except ProviderError StreamEvent)
  | .error err => some (.error (mapExecutorError err))
  | .ok line => if Text.trim line = "" then none else some (parseSseToStreamEvent serde line)

def streamItems (serde : SerdeJson) (lines : UnifiedStreamSource) : ChatStream :=
  lines.filterMap (streamItem serde)

end OpenCodeProvider

end AnimaAgent
