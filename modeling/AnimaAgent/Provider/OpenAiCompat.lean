import AnimaAgent.Provider.Responses

namespace AnimaAgent.OpenAiCompatProvider

variable (serde : SerdeJson)

def toolCallBlock (tc : Value) : ContentBlock :=
  let func := (tc.get "function").getD .null
  let argsStr := ((func.get "arguments").bind Value.asStr).getD "{}"
  .toolUse (tc.strField "id") (func.strField "name")
    ((serde.fromStr argsStr).toOption.getD (.object []))

def messageBlocks (choice : Value) : List ContentBlock :=
  let textBlocks :=
    match (choice.get "content").bind Value.asStr with
    | some text => if text = "" then [] else [ContentBlock.text text]
    | none => []
  let toolCalls := ((choice.get "tool_calls").bind Value.asArray).getD []
  textBlocks ++ toolCalls.map (toolCallBlock serde)

def stopReason (raw : Value) : StopReason :=
  match raw.pointerStr ["choices", "0", "finish_reason"] "stop" with
  | "tool_calls" => .toolUse
  | "length" => .maxTokens
  | "stop" => .endTurn
  | _ => .endTurn

def parseResponse (raw : Value) : Except ProviderError ChatResponse :=
  match raw.pointer ["choices", "0", "message"] with
  | none => .error (.ofInternal "missing choices[0].message")
  | some choice =>
    .ok
      { content := messageBlocks serde choice
        stopReason := stopReason raw
        usage := Usage.ofValue "prompt_tokens" "completion_tokens" raw
        raw }

structure ChunkState where
  started : Bool := false
  textBlockOpen : Bool := false
  toolBlockIndices : List UInt64 := []
  nextBlockIdx : Nat := 0
  deriving DecidableEq

namespace ChunkState

abbrev ChunkM := Writer (List StreamEvent)

def startMessage (state : ChunkState) (json : Value) : ChunkM ChunkState := do
  if state.started then
    pure state
  else
    tell [.messageStart (json.strField "id")]
    pure { state with started := true }

def openText (state : ChunkState) : ChunkM ChunkState := do
  if state.textBlockOpen then
    pure state
  else
    tell [.contentBlockStart state.nextBlockIdx (.text "")]
    pure { state with textBlockOpen := true, nextBlockIdx := state.nextBlockIdx + 1 }

def textDelta (state : ChunkState) (delta : Value) : ChunkM ChunkState := do
  match (delta.get "content").bind Value.asStr with
  | some text =>
    if text = "" then
      pure state
    else
      let state ← state.openText
      tell [.contentBlockDelta (state.nextBlockIdx - 1) (.textDelta text)]
      pure state
  | none => pure state

def closeText (state : ChunkState) : ChunkM ChunkState := do
  if state.textBlockOpen then
    tell [.contentBlockStop (state.nextBlockIdx - 1)]
    pure { state with textBlockOpen := false }
  else
    pure state

def startToolCall (state : ChunkState) (tcIndex : UInt64) (tc : Value) : ChunkM ChunkState := do
  if state.toolBlockIndices.contains tcIndex then
    pure state
  else
    tell [.contentBlockStart state.nextBlockIdx
      (.toolUse (tc.strField "id") (tc.pointerStr ["function", "name"] "") (.object []))]
    pure
      { state with
        toolBlockIndices := tcIndex :: state.toolBlockIndices
        nextBlockIdx := state.nextBlockIdx + 1 }

def textOffset (state : ChunkState) : Nat :=
  state.nextBlockIdx - state.toolBlockIndices.length

def argumentsIndex (order : List UInt64 → List UInt64) (state : ChunkState) (tcIndex : UInt64)
    : Nat :=
  match (order state.toolBlockIndices).findIdx? (fun i => i == tcIndex) with
  | some pos => if state.textBlockOpen then pos + 1 else pos + state.textOffset
  | none => state.nextBlockIdx - 1

def toolCallDelta (order : List UInt64 → List UInt64) (state : ChunkState) (tc : Value)
    : ChunkM ChunkState := do
  let tcIndex := ((tc.get "index").bind Value.asU64).getD 0
  let state ← state.startToolCall tcIndex tc
  let args := tc.pointerStr ["function", "arguments"] ""
  if args = "" then
    pure state
  else
    tell [.contentBlockDelta (state.argumentsIndex order tcIndex) (.inputJsonDelta args)]
    pure state

def toolCallsDelta (order : List UInt64 → List UInt64) (state : ChunkState) (delta : Value)
    : ChunkM ChunkState := do
  match (delta.get "tool_calls").bind Value.asArray with
  | some toolCalls =>
    let state ← state.closeText
    toolCalls.foldlM (toolCallDelta order) state
  | none => pure state

def wireStopReason : String → String
  | "tool_calls" => "tool_use"
  | "length" => "max_tokens"
  | "stop" => "end_turn"
  | other => other

def finish (state : ChunkState) (choice : Value) : ChunkM ChunkState := do
  let reason := ((choice.get "finish_reason").bind Value.asStr).getD ""
  if reason = "" then
    pure state
  else
    if state.textBlockOpen then
      tell [.contentBlockStop (state.nextBlockIdx - 1)]
    tell ((List.range state.toolBlockIndices.length).map
      (fun i => .contentBlockStop (i + state.textOffset)))
    tell [.messageDelta (some (wireStopReason reason)), .messageStop]
    pure state

def chunk (order : List UInt64 → List UInt64) (state : ChunkState) (json choice delta : Value)
    : ChunkM ChunkState := do
  let state ← state.startMessage json
  let state ← state.textDelta delta
  let state ← state.toolCallsDelta order delta
  state.finish choice

end ChunkState

def chunkOfLine (lineResult : Except String String) : Option (Value × Value × Value) := do
  let line ← lineResult.toOption
  let data ← Text.stripPrefix "data: " line
  if Text.trim data = "" || Text.trim data = "[DONE]" then
    none
  else
    let json ← (serde.fromStr data).toOption
    let choice ← json.pointer ["choices", "0"]
    let delta ← choice.get "delta"
    pure (json, choice, delta)

def streamEvents (order : List UInt64 → List UInt64)
    : ChunkState → List (Value × Value × Value) → List StreamEvent
  | _, [] => []
  | state, (json, choice, delta) :: rest =>
    let (state, events) := (state.chunk order json choice delta).run
    events ++ streamEvents order state rest

/--
The stream over the lines of a response body. `order` is the order in which a `HashSet` of the given
elements is iterated.
-/
def streamItems (order : List UInt64 → List UInt64) (lines : List (Except String String))
    : ChatStream :=
  (streamEvents order {} (lines.filterMap (chunkOfLine serde))).map Except.ok

end AnimaAgent.OpenAiCompatProvider
