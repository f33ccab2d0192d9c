import Mathlib.Data.List.Sort
import AnimaAgent.Execution.ChatRequest
import AnimaAgent.Support.Text

namespace AnimaAgent

inductive RuntimeErrorStage where
  | sessionCreate
  | planExecute
  | workerPool
  | taskExecution
  deriving DecidableEq, Repr

inductive RuntimeErrorKind where
  | sessionCreateFailed
  | upstreamTimeout
  | upstreamStreamFailed
  | responseParseFailed
  | toolValidationFailed
  | toolPermissionDenied
  | toolTimeout
  | toolExecutionFailed
  | workerUnavailable
  | workerCapacityExhausted
  | invalidTaskPayload
  | unknownTaskType
  | taskExecutionFailed
  deriving DecidableEq, Repr

structure RuntimeError where
  kind : RuntimeErrorKind
  stage : RuntimeErrorStage
  internalMessage : String
  deriving DecidableEq

structure ToolAccState where
  id : String
  name : String
  jsonBuf : String
  complete : Bool
  deriving DecidableEq

structure StreamAccumulator where
  tools : AList (fun _ : Nat => ToolAccState) := ∅
  thinkingBufs : AList (fun _ : Nat => String) := ∅

def debugChar (serde : SerdeJson) (c : Char) : String :=
  match c with
  | '\t' => "\\t"
  | '\r' => "\\r"
  | '\n' => "\\n"
  | '"' => "\\\""
  | '\\' => "\\\\"
  | c =>
    if c.toNat = 0 then
      "\\0"
    else if c.toNat < 32 || c.toNat = 127 then
      "\\u\x7b" ++ String.ofList (Nat.toDigits 16 c.toNat) ++ "\x7d"
    else if c.toNat < 127 then
      String.singleton c
    else
      serde.debugUnicode c

def debugStr (serde : SerdeJson) (s : String) : String :=
  "\"" ++ String.join (s.toList.map (debugChar serde)) ++ "\""

def sortByIndex {α : Type} (indexed : List (Nat × α)) : List (Nat × α) :=
  indexed.insertionSort (fun a b => a.1 ≤ b.1)

namespace StreamAccumulator

def onThinkingStart (acc : StreamAccumulator) (index : Nat) (thinking : String)
    : StreamAccumulator :=
  { acc with thinkingBufs := acc.thinkingBufs.insert index thinking }

def onThinkingDelta (acc : StreamAccumulator) (index : Nat) (thinking : String)
    : StreamAccumulator :=
  match acc.thinkingBufs.lookup index with
  | some buf => { acc with thinkingBufs := acc.thinkingBufs.insert index (buf ++ thinking) }
  | none => acc

def drainThinking (acc : StreamAccumulator) : Option String :=
  if acc.thinkingBufs.entries.isEmpty then
    none
  else
    let indexed := sortByIndex (acc.thinkingBufs.entries.map (fun entry => (entry.1, entry.2)))
    let combined := "\n".intercalate (indexed.map Prod.snd)
    if combined = "" then none else some combined

def onToolStart (acc : StreamAccumulator) (index : Nat) (id name : String) : StreamAccumulator :=
  { acc with tools := acc.tools.insert index { id, name, jsonBuf := "", complete := false } }

def onInputDelta (acc : StreamAccumulator) (index : Nat) (partialJson : String)
    : StreamAccumulator :=
  match acc.tools.lookup index with
  | some state =>
    { acc with
      tools := acc.tools.insert index { state with jsonBuf := state.jsonBuf ++ partialJson } }
  | none => acc

def onToolStop (acc : StreamAccumulator) (index : Nat) : StreamAccumulator :=
  match acc.tools.lookup index with
  | some state => { acc with tools := acc.tools.insert index { state with complete := true } }
  | none => acc

variable (serde : SerdeJson)

def readyTool (state : ToolAccState) : Except String ParsedToolUse :=
  match serde.fromStr state.jsonBuf with
  | .ok input => .ok { id := state.id, name := state.name, input }
  | .error e =>
    .error ("malformed tool JSON for '" ++ state.name ++ "' (id=" ++ state.id ++ "): " ++ e
      ++ " — raw: " ++ debugStr serde state.jsonBuf)

def readyEntry (entry : Sigma (fun _ : Nat => ToolAccState))
    : Except String (Nat × ParsedToolUse) :=
  (readyTool serde entry.2).map (fun tool => (entry.1, tool))

def drainReady (acc : StreamAccumulator) : Except String (List ParsedToolUse) := do
  let complete := acc.tools.entries.filter (fun entry => entry.2.complete)
  let indexed ← complete.mapM (readyEntry serde)
  pure ((sortByIndex indexed).map Prod.snd)

end StreamAccumulator

structure StreamState where
  textBuf : String := ""
  acc : StreamAccumulator := {}
  messageId : String := ""
  stopReason : Option String := none

namespace StreamState

def onBlockStart (state : StreamState) (index : Nat) : Streaming.ContentBlock → StreamState
  | .toolUse id name _ => { state with acc := state.acc.onToolStart index id name }
  | .text text => { state with textBuf := state.textBuf ++ text }
  | .thinking thinking => { state with acc := state.acc.onThinkingStart index thinking }

def onBlockDelta (state : StreamState) (index : Nat) : Streaming.ContentDelta → StreamState
  | .textDelta text => { state with textBuf := state.textBuf ++ text }
  | .inputJsonDelta partialJson => { state with acc := state.acc.onInputDelta index partialJson }
  | .thinkingDelta thinking => { state with acc := state.acc.onThinkingDelta index thinking }

def onEvent (state : StreamState) : StreamEvent → Except ProviderError StreamState
  | .messageStart messageId => .ok { state with messageId }
  | .contentBlockStart index contentBlock => .ok (state.onBlockStart index contentBlock)
  | .contentBlockDelta index delta => .ok (state.onBlockDelta index delta)
  | .contentBlockStop index => .ok { state with acc := state.acc.onToolStop index }
  | .messageDelta stopReason => .ok { state with stopReason }
  | .error errorType message =>
    .error
      { kind := .streamFailed, message := "stream error [" ++ errorType ++ "]: " ++ message }
  | .messageStop => .ok state
  | .ping => .ok state

def onItem (state : StreamState) (item : Except ProviderError StreamEvent)
    : Except ProviderError StreamState :=
  item.bind state.onEvent

end StreamState

def resolveStopReason (stopReason : Option String) : StopReason :=
  match stopReason with
  | some "max_tokens" | some "length" => .maxTokens
  | some "tool_use" | some "tool_calls" => .toolUse
  | some "stop_sequence" => .stopSequence
  | _ => .endTurn

def ParsedToolUse.toBlock (tool : ParsedToolUse) : ContentBlock :=
  .toolUse tool.id tool.name tool.input

def streamedBlocks (thinking : Option String) (text : String) (toolUses : List ParsedToolUse)
    : List ContentBlock :=
  (match thinking with
    | some t => [.thinking t]
    | none => [])
    ++ (if text = "" then [] else [.text text])
    ++ toolUses.map ParsedToolUse.toBlock

def StreamState.finish (serde : SerdeJson) (state : StreamState)
    : Except ProviderError (ParsedResponse × Value) := do
  let toolUses ← (state.acc.drainReady serde).mapError ProviderError.ofInternal
  let thinking := state.acc.drainThinking
  let parsed : ParsedResponse :=
    { text := state.textBuf
      toolUses
      thinking
      stopReason := resolveStopReason state.stopReason }
  let contentParts := (streamedBlocks thinking state.textBuf toolUses).map ContentBlock.toValue
  let responseValue : Value :=
    .object [
      ("content", .array contentParts),
      ("id", .string state.messageId),
      ("stop_reason", ToolInvocationRecord.optString state.stopReason)]
  pure (parsed, responseValue)

def consumeStreamEvents (serde : SerdeJson) (stream : ChatStream)
    : Except ProviderError (ParsedResponse × Value) := do
  let state ← stream.foldlM StreamState.onItem {}
  state.finish serde

abbrev TaskExecutorError := RuntimeError

abbrev UnifiedStreamSource := List (Except TaskExecutorError String)

def dataOfLine (line : String) : Option String :=
  (Text.stripPrefix "data: " line).or (Text.stripPrefix "data:" line)

def eventOfLine (serde : SerdeJson) (line : String) : Option StreamEvent := do
  let data ← dataOfLine line
  if Text.trim data = "[DONE]" then
    none
  else
    parseSseEvent serde data

def StreamState.onLine (serde : SerdeJson) (state : StreamState)
    (lineResult : Except TaskExecutorError String)
    : Except TaskExecutorError StreamState := do
  let line ← lineResult
  match eventOfLine serde line with
  | some event =>
    (state.onEvent event).mapError (fun error =>
      { kind := .upstreamStreamFailed
        stage := .planExecute
        internalMessage := error.message })
  | none => pure state

def consumeRuntimeStream (serde : SerdeJson) (lines : UnifiedStreamSource)
    : Except TaskExecutorError (ParsedResponse × Value) := do
  let state ← lines.foldlM (StreamState.onLine serde) {}
  (state.finish serde).mapError (fun error =>
    { kind := .responseParseFailed
      stage := .planExecute
      internalMessage := error.message })

end AnimaAgent
