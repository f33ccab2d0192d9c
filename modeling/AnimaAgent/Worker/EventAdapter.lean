import AnimaAgent.Library.IndexMap
import AnimaAgent.Streaming.Executor

/-!
This module contains the adapter that turns the events of an OpenCode server into the stream of one
message, and the iterator over its lines, one turn of the loop at a time. Each field of an event is
looked for at several places, in their order. The adapter follows the assistant messages that answer the
message of the user.
-/

namespace AnimaAgent

inductive PartKind where
  | text
  | toolUse (name : String)
  deriving DecidableEq

namespace OpenCodeEvent

variable (value : Value)

def stringByPointers (pointers : List (List String)) : Option String :=
  pointers.findSome? (fun pointer => (value.pointer pointer).bind Value.asStr)

def extractEventType : Option String :=
  stringByPointers value [["type"], ["event"]]

def matchesTargetSession (sessionId : String) : Bool :=
  stringByPointers value [
    ["sessionID"],
    ["session_id"],
    ["properties", "sessionID"],
    ["properties", "session_id"],
    ["properties", "info", "sessionID"],
    ["properties", "part", "sessionID"],
    ["session", "id"],
    ["properties", "session", "id"],
    ["properties", "info", "session", "id"]] == some sessionId

def extractMessageId : Option String :=
  stringByPointers value [
    ["messageID"],
    ["message_id"],
    ["properties", "messageID"],
    ["properties", "message_id"],
    ["properties", "info", "id"],
    ["properties", "part", "messageID"],
    ["message", "id"],
    ["properties", "message", "id"]]

def matchesTargetMessage (sessionId messageId : String) : Bool :=
  matchesTargetSession value sessionId && extractMessageId value == some messageId

def extractParentMessageId : Option String :=
  stringByPointers value [
    ["parentID"],
    ["parent_id"],
    ["properties", "parentID"],
    ["properties", "parent_id"],
    ["properties", "info", "parentID"],
    ["message", "parentID"],
    ["properties", "message", "parentID"]]

def extractRole : Option String :=
  stringByPointers value [
    ["role"],
    ["properties", "role"],
    ["properties", "info", "role"],
    ["message", "role"],
    ["properties", "message", "role"]]

def extractPartId : Option String :=
  stringByPointers value [
    ["partID"],
    ["part_id"],
    ["properties", "partID"],
    ["properties", "part_id"],
    ["part", "id"],
    ["properties", "part", "id"]]

def extractField : Option String :=
  stringByPointers value [["field"], ["properties", "field"]]

def extractDelta : Option String :=
  stringByPointers value [["delta"], ["properties", "delta"], ["value", "delta"]]

def extractStatus : Option String :=
  stringByPointers value [
    ["status"],
    ["status", "type"],
    ["properties", "status"],
    ["properties", "status", "type"],
    ["properties", "info", "status"],
    ["properties", "info", "status", "type"],
    ["message", "status"],
    ["message", "status", "type"],
    ["properties", "message", "status"],
    ["properties", "message", "status", "type"]]

def extractStopReason : Option String :=
  stringByPointers value [
    ["stopReason"],
    ["stop_reason"],
    ["finish"],
    ["properties", "stopReason"],
    ["properties", "stop_reason"],
    ["properties", "info", "finish"],
    ["message", "stopReason"],
    ["message", "stop_reason"],
    ["message", "finish"],
    ["properties", "message", "finish"]]

def extractErrorMessage : Option String :=
  stringByPointers value [
    ["error", "message"],
    ["properties", "error", "message"],
    ["message"],
    ["properties", "message"]]

def extractToolName : Option String :=
  stringByPointers value [
    ["part", "tool", "name"],
    ["properties", "part", "tool", "name"],
    ["part", "name"],
    ["properties", "part", "name"],
    ["tool", "name"],
    ["properties", "tool", "name"]]

def inferPartKind : Option PartKind := do
  let partType ← stringByPointers value [
    ["part", "type"],
    ["properties", "part", "type"],
    ["type_name"],
    ["properties", "type_name"]]
  match partType with
  | "text" => pure .text
  | "tool" | "tool_use" => pure (.toolUse ((extractToolName value).getD "tool"))
  | _ => none

def isTextField (field : String) : Bool :=
  Text.eqIgnoreAsciiCase field "text"

def isTerminalStatus (status : String) : Bool :=
  status ∈ ["completed", "complete", "done", "stopped", "aborted", "cancelled"]

def isToolCallsStopReason (stopReason : String) : Bool :=
  Text.eqIgnoreAsciiCase stopReason "tool-calls" || Text.eqIgnoreAsciiCase stopReason "tool_calls"

end OpenCodeEvent

inductive AdaptedEvent where
  | messageStart (messageId : String)
  | blockStart (index : Nat) (partId : String) (kind : PartKind)
  | textDelta (index : Nat) (text : String)
  | inputDelta (index : Nat) (partialJson : String)
  | blockStop (index : Nat)
  | messageDelta (stopReason : Option String)
  | messageStop
  | error (errorType message : String)
  deriving DecidableEq

namespace AdaptedEvent

def indexValue (index : Nat) : Value :=
  .number (.posInt (UInt64.ofNat index))

def toValue : AdaptedEvent → Value
  | messageStart messageId =>
    .object [("message", .object [("id", .string messageId)]), ("type", .string "message_start")]
  | blockStart index _ .text =>
    .object [
      ("content_block", .object [("text", .string ""), ("type", .string "text")]),
      ("index", indexValue index),
      ("type", .string "content_block_start")]
  | blockStart index partId (.toolUse name) =>
    .object [
      ("content_block", .object [
        ("id", .string partId),
        ("input", .object []),
        ("name", .string name),
        ("type", .string "tool_use")]),
      ("index", indexValue index),
      ("type", .string "content_block_start")]
  | textDelta index text =>
    .object [
      ("delta", .object [("text", .string text), ("type", .string "text_delta")]),
      ("index", indexValue index),
      ("type", .string "content_block_delta")]
  | inputDelta index partialJson =>
    .object [
      ("delta", .object [("partial_json", .string partialJson), ("type", .string "input_json_delta")]),
      ("index", indexValue index),
      ("type", .string "content_block_delta")]
  | blockStop index =>
    .object [("index", indexValue index), ("type", .string "content_block_stop")]
  | messageDelta stopReason =>
    .object [
      ("delta", .object [("stop_reason", ToolInvocationRecord.optString stopReason)]),
      ("type", .string "message_delta")]
  | messageStop => .object [("type", .string "message_stop")]
  | error errorType message =>
    .object [
      ("error", .object [("message", .string message), ("type", .string errorType)]),
      ("type", .string "error")]

def toLine (serde : SerdeJson) (event : AdaptedEvent) : String :=
  "data: " ++ serde.toString event.toValue

end AdaptedEvent

inductive MessageIdPoll where
  | empty
  | received (result : Except TaskExecutorError String)
  | disconnected

structure HashOrder where
  order : List String → List String
  perm : ∀ elements, (order elements).Perm elements

def HashOrder.inserted : HashOrder where
  order := id
  perm := List.Perm.refl

structure OpenCodeEventAdapter where
  targetSessionId : String
  targetUserMessageId : Option String
  targetAssistantMessageId : Option String
  buffered : List AdaptedEvent
  partIndices : IndexMap String Nat
  partKinds : IndexMap String PartKind
  startedParts : List String
  stoppedParts : List String
  messageStarted : Bool
  messageStopped : Bool
  stopReason : Option String
  eofFlushed : Bool
  upstreamError : Option TaskExecutorError

namespace OpenCodeEventAdapter

open OpenCodeEvent

def new (targetSessionId : String) : OpenCodeEventAdapter where
  targetSessionId := targetSessionId
  targetUserMessageId := none
  targetAssistantMessageId := none
  buffered := []
  partIndices := .empty
  partKinds := .empty
  startedParts := []
  stoppedParts := []
  messageStarted := false
  messageStopped := false
  stopReason := none
  eofFlushed := false
  upstreamError := none

variable (adapter : OpenCodeEventAdapter)

def queueSse (event : AdaptedEvent) : OpenCodeEventAdapter :=
  { adapter with buffered := adapter.buffered ++ [event] }

def pollTargetUserMessageId (poll : MessageIdPoll) : OpenCodeEventAdapter :=
  if adapter.targetUserMessageId.isSome || adapter.upstreamError.isSome then
    adapter
  else
    match poll with
    | .received (.ok messageId) => { adapter with targetUserMessageId := some messageId }
    | .received (.error error) => { adapter with upstreamError := some error }
    | .empty => adapter
    | .disconnected =>
      { adapter with
        upstreamError := some {
          kind := .taskExecutionFailed
          stage := .planExecute
          internalMessage := "streaming protocol error: message sender thread disconnected" } }

def ensureMessageStarted : OpenCodeEventAdapter :=
  if adapter.messageStarted then
    adapter
  else
    match adapter.targetAssistantMessageId with
    | none => adapter
    | some messageId =>
      { adapter with messageStarted := true }.queueSse (.messageStart messageId)

def partIndex (partId : String) : Nat × OpenCodeEventAdapter :=
  match adapter.partIndices.get partId with
  | some index => (index, adapter)
  | none =>
    let nextIndex := adapter.partIndices.entries.length
    (nextIndex, { adapter with partIndices := adapter.partIndices.insert partId nextIndex })

def recordPartKind (partId : String) (kind : PartKind) : OpenCodeEventAdapter :=
  match adapter.partKinds.get partId with
  | some _ => adapter
  | none => { adapter with partKinds := adapter.partKinds.insert partId kind }

def ensurePartStarted (partId : String) (kind : PartKind) : OpenCodeEventAdapter :=
  let adapter := adapter.ensureMessageStarted.recordPartKind partId kind
  if partId ∈ adapter.startedParts then
    adapter
  else
    let adapter := { adapter with startedParts := adapter.startedParts ++ [partId] }
    let (index, adapter) := adapter.partIndex partId
    adapter.queueSse (.blockStart index partId ((adapter.partKinds.get partId).getD kind))

def stopPart (partId : String) : OpenCodeEventAdapter :=
  if partId ∉ adapter.startedParts ∨ partId ∈ adapter.stoppedParts then
    adapter
  else
    let adapter := { adapter with stoppedParts := adapter.stoppedParts ++ [partId] }
    let (index, adapter) := adapter.partIndex partId
    adapter.queueSse (.blockStop index)

variable (hash : HashOrder)

def stopAllParts : OpenCodeEventAdapter :=
  (hash.order adapter.startedParts).foldl stopPart adapter

def stopMessageIfNeeded : OpenCodeEventAdapter :=
  if adapter.messageStopped || !adapter.messageStarted then
    adapter
  else
    let adapter := adapter.stopAllParts hash
    { (adapter.queueSse (.messageDelta adapter.stopReason)).queueSse .messageStop with
      messageStopped := true }

def flushEofOnce : OpenCodeEventAdapter :=
  if adapter.eofFlushed then
    adapter
  else
    { adapter with eofFlushed := true }.stopMessageIfNeeded hash

def followMessage (messageId : String) (sameParentAssistant : Bool) : OpenCodeEventAdapter :=
  if adapter.targetAssistantMessageId.isNone && sameParentAssistant then
    { adapter with targetAssistantMessageId := some messageId }
  else if sameParentAssistant && adapter.targetAssistantMessageId != some messageId
      && adapter.stopReason.any isToolCallsStopReason then
    { adapter.stopAllParts hash with
      targetAssistantMessageId := some messageId
      stopReason := none }
  else
    adapter

def handleTargetUpdated (raw : Value) : OpenCodeEventAdapter :=
  let adapter := adapter.ensureMessageStarted
  match extractStopReason raw with
  | some stopReason =>
    let adapter := { adapter with stopReason := some stopReason }
    if isToolCallsStopReason stopReason then
      adapter.stopAllParts hash
    else
      adapter.stopMessageIfNeeded hash
  | none =>
    if (extractStatus raw).any isTerminalStatus then
      adapter.stopMessageIfNeeded hash
    else
      adapter

def handleMessageUpdated (raw : Value) : OpenCodeEventAdapter :=
  if !matchesTargetSession raw adapter.targetSessionId then
    adapter
  else
    match extractMessageId raw with
    | none => adapter
    | some messageId =>
      let role := (extractRole raw).getD ""
      let parentId := extractParentMessageId raw
      let adapter :=
        if adapter.targetUserMessageId.isNone && Text.eqIgnoreAsciiCase role "user" then
          { adapter with targetUserMessageId := some messageId }
        else
          adapter
      let sameParentAssistant := Text.eqIgnoreAsciiCase role "assistant"
        && adapter.targetUserMessageId.isSome && adapter.targetUserMessageId == parentId
      let adapter := adapter.followMessage hash messageId sameParentAssistant
      if adapter.targetAssistantMessageId != some messageId then
        adapter
      else
        adapter.handleTargetUpdated hash raw

def targetPart (raw : Value) : Option String :=
  match adapter.targetAssistantMessageId with
  | none => none
  | some messageId =>
    if matchesTargetMessage raw adapter.targetSessionId messageId then
      extractPartId raw
    else
      none

def handleMessagePartUpdated (raw : Value) : OpenCodeEventAdapter :=
  match adapter.targetPart raw with
  | none => adapter
  | some partId =>
    let kind := (inferPartKind raw).getD .text
    let adapter := { adapter with partKinds := adapter.partKinds.insert partId kind }
    let adapter := adapter.ensurePartStarted partId kind
    if (extractStatus raw).any isTerminalStatus then
      adapter.stopPart partId
    else
      adapter

def deltaKind (raw : Value) (partId : String) : PartKind :=
  if isTextField ((extractField raw).getD "") then
    .text
  else
    match adapter.partKinds.get partId with
    | some (.toolUse name) => .toolUse name
    | _ => .toolUse ((extractToolName raw).getD "tool")

def handleMessagePartDelta (raw : Value) : OpenCodeEventAdapter :=
  match adapter.targetPart raw with
  | none => adapter
  | some partId =>
    let delta := (extractDelta raw).getD ""
    let adapter := adapter.ensurePartStarted partId (adapter.deltaKind raw partId)
    let (index, adapter) := adapter.partIndex partId
    if isTextField ((extractField raw).getD "") then
      adapter.queueSse (.textDelta index delta)
    else
      adapter.queueSse (.inputDelta index delta)

def isSessionError (status : String) : Bool :=
  Text.eqIgnoreAsciiCase status "error" || Text.eqIgnoreAsciiCase status "failed"

def handleSessionStatus (raw : Value) : OpenCodeEventAdapter :=
  if !matchesTargetSession raw adapter.targetSessionId then
    adapter
  else
    let status := (extractStatus raw).getD ""
    if isSessionError status then
      let message := (extractErrorMessage raw).getD "upstream session reported error"
      { adapter.queueSse (.error (if status = "" then "session_error" else status) message) with
        messageStopped := true }
    else if isTerminalStatus status then
      { adapter with stopReason := adapter.stopReason.or (some status) }.stopMessageIfNeeded hash
    else
      adapter

def handleRawEvent (raw : Value) : OpenCodeEventAdapter :=
  match extractEventType raw with
  | some "message.updated" => adapter.handleMessageUpdated hash raw
  | some "message.part.updated" => adapter.handleMessagePartUpdated raw
  | some "message.part.delta" => adapter.handleMessagePartDelta raw
  | some "session.status" => adapter.handleSessionStatus hash raw
  | _ => adapter

end OpenCodeEventAdapter

inductive AdapterEntry where
  | read (item : Except TaskExecutorError String)
  | sent (item : Except TaskExecutorError AdaptedEvent)

def AdapterEntry.sent? : AdapterEntry → Option (Except TaskExecutorError AdaptedEvent)
  | read _ => none
  | sent item => some item

/-- The events of one message, from the point of view of the consumer that asks for the next one. -/
structure AdapterRun where
  adapter : OpenCodeEventAdapter
  lines : UnifiedStreamSource
  /-- The `event_data_lines` of the call of `next` that is under way. -/
  dataLines : List String
  log : List AdapterEntry
  /-- The iterator has returned `None`, or an error, behind which the consumer does not go on. -/
  ended : Bool

def frameEvent (serde : SerdeJson) (dataLines : List String) : Option Value :=
  let trimmed := Text.trim ("\n".intercalate dataLines)
  if trimmed = "" ∨ trimmed = "[DONE]" then none else (serde.fromStr trimmed).toOption

namespace AdapterRun

def start (targetSessionId : String) (lines : UnifiedStreamSource) : AdapterRun where
  adapter := .new targetSessionId
  lines := lines
  dataLines := []
  log := []
  ended := false

variable (serde : SerdeJson) (hash : HashOrder) (run : AdapterRun)

def record (entries : List AdapterEntry) : AdapterRun :=
  { run with log := run.log ++ entries }

def handle (raw : Value) : AdapterRun :=
  { run with adapter := run.adapter.handleRawEvent hash raw }

def onBlank : AdapterRun :=
  match frameEvent serde run.dataLines with
  | none => { run with dataLines := [] }
  | some raw =>
    let run := run.handle hash raw
    { run with
      dataLines := []
      ended := run.adapter.buffered.isEmpty && run.adapter.messageStopped }

def onLine (line : String) : AdapterRun :=
  let trimmedLine := Text.trimEnd line
  if trimmedLine = "" then
    run.onBlank serde hash
  else
    match dataOfLine trimmedLine with
    | some stripped => { run with dataLines := run.dataLines ++ [stripped] }
    | none => run

def onEof : AdapterRun :=
  let run :=
    match frameEvent serde run.dataLines with
    | none => run
    | some raw => run.handle hash raw
  let adapter := run.adapter.flushEofOnce hash
  { run with adapter, dataLines := [], ended := adapter.buffered.isEmpty }

def readItem : AdapterRun :=
  match run.lines with
  | .ok line :: lines =>
    ({ run with lines }.record [.read (.ok line)]).onLine serde hash line
  | .error error :: lines =>
    { run with lines, ended := true }.record [.read (.error error), .sent (.error error)]
  | [] => run.onEof serde hash

/-- One turn of the loop. What is buffered is returned first, and the next call starts a new frame. -/
def turn (poll : MessageIdPoll) : Option AdapterRun :=
  if run.ended then
    none
  else
    match run.adapter.buffered with
    | event :: buffered =>
      some ({ run with adapter := { run.adapter with buffered }, dataLines := [] }.record
        [.sent (.ok event)])
    | [] =>
      let adapter := run.adapter.pollTargetUserMessageId poll
      match adapter.upstreamError with
      | some error =>
        some ({ run with adapter := { adapter with upstreamError := none }, ended := true }.record
          [.sent (.error error)])
      | none => some ({ run with adapter }.readItem serde hash)

def sent : List (Except TaskExecutorError AdaptedEvent) :=
  run.log.filterMap AdapterEntry.sent?

def eventRead : Option Value :=
  match run.lines with
  | .ok line :: _ => if Text.trimEnd line = "" then frameEvent serde run.dataLines else none
  | .error _ :: _ => none
  | [] => frameEvent serde run.dataLines

end AdapterRun

end AnimaAgent
