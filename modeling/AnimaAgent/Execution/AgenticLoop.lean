import AnimaAgent.Messages.Compact
import AnimaAgent.Messages.Pairing
import AnimaAgent.Streaming.Executor
import AnimaAgent.Tools.Execution

namespace AnimaAgent

structure AgenticLoopConfig where
  maxIterations : Nat := 10
  sessionId : String := ""
  traceId : String := ""
  compact : Option CompactConfig := none
  systemPrompt : Option String := none
  toolDefinitions : Option (List Value) := none
  streaming : Bool := false

structure AgenticLoopResult where
  finalText : String
  messages : List InternalMsg
  iterations : Nat
  hitLimit : Bool
  compactCount : Nat
  deriving DecidableEq

structure SuspendedToolInvocation where
  toolUseId : String
  toolName : String
  toolInput : Value
  permissionRequest : PermissionRequest
  invocation : ToolInvocationRecord
  deriving DecidableEq

structure AgenticLoopSuspension where
  suspendedTool : SuspendedToolInvocation
  messages : List InternalMsg
  iterations : Nat
  compactCount : Nat
  deriving DecidableEq

inductive AgenticLoopOutcome where
  | completed (result : AgenticLoopResult)
  | suspended (suspension : AgenticLoopSuspension)
  deriving DecidableEq

inductive AgenticLoopError where
  | apiCall (error : ProviderError)
  | responseParse (internalMessage : String)
  | toolExecution (error : ToolError)
  | allToolsFailed (internalMessage : String)
  deriving DecidableEq

inductive LoopEvent where
  /-- The provider is asked, with the request that was built from `messages`. -/
  | request (messages : List InternalMsg) (request : ChatRequest)
  | response (parsed : ParsedResponse)
  | tool (event : ToolEvent)
  deriving DecidableEq

abbrev LoopM := Traced LoopEvent AgenticLoopError

inductive SingleToolExecutionOutcome where
  | completed (invocation : ToolInvocationRecord) (result : ToolResult)
  | awaitingPermission (awaiting : AwaitingToolPermission)
  deriving DecidableEq

structure IndexedToolUse where
  index : Nat
  toolUse : ParsedToolUse
  deriving DecidableEq

structure IndexedToolOutcome where
  index : Nat
  toolUseId : String
  outcome : SingleToolExecutionOutcome
  deriving DecidableEq

/--
The arguments of the loop that do not change while it runs. `uuid` gives the identifiers that are
drawn in an iteration: of the assistant message (0), of the request to go on (1) and, for the tool use
at index `k`, of its invocation (`2 * k + 2`) and of its result (`2 * k + 3`).
-/
structure LoopEnv where
  provider : Provider
  toolRegistry : ToolRegistry
  permissionChecker : Option PermissionChecker
  hookRegistry : Option HookRegistry
  config : AgenticLoopConfig
  serde : SerdeJson
  now : UInt64
  uuid : Nat → Nat → String

namespace LoopEnv

variable (env : LoopEnv)

def toolContext : ToolContext where
  sessionId := env.config.sessionId
  traceId := env.config.traceId
  metadata := .object []

/-- `uuid` is the identifier drawn for the invocation. -/
def executeSingleTool (uuid : String) (toolUse : ParsedToolUse)
    : Writer (List ToolEvent) SingleToolExecutionOutcome := do
  let invocationId := "toolinv_" ++ uuid
  let baseInvocation :=
    ToolInvocationRecord.new env.now invocationId toolUse.name (some toolUse.id)
  tell [.lifecycle "tool_invocation_detected" baseInvocation
    (.object [("source", .string "agentic_loop"), ("tool_input", toolUse.input)])]
  match env.toolRegistry.get toolUse.name with
  | none =>
    let error := "tool '" ++ toolUse.name ++ "' not found in registry"
    let invocation := (baseInvocation.markPhase env.now .failed).setError error
    tell [.lifecycle "tool_execution_failed" invocation
      (.object [("error", .string error), ("stage", .string "tool_lookup")])]
    pure (.completed invocation (.error error))
  | some tool =>
    let options : RunToolOptions :=
      { toolName := toolUse.name
        input := toolUse.input
        context := env.toolContext
        invocationId := some invocationId }
    let run :=
      runToolUse env.serde env.now tool options env.permissionChecker env.hookRegistry uuid
    match ← run.attempt with
    | .ok (.completed invocation result) =>
      pure (.completed { invocation with toolUseId := some toolUse.id } result)
    | .ok (.awaitingPermission awaiting) =>
      pure (.awaitingPermission
        { awaiting with
          invocation := { awaiting.invocation with toolUseId := some toolUse.id } })
    | .error err =>
      let invocation := (baseInvocation.markPhase env.now .failed).setError err.display
      pure (.completed invocation (.error ("tool execution error: " ++ err.display)))

def isToolUseConcurrencySafe (toolUse : ParsedToolUse) : Bool :=
  match env.toolRegistry.get toolUse.name with
  | some tool => tool.isConcurrencySafe
  | none => false

def executeItem (i : Nat) (item : IndexedToolUse)
    : Writer (List ToolEvent) IndexedToolOutcome := do
  let outcome ← env.executeSingleTool (env.uuid i (2 * item.index + 2)) item.toolUse
  pure { index := item.index, toolUseId := item.toolUse.id, outcome }

def executeToolSegment (i : Nat) (segment : List IndexedToolUse)
    : Writer (List ToolEvent) (List IndexedToolOutcome) :=
  match segment with
  | [] => pure []
  | [item] => do
    let outcome ← env.executeItem i item
    pure [outcome]
  | segment => do
    let outcomes ← segment.mapM (env.executeItem i)
    pure (outcomes.insertionSort (fun a b => a.index ≤ b.index))

/-- The neighbouring tool uses that agree on whether they may run concurrently. -/
def segments (toolUses : List ParsedToolUse) : List (List IndexedToolUse) :=
  let indexed := toolUses.zipIdx.map (fun entry => { index := entry.2, toolUse := entry.1 })
  indexed.splitBy (fun a b =>
    env.isToolUseConcurrencySafe a.toolUse == env.isToolUseConcurrencySafe b.toolUse)

def executeSegment (i : Nat) (segment : List IndexedToolUse)
    : Writer (List ToolEvent) (List IndexedToolOutcome) :=
  if segment.head?.any (fun item => env.isToolUseConcurrencySafe item.toolUse) then
    env.executeToolSegment i segment
  else
    segment.mapM (env.executeItem i)

def earliestPermission (outcomes : List IndexedToolOutcome)
    : Option (String × AwaitingToolPermission) :=
  outcomes.findSome? (fun item =>
    match item.outcome with
    | .awaitingPermission awaiting => some (item.toolUseId, awaiting)
    | .completed .. => none)

def recordOutcome (i : Nat) (item : IndexedToolOutcome)
    : Writer (List ToolEvent) (List InternalMsg) :=
  match item.outcome with
  | .completed invocation result => do
    let invocation := invocation.markPhase env.now .resultRecorded
    tell [.lifecycle "tool_result_recorded" invocation
      (.object [("is_error", .bool result.isError)])]
    pure [buildToolResultMsg env.serde (env.uuid i (2 * item.index + 3)) item.toolUseId result
      (some invocation)]
  | .awaitingPermission _ => pure []

def runSegments (i : Nat)
    : List (List IndexedToolUse) → List InternalMsg
      → Writer (List ToolEvent) (List InternalMsg × Option (String × AwaitingToolPermission))
  | [], messages => pure (messages, none)
  | segment :: rest, messages => do
    let outcomes ← env.executeSegment i segment
    match earliestPermission outcomes with
    | some awaiting => pure (messages, some awaiting)
    | none =>
      let results ← outcomes.mapM (env.recordOutcome i)
      runSegments i rest (messages ++ results.flatten)

end LoopEnv

structure LoopState where
  messages : List InternalMsg
  iterations : Nat
  compactCount : Nat
  truncatedTextParts : List String := []
  deriving DecidableEq

inductive LoopStep where
  | continue (state : LoopState)
  | done (outcome : AgenticLoopOutcome)

def extractLastAssistantText (messages : List InternalMsg) : String :=
  match messages.reverse.find? (fun msg => msg.role == .assistant) with
  | some msg => "\n".intercalate (msg.blocks.filterMap ContentBlock.text?)
  | none => ""

def continuationMsg (uuid : String) : InternalMsg where
  role := .user
  blocks :=
    [.text "Your previous response was cut off. Please continue from where you left off."]
  messageId := uuid
  toolUseId := none
  filtered := false
  metadata := .object []

namespace LoopEnv

variable (env : LoopEnv)

def prepareMessages (messages : List InternalMsg) (compactCount : Nat)
    : List InternalMsg × Nat :=
  let messages := ensureToolResultPairing messages
  match env.config.compact with
  | some compactConfig =>
    let (messages, result) := compactIfNeeded env.serde messages compactConfig
    (messages, if result.didCompact then compactCount + 1 else compactCount)
  | none => (messages, compactCount)

def chatRequest (messages : List InternalMsg) : ChatRequest :=
  buildChatRequest (normalizeMessagesForApi messages) env.config.systemPrompt
    env.config.toolDefinitions env.config.sessionId

def askProvider (i : Nat) (request : ChatRequest)
    : Except AgenticLoopError (ParsedResponse × Value) :=
  if env.config.streaming then
    match env.provider.chatStream i request with
    | .error error => .error (.apiCall error)
    | .ok stream => (consumeStreamEvents env.serde stream).mapError .apiCall
  else
    match env.provider.chat i request with
    | .error error => .error (.apiCall error)
    | .ok response => .ok (parseChatResponse response, response.raw)

def callProvider (i : Nat) (messages : List InternalMsg) : LoopM (ParsedResponse × InternalMsg) := do
  let request := env.chatRequest messages
  Traced.emit (.request messages request)
  match env.askProvider i request with
  | .error error => throw error
  | .ok (parsed, value) =>
    Traced.emit (.response parsed)
    pure (parsed, buildAssistantMsg (env.uuid i 0) value)

def finishOrContinue (state : LoopState) (parsed : ParsedResponse) : LoopStep :=
  if parsed.stopReason = .maxTokens then
    .continue
      { state with
        messages := state.messages ++ [continuationMsg (env.uuid state.iterations 1)]
        iterations := state.iterations + 1
        truncatedTextParts := state.truncatedTextParts ++ [parsed.text] }
  else
    let finalText :=
      if state.truncatedTextParts.isEmpty then
        parsed.text
      else
        String.join (state.truncatedTextParts ++ [parsed.text])
    .done (.completed
      { finalText
        messages := state.messages
        iterations := state.iterations + 1
        hitLimit := false
        compactCount := state.compactCount })

def suspend (state : LoopState) (toolUseId : String) (awaiting : AwaitingToolPermission)
    : AgenticLoopSuspension where
  suspendedTool :=
    { toolUseId
      toolName := awaiting.invocation.toolName
      toolInput := awaiting.input
      permissionRequest := awaiting.permissionRequest
      invocation := awaiting.invocation }
  messages := state.messages
  iterations := state.iterations
  compactCount := state.compactCount

def runToolUses (state : LoopState) (toolUses : List ParsedToolUse)
    : Writer (List ToolEvent) LoopStep := do
  let (messages, awaiting) ←
    env.runSegments state.iterations (env.segments toolUses) state.messages
  match awaiting with
  | some (toolUseId, awaiting) =>
    pure (.done (.suspended (suspend { state with messages } toolUseId awaiting)))
  | none => pure (.continue { state with messages, iterations := state.iterations + 1 })

def act (state : LoopState) (parsed : ParsedResponse) : LoopM LoopStep :=
  if parsed.toolUses.isEmpty then
    pure (env.finishOrContinue state parsed)
  else
    Traced.liftMap .tool (env.runToolUses state parsed.toolUses)

def step (state : LoopState) : LoopM LoopStep := do
  let prepared := env.prepareMessages state.messages state.compactCount
  let (parsed, assistant) ← env.callProvider state.iterations prepared.1
  env.act { state with messages := prepared.1 ++ [assistant], compactCount := prepared.2 } parsed

def hitLimit (state : LoopState) : AgenticLoopOutcome :=
  .completed
    { finalText := extractLastAssistantText state.messages
      messages := state.messages
      iterations := state.iterations
      hitLimit := true
      compactCount := state.compactCount }

def iterate : Nat → LoopState → LoopM AgenticLoopOutcome
  | 0, state => pure (hitLimit state)
  | remaining + 1, state => do
    match ← env.step state with
    | .done outcome => pure outcome
    | .continue state => iterate remaining state

def continueAgenticLoop (messages : List InternalMsg) (iterations compactCount : Nat)
    : LoopM AgenticLoopOutcome :=
  env.iterate (env.config.maxIterations - iterations) { messages, iterations, compactCount }

def runAgenticLoop (initialMessages : List InternalMsg) : LoopM AgenticLoopOutcome :=
  env.continueAgenticLoop initialMessages 0 0

def resumedResult (suspension : AgenticLoopSuspension) (allowed : Bool)
    : LoopM (ToolInvocationRecord × ToolResult) :=
  let suspended := suspension.suspendedTool
  if allowed then
    match env.toolRegistry.get suspended.toolName with
    | none =>
      throw (.allToolsFailed
        ("tool '" ++ suspended.toolName ++ "' not found in registry during resume"))
    | some tool =>
      let options : RunToolOptions :=
        { toolName := suspended.toolName
          input := suspended.toolInput
          context := env.toolContext
          invocationId := some suspended.invocation.invocationId }
      Traced.mapBoth .tool .toolExecution
        (executeToolAfterPermission env.serde env.now tool options env.hookRegistry
          suspended.invocation)
  else do
    let error := "tool execution denied by user: " ++ suspended.permissionRequest.prompt
    let invocation := suspended.invocation.setPermissionState .denied
    let invocation := (invocation.markPhase env.now .failed).setError error
    Traced.emit (.tool (.lifecycle "tool_permission_resolved" invocation
      (.object [("decision", .string "deny"), ("source", .string "resume")])))
    pure (invocation, .error error)

/-- `uuid` is the identifier drawn for the result message. -/
def resumeSuspendedToolInvocation (uuid : String) (suspension : AgenticLoopSuspension)
    (allowed : Bool)
    : LoopM (List InternalMsg) := do
  let (invocation, toolResult) ← env.resumedResult suspension allowed
  let invocation := invocation.markPhase env.now .resultRecorded
  Traced.emit (.tool (.lifecycle "tool_result_recorded" invocation
    (.object [("is_error", .bool toolResult.isError)])))
  pure (suspension.messages
    ++ [buildToolResultMsg env.serde uuid suspension.suspendedTool.toolUseId toolResult
      (some invocation)])

end LoopEnv

def Provider.offline : Provider where
  chat _ _ := .error { kind := .network, message := "offline" }
  chatStream _ _ := .error { kind := .network, message := "offline" }

def LoopEnv.withTools (tools : List Tool) : LoopEnv where
  provider := .offline
  toolRegistry := tools.foldl ToolRegistry.register ∅
  permissionChecker := none
  hookRegistry := none
  config := {}
  serde := .small
  now := 0
  uuid i place := toString i ++ "/" ++ toString place

end AnimaAgent
