import AnimaAgent.Agent.AnsweredPrompt
import AnimaAgent.Agent.InboundPipeline
import AnimaAgent.Library.OldestOut

namespace AnimaAgent

section Classification

variable (raw : String)

def classifySessionCreateError : Option RuntimeError :=
  let rawLower := Text.toAsciiLowercase raw
  let looksLikeSessionTransportError :=
    Text.contains "http transport error" rawLower
      || Text.contains "error sending request" rawLower
      || Text.contains "/session)" rawLower
      || Text.contains "/session " rawLower
      || "/session".toList.isSuffixOf rawLower.toList
      || Text.contains "/session?" rawLower
  if Text.contains "OpenCode session" raw
      || Text.contains "no ID returned" raw
      || Text.contains "Failed to create session" raw
      || Text.contains "create session" rawLower
      || Text.contains "session-create" rawLower
      || looksLikeSessionTransportError then
    some { kind := .sessionCreateFailed, stage := .sessionCreate, internalMessage := raw }
  else
    none

def classifyPlanExecuteError : Option RuntimeError :=
  let rawLower := Text.toAsciiLowercase raw
  let looksLikeUpstreamStreamError :=
    Text.contains "empty_stream" rawLower
      || Text.contains "upstream stream closed before first payload" rawLower
      || Text.contains "stream disconnected before completion" rawLower
      || Text.contains "stream closed before response.completed" rawLower
  let looksLikeUpstreamTimeout :=
    Text.contains "request timeout" rawLower
      || Text.contains "408 request timeout" rawLower
      || Text.contains "timed out" rawLower
      || Text.contains "timeout" rawLower
  if looksLikeUpstreamTimeout then
    some { kind := .upstreamTimeout, stage := .planExecute, internalMessage := raw }
  else if looksLikeUpstreamStreamError then
    some { kind := .upstreamStreamFailed, stage := .planExecute, internalMessage := raw }
  else
    none

def classifyWorkerPoolError : Option RuntimeError :=
  if Text.contains "Worker pool is not running" raw || Text.contains "Worker is not running" raw then
    some { kind := .workerUnavailable, stage := .workerPool, internalMessage := raw }
  else if Text.contains "Worker is busy" raw || Text.contains "No available worker" raw then
    some { kind := .workerCapacityExhausted, stage := .workerPool, internalMessage := raw }
  else
    none

end Classification

def classifyRuntimeError (error : Option String) (fallbackStage : Option RuntimeErrorStage)
    : RuntimeError :=
  let raw := error.getD "Unknown runtime error"
  let fallback (kind : RuntimeErrorKind) : RuntimeError :=
    { kind, stage := fallbackStage.getD .taskExecution, internalMessage := raw }
  ((if fallbackStage = some .sessionCreate then classifySessionCreateError raw else none).or
    ((if fallbackStage = some .planExecute then classifyPlanExecuteError raw else none).or
      (classifyWorkerPoolError raw))).getD
    (if Text.contains "Missing required fields" raw
        || Text.contains "Missing query" raw
        || Text.contains "Missing transform data" raw then
      fallback .invalidTaskPayload
    else if Text.contains "Unknown task type" raw then
      fallback .unknownTaskType
    else
      fallback .taskExecutionFailed)

def sessionCreateError (internalMessage : String) : RuntimeError :=
  let errorInfo := classifyRuntimeError (some internalMessage) (some .sessionCreate)
  { kind :=
      match errorInfo.kind with
      | .workerUnavailable => .workerUnavailable
      | .workerCapacityExhausted => .workerCapacityExhausted
      | _ => .sessionCreateFailed
    stage :=
      match errorInfo.stage with
      | .workerPool => .workerPool
      | _ => .sessionCreate
    internalMessage }

structure SessionContext where
  sessionId : Option String
  chatId : String
  channel : String
  history : List Value
  deriving DecidableEq

def maxSessions : Nat := 1000

def maxSessionHistory : Nat := 200

namespace InboundMessage

variable (inbound : InboundMessage)

def memoryKey : String :=
  inbound.channel ++ ":" ++ inbound.chatId.getD inbound.id

def newContext : SessionContext where
  sessionId := none
  chatId := inbound.chatId.getD inbound.id
  channel := inbound.channel
  history := []

end InboundMessage

abbrev AgentMemory := IndexMap String SessionContext

namespace AgentMemory

variable (memory : AgentMemory) (key : String)

def ensureContext (inbound : InboundMessage) : AgentMemory :=
  (OldestOut.makeRoom maxSessions memory inbound.memoryKey).orInsert inbound.memoryKey
    inbound.newContext

def update (f : SessionContext → SessionContext) : AgentMemory :=
  match memory.get key with
  | some ctx => memory.insert key (f ctx)
  | none => memory

def appendHistory (message : Value) : AgentMemory :=
  memory.update key (fun ctx =>
    { ctx with history := Newest.keep maxSessionHistory (ctx.history ++ [message]) })

def existingOpencodeSessionId : Option String :=
  (memory.get key).bind SessionContext.sessionId

def storeOpencodeSessionId (sessionId : String) : AgentMemory :=
  memory.update key (fun ctx => { ctx with sessionId := some sessionId })

end AgentMemory

def requestNewOpencodeSession (received : Except String TaskResult) : Except RuntimeError TaskResult :=
  received.mapError (fun error =>
    sessionCreateError ("Failed to receive session-create result: " ++ error))

def extractCreatedOpencodeSessionId (result : TaskResult) : Except RuntimeError String :=
  if result.status ≠ "success" then
    .error (sessionCreateError
      (result.error.getD ("Failed to create session: task status=" ++ result.status)))
  else
    match result.error with
    | some errorText => .error (sessionCreateError errorText)
    | none =>
      match (result.result.bind (Value.get "opencode-session-id")).bind Value.asStr with
      | some sessionId => .ok sessionId
      | none =>
        .error
          { kind := .sessionCreateFailed
            stage := .sessionCreate
            internalMessage := "Failed to create session: no ID returned" }

structure SessionPreparation where
  key : String
  submitted : Bool
  result : Except RuntimeError String

def AgentMemory.getOrCreateOpencodeSession (memory : AgentMemory) (key : String)
    (received : Except String TaskResult)
    : SessionPreparation × AgentMemory :=
  match memory.existingOpencodeSessionId key with
  | some existingId => ({ key, submitted := false, result := .ok existingId }, memory)
  | none =>
    match (requestNewOpencodeSession received).bind extractCreatedOpencodeSessionId with
    | .error error => ({ key, submitted := true, result := .error error }, memory)
    | .ok sessionId =>
      ({ key, submitted := true, result := .ok sessionId },
        memory.storeOpencodeSessionId key sessionId)

inductive MemoryAction where
  | ensured (inbound : InboundMessage)
  | appended (key : String) (message : Value)
  | prepared (inbound : InboundMessage) (received : Except String TaskResult)

namespace CoreAgent

variable (agent : CoreAgent)

def prepareUpstreamSession (memory : AgentMemory) (inbound : InboundMessage)
    (received : Except String TaskResult)
    : SessionPreparation × AgentMemory :=
  if agent.toolRegistry.keys.isEmpty then
    memory.getOrCreateOpencodeSession inbound.memoryKey received
  else
    let localId := inbound.sessionKey.getD inbound.id
    ({ key := inbound.memoryKey, submitted := false, result := .ok localId },
      memory.storeOpencodeSessionId inbound.memoryKey localId)

def rememberStep (memory : AgentMemory) : MemoryAction → AgentMemory
  | .ensured inbound => memory.ensureContext inbound
  | .appended key message => memory.appendHistory key message
  | .prepared inbound received => (agent.prepareUpstreamSession memory inbound received).2

def remember (memory : AgentMemory) (actions : List MemoryAction) : AgentMemory :=
  actions.foldl agent.rememberStep memory

def preparations (key : String) : AgentMemory → List MemoryAction → List SessionPreparation
  | _, [] => []
  | memory, action :: actions =>
    (match action with
      | .prepared inbound received =>
        if inbound.memoryKey = key then
          [(agent.prepareUpstreamSession memory inbound received).1]
        else
          []
      | _ => [])
      ++ preparations key (agent.rememberStep memory action) actions

end CoreAgent

namespace AgentMemory

variable {memory : AgentMemory} {key : String}

@[simp]
theorem keys_update (f : SessionContext → SessionContext)
    : (memory.update key f).keys = memory.keys := by
  unfold update
  split
  . next ctx hctx =>
    rw [IndexMap.keys_insert, if_pos (IndexMap.mem_keys_iff.mpr ⟨ctx, hctx⟩)]
  . rfl

theorem get_update (f : SessionContext → SessionContext) (other : String)
    : (memory.update key f).get other
        = if other = key then (memory.get other).map f else memory.get other := by
  unfold update
  split
  . next ctx hctx =>
    rw [IndexMap.get_insert_eq]
    split
    . next heq => rw [heq, hctx, Option.map_some]
    . rfl
  . next hnone =>
    split
    . next heq => rw [heq, hnone, Option.map_none]
    . rfl

theorem keys_ensureContext (inbound : InboundMessage)
    : (memory.ensureContext inbound).keys
        = OldestOut.enter maxSessions memory.keys inbound.memoryKey := by
  exact OldestOut.keys_orInsert_makeRoom inbound.newContext

theorem get_ensureContext {inbound : InboundMessage} (hmem : key ∈ memory.keys)
    (hstays : key ∈ (memory.ensureContext inbound).keys)
    : (memory.ensureContext inbound).get key = memory.get key := by
  rw [keys_ensureContext] at hstays
  by_cases heq : key = inbound.memoryKey
  . subst heq
    unfold ensureContext
    rw [OldestOut.makeRoom_of_mem hmem]
    unfold IndexMap.orInsert
    rw [if_pos hmem]
  . exact OldestOut.get_orInsert_makeRoom inbound.newContext heq hstays

theorem get_ensureContext_new {inbound : InboundMessage} (hnew : memory.get inbound.memoryKey = none)
    : (memory.ensureContext inbound).get inbound.memoryKey = some inbound.newContext := by
  have hmem := IndexMap.get_eq_none_iff.mp hnew
  have hroom : inbound.memoryKey ∉ (OldestOut.makeRoom maxSessions memory inbound.memoryKey).keys := by
    unfold OldestOut.makeRoom
    split
    . rw [OldestOut.keys_dropOldest]
      exact fun h => hmem (List.tail_subset _ h)
    . exact hmem
  unfold ensureContext
  rw [IndexMap.get_orInsert, IndexMap.get_eq_none_iff.mpr hroom, if_pos rfl, Option.none_or]

theorem existing_appendHistory (other : String) (message : Value)
    : (memory.appendHistory other message).existingOpencodeSessionId key
        = memory.existingOpencodeSessionId key := by
  unfold existingOpencodeSessionId appendHistory
  rw [get_update]
  split
  . rw [Option.bind_map]
    rfl
  . rfl

theorem existing_storeOpencodeSessionId (other sessionId : String)
    : (memory.storeOpencodeSessionId other sessionId).existingOpencodeSessionId key
        = if key = other ∧ key ∈ memory.keys then some sessionId
          else memory.existingOpencodeSessionId key := by
  unfold existingOpencodeSessionId storeOpencodeSessionId
  rw [get_update]
  cases hget : memory.get key with
  | none =>
    have hnew := IndexMap.get_eq_none_iff.mp hget
    rw [Option.map_none, ite_self, if_neg (fun h : key = other ∧ _ => hnew h.2)]
  | some ctx =>
    have hmem : key ∈ memory.keys := IndexMap.mem_keys_iff.mpr ⟨ctx, hget⟩
    split
    . next heq => rw [if_pos ⟨heq, hmem⟩, Option.map_some, Option.bind_some]
    . next hne => rw [if_neg (fun h : key = other ∧ _ => hne h.1)]

end AgentMemory

def MemoryAction.ensuredKey : MemoryAction → Option String
  | ensured inbound => some inbound.memoryKey
  | appended _ _ | prepared _ _ => none

namespace CoreAgent

variable {agent : CoreAgent} {memory : AgentMemory} {key : String} {newer : List String}
variable {actions : List MemoryAction}

section Prepared

variable {inbound : InboundMessage} (received : Except String TaskResult)

theorem prepareUpstreamSession_of_existing {sessionId : String}
    (hservice : agent.toolRegistry.keys.isEmpty)
    (h : memory.existingOpencodeSessionId inbound.memoryKey = some sessionId)
    : agent.prepareUpstreamSession memory inbound received
        = ({ key := inbound.memoryKey, submitted := false, result := .ok sessionId }, memory) := by
  unfold prepareUpstreamSession AgentMemory.getOrCreateOpencodeSession
  rw [if_pos hservice, h]

theorem prepareUpstreamSession_of_none (hservice : agent.toolRegistry.keys.isEmpty)
    (h : memory.existingOpencodeSessionId inbound.memoryKey = none)
    : ∃ result,
        (agent.prepareUpstreamSession memory inbound received).1
            = { key := inbound.memoryKey, submitted := true, result }
          ∧ ((∃ error, result = .error error)
              ∧ (agent.prepareUpstreamSession memory inbound received).2 = memory
            ∨ ∃ sessionId, result = .ok sessionId
              ∧ (agent.prepareUpstreamSession memory inbound received).2
                = memory.storeOpencodeSessionId inbound.memoryKey sessionId) := by
  unfold prepareUpstreamSession AgentMemory.getOrCreateOpencodeSession
  rw [if_pos hservice, h]
  cases (requestNewOpencodeSession received).bind extractCreatedOpencodeSessionId with
  | error error => exact ⟨_, rfl, .inl ⟨⟨error, rfl⟩, rfl⟩⟩
  | ok sessionId => exact ⟨_, rfl, .inr ⟨sessionId, rfl, rfl⟩⟩

variable (agent memory inbound) in
theorem prepareUpstreamSession_stores
    : (agent.prepareUpstreamSession memory inbound received).2 = memory
        ∨ ∃ sessionId, (agent.prepareUpstreamSession memory inbound received).2
          = memory.storeOpencodeSessionId inbound.memoryKey sessionId := by
  by_cases hservice : agent.toolRegistry.keys.isEmpty
  . cases h : memory.existingOpencodeSessionId inbound.memoryKey with
    | some sessionId =>
      rw [prepareUpstreamSession_of_existing received hservice h]
      exact .inl rfl
    | none =>
      obtain ⟨_, _, ⟨_, hsame⟩ | ⟨sessionId, _, hstored⟩⟩ :=
        prepareUpstreamSession_of_none received hservice h
      . exact .inl hsame
      . exact .inr ⟨sessionId, hstored⟩
  . unfold prepareUpstreamSession
    rw [if_neg hservice]
    exact .inr ⟨_, rfl⟩

end Prepared

theorem keys_rememberStep (action : MemoryAction)
    : (agent.rememberStep memory action).keys
        = action.ensuredKey.elim memory.keys (OldestOut.enter maxSessions memory.keys) := by
  cases action with
  | ensured inbound => exact AgentMemory.keys_ensureContext inbound
  | appended other message => exact AgentMemory.keys_update _
  | prepared inbound received =>
    change (agent.prepareUpstreamSession memory inbound received).2.keys = memory.keys
    obtain hsame | ⟨sessionId, hstored⟩ :=
      agent.prepareUpstreamSession_stores memory inbound received
    . rw [hsame]
    . rw [hstored]
      exact AgentMemory.keys_update _

open OldestOut

variable (agent) in
theorem behind_rememberStep {action : MemoryAction} (h : Behind key memory.keys newer)
    (hroom : Room maxSessions key (newer ++ (action :: actions).filterMap MemoryAction.ensuredKey))
    : ∃ newer', Behind key (agent.rememberStep memory action).keys newer'
        ∧ Room maxSessions key (newer' ++ actions.filterMap MemoryAction.ensuredKey) := by
  rw [keys_rememberStep]
  rw [List.filterMap_cons] at hroom
  cases haction : action.ensuredKey with
  | none =>
    rw [haction] at hroom
    exact ⟨newer, h, hroom⟩
  | some other =>
    rw [haction] at hroom
    exact h.enter memory.nodup hroom

def Elsewhere (key : String) (action : MemoryAction) : Prop :=
  ∀ inbound received, action = .prepared inbound received → inbound.memoryKey ≠ key

theorem existing_rememberStep {action : MemoryAction} (helsewhere : Elsewhere key action)
    (hmem : key ∈ memory.keys) (hstays : key ∈ (agent.rememberStep memory action).keys)
    : (agent.rememberStep memory action).existingOpencodeSessionId key
        = memory.existingOpencodeSessionId key := by
  cases action with
  | ensured inbound =>
    exact congrArg (Option.bind · SessionContext.sessionId)
      (AgentMemory.get_ensureContext hmem hstays)
  | appended other message => exact AgentMemory.existing_appendHistory other message
  | prepared inbound received =>
    have hne : key ≠ inbound.memoryKey := (helsewhere inbound received rfl).symm
    change (agent.prepareUpstreamSession memory inbound received).2.existingOpencodeSessionId key = _
    obtain hsame | ⟨sessionId, hstored⟩ :=
      agent.prepareUpstreamSession_stores memory inbound received
    . rw [hsame]
    . rw [hstored, AgentMemory.existing_storeOpencodeSessionId, if_neg (fun h => hne h.1)]

theorem preparations_cons_of_elsewhere {action : MemoryAction} (helsewhere : Elsewhere key action)
    : agent.preparations key memory (action :: actions)
        = agent.preparations key (agent.rememberStep memory action) actions := by
  cases action with
  | ensured _ => rfl
  | appended _ _ => rfl
  | prepared inbound received =>
    have hne := helsewhere inbound received rfl
    simp only [preparations, if_neg hne, List.nil_append]

theorem preparations_cons_self {inbound : InboundMessage} (received : Except String TaskResult)
    (hkey : inbound.memoryKey = key)
    : agent.preparations key memory (.prepared inbound received :: actions)
        = (agent.prepareUpstreamSession memory inbound received).1
          :: agent.preparations key (agent.prepareUpstreamSession memory inbound received).2
            actions := by
  simp only [preparations, if_pos hkey, rememberStep, List.singleton_append]

theorem prepared_or_elsewhere (key : String) (action : MemoryAction)
    : (∃ inbound received, action = .prepared inbound received ∧ inbound.memoryKey = key)
        ∨ Elsewhere key action := by
  by_cases h : Elsewhere key action
  . exact .inr h
  . simp only [Elsewhere, ne_eq, not_forall, not_not] at h
    obtain ⟨inbound, received, haction, hkey⟩ := h
    exact .inl ⟨inbound, received, haction, hkey⟩

theorem preparations_of_existing {sessionId : String} (hservice : agent.toolRegistry.keys.isEmpty)
    (hexisting : memory.existingOpencodeSessionId key = some sessionId)
    (hbehind : Behind key memory.keys newer)
    (hroom : Room maxSessions key (newer ++ actions.filterMap MemoryAction.ensuredKey))
    : ∀ preparation ∈ agent.preparations key memory actions,
        preparation = { key, submitted := false, result := .ok sessionId } := by
  induction actions generalizing memory newer with
  | nil => exact fun _ hmem => absurd hmem List.not_mem_nil
  | cons action actions ih =>
    obtain ⟨newer', hbehind', hroom'⟩ := agent.behind_rememberStep hbehind hroom
    obtain ⟨inbound, received, rfl, rfl⟩ | helsewhere := prepared_or_elsewhere key action
    . have hprepared := prepareUpstreamSession_of_existing received hservice hexisting
      rw [preparations_cons_self received rfl, hprepared]
      intro preparation hmem
      obtain rfl | hmem := List.mem_cons.mp hmem
      . rfl
      . change Behind _ (agent.prepareUpstreamSession memory inbound received).2.keys _ at hbehind'
        rw [hprepared] at hbehind'
        exact ih hexisting hbehind' hroom' preparation hmem
    . rw [preparations_cons_of_elsewhere helsewhere]
      have hsame := existing_rememberStep helsewhere hbehind.mem hbehind'.mem
      exact ih (hsame.trans hexisting) hbehind' hroom'

/--
The sessions that are prepared for a key: attempts that fail, then the one that is created, then the same
one without any task.
-/
def OneSession (preparations : List SessionPreparation) : Prop :=
  ∃ failed kept, preparations = failed ++ kept
    ∧ (∀ preparation ∈ failed, preparation.submitted ∧ ∃ error, preparation.result = .error error)
    ∧ (∃ sessionId, ∀ preparation ∈ kept, preparation.result = .ok sessionId)
    ∧ ∀ preparation ∈ kept.tail, preparation.submitted = false

theorem OneSession.cons_failed {preparation : SessionPreparation}
    {preparations : List SessionPreparation} (hsubmitted : preparation.submitted)
    (herror : ∃ error, preparation.result = .error error) (h : OneSession preparations)
    : OneSession (preparation :: preparations) := by
  obtain ⟨failed, kept, rfl, hfailed, hkept⟩ := h
  refine ⟨preparation :: failed, kept, rfl, ?_, hkept⟩
  intro other hmem
  obtain rfl | hmem := List.mem_cons.mp hmem
  . exact ⟨hsubmitted, herror⟩
  . exact hfailed other hmem

theorem oneSession_of_none (hservice : agent.toolRegistry.keys.isEmpty)
    (hnone : memory.existingOpencodeSessionId key = none)
    (hbehind : Behind key memory.keys newer)
    (hroom : Room maxSessions key (newer ++ actions.filterMap MemoryAction.ensuredKey))
    : OneSession (agent.preparations key memory actions) := by
  induction actions generalizing memory newer with
  | nil => exact ⟨[], [], rfl, nofun, ⟨"", nofun⟩, nofun⟩
  | cons action actions ih =>
    obtain ⟨newer', hbehind', hroom'⟩ := agent.behind_rememberStep hbehind hroom
    obtain ⟨inbound, received, rfl, rfl⟩ | helsewhere := prepared_or_elsewhere key action
    . rw [preparations_cons_self received rfl]
      change Behind _ (agent.prepareUpstreamSession memory inbound received).2.keys _ at hbehind'
      obtain ⟨result, hprepared, ⟨herror, hsame⟩ | ⟨sessionId, hok, hstored⟩⟩ :=
        prepareUpstreamSession_of_none received hservice hnone
      . rw [hsame] at hbehind' ⊢
        rw [hprepared]
        exact .cons_failed rfl herror (ih hnone hbehind' hroom')
      . rw [hstored] at hbehind' ⊢
        have hexisting :
            AgentMemory.existingOpencodeSessionId
                (memory.storeOpencodeSessionId inbound.memoryKey sessionId) inbound.memoryKey
              = some sessionId := by
          rw [AgentMemory.existing_storeOpencodeSessionId, if_pos ⟨rfl, hbehind.mem⟩]
        have hlater := preparations_of_existing hservice hexisting hbehind' hroom'
        refine ⟨[], _, rfl, nofun, ⟨sessionId, ?_⟩, ?_⟩
        . intro preparation hmem
          obtain rfl | hmem := List.mem_cons.mp hmem
          . rw [hprepared, hok]
          . rw [hlater preparation hmem]
        . intro preparation hmem
          rw [hlater preparation hmem]
    . rw [preparations_cons_of_elsewhere helsewhere]
      have hsame := existing_rememberStep helsewhere hbehind.mem hbehind'.mem
      exact ih (hsame.trans hnone) hbehind' hroom'

def createdSession : TaskResult where
  taskId := "task_1"
  traceId := "msg_1"
  status := "success"
  result := some (.object [("opencode-session-id", .string "session_1")])
  error := none
  durationMs := 0
  workerId := none
  blockedReason := none

/--
From the message on that the agent remembers a chat for, one session is created for the chat at most, and
all its messages get it, as long as fewer than `maxSessions` other chats come up.
-/
theorem oneSession_of_room {inbound : InboundMessage} (hservice : agent.toolRegistry.keys.isEmpty)
    (hnew : memory.get inbound.memoryKey = none)
    (hroom : Room maxSessions inbound.memoryKey (actions.filterMap MemoryAction.ensuredKey))
    : OneSession (agent.preparations inbound.memoryKey memory (.ensured inbound :: actions)) := by
  have hnewest := AgentMemory.get_ensureContext_new hnew
  have hbehind : Behind inbound.memoryKey (memory.ensureContext inbound).keys [] := by
    rw [AgentMemory.keys_ensureContext]
    unfold enter
    rw [if_neg (IndexMap.get_eq_none_iff.mp hnew)]
    split
    . exact ⟨_, rfl⟩
    . exact ⟨_, rfl⟩
  have hnone : (memory.ensureContext inbound).existingOpencodeSessionId inbound.memoryKey = none := by
    unfold AgentMemory.existingOpencodeSessionId
    rw [hnewest]
    rfl
  change OneSession (agent.preparations _ (memory.ensureContext inbound) actions)
  exact oneSession_of_none hservice hnone hbehind hroom

theorem oneSession_of_three_messages
    : OneSession (idle.preparations AskedQuestion.askingMessage.memoryKey .empty
        (.ensured AskedQuestion.askingMessage
          :: [.prepared AskedQuestion.askingMessage (.error "closed"),
            .ensured AskedQuestion.askingMessage,
            .prepared AskedQuestion.askingMessage (.ok createdSession),
            .ensured AskedQuestion.askingMessage,
            .prepared AskedQuestion.askingMessage (.error "closed")])) := by
  exact oneSession_of_room (by decide) rfl (by
    unfold Room
    decide +kernel)

def appendedTo (key : String) : MemoryAction → Option Value
  | .appended other message => if other = key then some message else none
  | _ => none

theorem mem_keys_of_mem_ensureContext {inbound : InboundMessage}
    (h : key ∈ (memory.ensureContext inbound).keys)
    : key ∈ memory.keys ∨ inbound.memoryKey = key := by
  rw [AgentMemory.keys_ensureContext] at h
  unfold enter at h
  split at h
  . exact .inl h
  . split at h
    . exact (List.mem_append.mp h).imp (List.tail_subset _ ·) (List.mem_singleton.mp · |>.symm)
    . exact (List.mem_append.mp h).imp_right (List.mem_singleton.mp · |>.symm)

theorem get_rememberStep {action : MemoryAction} {ctx : SessionContext}
    (h : (agent.rememberStep memory action).get key = some ctx)
    : (∃ inbound, action = .ensured inbound ∧ inbound.memoryKey = key ∧ memory.get key = none
          ∧ ctx = inbound.newContext)
        ∨ ∃ old, memory.get key = some old ∧ ctx.chatId = old.chatId ∧ ctx.channel = old.channel
          ∧ ctx.history = (appendedTo key action).elim old.history (fun message =>
            Newest.keep maxSessionHistory (old.history ++ [message])) := by
  cases action with
  | ensured inbound =>
    change (memory.ensureContext inbound).get key = some ctx at h
    have hstays : key ∈ (memory.ensureContext inbound).keys := IndexMap.mem_keys_iff.mpr ⟨ctx, h⟩
    by_cases hmem : key ∈ memory.keys
    . rw [AgentMemory.get_ensureContext hmem hstays] at h
      exact .inr ⟨ctx, h, rfl, rfl, rfl⟩
    . obtain hold | rfl := mem_keys_of_mem_ensureContext hstays
      . exact absurd hold hmem
      . have hnew := IndexMap.get_eq_none_iff.mpr hmem
        rw [AgentMemory.get_ensureContext_new hnew, Option.some.injEq] at h
        exact .inl ⟨inbound, rfl, rfl, hnew, h.symm⟩
  | appended other message =>
    change (memory.appendHistory other message).get key = some ctx at h
    unfold AgentMemory.appendHistory at h
    rw [AgentMemory.get_update] at h
    split at h
    . next heq =>
      obtain ⟨old, hold, rfl⟩ := Option.map_eq_some_iff.mp h
      have happended : appendedTo key (.appended other message) = some message := if_pos heq.symm
      refine .inr ⟨old, hold, rfl, rfl, ?_⟩
      rw [happended, Option.elim_some]
    . next hne =>
      have happended : appendedTo key (.appended other message) = none := if_neg (Ne.symm hne)
      rw [happended]
      exact .inr ⟨ctx, h, rfl, rfl, rfl⟩
  | prepared inbound received =>
    change (agent.prepareUpstreamSession memory inbound received).2.get key = some ctx at h
    obtain hsame | ⟨sessionId, hstored⟩ :=
      agent.prepareUpstreamSession_stores memory inbound received
    . rw [hsame] at h
      exact .inr ⟨ctx, h, rfl, rfl, rfl⟩
    . rw [hstored] at h
      unfold AgentMemory.storeOpencodeSessionId at h
      rw [AgentMemory.get_update] at h
      split at h
      . obtain ⟨old, hold, rfl⟩ := Option.map_eq_some_iff.mp h
        exact .inr ⟨old, hold, rfl, rfl, rfl⟩
      . exact .inr ⟨ctx, h, rfl, rfl, rfl⟩

/-- The context of a chat, and how it came about: the chat was new then, and is remembered since. -/
structure RememberedSince (agent : CoreAgent) (actions : List MemoryAction) (key : String)
    (ctx : SessionContext) (before : List MemoryAction) (inbound : InboundMessage)
    (after : List MemoryAction)
    : Prop where
  actions_eq : actions = before ++ .ensured inbound :: after
  key_eq : inbound.memoryKey = key
  new : (agent.remember .empty before).get key = none
  stays : ∀ earlier, earlier <+: after
    → ((agent.remember .empty (before ++ .ensured inbound :: earlier)).get key).isSome
  chatId : ctx.chatId = inbound.newContext.chatId
  channel : ctx.channel = inbound.channel
  history : ctx.history
    = Newest.keep maxSessionHistory (after.filterMap (appendedTo key))

theorem remember_concat (memory : AgentMemory) (action : MemoryAction)
    : agent.remember memory (actions ++ [action])
        = agent.rememberStep (agent.remember memory actions) action := by
  unfold remember
  rw [List.foldl_append]
  rfl

theorem exists_rememberedSince {ctx : SessionContext}
    (h : (agent.remember .empty actions).get key = some ctx)
    : ∃ before inbound after, RememberedSince agent actions key ctx before inbound after := by
  induction actions using List.reverseRecOn generalizing ctx with
  | nil => cases h
  | append_singleton actions action ih =>
    have hnow := Option.isSome_of_eq_some h
    rw [remember_concat] at h
    obtain ⟨inbound, rfl, hkey, hnew, rfl⟩ | ⟨old, hold, hchat, hchannel, hhistory⟩ :=
      get_rememberStep h
    . refine ⟨actions, inbound, [], rfl, hkey, hnew, ?_, rfl, rfl, ?_⟩
      . intro earlier hearlier
        rw [List.prefix_nil.mp hearlier]
        exact hnow
      . rw [List.filterMap_nil, Newest.keep, List.drop_nil]
        dsimp only [InboundMessage.newContext]
    . obtain ⟨before, inbound, after, hsince⟩ := ih hold
      have hactions : actions ++ [action] = before ++ .ensured inbound :: (after ++ [action]) := by
        rw [hsince.actions_eq, List.append_assoc, List.cons_append]
      refine ⟨before, inbound, after ++ [action], hactions, hsince.key_eq, hsince.new, ?_,
        hchat.trans hsince.chatId, hchannel.trans hsince.channel, ?_⟩
      . intro earlier hearlier
        obtain rfl | hearlier := List.prefix_concat_iff.mp hearlier
        . rw [← hactions]
          exact hnow
        . exact hsince.stays earlier hearlier
      . rw [hhistory, hsince.history, List.filterMap_append]
        cases happended : appendedTo key action with
        | none =>
          rw [Option.elim_none, List.filterMap_cons_none happended, List.filterMap_nil,
            List.append_nil]
        | some message =>
          rw [Option.elim_some, List.filterMap_cons_some happended, List.filterMap_nil,
            Newest.keep_keep_append]

theorem length_keys_remember (actions : List MemoryAction)
    : (agent.remember .empty actions).keys.length ≤ maxSessions := by
  induction actions using List.reverseRecOn with
  | nil => exact Nat.zero_le _
  | append_singleton actions action ih =>
    rw [remember_concat, keys_rememberStep]
    cases action.ensuredKey with
    | none => exact ih
    | some other => exact length_enter_le (by decide) ih other

theorem remembered_of_actions (agent : CoreAgent) (actions : List MemoryAction)
    : (agent.remember .empty actions).keys.length ≤ maxSessions
        ∧ ∀ key ctx, (agent.remember .empty actions).get key = some ctx
          → ∃ before inbound after, RememberedSince agent actions key ctx before inbound after := by
  exact ⟨length_keys_remember actions, fun _ _ h => exists_rememberedSince h⟩

end CoreAgent

end AnimaAgent
