import AnimaAgent.Messages.Normalize
import AnimaAgent.Provider.Types
import AnimaAgent.Tools.Record

namespace AnimaAgent

structure ParsedToolUse where
  id : String
  name : String
  input : Value
  deriving DecidableEq

structure ParsedResponse where
  text : String
  toolUses : List ParsedToolUse
  thinking : Option String
  stopReason : StopReason
  deriving DecidableEq

def buildAssistantMsg (uuid : String) (response : Value) : InternalMsg where
  role := .assistant
  blocks := blocksFromValue ((response.get "content").getD (.string "")) none
  messageId := uuid
  toolUseId := none
  filtered := false
  metadata := .object []

def buildToolResultMsg (serde : SerdeJson) (uuid : String) (toolUseId : String)
    (result : ToolResult) (invocation : Option ToolInvocationRecord)
    : InternalMsg where
  role := .user
  blocks :=
    [.toolResult toolUseId
      (.string ("\n".intercalate (result.blocks.map (ToolResultBlock.toText serde))))
      result.isError]
  messageId := uuid
  toolUseId := some toolUseId
  filtered := false
  metadata :=
    match invocation with
    | some invocation =>
      .object [("auto_generated", .bool true), ("tool_invocation", invocation.toValue)]
    | none => .object [("auto_generated", .bool true)]

def MessageRole.toChatRole : MessageRole → ChatRole
  | user | system => .user
  | assistant => .assistant

def ApiMsg.toChatMessage (msg : ApiMsg) : ChatMessage where
  role := msg.role.toChatRole
  content := blocksFromValue msg.content none

def buildChatRequest (apiMsgs : List ApiMsg) (systemPrompt : Option String)
    (toolDefinitions : Option (List Value)) (sessionId : String)
    : ChatRequest where
  messages := apiMsgs.map ApiMsg.toChatMessage
  system := systemPrompt
  tools := toolDefinitions
  metadata := .object [("session_id", .string sessionId)]

namespace ContentBlock

def text? : ContentBlock → Option String
  | text t => some t
  | _ => none

def thinking? : ContentBlock → Option String
  | thinking t => some t
  | _ => none

def toolUse? : ContentBlock → Option ParsedToolUse
  | toolUse id name input => some { id, name, input }
  | _ => none

end ContentBlock

def joinThinking (parts : List String) : Option String :=
  if parts.isEmpty then none else some ("\n".intercalate parts)

/-- The `Result` of the source is always `Ok`. -/
def parseChatResponse (response : ChatResponse) : ParsedResponse where
  text := "\n".intercalate (response.content.filterMap ContentBlock.text?)
  toolUses := response.content.filterMap ContentBlock.toolUse?
  thinking := joinThinking (response.content.filterMap ContentBlock.thinking?)
  stopReason := response.stopReason

def ChatRequest.blocks (request : ChatRequest) : List ContentBlock :=
  request.messages.flatMap ChatMessage.content

def emptyUserChatMessage : ChatMessage where
  role := .user
  content := [.text ""]

/--
The request holds the blocks of the unfiltered messages, up to joined texts and an empty leading
message of the user, and with them every tool use and every tool result.
-/
structure ChatRequest.KeepsContent (messages : List InternalMsg) (request : ChatRequest) : Prop where
  joins : JoinsTo (unfilteredBlocks messages) request.blocks
    ∨ ∃ rest, request.messages = emptyUserChatMessage :: rest
        ∧ JoinsTo (unfilteredBlocks messages) (rest.flatMap ChatMessage.content)
  tools : request.blocks.filter ContentBlock.isTool
    = (unfilteredBlocks messages).filter ContentBlock.isTool

section BuildChatRequest

variable (systemPrompt : Option String) (toolDefinitions : Option (List Value)) (sessionId : String)

theorem blocks_buildChatRequest (apiMsgs : List ApiMsg)
    : (buildChatRequest apiMsgs systemPrompt toolDefinitions sessionId).blocks
        = apiMsgs.flatMap ApiMsg.blocks := by
  unfold ChatRequest.blocks buildChatRequest
  dsimp
  rw [List.flatMap_map]
  rfl

theorem blocks_normalized (messages : List InternalMsg)
    : (normalizeMessagesForApi messages).flatMap ApiMsg.blocks
          = (mergedMessages messages).flatMap ApiMsg.blocks
        ∨ (normalizeMessagesForApi messages = emptyUserMsg :: mergedMessages messages
            ∧ (normalizeMessagesForApi messages).flatMap ApiMsg.blocks
              = .text "" :: (mergedMessages messages).flatMap ApiMsg.blocks) := by
  rw [normalizeMessagesForApi_eq]
  split
  . exact .inl rfl
  . exact .inr ⟨rfl, rfl⟩

theorem jsonSize_normalized (messages : List InternalMsg)
    : jsonSize ((normalizeMessagesForApi messages).flatMap ApiMsg.blocks)
        = jsonSize ((mergedMessages messages).flatMap ApiMsg.blocks) := by
  rcases blocks_normalized messages with h | ⟨_, h⟩
  . rw [h]
  . rw [h, jsonSize_cons]
    simp [ContentBlock.jsonSize]

theorem ChatRequest.KeepsContent.jsonSize_eq {messages : List InternalMsg} {request : ChatRequest}
    (h : request.KeepsContent messages)
    : jsonSize request.blocks = jsonSize (unfilteredBlocks messages) := by
  rcases h.joins with h | ⟨rest, hrest, h⟩
  . rw [h.jsonSize_eq]
  . unfold ChatRequest.blocks
    rw [h.jsonSize_eq, hrest, List.flatMap_cons, jsonSize_append]
    simp [emptyUserChatMessage, ContentBlock.jsonSize]

theorem buildChatRequest_keepsContent_iff (messages : List InternalMsg)
    (hplain : ∀ msg ∈ unfiltered messages, ∀ block ∈ msg.blocks, block.Plain)
    : (buildChatRequest (normalizeMessagesForApi messages) systemPrompt toolDefinitions
          sessionId).KeepsContent messages
        ↔ OnlyTextsMerge messages := by
  constructor
  . intro h
    rw [← jsonSize_mergedMessages_eq_iff hplain, ← jsonSize_normalized,
      ← blocks_buildChatRequest systemPrompt toolDefinitions sessionId]
    exact h.jsonSize_eq
  . intro h
    have hjoins := joinsTo_mergedMessages hplain h
    have htools := hjoins.filter_isTool_eq
    rcases blocks_normalized messages with hblocks | ⟨hcons, hblocks⟩
    . constructor
      . left
        rw [blocks_buildChatRequest, hblocks]
        exact hjoins
      . rw [blocks_buildChatRequest, hblocks, htools]
    . constructor
      . right
        refine ⟨(mergedMessages messages).map ApiMsg.toChatMessage, ?_, ?_⟩
        . unfold buildChatRequest
          dsimp
          rw [hcons]
          rfl
        . rw [List.flatMap_map]
          exact hjoins
      . rw [blocks_buildChatRequest, hblocks, htools]
        rfl

end BuildChatRequest

def toolResultMsg (messageId toolUseId text : String) : InternalMsg where
  role := .user
  blocks := [.toolResult toolUseId (.string text) false]
  messageId := messageId
  toolUseId := some toolUseId
  filtered := false
  metadata := .object [("auto_generated", .bool true)]

theorem two_toolResults_not_keepsContent
    : (∀ msg ∈ unfiltered [toolResultMsg "m1" "tu_1" "a", toolResultMsg "m2" "tu_2" "b"],
          ∀ block ∈ msg.blocks, block.Plain)
        ∧ ¬(buildChatRequest
            (normalizeMessagesForApi [toolResultMsg "m1" "tu_1" "a", toolResultMsg "m2" "tu_2" "b"])
            none none "").KeepsContent
              [toolResultMsg "m1" "tu_1" "a", toolResultMsg "m2" "tu_2" "b"] := by
  constructor
  . decide
  . intro h
    exact absurd h.tools (by decide)

theorem buildChatRequest_keepsContent_iff_toolResults
    : (buildChatRequest
          (normalizeMessagesForApi [toolResultMsg "m1" "tu_1" "a", toolResultMsg "m2" "tu_2" "b"])
          none none "").KeepsContent [toolResultMsg "m1" "tu_1" "a", toolResultMsg "m2" "tu_2" "b"]
        ↔ OnlyTextsMerge [toolResultMsg "m1" "tu_1" "a", toolResultMsg "m2" "tu_2" "b"] := by
  exact buildChatRequest_keepsContent_iff none none "" _ (by decide)

end AnimaAgent
