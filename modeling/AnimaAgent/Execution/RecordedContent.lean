import AnimaAgent.Execution.Lemmas.Step
import AnimaAgent.Provider.OpenAiCompat

namespace AnimaAgent

inductive WireProvider where
  | anthropic
  | openAiCompat
  | openCode
  deriving DecidableEq

def ContentBlock.isContent : ContentBlock → Bool
  | text _ => true
  | thinking _ => true
  | toolUse .. => true
  | _ => false

def contentOf (blocks : List ContentBlock) : List ContentBlock :=
  blocks.filter ContentBlock.isContent

def Value.isShown (item : Value) : Bool :=
  item.wireType ∈ [some "text", some "tool_use", some "thinking"]

namespace OpenAiCompatProvider

inductive MessagePart where
  | text (text : String)
  | call (tc : Value)

def messageCalls (choice : Value) : List Value :=
  ((choice.get "tool_calls").bind Value.asArray).getD []

def messageParts (choice : Value) : List MessagePart :=
  (((choice.get "content").bind Value.asStr).filter (fun text => text ≠ "")).toList.map .text
    ++ (messageCalls choice).map .call

def Says (serde : SerdeJson) (item : Value) : MessagePart → Prop
  | .text text => item.wireType = some "text" ∧ item.strField "text" = text
  | .call tc =>
    let func := (tc.get "function").getD .null
    let arguments := ((func.get "arguments").bind Value.asStr).getD "{}"
    item.wireType = some "tool_use" ∧ item.strField "id" = tc.strField "id"
      ∧ item.strField "name" = func.strField "name"
      ∧ (item.get "input").getD .null = (serde.fromStr arguments).toOption.getD (.object [])

/--
A top-level field `content` repeats the message of the choice: a string its text, if there are no tool
calls, and an array its parts one after the other, up to items of other kinds.
-/
def Repeats (serde : SerdeJson) (choice : Value) : Value → Prop
  | .string text =>
    (choice.get "content").bind Value.asStr = some text ∧ text ≠ "" ∧ messageCalls choice = []
  | .array items => List.Forall₂ (Says serde) (items.filter Value.isShown) (messageParts choice)
  | _ => messageParts choice = []

section Blocks

variable (serde : SerdeJson) (choice : Value)

def partBlock : MessagePart → ContentBlock
  | .text text => .text text
  | .call tc => toolCallBlock serde tc

theorem messageBlocks_eq : messageBlocks serde choice = (messageParts choice).map (partBlock serde) := by
  unfold messageBlocks messageParts messageCalls
  rw [List.map_append, List.map_map, List.map_map]
  refine congrArg (· ++ _) ?_
  cases (choice.get "content").bind Value.asStr with
  | none => rfl
  | some text =>
    dsimp only
    rw [Option.filter_some]
    split
    . next h => rw [if_neg (by simp [h])]; rfl
    . next h => rw [if_pos (by simp [h])]; rfl

theorem contentOf_messageBlocks
    : contentOf (messageBlocks serde choice) = messageBlocks serde choice := by
  rw [messageBlocks_eq]
  refine List.filter_eq_self.mpr ?_
  intro block hmem
  obtain ⟨part, -, rfl⟩ := List.mem_map.mp hmem
  cases part with
  | text text => rfl
  | call tc => rfl

theorem text_mem_messageParts {text : String} (h : .text text ∈ messageParts choice)
    : (choice.get "content").bind Value.asStr = some text ∧ text ≠ "" := by
  unfold messageParts at h
  obtain h | h := List.mem_append.mp h
  . obtain ⟨text', hmem, heq⟩ := List.mem_map.mp h
    cases heq
    simpa [Option.filter_eq_some_iff] using hmem
  . obtain ⟨tc, -, heq⟩ := List.mem_map.mp h
    cases heq

theorem messageBlocks_ne_emptyText : messageBlocks serde choice ≠ [.text ""] := by
  rw [messageBlocks_eq]
  intro h
  obtain ⟨part, hparts, hblock⟩ := List.map_eq_singleton_iff.mp h
  cases part with
  | text text =>
    cases hblock
    exact (text_mem_messageParts choice (hparts ▸ List.mem_singleton_self _)).2 rfl
  | call tc => cases hblock

end Blocks

section Repeats

variable {serde : SerdeJson} {choice : Value}

theorem blockFromItem_eq_iff {item : Value} {part : MessagePart}
    : blockFromItem none item = partBlock serde part ↔ Says serde item part := by
  cases part with
  | text text =>
    unfold blockFromItem partBlock Says
    split <;> simp_all
  | call tc =>
    unfold blockFromItem partBlock toolCallBlock Says
    split <;> simp_all

theorem contentOf_array (items : List Value)
    : contentOf (blocksFromValue (.array items) none)
        = (items.filter Value.isShown).map (blockFromItem none) := by
  unfold contentOf blocksFromValue
  dsimp only
  rw [List.filter_map]
  refine congrArg _ (List.filter_congr fun item _ => ?_)
  unfold Function.comp Value.isShown blockFromItem
  split <;> simp_all [ContentBlock.isContent]

theorem messageParts_eq_text_iff {text : String}
    : messageParts choice = [.text text]
        ↔ (choice.get "content").bind Value.asStr = some text ∧ text ≠ "" ∧ messageCalls choice = [] := by
  constructor
  . intro h
    obtain ⟨htext, hne⟩ := text_mem_messageParts choice (h ▸ List.mem_singleton_self _)
    refine ⟨htext, hne, ?_⟩
    have hlength := congrArg List.length h
    unfold messageParts at hlength
    rw [htext, Option.filter_some, if_pos (by simp [hne])] at hlength
    simpa using hlength
  . rintro ⟨htext, hne, hcalls⟩
    unfold messageParts
    rw [htext, hcalls, Option.filter_some, if_pos (by simp [hne])]
    rfl

theorem text_eq_messageBlocks_iff {text : String}
    : [.text text] = messageBlocks serde choice ↔ messageParts choice = [.text text] := by
  rw [messageBlocks_eq, eq_comm, List.map_eq_singleton_iff]
  constructor
  . rintro ⟨part, hparts, hblock⟩
    cases part with
    | text text' =>
      cases hblock
      exact hparts
    | call tc => cases hblock
  . exact fun h => ⟨_, h, rfl⟩

theorem repeats_iff {content : Value}
    : contentOf (blocksFromValue content none) = messageBlocks serde choice
        ↔ Repeats serde choice content := by
  unfold Repeats
  split
  . exact text_eq_messageBlocks_iff.trans messageParts_eq_text_iff
  . next items =>
    rw [contentOf_array, messageBlocks_eq, ← List.forall₂_eq_eq_eq, List.forall₂_map_left_iff,
      List.forall₂_map_right_iff]
    refine ⟨List.Forall₂.imp ?_, List.Forall₂.imp ?_⟩
    . exact fun _ _ => blockFromItem_eq_iff.mp
    . exact fun _ _ => blockFromItem_eq_iff.mpr
  . next hstring harray =>
    have hnone : contentOf (blocksFromValue content none) = [] := by
      unfold blocksFromValue
      split <;> first | rfl | simp_all
    rw [hnone, messageBlocks_eq, eq_comm, List.map_eq_nil_iff]

end Repeats

theorem parseResponse_eq_ok {serde : SerdeJson} {raw : Value} {response : ChatResponse}
    (h : parseResponse serde raw = .ok response)
    : ∃ choice, raw.pointer ["choices", "0", "message"] = some choice
        ∧ response.content = messageBlocks serde choice
        ∧ response.raw = raw := by
  unfold parseResponse at h
  cases hchoice : raw.pointer ["choices", "0", "message"] with
  | none =>
    rw [hchoice] at h
    cases h
  | some choice =>
    rw [hchoice] at h
    cases h
    exact ⟨choice, rfl, rfl, rfl⟩

end OpenAiCompatProvider

namespace WireProvider

def parseResponse (serde : SerdeJson) : WireProvider → Value → Except ProviderError ChatResponse
  | anthropic => AnthropicProvider.parseResponse
  | openAiCompat => OpenAiCompatProvider.parseResponse serde
  | openCode => OpenCodeProvider.valueToChatResponse

/--
The wire response has a field `content` at its top; for an OpenAI-compatible server, where a completion
has none, the field repeats the message of the first choice.
-/
def Mirrored (serde : SerdeJson) (raw : Value) : WireProvider → Prop
  | anthropic => ∃ content, raw.get "content" = some content
  | openCode => ∃ content, raw.get "content" = some content
  | openAiCompat => ∃ content choice, raw.get "content" = some content
    ∧ raw.pointer ["choices", "0", "message"] = some choice
    ∧ OpenAiCompatProvider.Repeats serde choice content

variable {serde : SerdeJson} {raw : Value}

theorem raw_parseResponse {p : WireProvider} {response : ChatResponse}
    (h : p.parseResponse serde raw = .ok response)
    : response.raw = raw := by
  cases p with
  | anthropic =>
    cases h
    rfl
  | openAiCompat =>
    obtain ⟨_, _, _, hraw⟩ := OpenAiCompatProvider.parseResponse_eq_ok h
    exact hraw
  | openCode =>
    cases h
    rfl

def recordedBlocks (raw : Value) : List ContentBlock :=
  blocksFromValue ((raw.get "content").getD (.string "")) none

theorem ofContent_recorded_iff (raw : Value)
    : contentOf (recordedBlocks raw) = contentOf (ChatResponse.ofContent raw).content
        ↔ ∃ content, raw.get "content" = some content := by
  unfold recordedBlocks ChatResponse.ofContent
  dsimp only
  cases raw.get "content" with
  | none => simp [contentOf, blocksFromValue, ContentBlock.isContent]
  | some content => simp

theorem openAiCompat_recorded_iff {choice : Value}
    (h : raw.pointer ["choices", "0", "message"] = some choice)
    : contentOf (recordedBlocks raw)
          = contentOf (OpenAiCompatProvider.messageBlocks serde choice)
        ↔ openAiCompat.Mirrored serde raw := by
  rw [OpenAiCompatProvider.contentOf_messageBlocks]
  unfold recordedBlocks Mirrored
  rw [h]
  cases hcontent : raw.get "content" with
  | none =>
    constructor
    . intro hblocks
      exact absurd hblocks.symm (OpenAiCompatProvider.messageBlocks_ne_emptyText serde choice)
    . rintro ⟨content, _, hnone, _⟩
      cases hnone
  | some content =>
    constructor
    . intro hblocks
      exact ⟨content, choice, rfl, rfl, OpenAiCompatProvider.repeats_iff.mp hblocks⟩
    . rintro ⟨content', choice', hcontent', hchoice, hblocks⟩
      cases hcontent'
      cases hchoice
      exact OpenAiCompatProvider.repeats_iff.mpr hblocks

theorem not_mirrored_of_none {p : WireProvider} (h : raw.get "content" = none)
    : ¬ p.Mirrored serde raw := by
  cases p with
  | anthropic =>
    rintro ⟨content, hcontent⟩
    cases h.symm.trans hcontent
  | openAiCompat =>
    rintro ⟨content, choice, hcontent, -⟩
    cases h.symm.trans hcontent
  | openCode =>
    rintro ⟨content, hcontent⟩
    cases h.symm.trans hcontent

end WireProvider

namespace LoopEnv

variable (env : LoopEnv)

theorem callProvider_chat {i : Nat} {messages : List InternalMsg} {parsed : ParsedResponse}
    {assistant : InternalMsg} (hstreaming : env.config.streaming = false)
    (h : (env.callProvider i messages).outcome = .ok (parsed, assistant))
    : ∃ response, env.provider.chat i (env.chatRequest messages) = .ok response
        ∧ parsed = parseChatResponse response
        ∧ assistant = buildAssistantMsg (env.uuid i 0) response.raw := by
  obtain ⟨value, hask, rfl⟩ := env.callProvider_eq_ok h
  unfold askProvider at hask
  rw [hstreaming, if_neg Bool.false_ne_true] at hask
  split at hask
  . cases hask
  . next response hchat =>
    cases hask
    exact ⟨response, hchat, rfl, rfl⟩

/--
The message that the loop records never shows what the loop acts on if the wire response has no field
`content` at its top, and shows it exactly when the field mirrors the response.
-/
theorem callProvider_recorded_iff (p : WireProvider) {i : Nat} {messages : List InternalMsg}
    {raw : Value} {parsed : ParsedResponse} {assistant : InternalMsg}
    (hstreaming : env.config.streaming = false)
    (hchat : env.provider.chat i (env.chatRequest messages) = p.parseResponse env.serde raw)
    (h : (env.callProvider i messages).outcome = .ok (parsed, assistant))
    : ∃ response, p.parseResponse env.serde raw = .ok response
        ∧ parsed = parseChatResponse response
        ∧ (raw.get "content" = none → contentOf assistant.blocks ≠ contentOf response.content)
        ∧ (contentOf assistant.blocks = contentOf response.content
          ↔ p.Mirrored env.serde raw) := by
  obtain ⟨response, hresponse, hparsed, rfl⟩ := env.callProvider_chat hstreaming h
  have hparse := hchat.symm.trans hresponse
  have hiff : contentOf (buildAssistantMsg (env.uuid i 0) response.raw).blocks
        = contentOf response.content
      ↔ p.Mirrored env.serde raw := by
    rw [WireProvider.raw_parseResponse hparse]
    change contentOf (WireProvider.recordedBlocks raw) = _ ↔ _
    cases p with
    | anthropic =>
      cases hparse
      exact WireProvider.ofContent_recorded_iff raw
    | openCode =>
      cases hparse
      exact WireProvider.ofContent_recorded_iff raw
    | openAiCompat =>
      obtain ⟨choice, hchoice, hcontent, _⟩ := OpenAiCompatProvider.parseResponse_eq_ok hparse
      rw [hcontent]
      exact WireProvider.openAiCompat_recorded_iff hchoice
  exact ⟨response, hparse, hparsed,
    fun hnone hsame => WireProvider.not_mirrored_of_none hnone (hiff.mp hsame), hiff⟩

end LoopEnv

def toolCallCompletion : Value :=
  .object [
    ("choices", .array [
      .object [
        ("finish_reason", .string "tool_calls"),
        ("message", .object [
          ("content", .null),
          ("tool_calls", .array [
            .object [
              ("function", .object [("arguments", .string "{}"), ("name", .string "echo")]),
              ("id", .string "call_1"),
              ("type", .string "function")]])])]])]

def completionLoop : LoopEnv :=
  { LoopEnv.withTools [] with
    provider := { Provider.offline with
      chat _ _ := WireProvider.openAiCompat.parseResponse .small toolCallCompletion } }

theorem toolCallCompletion_not_recorded
    : ∃ response parsed assistant,
        WireProvider.openAiCompat.parseResponse .small toolCallCompletion = .ok response
          ∧ (completionLoop.callProvider 0 []).outcome = .ok (parsed, assistant)
          ∧ parsed.toolUses = [{ id := "call_1", name := "echo", input := .object [] }]
          ∧ contentOf assistant.blocks = [.text ""]
          ∧ contentOf assistant.blocks ≠ contentOf response.content := by
  exact ⟨_, _, _, rfl, rfl, by decide, by decide, by decide⟩

theorem callProvider_recorded_iff_toolCallCompletion
    : ∃ parsed assistant response,
        (completionLoop.callProvider 0 []).outcome = .ok (parsed, assistant)
          ∧ WireProvider.openAiCompat.parseResponse .small toolCallCompletion = .ok response
          ∧ parsed = parseChatResponse response
          ∧ (toolCallCompletion.get "content" = none
            → contentOf assistant.blocks ≠ contentOf response.content)
          ∧ (contentOf assistant.blocks = contentOf response.content
            ↔ WireProvider.openAiCompat.Mirrored .small toolCallCompletion) := by
  have hcall : ∃ answer, (completionLoop.callProvider 0 []).outcome = .ok answer := ⟨_, rfl⟩
  obtain ⟨⟨parsed, assistant⟩, hcall⟩ := hcall
  have hchat : completionLoop.provider.chat 0 (completionLoop.chatRequest [])
      = WireProvider.openAiCompat.parseResponse completionLoop.serde toolCallCompletion := by
    rfl
  obtain ⟨response, hresponse⟩ :=
    completionLoop.callProvider_recorded_iff .openAiCompat rfl hchat hcall
  exact ⟨parsed, assistant, response, hcall, hresponse⟩

end AnimaAgent
