import AnimaAgent.Provider.OpenAiCompat
import AnimaAgent.Streaming.Lemmas.Executor

namespace AnimaAgent

def AllToolsAppear (serde : SerdeJson) (events : List StreamEvent) (toolUses : List ParsedToolUse)
    : Prop :=
  ∃ tools,
    List.Forall₂
        (fun (started : Keyed.Started Nat ToolAccState) (tool : ParsedToolUse) =>
          tool.id = started.value.id
            ∧ tool.name = started.value.name
            ∧ serde.fromStr started.value.jsonBuf = .ok tool.input)
        (startedTools events) tools
      ∧ toolUses.Perm tools

/--
A stream that is consumed without an error has lost no tool, and if it was cut off its response is
marked as truncated.
-/
structure NothingLost (serde : SerdeJson) (stream : ChatStream) : Prop where
  tools : ∀ parsed value, consumeStreamEvents serde stream = .ok (parsed, value)
    → AllToolsAppear serde (eventsOf stream) parsed.toolUses
  cutOff : ∀ parsed value, consumeStreamEvents serde stream = .ok (parsed, value)
    → .messageStop ∉ eventsOf stream → parsed.stopReason = .maxTokens

/-- The stream has an item that is an error or a tool whose input cannot be read. -/
def StreamFails (serde : SerdeJson) (stream : ChatStream) : Prop :=
  stream.any StreamState.failingItem = true
    ∨ ∃ tool ∈ deliveredTools (eventsOf stream), ¬tool.value.WellFormed serde

/-- Each tool that is started is stopped, and no index is used for two tools. -/
def ToolsFinish (events : List StreamEvent) : Prop :=
  ∀ tool ∈ startedTools events, tool.restarted = false ∧ tool.value.complete = true

/-- The stream ends properly, or the last stop reason that it names is the limit of tokens. -/
def EndMarked (events : List StreamEvent) : Prop :=
  .messageStop ∈ events ∨ resolveStopReason (lastStopReason events) = .maxTokens

section Consume

variable {serde : SerdeJson} {stream : ChatStream}

theorem consumeStreamEvents_of_fails (h : StreamFails serde stream)
    : ∃ error, consumeStreamEvents serde stream = .error error := by
  cases hfailing : stream.any StreamState.failingItem with
  | true => exact consumeStreamEvents_of_failing hfailing
  | false =>
    rcases h with h | ⟨tool, hmem, htool⟩
    . rw [hfailing] at h
      cases h
    . exact consumeStreamEvents_of_malformed hfailing hmem htool

theorem consumeStreamEvents_of_not_fails (h : ¬StreamFails serde stream)
    : (∀ tool ∈ deliveredTools (eventsOf stream), tool.value.WellFormed serde)
        ∧ ∃ value, consumeStreamEvents serde stream
          = .ok (streamedResponse serde (eventsOf stream), value) := by
  unfold StreamFails at h
  rw [not_or] at h
  obtain ⟨hfailing, hmalformed⟩ := h
  have htools : ∀ tool ∈ deliveredTools (eventsOf stream), tool.value.WellFormed serde := by
    intro tool hmem
    by_contra htool
    exact hmalformed ⟨tool, hmem, htool⟩
  obtain ⟨value, hvalue, _⟩ :=
    consumeStreamEvents_of_ok (Bool.eq_false_iff.mpr hfailing) htools
  exact ⟨htools, value, hvalue⟩

end Consume

theorem streamedToolUses_perm (serde : SerdeJson) (events : List StreamEvent)
    : (streamedToolUses serde events).Perm
        ((deliveredTools events).map (fun tool => tool.value.parsed serde)) := by
  unfold streamedToolUses
  have hperm : (sortByIndex ((deliveredTools events).map
      (fun tool => (tool.key, tool.value.parsed serde)))).Perm _ := List.perm_insertionSort _ _
  have hperm := hperm.map Prod.snd
  rw [List.map_map] at hperm
  exact hperm

theorem toolsFinish_iff (events : List StreamEvent)
    : ToolsFinish events ↔ deliveredTools events = startedTools events := by
  unfold ToolsFinish deliveredTools
  rw [List.filter_eq_self]
  apply forall_congr'
  intro tool
  apply imp_congr_right
  intro _
  rw [Bool.and_eq_true, Bool.not_eq_true']

theorem allToolsAppear_iff {serde : SerdeJson} {events : List StreamEvent}
    (h : ∀ tool ∈ deliveredTools events, tool.value.WellFormed serde)
    : AllToolsAppear serde events (streamedToolUses serde events) ↔ ToolsFinish events := by
  have hperm := streamedToolUses_perm serde events
  constructor
  . rintro ⟨tools, hforall, htools⟩
    have hlength := (htools.symm.trans hperm).length_eq
    rw [← hforall.length_eq, List.length_map] at hlength
    rw [toolsFinish_iff]
    exact List.filter_sublist.eq_of_length hlength.symm
  . intro hfinish
    rw [toolsFinish_iff] at hfinish
    rw [hfinish] at h hperm
    refine ⟨_, ?_, hperm⟩
    rw [List.forall₂_map_right_iff, List.forall₂_same]
    intro tool hmem
    obtain ⟨input, hinput⟩ := h tool hmem
    refine ⟨rfl, rfl, ?_⟩
    unfold ToolAccState.parsed
    dsimp only
    rw [hinput]
    rfl

theorem nothingLost_iff (serde : SerdeJson) (stream : ChatStream)
    : NothingLost serde stream
        ↔ StreamFails serde stream
          ∨ (ToolsFinish (eventsOf stream) ∧ EndMarked (eventsOf stream)) := by
  by_cases hfails : StreamFails serde stream
  . obtain ⟨error, herror⟩ := consumeStreamEvents_of_fails hfails
    have hnot : ∀ parsed value, consumeStreamEvents serde stream ≠ .ok (parsed, value) := by
      intro parsed value h
      rw [herror] at h
      cases h
    constructor
    . exact fun _ => .inl hfails
    . intro _
      constructor
      . intro parsed value h
        exact absurd h (hnot parsed value)
      . intro parsed value h
        exact absurd h (hnot parsed value)
  . obtain ⟨htools, value, hvalue⟩ := consumeStreamEvents_of_not_fails hfails
    have hiff := allToolsAppear_iff htools
    constructor
    . intro h
      refine .inr ⟨hiff.mp (h.tools _ value hvalue), ?_⟩
      by_cases hstop : .messageStop ∈ eventsOf stream
      . exact .inl hstop
      . exact .inr (h.cutOff _ value hvalue hstop)
    . rintro (h | ⟨hfinish, hend⟩)
      . exact absurd h hfails
      . constructor
        . intro parsed value' h
          have := hvalue.symm.trans h
          cases this
          exact hiff.mpr hfinish
        . intro parsed value' h hstop
          have := hvalue.symm.trans h
          cases this
          exact hend.resolve_left hstop

theorem AnthropicProvider.streamItem_data {serde : SerdeJson} {data : String} {event : StreamEvent}
    (hcolon : ':' ∈ data.toList) (hevent : parseSseEvent serde data = some event)
    : streamItem serde (.ok ("data: " ++ data)) = some (.ok event) := by
  have hempty : Text.trim data ≠ "" := Text.trim_ne hcolon rfl (by decide)
  have hdone : data ≠ "[DONE]" := by
    rintro rfl
    exact absurd hcolon (by decide)
  unfold streamItem
  simp [Text.stripPrefix_append, hempty, hdone, hevent, Except.toOption]

def textDeltaData : String :=
  "\x7b\"delta\":\x7b\"text\":\"on it\",\"type\":\"text_delta\"\x7d,\"index\":0,"
    ++ "\"type\":\"content_block_delta\"\x7d"

def toolStartData : String :=
  "\x7b\"content_block\":\x7b\"id\":\"tu_1\",\"input\":\x7b\x7d,\"name\":\"echo\","
    ++ "\"type\":\"tool_use\"\x7d,\"index\":1,\"type\":\"content_block_start\"\x7d"

def brokenSerde : SerdeJson where
  toString := SerdeJson.small.toString
  fromStr s :=
    if s = textDeltaData then
      .ok (.object [
        ("delta", .object [("text", .string "on it"), ("type", .string "text_delta")]),
        ("index", .number (.posInt 0)),
        ("type", .string "content_block_delta")])
    else if s = toolStartData then
      .ok (.object [
        ("content_block", .object [("id", .string "tu_1"), ("input", .object []),
          ("name", .string "echo"), ("type", .string "tool_use")]),
        ("index", .number (.posInt 1)),
        ("type", .string "content_block_start")])
    else
      SerdeJson.small.fromStr s

def brokenLines : List (Except String String) :=
  [.ok ("data: " ++ textDeltaData), .ok ("data: " ++ toolStartData), .error "connection reset"]

def brokenStream : ChatStream :=
  AnthropicProvider.streamItems brokenSerde brokenLines

theorem brokenStream_eq
    : brokenStream
        = [.ok (.contentBlockDelta 0 (.textDelta "on it")),
          .ok (.contentBlockStart 1 (.toolUse "tu_1" "echo" (.object [])))] := by
  have hdelta : parseSseEvent brokenSerde textDeltaData
      = some (.contentBlockDelta 0 (.textDelta "on it")) := by
    unfold parseSseEvent brokenSerde
    dsimp only
    rw [if_pos rfl]
    rfl
  have hne : toolStartData ≠ textDeltaData := by decide +kernel
  have hstart : parseSseEvent brokenSerde toolStartData
      = some (.contentBlockStart 1 (.toolUse "tu_1" "echo" (.object []))) := by
    unfold parseSseEvent brokenSerde
    dsimp only
    rw [if_neg hne, if_pos rfl]
    rfl
  unfold brokenStream AnthropicProvider.streamItems brokenLines
  rw [List.filterMap_cons_some (AnthropicProvider.streamItem_data (by decide +kernel) hdelta),
    List.filterMap_cons_some (AnthropicProvider.streamItem_data (by decide +kernel) hstart),
    List.filterMap_cons_none rfl, List.filterMap_nil]

/-- The broken stream gives a complete answer without the tool use. -/
theorem brokenStream_loses
    : consumeStreamEvents brokenSerde brokenStream
          = .ok ({ text := "on it", toolUses := [], thinking := none, stopReason := .endTurn },
            .object [
              ("content", .array [.object [("text", .string "on it"), ("type", .string "text")]]),
              ("id", .string ""),
              ("stop_reason", .null)])
        ∧ ¬NothingLost brokenSerde brokenStream := by
  have hconsume : consumeStreamEvents brokenSerde brokenStream
      = .ok ({ text := "on it", toolUses := [], thinking := none, stopReason := .endTurn },
        .object [
          ("content", .array [.object [("text", .string "on it"), ("type", .string "text")]]),
          ("id", .string ""),
          ("stop_reason", .null)]) := by
    rw [brokenStream_eq]
    decide +kernel
  have hstop : .messageStop ∉ eventsOf brokenStream := by
    rw [brokenStream_eq]
    decide +kernel
  refine ⟨hconsume, ?_⟩
  intro h
  cases h.cutOff _ _ hconsume hstop

end AnimaAgent
