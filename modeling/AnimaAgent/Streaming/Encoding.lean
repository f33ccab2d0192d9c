import AnimaAgent.Streaming.Lemmas.Executor

namespace AnimaAgent

def ContentBlock.EncodedBy (serde : SerdeJson) (start : String) (deltas : List String)
    : ContentBlock → Prop
  | text t => start ++ String.join deltas = t
  | thinking t => start ++ String.join deltas = t
  | toolUse _ _ input => serde.fromStr (String.join deltas) = .ok input
  | _ => False

structure EncodedBlock (serde : SerdeJson) where
  index : Nat
  block : ContentBlock
  start : String
  deltas : List String
  encodes : block.EncodedBy serde start deltas

namespace EncodedBlock

variable {serde : SerdeJson} (b : EncodedBlock serde)

def startEvent : StreamEvent :=
  .contentBlockStart b.index
    (match b.block with
      | .toolUse id name _ => .toolUse id name (.object [])
      | .thinking _ => .thinking b.start
      | _ => .text b.start)

def deltaEvent (delta : String) : StreamEvent :=
  .contentBlockDelta b.index
    (match b.block with
      | .toolUse .. => .inputJsonDelta delta
      | .thinking _ => .thinkingDelta delta
      | _ => .textDelta delta)

def restEvents : List StreamEvent :=
  b.deltas.map b.deltaEvent ++ [.contentBlockStop b.index]

def events : List StreamEvent :=
  b.startEvent :: b.restEvents

end EncodedBlock

def StopReason.toWire : StopReason → String
  | endTurn => "end_turn"
  | toolUse => "tool_use"
  | maxTokens => "max_tokens"
  | stopSequence => "stop_sequence"

structure EncodedResponse (serde : SerdeJson) where
  messageId : String
  blocks : List (EncodedBlock serde)
  stopReason : StopReason
  increasing : blocks.Pairwise (fun a b => a.index < b.index)

namespace EncodedResponse

variable {serde : SerdeJson} (e : EncodedResponse serde)

def contents : List ContentBlock :=
  e.blocks.map EncodedBlock.block

def events : List StreamEvent :=
  .messageStart e.messageId :: (e.blocks.flatMap EncodedBlock.events
    ++ [.messageDelta (some e.stopReason.toWire), .messageStop])

def response : ChatResponse where
  content := e.contents
  stopReason := e.stopReason
  usage := none
  raw := .object [
    ("content", .array (e.contents.map ContentBlock.toValue)),
    ("id", .string e.messageId),
    ("stop_reason", .string e.stopReason.toWire)]

/-- The streamed response is parsed and recorded like the response in one piece. -/
def StreamsAlike : Prop :=
  ∃ value, consumeStreamEvents serde (e.events.map Except.ok)
      = .ok (parseChatResponse e.response, value)
    ∧ ∀ uuid, (buildAssistantMsg uuid value).blocks
      = (buildAssistantMsg uuid e.response.raw).blocks

/-- At most one thinking, then at most one text, neither of them empty, then tool uses only. -/
def Canonical : Prop :=
  ∃ thinking text toolUses, thinking ≠ some "" ∧ e.contents = streamedBlocks thinking text toolUses

end EncodedResponse

theorem ContentBlock.plain_of_encodedBy {serde : SerdeJson} {start : String} {deltas : List String}
    {block : ContentBlock} (h : block.EncodedBy serde start deltas)
    : block.Plain := by
  cases block with
  | json value => exact absurd h id
  | _ => trivial

theorem blocks_buildAssistantMsg {value : Value} {blocks : List ContentBlock} (uuid : String)
    (h : value.get "content" = some (.array (blocks.map ContentBlock.toValue)))
    (hplain : ∀ block ∈ blocks, block.Plain)
    : (buildAssistantMsg uuid value).blocks = blocks := by
  unfold buildAssistantMsg
  dsimp only
  rw [h, Option.getD_some, blocksFromValue_array, List.map_map]
  conv => rhs; rw [← List.map_id blocks]
  apply List.map_congr_left
  intro block hmem
  exact ContentBlock.blockFromItem_toValue none block (hplain block hmem)

theorem plain_streamedBlocks (thinking : Option String) (text : String)
    (toolUses : List ParsedToolUse)
    : ∀ block ∈ streamedBlocks thinking text toolUses, block.Plain := by
  intro block hmem
  unfold streamedBlocks at hmem
  rw [List.mem_append, List.mem_append, List.mem_map] at hmem
  rcases hmem with (hmem | hmem) | ⟨tool, _, rfl⟩
  . cases thinking with
    | none => cases hmem
    | some t =>
      rw [List.mem_singleton.mp hmem]
      trivial
  . split at hmem
    . cases hmem
    . rw [List.mem_singleton.mp hmem]
      trivial
  . trivial

namespace EncodedBlock

variable {serde : SerdeJson} (b : EncodedBlock serde)

theorem isError_of_mem_events : ∀ event ∈ b.events, event.isError = false := by
  intro event hmem
  unfold events restEvents at hmem
  rw [List.mem_cons, List.mem_append, List.mem_map, List.mem_singleton] at hmem
  rcases hmem with rfl | ⟨delta, _, rfl⟩ | rfl
  . rfl
  . rfl
  . rfl

def toolSegment : Keyed.Segment Nat ToolAccState where
  key := b.index
  first := b.startEvent.toolAction
  rest := b.restEvents.map StreamEvent.toolAction
  first_on := by
    unfold startEvent
    cases b.block <;> trivial
  rest_quiet := by
    intro action hmem
    unfold restEvents deltaEvent at hmem
    rw [List.map_append, List.mem_append, List.map_map, List.mem_map] at hmem
    rcases hmem with ⟨delta, _, rfl⟩ | hmem
    . dsimp only [Function.comp]
      cases b.block <;> trivial
    . rw [List.map_singleton, List.mem_singleton] at hmem
      rw [hmem]
      rfl

def thinkingSegment : Keyed.Segment Nat String where
  key := b.index
  first := b.startEvent.thinkingAction
  rest := b.restEvents.map StreamEvent.thinkingAction
  first_on := by
    unfold startEvent
    cases b.block <;> trivial
  rest_quiet := by
    intro action hmem
    unfold restEvents deltaEvent at hmem
    rw [List.map_append, List.mem_append, List.map_map, List.mem_map] at hmem
    rcases hmem with ⟨delta, _, rfl⟩ | hmem
    . dsimp only [Function.comp]
      cases b.block <;> trivial
    . rw [List.map_singleton, List.mem_singleton] at hmem
      rw [hmem]
      trivial

def tool? : Option (Keyed.Started Nat ToolAccState) :=
  match b.block with
  | .toolUse id name _ =>
    some
      { key := b.index
        value := { id, name, jsonBuf := String.join b.deltas, complete := true }
        restarted := false }
  | _ => none

def thinking? : Option (Keyed.Started Nat String) :=
  match b.block with
  | .thinking thinking => some { key := b.index, value := thinking, restarted := false }
  | _ => none

theorem own_inputDeltas (index : Nat) (deltas : List String) (tool : ToolAccState)
    (rest : List (Keyed.Action Nat ToolAccState))
    : Keyed.own index
          (deltas.map (fun delta =>
            (StreamEvent.contentBlockDelta index (.inputJsonDelta delta)).toolAction) ++ rest) tool
        = Keyed.own index rest { tool with jsonBuf := tool.jsonBuf ++ String.join deltas } := by
  induction deltas generalizing tool with
  | nil => simp
  | cons delta deltas ih =>
    rw [List.map_cons, List.cons_append, StreamEvent.toolAction, Keyed.own, if_pos rfl, ih,
      String.join_cons, String.append_assoc]

theorem own_thinkingDeltas (index : Nat) (deltas : List String) (buf : String)
    (rest : List (Keyed.Action Nat String))
    : Keyed.own index
          (deltas.map (fun delta =>
            (StreamEvent.contentBlockDelta index (.thinkingDelta delta)).thinkingAction) ++ rest) buf
        = Keyed.own index rest (buf ++ String.join deltas) := by
  induction deltas generalizing buf with
  | nil => simp
  | cons delta deltas ih =>
    rw [List.map_cons, List.cons_append, StreamEvent.thinkingAction, Keyed.own, if_pos rfl, ih,
      String.join_cons, String.append_assoc]

theorem started?_toolSegment : b.toolSegment.started? = b.tool? := by
  unfold toolSegment Keyed.Segment.started? tool? startEvent restEvents deltaEvent
  dsimp only
  cases b.block with
  | toolUse id name input =>
    dsimp only [StreamEvent.toolAction]
    rw [List.map_append, List.map_map]
    refine congrArg (fun value => some
      ({ key := b.index, value, restarted := false } : Keyed.Started Nat ToolAccState)) ?_
    refine (own_inputDeltas b.index b.deltas _ _).trans ?_
    rw [List.map_singleton, StreamEvent.toolAction, Keyed.own, if_pos rfl, String.empty_append]
    rfl
  | _ => rfl

theorem started?_thinkingSegment : b.thinkingSegment.started? = b.thinking? := by
  have hencodes := b.encodes
  unfold thinkingSegment Keyed.Segment.started? thinking? startEvent restEvents deltaEvent
  dsimp only
  cases hblock : b.block with
  | thinking thinking =>
    rw [hblock] at hencodes
    dsimp only [StreamEvent.thinkingAction]
    rw [List.map_append, List.map_map]
    refine congrArg (fun value => some
      ({ key := b.index, value, restarted := false } : Keyed.Started Nat String)) ?_
    refine (own_thinkingDeltas b.index b.deltas _ _).trans ?_
    exact hencodes
  | _ => rfl

theorem join_textPart_events
    : String.join (b.events.map StreamEvent.textPart) = b.block.text?.getD "" := by
  have hencodes := b.encodes
  have hnone : ∀ xs : List String, String.join (xs.map (fun _ => "")) = "" := by
    intro xs
    induction xs with
    | nil => rfl
    | cons x xs ih => rw [List.map_cons, String.join_cons, ih, String.empty_append]
  unfold events restEvents startEvent deltaEvent
  rw [List.map_cons, List.map_append, List.map_map, String.join_cons, String.join_append,
    List.map_singleton, String.join_cons, String.join_nil]
  cases hblock : b.block with
  | text t =>
    rw [hblock] at hencodes
    have hdeltas : b.deltas.map (StreamEvent.textPart
        ∘ fun delta => .contentBlockDelta b.index (.textDelta delta)) = b.deltas :=
      List.map_id b.deltas
    dsimp only
    rw [hdeltas]
    change b.start ++ (String.join b.deltas ++ ("" ++ "")) = t
    rw [String.append_empty, String.append_empty]
    exact hencodes
  | toolResult toolUseId content isError =>
    rw [hblock] at hencodes
    exact absurd hencodes id
  | json value =>
    rw [hblock] at hencodes
    exact absurd hencodes id
  | toolUse id name input =>
    change "" ++ (String.join (b.deltas.map (fun _ => "")) ++ ("" ++ "")) = ""
    rw [hnone]
    rfl
  | thinking thinking =>
    change "" ++ (String.join (b.deltas.map (fun _ => "")) ++ ("" ++ "")) = ""
    rw [hnone]
    rfl

theorem parsed_tool? {tool : Keyed.Started Nat ToolAccState} (h : b.tool? = some tool)
    : tool.key = b.index
        ∧ tool.restarted = false
        ∧ tool.value.complete = true
        ∧ tool.value.WellFormed serde
        ∧ b.block.toolUse? = some (tool.value.parsed serde) := by
  have hencodes := b.encodes
  unfold tool? at h
  cases hblock : b.block with
  | toolUse id name input =>
    rw [hblock] at h hencodes
    cases h
    refine ⟨rfl, rfl, rfl, ⟨input, hencodes⟩, ?_⟩
    unfold ToolAccState.parsed ContentBlock.toolUse?
    dsimp only
    rw [show serde.fromStr (String.join b.deltas) = .ok input from hencodes]
    rfl
  | _ =>
    rw [hblock] at h
    cases h

theorem key_thinking? {s : Keyed.Started Nat String} (h : b.thinking? = some s)
    : s.key = b.index ∧ s.restarted = false := by
  unfold thinking? at h
  cases hblock : b.block with
  | thinking thinking =>
    rw [hblock] at h
    cases h
    exact ⟨rfl, rfl⟩
  | _ =>
    rw [hblock] at h
    cases h

theorem map_value_thinking? : b.thinking?.map Keyed.Started.value = b.block.thinking? := by
  unfold thinking? ContentBlock.thinking?
  cases b.block <;> rfl

theorem tool?_eq_none_iff : b.tool? = none ↔ b.block.toolUse? = none := by
  unfold tool? ContentBlock.toolUse?
  cases b.block <;> simp

end EncodedBlock

def nonEmpty (s : String) : Option String :=
  if s = "" then none else some s

theorem nonEmpty_ne_some_empty (s : String) : nonEmpty s ≠ some "" := by
  unfold nonEmpty
  split
  . simp
  . next h => simp [h]

theorem intercalate_nonEmpty (s : String) : "\n".intercalate (nonEmpty s).toList = s := by
  unfold nonEmpty
  split
  . next h => exact h.symm
  . rfl

theorem join_nonEmpty (s : String) : String.join (nonEmpty s).toList = s := by
  unfold nonEmpty
  split
  . next h => exact h.symm
  . exact String.empty_append

theorem nonEmpty_intercalate {s : Option String} (h : s ≠ some "")
    : nonEmpty ("\n".intercalate s.toList) = s := by
  cases s with
  | none => rfl
  | some t =>
    unfold nonEmpty
    exact if_neg (fun ht => h (congrArg some ht))

namespace EncodedResponse

variable {serde : SerdeJson} (e : EncodedResponse serde)

theorem isError_of_mem_events : ∀ event ∈ e.events, event.isError = false := by
  intro event hmem
  unfold events at hmem
  rw [List.mem_cons, List.mem_append, List.mem_flatMap] at hmem
  rcases hmem with rfl | ⟨b, _, hmem⟩ | hmem
  . rfl
  . exact b.isError_of_mem_events event hmem
  . rcases List.mem_cons.mp hmem with rfl | hmem
    . rfl
    . rw [List.mem_singleton.mp hmem]
      rfl

theorem eventsOf_events : eventsOf (e.events.map Except.ok) = e.events := by
  unfold eventsOf
  rw [List.filterMap_map]
  exact List.filterMap_some

theorem any_failingItem : (e.events.map Except.ok).any StreamState.failingItem = false := by
  rw [List.any_map, List.any_eq_false]
  intro event hmem
  change ¬event.isError = true
  rw [e.isError_of_mem_events event hmem]
  exact Bool.false_ne_true

theorem started_events {σ : Type} (action : StreamEvent → Keyed.Action Nat σ)
    (segment : EncodedBlock serde → Keyed.Segment Nat σ)
    (hkey : ∀ b, (segment b).key = b.index)
    (hactions : ∀ b, b.events.map action = (segment b).actions)
    (hskip : ∀ event, (event = .messageStart e.messageId
      ∨ event = .messageDelta (some e.stopReason.toWire) ∨ event = .messageStop)
      → action event = .skip)
    : Keyed.started (e.events.map action)
        = e.blocks.filterMap (fun b => (segment b).started?) := by
  have hpairwise : (e.blocks.map segment).Pairwise (fun s t => s.key ≠ t.key) := by
    rw [List.pairwise_map]
    apply e.increasing.imp
    intro a b hab
    rw [hkey, hkey]
    exact Nat.ne_of_lt hab
  have hflatMap : (e.blocks.flatMap EncodedBlock.events).map action
      = (e.blocks.map segment).flatMap Keyed.Segment.actions := by
    rw [List.map_flatMap, List.flatMap_map]
    exact List.flatMap_congr (fun b _ => hactions b)
  unfold events
  rw [List.map_cons, hskip _ (.inl rfl), Keyed.started, List.map_append, hflatMap,
    List.map_cons, List.map_singleton, hskip _ (.inr (.inl rfl)), hskip _ (.inr (.inr rfl))]
  change Keyed.started (_ ++ List.replicate 2 .skip) = _
  rw [Keyed.started_append_skips, Keyed.Segment.started_flatMap_actions hpairwise,
    List.filterMap_map]
  rfl

theorem startedTools_events : startedTools e.events = e.blocks.filterMap EncodedBlock.tool? := by
  unfold startedTools
  rw [e.started_events _ EncodedBlock.toolSegment (fun _ => rfl) (fun _ => rfl)]
  . exact List.filterMap_congr (fun b _ => b.started?_toolSegment)
  . rintro event (rfl | rfl | rfl) <;> rfl

theorem startedThinking_events
    : Keyed.started (e.events.map StreamEvent.thinkingAction)
        = e.blocks.filterMap EncodedBlock.thinking? := by
  rw [e.started_events _ EncodedBlock.thinkingSegment (fun _ => rfl) (fun _ => rfl)]
  . exact List.filterMap_congr (fun b _ => b.started?_thinkingSegment)
  . rintro event (rfl | rfl | rfl) <;> rfl

theorem deliveredTools_events
    : deliveredTools e.events = e.blocks.filterMap EncodedBlock.tool? := by
  unfold deliveredTools
  rw [e.startedTools_events, List.filter_eq_self]
  intro tool hmem
  obtain ⟨b, _, hb⟩ := List.mem_filterMap.mp hmem
  obtain ⟨_, hrestarted, hcomplete, _, _⟩ := b.parsed_tool? hb
  rw [hrestarted, hcomplete]
  rfl

theorem wellFormed_of_mem_deliveredTools
    : ∀ tool ∈ deliveredTools e.events, tool.value.WellFormed serde := by
  intro tool hmem
  rw [e.deliveredTools_events] at hmem
  obtain ⟨b, _, hb⟩ := List.mem_filterMap.mp hmem
  obtain ⟨_, _, _, hwellFormed, _⟩ := b.parsed_tool? hb
  exact hwellFormed

theorem pairwise_filterMap_tool?
    : (e.blocks.filterMap EncodedBlock.tool?).Pairwise (fun s t => s.key ≤ t.key) := by
  rw [List.pairwise_filterMap]
  apply e.increasing.imp
  intro a b hab s hs t ht
  rw [(a.parsed_tool? hs).1, (b.parsed_tool? ht).1]
  exact Nat.le_of_lt hab

theorem streamedToolUses_events
    : streamedToolUses serde e.events = e.contents.filterMap ContentBlock.toolUse? := by
  have hsorted : ((e.blocks.filterMap EncodedBlock.tool?).map
      (fun tool => (tool.key, tool.value.parsed serde))).Pairwise (fun a b => a.1 ≤ b.1) := by
    rw [List.pairwise_map]
    exact e.pairwise_filterMap_tool?
  unfold streamedToolUses sortByIndex contents
  rw [e.deliveredTools_events, hsorted.insertionSort_eq, List.map_map, List.map_filterMap,
    List.filterMap_map]
  apply List.filterMap_congr
  intro b _
  change (b.tool?).map _ = b.block.toolUse?
  cases htool : b.tool? with
  | none => exact (b.tool?_eq_none_iff.mp htool).symm
  | some tool =>
    obtain ⟨_, _, _, _, hparsed⟩ := b.parsed_tool? htool
    rw [hparsed]
    rfl

theorem thinkingBufs_events_perm
    : (StreamState.gathered e.events).acc.thinkingBufs.entries.Perm
        ((e.blocks.filterMap EncodedBlock.thinking?).map Keyed.Started.entry) := by
  have hlasting : Keyed.lasting (e.events.map StreamEvent.thinkingAction)
      = e.blocks.filterMap EncodedBlock.thinking? := by
    unfold Keyed.lasting
    rw [e.startedThinking_events, List.filter_eq_self]
    intro s hmem
    obtain ⟨b, _, hb⟩ := List.mem_filterMap.mp hmem
    rw [(b.key_thinking? hb).2]
    rfl
  unfold StreamState.gathered
  rw [StreamState.thinkingBufs_foldl_advance, ← hlasting]
  exact Keyed.entries_run_perm _

theorem pairwise_filterMap_thinking?
    : (e.blocks.filterMap EncodedBlock.thinking?).Pairwise (fun s t => s.key < t.key) := by
  rw [List.pairwise_filterMap]
  apply e.increasing.imp
  intro a b hab s hs t ht
  rw [(a.key_thinking? hs).1, (b.key_thinking? ht).1]
  exact hab

theorem drainThinking_events
    : (StreamState.gathered e.events).acc.drainThinking
        = nonEmpty ("\n".intercalate (e.contents.filterMap ContentBlock.thinking?)) := by
  have hperm := e.thinkingBufs_events_perm
  have hpairwise := e.pairwise_filterMap_thinking?
  have hvalues : e.contents.filterMap ContentBlock.thinking?
      = (e.blocks.filterMap EncodedBlock.thinking?).map Keyed.Started.value := by
    unfold contents
    rw [List.filterMap_map, List.map_filterMap]
    exact List.filterMap_congr (fun b _ => b.map_value_thinking?.symm)
  rw [hvalues]
  generalize e.blocks.filterMap EncodedBlock.thinking? = started at hperm hpairwise
  have hsorted : (started.map (fun s => (s.key, s.value))).Pairwise
      (fun a b => a.1 ≤ b.1) := by
    rw [List.pairwise_map]
    exact hpairwise.imp Nat.le_of_lt
  have hmap := hperm.map (fun entry => (entry.1, entry.2))
  rw [List.map_map] at hmap
  have hindexed := sortByIndex_eq_of_perm hmap (by
    rw [List.pairwise_map]
    exact hpairwise.imp Nat.ne_of_lt)
  have hid : sortByIndex (started.map (fun s => (s.key, s.value)))
      = started.map (fun s => (s.key, s.value)) := hsorted.insertionSort_eq
  unfold StreamAccumulator.drainThinking
  dsimp only
  split
  . next hempty =>
    rw [List.isEmpty_iff] at hempty
    rw [hempty] at hperm
    have : started = [] := List.map_eq_nil_iff.mp (List.nil_perm.mp hperm)
    rw [this]
    rfl
  . rw [hindexed]
    change nonEmpty ("\n".intercalate
      ((sortByIndex (started.map (fun s => (s.key, s.value)))).map Prod.snd)) = _
    rw [hid, List.map_map]
    rfl

theorem textPart_events
    : String.join (e.events.map StreamEvent.textPart)
        = String.join (e.contents.filterMap ContentBlock.text?) := by
  have hblocks : ∀ blocks : List (EncodedBlock serde),
      String.join ((blocks.flatMap EncodedBlock.events).map StreamEvent.textPart)
        = String.join ((blocks.map EncodedBlock.block).filterMap ContentBlock.text?) := by
    intro blocks
    induction blocks with
    | nil => rfl
    | cons b blocks ih =>
      rw [List.flatMap_cons, List.map_append, String.join_append, ih, b.join_textPart_events,
        List.map_cons, List.filterMap_cons]
      cases b.block.text? with
      | none => exact String.empty_append
      | some t => exact (String.join_cons ..).symm
  unfold events contents
  rw [List.map_cons, List.map_append, String.join_cons, String.join_append, hblocks]
  exact String.empty_append.trans String.append_empty

theorem stopReason_events
    : resolveStopReason (lastStopReason e.events) = e.stopReason := by
  have hnone : ∀ blocks : List (EncodedBlock serde),
      (blocks.flatMap EncodedBlock.events).filterMap StreamEvent.stopReason? = [] := by
    intro blocks
    rw [List.filterMap_eq_nil_iff]
    intro event hmem
    obtain ⟨b, _, hmem⟩ := List.mem_flatMap.mp hmem
    unfold EncodedBlock.events EncodedBlock.restEvents at hmem
    rw [List.mem_cons, List.mem_append, List.mem_map, List.mem_singleton] at hmem
    rcases hmem with rfl | ⟨delta, _, rfl⟩ | rfl <;> rfl
  have hlast : lastStopReason e.events = some e.stopReason.toWire := by
    unfold lastStopReason events
    rw [List.filterMap_cons_none rfl, List.filterMap_append, hnone]
    rfl
  rw [hlast]
  cases e.stopReason <;> rfl

theorem streamedResponse_events
    : streamedResponse serde e.events
        = { text := String.join (e.contents.filterMap ContentBlock.text?)
            toolUses := e.contents.filterMap ContentBlock.toolUse?
            thinking := nonEmpty ("\n".intercalate (e.contents.filterMap ContentBlock.thinking?))
            stopReason := e.stopReason } := by
  unfold streamedResponse
  rw [e.textPart_events, e.streamedToolUses_events, e.drainThinking_events, e.stopReason_events]

end EncodedResponse

section StreamedBlocks

variable (thinking : Option String) (text : String) (toolUses : List ParsedToolUse)

theorem filterMap_text?_streamedBlocks
    : (streamedBlocks thinking text toolUses).filterMap ContentBlock.text?
        = (nonEmpty text).toList := by
  have htoolUses : (toolUses.map ParsedToolUse.toBlock).filterMap ContentBlock.text? = [] := by
    rw [List.filterMap_map]
    exact List.filterMap_eq_nil_iff.mpr (fun _ _ => rfl)
  unfold streamedBlocks nonEmpty
  rw [List.filterMap_append, List.filterMap_append, htoolUses, List.append_nil]
  by_cases htext : text = ""
  . rw [if_pos htext, if_pos htext]
    cases thinking <;> rfl
  . rw [if_neg htext, if_neg htext]
    cases thinking <;> rfl

theorem filterMap_thinking?_streamedBlocks
    : (streamedBlocks thinking text toolUses).filterMap ContentBlock.thinking?
        = thinking.toList := by
  have htoolUses : (toolUses.map ParsedToolUse.toBlock).filterMap ContentBlock.thinking? = [] := by
    rw [List.filterMap_map]
    exact List.filterMap_eq_nil_iff.mpr (fun _ _ => rfl)
  unfold streamedBlocks
  rw [List.filterMap_append, List.filterMap_append, htoolUses, List.append_nil]
  by_cases htext : text = ""
  . rw [if_pos htext]
    cases thinking <;> rfl
  . rw [if_neg htext]
    cases thinking <;> rfl

theorem filterMap_toolUse?_streamedBlocks
    : (streamedBlocks thinking text toolUses).filterMap ContentBlock.toolUse? = toolUses := by
  have htoolUses : (toolUses.map ParsedToolUse.toBlock).filterMap ContentBlock.toolUse?
      = toolUses := by
    rw [List.filterMap_map]
    exact List.filterMap_some
  unfold streamedBlocks
  rw [List.filterMap_append, List.filterMap_append, htoolUses]
  by_cases htext : text = ""
  . rw [if_pos htext]
    cases thinking <;> rfl
  . rw [if_neg htext]
    cases thinking <;> rfl

end StreamedBlocks

theorem content_of_consumeStreamEvents {serde : SerdeJson} {stream : ChatStream}
    {parsed : ParsedResponse} {value : Value}
    (h : consumeStreamEvents serde stream = .ok (parsed, value))
    : value.get "content"
        = some (.array ((streamedBlocks parsed.thinking parsed.text parsed.toolUses).map
          ContentBlock.toValue)) := by
  unfold consumeStreamEvents at h
  cases hstate : stream.foldlM StreamState.onItem {} with
  | error error =>
    rw [hstate] at h
    cases h
  | ok state =>
    rw [hstate] at h
    change state.finish serde = _ at h
    unfold StreamState.finish at h
    cases htools : (state.acc.drainReady serde).mapError ProviderError.ofInternal with
    | error error =>
      rw [htools] at h
      cases h
    | ok toolUses =>
      rw [htools] at h
      cases h
      rfl

namespace EncodedResponse

variable {serde : SerdeJson} (e : EncodedResponse serde)

theorem blocks_buildAssistantMsg_response (uuid : String)
    : (buildAssistantMsg uuid e.response.raw).blocks = e.contents := by
  apply blocks_buildAssistantMsg uuid rfl
  intro block hmem
  obtain ⟨b, _, rfl⟩ := List.mem_map.mp hmem
  exact ContentBlock.plain_of_encodedBy b.encodes

theorem consumeStreamEvents_events
    : ∃ value, consumeStreamEvents serde (e.events.map Except.ok)
          = .ok (streamedResponse serde e.events, value)
        ∧ ∀ uuid, (buildAssistantMsg uuid value).blocks = streamedContent serde e.events := by
  have htools : ∀ tool ∈ deliveredTools (eventsOf (e.events.map Except.ok)),
      tool.value.WellFormed serde := by
    rw [e.eventsOf_events]
    exact e.wellFormed_of_mem_deliveredTools
  obtain ⟨value, hconsume, hcontent⟩ := consumeStreamEvents_of_ok e.any_failingItem htools
  rw [e.eventsOf_events] at hconsume hcontent
  refine ⟨value, hconsume, ?_⟩
  intro uuid
  exact blocks_buildAssistantMsg uuid hcontent (plain_streamedBlocks _ _ _)

/--
A response survives the streaming exactly when it consists of at most one thinking, then at most one
text, neither of them empty, and then of tool uses.
-/
theorem streamsAlike_iff : e.StreamsAlike ↔ e.Canonical := by
  obtain ⟨value, hconsume, hblocks⟩ := e.consumeStreamEvents_events
  constructor
  . rintro ⟨value', hconsume', hsame⟩
    have hvalue : value = value' :=
      congrArg Prod.snd (Except.ok.inj (hconsume.symm.trans hconsume'))
    subst hvalue
    have hcontents := (hblocks "").symm.trans
      ((hsame "").trans (e.blocks_buildAssistantMsg_response ""))
    refine ⟨_, _, _, ?_, hcontents.symm⟩
    rw [e.streamedResponse_events]
    exact nonEmpty_ne_some_empty _
  . rintro ⟨thinking, text, toolUses, hthinking, hcontents⟩
    have hparsed : streamedResponse serde e.events
        = { text, toolUses, thinking, stopReason := e.stopReason } := by
      rw [e.streamedResponse_events, hcontents, filterMap_text?_streamedBlocks,
        filterMap_thinking?_streamedBlocks, filterMap_toolUse?_streamedBlocks, join_nonEmpty,
        nonEmpty_intercalate hthinking]
    have hresponse : parseChatResponse e.response
        = { text, toolUses, thinking, stopReason := e.stopReason } := by
      unfold parseChatResponse
      change ParsedResponse.mk ("\n".intercalate (e.contents.filterMap ContentBlock.text?))
        (e.contents.filterMap ContentBlock.toolUse?)
        (joinThinking (e.contents.filterMap ContentBlock.thinking?)) e.stopReason = _
      rw [hcontents, filterMap_text?_streamedBlocks,
        filterMap_thinking?_streamedBlocks, filterMap_toolUse?_streamedBlocks,
        intercalate_nonEmpty]
      cases thinking <;> rfl
    refine ⟨value, ?_, ?_⟩
    . rw [hconsume, hparsed, hresponse]
    . intro uuid
      rw [hblocks, e.blocks_buildAssistantMsg_response, hcontents]
      unfold streamedContent
      rw [hparsed]

end EncodedResponse

def splitTexts : EncodedResponse .small where
  messageId := "msg_1"
  blocks := [
    { index := 0, block := .text "let me", start := "", deltas := ["let", " me"], encodes := rfl },
    { index := 1, block := .toolUse "tu_1" "echo" (.object []), start := "", deltas := ["\x7b\x7d"],
      encodes := rfl },
    { index := 2, block := .text "look", start := "", deltas := ["look"], encodes := rfl }]
  stopReason := .toolUse
  increasing := by decide

/-- The streamed texts run together, and the tool use moves behind them. -/
theorem splitTexts_not_streamsAlike : ¬splitTexts.StreamsAlike := by
  rintro ⟨value, hconsume, _⟩
  have hparsed : (consumeStreamEvents .small (splitTexts.events.map Except.ok)).map Prod.fst
      = .ok (parseChatResponse splitTexts.response) :=
    congrArg (Except.map Prod.fst) hconsume
  exact absurd hparsed (by decide +kernel)

end AnimaAgent
