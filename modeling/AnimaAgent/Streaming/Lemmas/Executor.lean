import AnimaAgent.Library.Keyed
import AnimaAgent.Streaming.Executor

namespace AnimaAgent

def StreamEvent.isError : StreamEvent → Bool
  | error .. => true
  | _ => false

def StreamEvent.textPart : StreamEvent → String
  | contentBlockStart _ (.text text) => text
  | contentBlockDelta _ (.textDelta text) => text
  | _ => ""

def StreamEvent.stopReason? : StreamEvent → Option (Option String)
  | messageDelta stopReason => some stopReason
  | _ => none

def StreamEvent.toolAction : StreamEvent → Keyed.Action Nat ToolAccState
  | contentBlockStart index (.toolUse id name _) =>
    .start index { id, name, jsonBuf := "", complete := false }
  | contentBlockDelta index (.inputJsonDelta partialJson) =>
    .update index (fun tool => { tool with jsonBuf := tool.jsonBuf ++ partialJson })
  | contentBlockStop index => .update index (fun tool => { tool with complete := true })
  | _ => .skip

def StreamEvent.thinkingAction : StreamEvent → Keyed.Action Nat String
  | contentBlockStart index (.thinking thinking) => .start index thinking
  | contentBlockDelta index (.thinkingDelta thinking) => .update index (fun buf => buf ++ thinking)
  | _ => .skip

def lastStopReason (events : List StreamEvent) : Option String :=
  ((events.filterMap StreamEvent.stopReason?).getLast?).join

def startedTools (events : List StreamEvent) : List (Keyed.Started Nat ToolAccState) :=
  Keyed.started (events.map StreamEvent.toolAction)

def deliveredTools (events : List StreamEvent) : List (Keyed.Started Nat ToolAccState) :=
  (startedTools events).filter (fun tool => !tool.restarted && tool.value.complete)

namespace StreamState

def advance (state : StreamState) (event : StreamEvent) : StreamState :=
  match state.onEvent event with
  | .ok state => state
  | .error _ => state

theorem onEvent_of_not_isError (state : StreamState) {event : StreamEvent}
    (h : event.isError = false)
    : state.onEvent event = .ok (state.advance event) := by
  cases event with
  | error errorType message => cases h
  | _ => rfl

theorem onEvent_of_isError (state : StreamState) {event : StreamEvent} (h : event.isError = true)
    : ∃ error, state.onEvent event = .error error := by
  cases event with
  | error errorType message => exact ⟨_, rfl⟩
  | _ => cases h

theorem tools_onToolStop (acc : StreamAccumulator) (index : Nat)
    : (acc.onToolStop index).tools
        = Keyed.step acc.tools (.update index (fun tool => { tool with complete := true })) := by
  unfold StreamAccumulator.onToolStop Keyed.step
  dsimp only
  cases acc.tools.lookup index <;> rfl

theorem tools_onInputDelta (acc : StreamAccumulator) (index : Nat) (partialJson : String)
    : (acc.onInputDelta index partialJson).tools
        = Keyed.step acc.tools
          (.update index (fun tool => { tool with jsonBuf := tool.jsonBuf ++ partialJson })) := by
  unfold StreamAccumulator.onInputDelta Keyed.step
  dsimp only
  cases acc.tools.lookup index <;> rfl

theorem thinkingBufs_onThinkingDelta (acc : StreamAccumulator) (index : Nat) (thinking : String)
    : (acc.onThinkingDelta index thinking).thinkingBufs
        = Keyed.step acc.thinkingBufs (.update index (fun buf => buf ++ thinking)) := by
  unfold StreamAccumulator.onThinkingDelta Keyed.step
  dsimp only
  cases acc.thinkingBufs.lookup index <;> rfl

theorem tools_onThinkingDelta (acc : StreamAccumulator) (index : Nat) (thinking : String)
    : (acc.onThinkingDelta index thinking).tools = acc.tools := by
  unfold StreamAccumulator.onThinkingDelta
  cases acc.thinkingBufs.lookup index <;> rfl

theorem thinkingBufs_onInputDelta (acc : StreamAccumulator) (index : Nat) (partialJson : String)
    : (acc.onInputDelta index partialJson).thinkingBufs = acc.thinkingBufs := by
  unfold StreamAccumulator.onInputDelta
  cases acc.tools.lookup index <;> rfl

theorem thinkingBufs_onToolStop (acc : StreamAccumulator) (index : Nat)
    : (acc.onToolStop index).thinkingBufs = acc.thinkingBufs := by
  unfold StreamAccumulator.onToolStop
  cases acc.tools.lookup index <;> rfl

section Advance

variable (state : StreamState) (event : StreamEvent)

theorem tools_advance
    : (state.advance event).acc.tools = Keyed.step state.acc.tools event.toolAction := by
  rcases event with _ | ⟨index, _ | _ | _⟩ | ⟨index, _ | _ | _⟩ | _ | _ | _ | _ | _
  case contentBlockDelta.inputJsonDelta => exact tools_onInputDelta ..
  case contentBlockDelta.thinkingDelta => exact tools_onThinkingDelta ..
  case contentBlockStop => exact tools_onToolStop ..
  all_goals rfl

theorem thinkingBufs_advance
    : (state.advance event).acc.thinkingBufs
        = Keyed.step state.acc.thinkingBufs event.thinkingAction := by
  rcases event with _ | ⟨index, _ | _ | _⟩ | ⟨index, _ | _ | _⟩ | _ | _ | _ | _ | _
  case contentBlockDelta.inputJsonDelta => exact thinkingBufs_onInputDelta ..
  case contentBlockDelta.thinkingDelta => exact thinkingBufs_onThinkingDelta ..
  case contentBlockStop => exact thinkingBufs_onToolStop ..
  all_goals rfl

theorem textBuf_advance : (state.advance event).textBuf = state.textBuf ++ event.textPart := by
  rcases event with _ | ⟨index, _ | _ | _⟩ | ⟨index, _ | _ | _⟩ | _ | _ | _ | _ | _
  all_goals first | rfl | exact (String.append_empty).symm

theorem stopReason_advance
    : (state.advance event).stopReason = event.stopReason?.getD state.stopReason := by
  rcases event with _ | ⟨index, _ | _ | _⟩ | ⟨index, _ | _ | _⟩ | _ | _ | _ | _ | _
  all_goals rfl

end Advance

def gathered (events : List StreamEvent) : StreamState :=
  events.foldl advance {}

section Gathered

variable (events : List StreamEvent)

theorem tools_foldl_advance (state : StreamState)
    : (events.foldl advance state).acc.tools
        = Keyed.run (events.map StreamEvent.toolAction) state.acc.tools := by
  induction events generalizing state with
  | nil => rfl
  | cons event events ih =>
    rw [List.foldl_cons, ih, tools_advance]
    rfl

theorem thinkingBufs_foldl_advance (state : StreamState)
    : (events.foldl advance state).acc.thinkingBufs
        = Keyed.run (events.map StreamEvent.thinkingAction) state.acc.thinkingBufs := by
  induction events generalizing state with
  | nil => rfl
  | cons event events ih =>
    rw [List.foldl_cons, ih, thinkingBufs_advance]
    rfl

theorem textBuf_foldl_advance (state : StreamState)
    : (events.foldl advance state).textBuf
        = state.textBuf ++ String.join (events.map StreamEvent.textPart) := by
  induction events generalizing state with
  | nil => simp
  | cons event events ih =>
    rw [List.foldl_cons, ih, textBuf_advance, List.map_cons, String.join_cons, String.append_assoc]

theorem stopReason_foldl_advance (state : StreamState)
    : (events.foldl advance state).stopReason
        = ((events.filterMap StreamEvent.stopReason?).getLast?).getD state.stopReason := by
  induction events generalizing state with
  | nil => rfl
  | cons event events ih =>
    rw [List.foldl_cons, ih, stopReason_advance, List.filterMap_cons]
    cases event.stopReason? with
    | none => rfl
    | some stopReason =>
      dsimp only
      rw [List.getLast?_cons]
      cases (events.filterMap StreamEvent.stopReason?).getLast? <;> rfl

theorem textBuf_gathered
    : (gathered events).textBuf = String.join (events.map StreamEvent.textPart) := by
  unfold gathered
  rw [textBuf_foldl_advance]
  exact String.empty_append

theorem stopReason_gathered : (gathered events).stopReason = lastStopReason events := by
  unfold gathered lastStopReason
  rw [stopReason_foldl_advance]
  cases (events.filterMap StreamEvent.stopReason?).getLast? <;> rfl

theorem tools_gathered_perm
    : (gathered events).acc.tools.entries.Perm
        ((Keyed.lasting (events.map StreamEvent.toolAction)).map Keyed.Started.entry) := by
  unfold gathered
  rw [tools_foldl_advance]
  exact Keyed.entries_run_perm _

theorem complete_gathered_perm
    : ((gathered events).acc.tools.entries.filter (fun entry => entry.2.complete)).Perm
        ((deliveredTools events).map Keyed.Started.entry) := by
  have hdelivered : deliveredTools events
      = (Keyed.lasting (events.map StreamEvent.toolAction)).filter
        (fun tool => tool.value.complete) := by
    unfold deliveredTools Keyed.lasting startedTools
    rw [List.filter_filter]
    apply List.filter_congr
    intro tool _
    exact Bool.and_comm ..
  rw [hdelivered]
  have := (tools_gathered_perm events).filter (fun entry => entry.2.complete)
  rw [List.filter_map] at this
  exact this

theorem pairwise_deliveredTools
    : (deliveredTools events).Pairwise (fun s t => s.key ≠ t.key) := by
  have hsublist : (deliveredTools events).Sublist
      (Keyed.lasting (events.map StreamEvent.toolAction)) := by
    unfold deliveredTools Keyed.lasting startedTools
    apply List.monotone_filter_right
    intro tool htool
    rw [Bool.and_eq_true] at htool
    exact htool.1
  exact (Keyed.pairwise_lasting _).sublist hsublist

end Gathered

theorem foldlM_onItem_of_ok {events : List StreamEvent}
    (h : ∀ event ∈ events, event.isError = false) (state : StreamState)
    : (events.map Except.ok).foldlM onItem state = .ok (events.foldl advance state) := by
  induction events generalizing state with
  | nil => rfl
  | cons event events ih =>
    have hevent := state.onEvent_of_not_isError (h event (List.mem_cons_self ..))
    have ih := ih (fun event' hmem => h event' (List.mem_cons_of_mem event hmem))
    rw [List.map_cons, List.foldlM_cons, onItem]
    change (state.onEvent event >>= _) = _
    rw [hevent]
    exact ih _

def failingItem : Except ProviderError StreamEvent → Bool
  | .error _ => true
  | .ok event => event.isError

theorem foldlM_onItem_of_failing {stream : ChatStream} (h : stream.any failingItem = true)
    (state : StreamState)
    : ∃ error, stream.foldlM onItem state = .error error := by
  induction stream generalizing state with
  | nil => cases h
  | cons item stream ih =>
    rw [List.foldlM_cons]
    cases hitem : state.onItem item with
    | error error => exact ⟨error, rfl⟩
    | ok state' =>
      rw [List.any_cons, Bool.or_eq_true] at h
      rcases h with h | h
      . cases item with
        | error error => cases hitem
        | ok event =>
          obtain ⟨error, herror⟩ := state.onEvent_of_isError h
          have : state.onEvent event = .ok state' := hitem
          rw [herror] at this
          cases this
      . exact ih h state'

end StreamState

def eventsOf (stream : ChatStream) : List StreamEvent :=
  stream.filterMap Except.toOption

theorem eq_map_eventsOf {stream : ChatStream}
    (h : stream.any StreamState.failingItem = false)
    : stream = (eventsOf stream).map Except.ok
        ∧ ∀ event ∈ eventsOf stream, event.isError = false := by
  induction stream with
  | nil => exact ⟨rfl, by simp [eventsOf]⟩
  | cons item stream ih =>
    rw [List.any_cons, Bool.or_eq_false_iff] at h
    obtain ⟨hstream, hevents⟩ := ih h.2
    cases item with
    | error error => cases h.1
    | ok event =>
      constructor
      . conv => lhs; rw [hstream]
        rfl
      . intro event' hmem
        rcases List.mem_cons.mp hmem with rfl | hmem
        . exact h.1
        . exact hevents event' hmem

section DrainReady

variable (serde : SerdeJson)

def ToolAccState.parsed (tool : ToolAccState) : ParsedToolUse where
  id := tool.id
  name := tool.name
  input := (serde.fromStr tool.jsonBuf).toOption.getD .null

def ToolAccState.WellFormed (tool : ToolAccState) : Prop :=
  ∃ input, serde.fromStr tool.jsonBuf = .ok input

def streamedToolUses (events : List StreamEvent) : List ParsedToolUse :=
  (sortByIndex ((deliveredTools events).map (fun tool => (tool.key, tool.value.parsed serde)))).map
    Prod.snd

theorem mapM_of_forall_ok {ε α β : Type} {f : α → Except ε β} {g : α → β} {xs : List α}
    (h : ∀ x ∈ xs, f x = .ok (g x))
    : xs.mapM f = .ok (xs.map g) := by
  induction xs with
  | nil => rfl
  | cons x xs ih =>
    rw [List.mapM_cons, h x (List.mem_cons_self ..),
      ih (fun x' hmem => h x' (List.mem_cons_of_mem x hmem))]
    rfl

theorem mapM_of_error {ε α β : Type} {f : α → Except ε β} {xs : List α} {x : α} (hmem : x ∈ xs)
    {e : ε} (h : f x = .error e)
    : ∃ e', xs.mapM f = .error e' := by
  induction xs with
  | nil => cases hmem
  | cons x' xs ih =>
    rw [List.mapM_cons]
    cases hx' : f x' with
    | error e' => exact ⟨e', rfl⟩
    | ok y =>
      rcases List.mem_cons.mp hmem with rfl | hmem
      . rw [h] at hx'
        cases hx'
      . obtain ⟨e', hxs⟩ := ih hmem
        refine ⟨e', ?_⟩
        rw [hxs]
        rfl

theorem pairwise_sortByIndex {α : Type} (xs : List (Nat × α))
    : (sortByIndex xs).Pairwise (fun a b => a.1 ≤ b.1) := by
  exact List.pairwise_insertionSort _ xs

theorem sortByIndex_eq_of_perm {α : Type} {as bs : List (Nat × α)} (hperm : as.Perm bs)
    (hkeys : bs.Pairwise (fun a b => a.1 ≠ b.1))
    : sortByIndex as = sortByIndex bs := by
  have has : (sortByIndex as).Perm bs := (List.perm_insertionSort _ as).trans hperm
  have hbs : (sortByIndex bs).Perm bs := List.perm_insertionSort _ bs
  apply List.Perm.eq_of_pairwise _ (pairwise_sortByIndex as) (pairwise_sortByIndex bs)
    (has.trans hbs.symm)
  intro a b ha hb hab hba
  by_contra hne
  have hsymm : Std.Symm (fun a b : Nat × α => a.1 ≠ b.1) := ⟨fun _ _ h => h.symm⟩
  exact hkeys.forall (has.mem_iff.mp ha) (hbs.mem_iff.mp hb) hne (Nat.le_antisymm hab hba)

variable {serde}

theorem drainReady_of_ok {events : List StreamEvent}
    (h : ∀ tool ∈ deliveredTools events, tool.value.WellFormed serde)
    : (StreamState.gathered events).acc.drainReady serde
        = .ok (streamedToolUses serde events) := by
  have hperm := StreamState.complete_gathered_perm events
  have hready : ∀ entry ∈ (StreamState.gathered events).acc.tools.entries.filter
      (fun entry => entry.2.complete),
      StreamAccumulator.readyEntry serde entry = .ok (entry.1, entry.2.parsed serde) := by
    intro entry hmem
    obtain ⟨tool, htool, rfl⟩ := List.mem_map.mp (hperm.mem_iff.mp hmem)
    obtain ⟨input, hinput⟩ := h tool htool
    unfold StreamAccumulator.readyEntry StreamAccumulator.readyTool ToolAccState.parsed
      Keyed.Started.entry
    dsimp only
    rw [hinput]
    rfl
  have hmap := hperm.map (fun entry => (entry.1, entry.2.parsed serde))
  rw [List.map_map] at hmap
  have hkeys : ((deliveredTools events).map
      (fun tool => (tool.key, tool.value.parsed serde))).Pairwise (fun a b => a.1 ≠ b.1) := by
    rw [List.pairwise_map]
    exact StreamState.pairwise_deliveredTools events
  have hsorted := sortByIndex_eq_of_perm hmap hkeys
  unfold StreamAccumulator.drainReady
  dsimp only
  rw [mapM_of_forall_ok hready]
  exact congrArg (fun indexed => Except.ok (indexed.map Prod.snd)) hsorted

theorem drainReady_of_error {events : List StreamEvent}
    {tool : Keyed.Started Nat ToolAccState} (hmem : tool ∈ deliveredTools events)
    (h : ¬tool.value.WellFormed serde)
    : ∃ error, (StreamState.gathered events).acc.drainReady serde = .error error := by
  have hentry := (StreamState.complete_gathered_perm events).mem_iff.mpr
    (List.mem_map.mpr ⟨tool, hmem, rfl⟩)
  have hready : ∃ error, StreamAccumulator.readyEntry serde tool.entry = .error error := by
    unfold StreamAccumulator.readyEntry StreamAccumulator.readyTool Keyed.Started.entry
    dsimp only
    cases hinput : serde.fromStr tool.value.jsonBuf with
    | ok input => exact absurd ⟨input, hinput⟩ h
    | error e => exact ⟨_, rfl⟩
  obtain ⟨error, hready⟩ := hready
  obtain ⟨error', hmapM⟩ := mapM_of_error hentry hready
  refine ⟨error', ?_⟩
  unfold StreamAccumulator.drainReady
  dsimp only
  rw [hmapM]
  rfl

end DrainReady

def streamedResponse (serde : SerdeJson) (events : List StreamEvent) : ParsedResponse where
  text := String.join (events.map StreamEvent.textPart)
  toolUses := streamedToolUses serde events
  thinking := (StreamState.gathered events).acc.drainThinking
  stopReason := resolveStopReason (lastStopReason events)

def streamedContent (serde : SerdeJson) (events : List StreamEvent) : List ContentBlock :=
  let parsed := streamedResponse serde events
  streamedBlocks parsed.thinking parsed.text parsed.toolUses

section Consume

variable {serde : SerdeJson} {stream : ChatStream}

theorem consumeStreamEvents_of_failing (h : stream.any StreamState.failingItem = true)
    : ∃ error, consumeStreamEvents serde stream = .error error := by
  obtain ⟨error, herror⟩ := StreamState.foldlM_onItem_of_failing h {}
  refine ⟨error, ?_⟩
  unfold consumeStreamEvents
  rw [herror]
  rfl

theorem consumeStreamEvents_of_malformed (h : stream.any StreamState.failingItem = false)
    {tool : Keyed.Started Nat ToolAccState} (hmem : tool ∈ deliveredTools (eventsOf stream))
    (htool : ¬tool.value.WellFormed serde)
    : ∃ error, consumeStreamEvents serde stream = .error error := by
  obtain ⟨hstream, hevents⟩ := eq_map_eventsOf h
  obtain ⟨error, herror⟩ := drainReady_of_error hmem htool
  refine ⟨.ofInternal error, ?_⟩
  unfold consumeStreamEvents
  rw [hstream, StreamState.foldlM_onItem_of_ok hevents]
  change (StreamState.gathered (eventsOf stream)).finish serde = _
  unfold StreamState.finish
  rw [herror]
  rfl

theorem consumeStreamEvents_of_ok (h : stream.any StreamState.failingItem = false)
    (htools : ∀ tool ∈ deliveredTools (eventsOf stream), tool.value.WellFormed serde)
    : ∃ value, consumeStreamEvents serde stream
          = .ok (streamedResponse serde (eventsOf stream), value)
        ∧ value.get "content"
          = some (.array
            ((streamedContent serde (eventsOf stream)).map ContentBlock.toValue)) := by
  obtain ⟨hstream, hevents⟩ := eq_map_eventsOf h
  have hconsume : consumeStreamEvents serde stream
      = (StreamState.gathered (eventsOf stream)).finish serde := by
    unfold consumeStreamEvents
    conv => lhs; rw [hstream, StreamState.foldlM_onItem_of_ok hevents]
    rfl
  rw [hconsume]
  unfold StreamState.finish streamedContent streamedResponse
  rw [drainReady_of_ok htools, ← StreamState.textBuf_gathered, ← StreamState.stopReason_gathered]
  exact ⟨_, rfl, rfl⟩

end Consume

end AnimaAgent
