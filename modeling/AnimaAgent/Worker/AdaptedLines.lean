import AnimaAgent.Streaming.Lemmas.Executor
import AnimaAgent.Worker.EventAdapter

namespace AnimaAgent

namespace AdaptedEvent

def toEvent : AdaptedEvent → StreamEvent
  | messageStart messageId => .messageStart messageId
  | blockStart index _ .text => .contentBlockStart index (.text "")
  | blockStart index partId (.toolUse name) =>
    .contentBlockStart index (.toolUse partId name (.object []))
  | textDelta index text => .contentBlockDelta index (.textDelta text)
  | inputDelta index partialJson => .contentBlockDelta index (.inputJsonDelta partialJson)
  | blockStop index => .contentBlockStop index
  | messageDelta stopReason => .messageDelta stopReason
  | messageStop => .messageStop
  | error errorType message => .error errorType message

def index? : AdaptedEvent → Option Nat
  | blockStart index _ _ => some index
  | textDelta index _ => some index
  | inputDelta index _ => some index
  | blockStop index => some index
  | _ => none

/-- The payload is an object that is read back as it was, and an index is a machine word. -/
structure CarriedBy (serde : SerdeJson) (event : AdaptedEvent) : Prop where
  readsBack : serde.fromStr (serde.toString event.toValue) = .ok event.toValue
  braced : '\x7b' ∈ (serde.toString event.toValue).toList
  fits : ∀ index, event.index? = some index → index < UInt64.size

variable {serde : SerdeJson} {event : AdaptedEvent}

theorem parseSseEvent_toValue (h : event.CarriedBy serde)
    : parseSseEvent serde (serde.toString event.toValue) = some event.toEvent := by
  have hindex : ∀ index, event.index? = some index → (UInt64.ofNat index).toNat = index :=
    fun index heq => UInt64.toNat_ofNat_of_lt (h.fits index heq)
  unfold parseSseEvent
  rw [h.readsBack]
  rcases event with _ | ⟨index, part, _ | name⟩ | _ | _ | _ | stopReason | _ | _
  case messageStart => rfl
  case messageStop => rfl
  case error => rfl
  case messageDelta =>
    cases stopReason with
    | none => rfl
    | some stopReason => rfl
  case blockStart.text =>
    exact congrArg (fun i => some (StreamEvent.contentBlockStart i _)) (hindex index rfl)
  case blockStart.toolUse =>
    exact congrArg (fun i => some (StreamEvent.contentBlockStart i _)) (hindex index rfl)
  case textDelta index text =>
    exact congrArg (fun i => some (StreamEvent.contentBlockDelta i _)) (hindex index rfl)
  case inputDelta index partialJson =>
    exact congrArg (fun i => some (StreamEvent.contentBlockDelta i _)) (hindex index rfl)
  case blockStop index =>
    exact congrArg (fun i => some (StreamEvent.contentBlockStop i)) (hindex index rfl)

theorem eventOfLine_toLine (h : event.CarriedBy serde)
    : eventOfLine serde (event.toLine serde) = some event.toEvent := by
  unfold eventOfLine dataOfLine toLine
  rw [Text.stripPrefix_append]
  change (if Text.trim (serde.toString event.toValue) = "[DONE]" then none
    else parseSseEvent serde (serde.toString event.toValue)) = _
  rw [if_neg (Text.trim_ne h.braced (by decide) (by decide)), parseSseEvent_toValue h]

end AdaptedEvent

def gatheredFrom (events : List AdaptedEvent) : StreamState :=
  StreamState.gathered (events.map AdaptedEvent.toEvent)

def adaptedLines (serde : SerdeJson) (items : List (Except TaskExecutorError AdaptedEvent))
    : UnifiedStreamSource :=
  items.map (Except.map (AdaptedEvent.toLine serde))

def AdaptedEvent.Fails : Except TaskExecutorError AdaptedEvent → Prop
  | .error _ => True
  | .ok event => event.toEvent.isError = true

section Consume

variable {serde : SerdeJson} {items : List (Except TaskExecutorError AdaptedEvent)}

theorem onLine_toLine {event : AdaptedEvent} (h : event.CarriedBy serde) (state : StreamState)
    : state.onLine serde (.ok (event.toLine serde))
        = (state.onEvent event.toEvent).mapError (fun error =>
          { kind := .upstreamStreamFailed
            stage := .planExecute
            internalMessage := error.message }) := by
  have hline := AdaptedEvent.eventOfLine_toLine h
  unfold StreamState.onLine
  simp only [bind, Except.bind, hline]

theorem foldlM_onLine_of_ok {events : List AdaptedEvent}
    (hcarried : ∀ event ∈ events, event.CarriedBy serde)
    (hok : ∀ event ∈ events, event.toEvent.isError = false) (state : StreamState)
    : (adaptedLines serde (events.map Except.ok)).foldlM (StreamState.onLine serde) state
        = .ok ((events.map AdaptedEvent.toEvent).foldl StreamState.advance state) := by
  induction events generalizing state with
  | nil => rfl
  | cons event events ih =>
    have hline := onLine_toLine (hcarried event (List.mem_cons_self ..)) state
    rw [StreamState.onEvent_of_not_isError state (hok event (List.mem_cons_self ..))] at hline
    have ih := ih (fun event' hmem => hcarried event' (List.mem_cons_of_mem event hmem))
      (fun event' hmem => hok event' (List.mem_cons_of_mem event hmem))
    change (state.onLine serde (.ok (event.toLine serde)) >>= _) = _
    rw [hline]
    exact ih _

theorem foldlM_onLine_of_fails
    (hcarried : ∀ event, .ok event ∈ items → event.CarriedBy serde)
    {item : Except TaskExecutorError AdaptedEvent} (hmem : item ∈ items)
    (hfails : AdaptedEvent.Fails item) (state : StreamState)
    : ∃ error, (adaptedLines serde items).foldlM (StreamState.onLine serde) state
        = .error error := by
  induction items generalizing state with
  | nil => cases hmem
  | cons first rest ih =>
    change ∃ error, (state.onLine serde (first.map (AdaptedEvent.toLine serde)) >>= _)
      = Except.error error
    cases hfirst : state.onLine serde (first.map (AdaptedEvent.toLine serde)) with
    | error error => exact ⟨error, rfl⟩
    | ok state' =>
      obtain rfl | hrest := List.mem_cons.mp hmem
      . cases item with
        | error error => cases hfirst
        | ok event =>
          have hline := onLine_toLine (hcarried event (List.mem_cons_self ..)) state
          obtain ⟨error, herror⟩ := state.onEvent_of_isError hfails
          rw [herror] at hline
          cases hline.symm.trans hfirst
      . exact ih (fun event hevent => hcarried event (List.mem_cons_of_mem _ hevent)) hrest state'

theorem finish_of_ready {state : StreamState}
    (h : ∀ index tool, state.acc.tools.lookup index = some tool → tool.complete = true
      → tool.WellFormed serde)
    : ∃ parsed value, state.finish serde = .ok (parsed, value) ∧ parsed.text = state.textBuf := by
  have hready : ∀ entry ∈ state.acc.tools.entries.filter (fun entry => entry.2.complete),
      StreamAccumulator.readyEntry serde entry = .ok (entry.1, entry.2.parsed serde) := by
    intro entry hmem
    obtain ⟨hentry, hcomplete⟩ := List.mem_filter.mp hmem
    obtain ⟨input, hinput⟩ := h entry.1 entry.2 (AList.mem_lookup_iff.mpr hentry) hcomplete
    unfold StreamAccumulator.readyEntry StreamAccumulator.readyTool ToolAccState.parsed
    rw [hinput]
    rfl
  have hdrain : ∃ toolUses, state.acc.drainReady serde = .ok toolUses := by
    unfold StreamAccumulator.drainReady
    dsimp only
    rw [mapM_of_forall_ok hready]
    exact ⟨_, rfl⟩
  obtain ⟨toolUses, hdrain⟩ := hdrain
  unfold StreamState.finish
  rw [hdrain]
  exact ⟨_, _, rfl, rfl⟩

theorem finish_of_malformed {state : StreamState} {index : Nat} {tool : ToolAccState}
    (hlookup : state.acc.tools.lookup index = some tool) (hcomplete : tool.complete = true)
    (h : ¬ tool.WellFormed serde)
    : ∃ error, state.finish serde = .error error := by
  have hmem : (⟨index, tool⟩ : Sigma (fun _ : Nat => ToolAccState))
      ∈ state.acc.tools.entries.filter (fun entry => entry.2.complete) :=
    List.mem_filter.mpr ⟨AList.mem_lookup_iff.mp hlookup, hcomplete⟩
  have hready : ∃ error, StreamAccumulator.readyEntry serde ⟨index, tool⟩ = .error error := by
    unfold StreamAccumulator.readyEntry StreamAccumulator.readyTool
    cases hinput : serde.fromStr tool.jsonBuf with
    | ok input => exact absurd ⟨input, hinput⟩ h
    | error e => exact ⟨_, rfl⟩
  obtain ⟨error, hready⟩ := hready
  obtain ⟨error', hmapM⟩ := mapM_of_error hmem hready
  refine ⟨.ofInternal error', ?_⟩
  unfold StreamState.finish StreamAccumulator.drainReady
  dsimp only
  rw [hmapM]
  rfl

end Consume

end AnimaAgent
