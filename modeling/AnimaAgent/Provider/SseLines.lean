import AnimaAgent.Provider.Responses
import AnimaAgent.Streaming.Lemmas.Executor

namespace AnimaAgent

theorem toOption_mapError {ε ε' α : Type} (x : Except ε α) (f : ε → ε')
    : (x.mapError f).toOption = x.toOption := by
  cases x <;> rfl

theorem toOption_bind {ε α β : Type} (x : Except ε α) (f : α → Except ε β)
    : (x >>= f).toOption = x.toOption.bind (fun a => (f a).toOption) := by
  cases x <;> rfl

def StreamEvent.messageId? : StreamEvent → Option String
  | messageStart messageId => some messageId
  | _ => none

def lastMessageId (events : List StreamEvent) : String :=
  ((events.filterMap StreamEvent.messageId?).getLast?).getD ""

namespace StreamState

theorem ext {s t : StreamState} (htext : s.textBuf = t.textBuf) (hacc : s.acc = t.acc)
    (hid : s.messageId = t.messageId) (hstop : s.stopReason = t.stopReason)
    : s = t := by
  cases s
  cases t
  cases htext
  cases hacc
  cases hid
  cases hstop
  rfl

theorem messageId_advance (state : StreamState) (event : StreamEvent)
    : (state.advance event).messageId = event.messageId?.getD state.messageId := by
  rcases event with _ | ⟨index, _ | _ | _⟩ | ⟨index, _ | _ | _⟩ | _ | _ | _ | _ | _
  all_goals rfl

theorem messageId_foldl_advance (events : List StreamEvent) (state : StreamState)
    : (events.foldl advance state).messageId
        = ((events.filterMap StreamEvent.messageId?).getLast?).getD state.messageId := by
  induction events generalizing state with
  | nil => rfl
  | cons event events ih =>
    rw [List.foldl_cons, ih, messageId_advance, List.filterMap_cons]
    cases event.messageId? with
    | none => rfl
    | some messageId =>
      dsimp only
      rw [List.getLast?_cons]
      cases (events.filterMap StreamEvent.messageId?).getLast? <;> rfl

theorem messageId_gathered (events : List StreamEvent)
    : (gathered events).messageId = lastMessageId events := by
  exact messageId_foldl_advance events {}

theorem acc_eq {s t : StreamState} (htools : s.acc.tools = t.acc.tools)
    (hthinking : s.acc.thinkingBufs = t.acc.thinkingBufs)
    : s.acc = t.acc := by
  rcases s with ⟨_, ⟨tools, thinkingBufs⟩, _, _⟩
  rcases t with ⟨_, ⟨tools', thinkingBufs'⟩, _, _⟩
  dsimp only at htools hthinking
  rw [htools, hthinking]

theorem acc_advance_congr {s t : StreamState} (h : s.acc = t.acc) (event : StreamEvent)
    : (s.advance event).acc = (t.advance event).acc := by
  apply acc_eq
  . rw [tools_advance, tools_advance, h]
  . rw [thinkingBufs_advance, thinkingBufs_advance, h]

theorem acc_advance_of_idle {s : StreamState} {before : List StreamEvent} {event : StreamEvent}
    (h : s.acc = (gathered before).acc)
    (htools : event.toolAction.Idle (before.map StreamEvent.toolAction))
    (hthinking : event.thinkingAction.Idle (before.map StreamEvent.thinkingAction))
    : (s.advance event).acc = s.acc := by
  unfold gathered at h
  apply acc_eq
  . rw [tools_advance, h, tools_foldl_advance]
    exact htools.step_eq
  . rw [thinkingBufs_advance, h, thinkingBufs_foldl_advance]
    exact hthinking.step_eq

end StreamState

/-- An error among the events, or a tool that is delivered with an input that cannot be read. -/
def Failing (serde : SerdeJson) (events : List StreamEvent) : Prop :=
  (∃ event ∈ events, event.isError = true)
    ∨ ∃ tool ∈ deliveredTools events, ¬tool.value.WellFormed serde

structure SameContent (serde : SerdeJson) (xs ys : List StreamEvent) : Prop where
  text : String.join (xs.map StreamEvent.textPart) = String.join (ys.map StreamEvent.textPart)
  toolUses : streamedToolUses serde xs = streamedToolUses serde ys
  thinking : (StreamState.gathered xs).acc.drainThinking = (StreamState.gathered ys).acc.drainThinking
  messageId : lastMessageId xs = lastMessageId ys
  stopReason : lastStopReason xs = lastStopReason ys

def streamedValue (serde : SerdeJson) (events : List StreamEvent) : Value :=
  .object [
    ("content", .array ((streamedContent serde events).map ContentBlock.toValue)),
    ("id", .string (lastMessageId events)),
    ("stop_reason", ToolInvocationRecord.optString (lastStopReason events))]

section Consume

variable {serde : SerdeJson} {events : List StreamEvent}

theorem consume_of_failing (h : Failing serde events)
    : (consumeStreamEvents serde (events.map Except.ok)).toOption = none := by
  have heventsOf : eventsOf (events.map Except.ok) = events := by
    unfold eventsOf
    rw [List.filterMap_map]
    exact List.filterMap_some
  by_cases herror : (events.map Except.ok : ChatStream).any StreamState.failingItem = true
  . obtain ⟨error, hconsume⟩ := @consumeStreamEvents_of_failing serde _ herror
    rw [hconsume]
    rfl
  . rw [Bool.not_eq_true] at herror
    rcases h with ⟨event, hmem, hevent⟩ | ⟨tool, hmem, htool⟩
    . rw [List.any_map, List.any_eq_false] at herror
      exact absurd hevent (herror event hmem)
    . rw [← heventsOf] at hmem
      obtain ⟨error, hconsume⟩ := consumeStreamEvents_of_malformed herror hmem htool
      rw [hconsume]
      rfl

theorem consume_of_not_failing (h : ¬Failing serde events)
    : consumeStreamEvents serde (events.map Except.ok)
        = .ok (streamedResponse serde events, streamedValue serde events) := by
  unfold Failing at h
  push Not at h
  obtain ⟨herror, htools⟩ := h
  have hevents : ∀ event ∈ events, event.isError = false := by
    intro event hmem
    exact Bool.eq_false_iff.mpr (herror event hmem)
  unfold consumeStreamEvents
  rw [StreamState.foldlM_onItem_of_ok hevents]
  change (StreamState.gathered events).finish serde = _
  unfold StreamState.finish streamedResponse streamedValue streamedContent streamedResponse
  rw [drainReady_of_ok htools, ← StreamState.textBuf_gathered, ← StreamState.stopReason_gathered,
    ← StreamState.messageId_gathered]
  rfl

end Consume

theorem consume_eq_iff {serde : SerdeJson} {xs ys : List StreamEvent}
    : (consumeStreamEvents serde (xs.map Except.ok)).toOption
          = (consumeStreamEvents serde (ys.map Except.ok)).toOption
        ↔ (Failing serde xs ↔ Failing serde ys)
          ∧ (¬Failing serde ys → SameContent serde xs ys) := by
  by_cases hxs : Failing serde xs
  . rw [consume_of_failing hxs]
    by_cases hys : Failing serde ys
    . rw [consume_of_failing hys]
      exact iff_of_true rfl ⟨iff_of_true hxs hys, fun h => absurd hys h⟩
    . rw [consume_of_not_failing hys]
      refine iff_of_false (fun h => by cases h) ?_
      exact fun h => hys (h.1.mp hxs)
  . rw [consume_of_not_failing hxs]
    by_cases hys : Failing serde ys
    . rw [consume_of_failing hys]
      refine iff_of_false (fun h => by cases h) ?_
      exact fun h => hxs (h.1.mpr hys)
    . rw [consume_of_not_failing hys]
      constructor
      . intro h
        refine ⟨iff_of_false hxs hys, fun _ => ?_⟩
        have heq := Option.some.inj h
        rw [Prod.mk.injEq] at heq
        obtain ⟨hparsed, hvalue⟩ := heq
        have hid := congrArg (fun value : Value => value.get "id") hvalue
        have hstop := congrArg (fun value : Value => value.get "stop_reason") hvalue
        refine ⟨congrArg ParsedResponse.text hparsed, congrArg ParsedResponse.toolUses hparsed,
          congrArg ParsedResponse.thinking hparsed, ?_, ?_⟩
        . exact Value.string.inj (Option.some.inj hid)
        . exact ToolInvocationRecord.optString_inj (Option.some.inj hstop)
      . rintro ⟨_, h⟩
        obtain ⟨htext, htools, hthinking, hid, hstop⟩ := h hys
        unfold streamedValue streamedContent streamedResponse
        rw [htext, htools, hthinking, hid, hstop]

namespace OpenCodeProvider

variable (serde : SerdeJson)

/-- The provider refuses a line: it is not blank, and what is left of it is no event. -/
def Refused (line : String) : Prop :=
  Text.trim line ≠ "" ∧ parseSseEvent serde ((Text.stripPrefix "data: " line).getD line) = none

def providerEvent (line : String) : Option StreamEvent :=
  if Text.trim line = "" then
    none
  else
    parseSseEvent serde ((Text.stripPrefix "data: " line).getD line)

/-- Both consumers fail, or both succeed with the same response and the same value. -/
def ConsumedAlike (lines : List String) : Prop :=
  (consumeStreamEvents serde (streamItems serde (lines.map Except.ok))).toOption
    = (consumeRuntimeStream serde (lines.map Except.ok)).toOption

theorem streamItems_of_refused {lines : List String} (h : ∃ line ∈ lines, Refused serde line)
    : (consumeStreamEvents serde (streamItems serde (lines.map Except.ok))).toOption = none := by
  obtain ⟨line, hmem, hblank, hnone⟩ := h
  have hfailing : (streamItems serde (lines.map Except.ok)).any StreamState.failingItem = true := by
    rw [List.any_eq_true]
    refine ⟨parseSseToStreamEvent serde line, ?_, ?_⟩
    . refine List.mem_filterMap.mpr ⟨.ok line, List.mem_map.mpr ⟨line, hmem, rfl⟩, ?_⟩
      unfold streamItem
      exact if_neg hblank
    . unfold parseSseToStreamEvent
      dsimp only
      rw [hnone]
      rfl
  obtain ⟨error, herror⟩ := @consumeStreamEvents_of_failing serde _ hfailing
  rw [herror]
  rfl

theorem streamItems_of_not_refused {lines : List String}
    (h : ∀ line ∈ lines, ¬Refused serde line)
    : streamItems serde (lines.map Except.ok)
        = (lines.filterMap (providerEvent serde)).map Except.ok := by
  unfold streamItems
  rw [List.filterMap_map, List.map_filterMap]
  apply List.filterMap_congr
  intro line hmem
  unfold Refused at h
  unfold Function.comp streamItem providerEvent parseSseToStreamEvent
  dsimp only
  split
  . rfl
  . next hblank =>
    have hline := h line hmem
    cases hparse : parseSseEvent serde ((Text.stripPrefix "data: " line).getD line) with
    | none => exact absurd ⟨hblank, hparse⟩ hline
    | some event => rfl

theorem foldlM_onLine (lines : List String) (state : StreamState)
    : ((lines.map Except.ok).foldlM (StreamState.onLine serde) state).toOption
        = (((lines.filterMap (eventOfLine serde)).map Except.ok).foldlM
          StreamState.onItem state).toOption := by
  induction lines generalizing state with
  | nil => rfl
  | cons line lines ih =>
    rw [List.map_cons, List.foldlM_cons, toOption_bind, List.filterMap_cons]
    unfold StreamState.onLine
    dsimp only [bind, Except.bind]
    cases eventOfLine serde line with
    | none => exact ih state
    | some event =>
      dsimp only
      rw [toOption_mapError, List.map_cons, List.foldlM_cons, toOption_bind]
      exact congrArg _ (funext ih)

theorem consumeRuntimeStream_eq (lines : List String)
    : (consumeRuntimeStream serde (lines.map Except.ok)).toOption
        = (consumeStreamEvents serde
          ((lines.filterMap (eventOfLine serde)).map Except.ok)).toOption := by
  unfold consumeRuntimeStream consumeStreamEvents
  rw [toOption_bind, toOption_bind, foldlM_onLine]
  congr 1
  funext state
  exact toOption_mapError _ _

section BareLines

def bareEvent (line : String) : Option StreamEvent :=
  if (Text.stripPrefix "data:" line).isSome then none else providerEvent serde line

/-- The name of a data line is no JSON, and neither is the marker of the end. -/
structure RefusesMarkers : Prop where
  data : ∀ rest value, serde.fromStr ("data:" ++ rest) ≠ .ok value
  done : ∀ text value, Text.trim text = "[DONE]" → serde.fromStr text ≠ .ok value

def LeavesBlocks (before : List StreamEvent) (event : StreamEvent) : Prop :=
  event.toolAction.Idle (before.map StreamEvent.toolAction)
    ∧ event.thinkingAction.Idle (before.map StreamEvent.thinkingAction)

/-- The events on other lines than data lines leave the tool and thinking blocks alone. -/
def BareLeaveBlocks : List StreamEvent → List String → Prop
  | _, [] => True
  | before, line :: lines =>
    (∀ event, bareEvent serde line = some event → LeavesBlocks before event)
      ∧ BareLeaveBlocks (before ++ (providerEvent serde line).toList) lines

/--
The events on other lines than data lines report no error, bring no text, and leave it at the message
and the stop reason that the data lines name last.
-/
structure AddsNothing (lines : List String) : Prop where
  noError : ∀ line ∈ lines, ∀ event, bareEvent serde line = some event → event.isError = false
  noText : ∀ line ∈ lines, ∀ event, bareEvent serde line = some event → event.textPart = ""
  messageId : lastMessageId (lines.filterMap (providerEvent serde))
    = lastMessageId (lines.filterMap (eventOfLine serde))
  stopReason : lastStopReason (lines.filterMap (providerEvent serde))
    = lastStopReason (lines.filterMap (eventOfLine serde))

variable {serde}

theorem parseSseEvent_eq_none {data : String} (h : ∀ value, serde.fromStr data ≠ .ok value)
    : parseSseEvent serde data = none := by
  unfold parseSseEvent
  cases hjson : serde.fromStr data with
  | ok value => exact absurd hjson (h value)
  | error error => rfl

theorem providerEvent_cases (hserde : RefusesMarkers serde) {line : String}
    (h : ¬Refused serde line)
    : (eventOfLine serde line = none ∧ bareEvent serde line = providerEvent serde line)
        ∨ (bareEvent serde line = none ∧ eventOfLine serde line = providerEvent serde line) := by
  unfold bareEvent
  cases hname : Text.stripPrefix "data:" line with
  | none =>
    refine .inl ⟨?_, rfl⟩
    have hspace : Text.stripPrefix "data: " line = none := by
      rw [Option.eq_none_iff_forall_ne_some]
      intro rest hrest
      have hline : line = "data:" ++ (" " ++ rest) := by
        rw [← String.append_assoc]
        exact Text.stripPrefix_eq_some_iff.mp hrest
      rw [Text.stripPrefix_eq_some_iff.mpr hline] at hname
      cases hname
    unfold eventOfLine dataOfLine
    rw [hname, hspace]
    rfl
  | some rest =>
    refine .inr ⟨rfl, ?_⟩
    obtain rfl := Text.stripPrefix_eq_some_iff.mp hname
    have hblank : Text.trim ("data:" ++ rest) ≠ "" := by
      refine Text.trim_ne (c := ':') ?_ rfl (by decide)
      rw [String.toList_append]
      exact List.mem_append_left _ (by decide)
    unfold Refused at h
    rw [not_and] at h
    have hparsed := h hblank
    unfold eventOfLine dataOfLine providerEvent
    rw [if_neg hblank]
    cases hspace : Text.stripPrefix "data: " ("data:" ++ rest) with
    | none =>
      rw [hspace] at hparsed
      exact absurd (parseSseEvent_eq_none (hserde.data rest)) hparsed
    | some data =>
      rw [hspace] at hparsed
      change (if Text.trim data = "[DONE]" then none else parseSseEvent serde data) = _
      rw [if_neg]
      . rfl
      . exact fun hdone =>
          hparsed (parseSseEvent_eq_none (fun value => hserde.done data value hdone))

theorem acc_foldl_advance (hserde : RefusesMarkers serde) {lines : List String}
    (h : ∀ line ∈ lines, ¬Refused serde line) {before : List StreamEvent}
    (hblocks : BareLeaveBlocks serde before lines) {s t : StreamState}
    (hs : s.acc = (StreamState.gathered before).acc) (hst : t.acc = s.acc)
    : ((lines.filterMap (providerEvent serde)).foldl StreamState.advance s).acc
        = ((lines.filterMap (eventOfLine serde)).foldl StreamState.advance t).acc := by
  induction lines generalizing before s t with
  | nil => exact hst.symm
  | cons line lines ih =>
    obtain ⟨hline, hblocks⟩ := hblocks
    have ih := @ih (fun line' hmem => h line' (List.mem_cons_of_mem _ hmem)) _ hblocks
    have hgathered : ∀ event, ((StreamState.gathered (before ++ [event])).acc
        = (s.advance event).acc) := by
      intro event
      unfold StreamState.gathered
      rw [List.foldl_append]
      exact StreamState.acc_advance_congr hs.symm event
    rw [List.filterMap_cons, List.filterMap_cons]
    rcases providerEvent_cases hserde (h line (List.mem_cons_self ..)) with
      ⟨hnone, hbare⟩ | ⟨_, hevent⟩
    . rw [hnone]
      rw [hbare] at hline
      cases hread : providerEvent serde line with
      | none =>
        rw [hread, Option.toList_none, List.append_nil] at ih
        exact ih hs hst
      | some event =>
        rw [hread, Option.toList_some] at ih
        have hkept : (s.advance event).acc = s.acc := by
          obtain ⟨htools, hthinking⟩ := hline event hread
          exact StreamState.acc_advance_of_idle hs htools hthinking
        exact ih (hgathered event).symm (hst.trans hkept.symm)
    . rw [hevent]
      cases hread : providerEvent serde line with
      | none =>
        rw [hread, Option.toList_none, List.append_nil] at ih
        exact ih hs hst
      | some event =>
        rw [hread, Option.toList_some] at ih
        exact ih (hgathered event).symm (StreamState.acc_advance_congr hst event)

theorem length_join_textPart (hserde : RefusesMarkers serde) {lines : List String}
    (h : ∀ line ∈ lines, ¬Refused serde line)
    : (String.join ((lines.filterMap (providerEvent serde)).map StreamEvent.textPart)).length
        = (String.join ((lines.filterMap (eventOfLine serde)).map StreamEvent.textPart)).length
          + (String.join ((lines.filterMap (bareEvent serde)).map StreamEvent.textPart)).length := by
  induction lines with
  | nil => rfl
  | cons line lines ih =>
    have ih := ih (fun line' hmem => h line' (List.mem_cons_of_mem _ hmem))
    rw [List.filterMap_cons, List.filterMap_cons, List.filterMap_cons]
    rcases providerEvent_cases hserde (h line (List.mem_cons_self ..)) with
      ⟨hother, hevent⟩ | ⟨hother, hevent⟩
    all_goals
      rw [hother, hevent]
      cases providerEvent serde line with
      | none => exact ih
      | some event =>
        dsimp only
        rw [List.map_cons, List.map_cons, String.join_cons, String.join_cons, String.length_append,
          String.length_append, ih]
        omega

theorem join_textPart_eq (hserde : RefusesMarkers serde) {lines : List String}
    (h : ∀ line ∈ lines, ¬Refused serde line)
    (hnone : ∀ line ∈ lines, ∀ event, bareEvent serde line = some event → event.textPart = "")
    : String.join ((lines.filterMap (providerEvent serde)).map StreamEvent.textPart)
        = String.join ((lines.filterMap (eventOfLine serde)).map StreamEvent.textPart) := by
  induction lines with
  | nil => rfl
  | cons line lines ih =>
    have ih := ih (fun line' hmem => h line' (List.mem_cons_of_mem _ hmem))
      (fun line' hmem => hnone line' (List.mem_cons_of_mem _ hmem))
    have hline := hnone line (List.mem_cons_self ..)
    rw [List.filterMap_cons, List.filterMap_cons]
    rcases providerEvent_cases hserde (h line (List.mem_cons_self ..)) with
      ⟨hother, hevent⟩ | ⟨_, hevent⟩
    . rw [hother]
      rw [hevent] at hline
      cases hread : providerEvent serde line with
      | none => exact ih
      | some event =>
        dsimp only
        rw [List.map_cons, String.join_cons, hline event hread, String.empty_append]
        exact ih
    . rw [hevent]
      cases providerEvent serde line with
      | none => exact ih
      | some event =>
        dsimp only
        rw [List.map_cons, List.map_cons, String.join_cons, String.join_cons, ih]

theorem providerEvent_eq_some_iff (hserde : RefusesMarkers serde) {line : String}
    (h : ¬Refused serde line) {event : StreamEvent}
    : providerEvent serde line = some event
        ↔ eventOfLine serde line = some event ∨ bareEvent serde line = some event := by
  rcases providerEvent_cases hserde h with ⟨hnone, hsame⟩ | ⟨hnone, hsame⟩
  . rw [hnone, hsame, or_iff_right (by rintro ⟨⟩)]
  . rw [hnone, hsame, or_iff_left (by rintro ⟨⟩)]

theorem mem_providerEvents_iff (hserde : RefusesMarkers serde) {lines : List String}
    (h : ∀ line ∈ lines, ¬Refused serde line) {event : StreamEvent}
    : event ∈ lines.filterMap (providerEvent serde)
        ↔ event ∈ lines.filterMap (eventOfLine serde)
          ∨ event ∈ lines.filterMap (bareEvent serde) := by
  rw [List.mem_filterMap, List.mem_filterMap, List.mem_filterMap, ← exists_or]
  apply exists_congr
  intro line
  rw [← and_or_left]
  exact and_congr_right fun hmem => providerEvent_eq_some_iff hserde (h line hmem)

theorem addsNothing_of_sameContent (hserde : RefusesMarkers serde) {lines : List String}
    (h : ∀ line ∈ lines, ¬Refused serde line)
    (hfailing : ¬Failing serde (lines.filterMap (providerEvent serde)))
    (hsame : SameContent serde (lines.filterMap (providerEvent serde))
      (lines.filterMap (eventOfLine serde)))
    : AddsNothing serde lines := by
  refine ⟨?_, ?_, hsame.messageId, hsame.stopReason⟩
  . intro line hmem event hline
    rw [Bool.eq_false_iff]
    intro herror
    refine hfailing (.inl ⟨event, ?_, herror⟩)
    rw [mem_providerEvents_iff hserde h]
    exact .inr (List.mem_filterMap.mpr ⟨line, hmem, hline⟩)
  . intro line hmem event hline
    have hlength := length_join_textPart hserde h
    rw [hsame.text] at hlength
    have hempty : String.join ((lines.filterMap (bareEvent serde)).map StreamEvent.textPart) = "" := by
      rw [← String.length_eq_zero_iff]
      omega
    refine (Text.join_eq_empty_iff.mp hempty) _ (List.mem_map.mpr ⟨event, ?_, rfl⟩)
    exact List.mem_filterMap.mpr ⟨line, hmem, hline⟩

theorem acc_gathered (hserde : RefusesMarkers serde) {lines : List String}
    (h : ∀ line ∈ lines, ¬Refused serde line) (hblocks : BareLeaveBlocks serde [] lines)
    : (StreamState.gathered (lines.filterMap (providerEvent serde))).acc
        = (StreamState.gathered (lines.filterMap (eventOfLine serde))).acc := by
  exact acc_foldl_advance hserde h hblocks rfl rfl

theorem failing_of_blocks (hserde : RefusesMarkers serde) {lines : List String}
    (h : ∀ line ∈ lines, ¬Refused serde line) (hblocks : BareLeaveBlocks serde [] lines)
    (hfailing : Failing serde (lines.filterMap (eventOfLine serde)))
    : Failing serde (lines.filterMap (providerEvent serde)) := by
  rcases hfailing with ⟨event, hmem, herror⟩ | ⟨tool, hmem, htool⟩
  . exact .inl ⟨event, (mem_providerEvents_iff hserde h).mpr (.inl hmem), herror⟩
  . by_contra hnot
    unfold Failing at hnot
    push Not at hnot
    obtain ⟨error, hdrain⟩ := drainReady_of_error hmem htool
    rw [← acc_gathered hserde h hblocks, drainReady_of_ok hnot.2] at hdrain
    cases hdrain

theorem consume_of_addsNothing (hserde : RefusesMarkers serde) {lines : List String}
    (h : ∀ line ∈ lines, ¬Refused serde line) (hblocks : BareLeaveBlocks serde [] lines)
    (hnothing : AddsNothing serde lines)
    (hfailing : ¬Failing serde (lines.filterMap (eventOfLine serde)))
    : consumeStreamEvents serde ((lines.filterMap (providerEvent serde)).map Except.ok)
        = consumeStreamEvents serde ((lines.filterMap (eventOfLine serde)).map Except.ok) := by
  have herrors : ∀ event ∈ lines.filterMap (eventOfLine serde), event.isError = false := by
    intro event hmem
    rw [Bool.eq_false_iff]
    exact fun herror => hfailing (.inl ⟨event, hmem, herror⟩)
  have herrors' : ∀ event ∈ lines.filterMap (providerEvent serde), event.isError = false := by
    intro event hmem
    rcases (mem_providerEvents_iff hserde h).mp hmem with hdata | hbare
    . exact herrors event hdata
    . obtain ⟨line, hline, hevent⟩ := List.mem_filterMap.mp hbare
      exact hnothing.noError line hline event hevent
  have hgathered : StreamState.gathered (lines.filterMap (providerEvent serde))
      = StreamState.gathered (lines.filterMap (eventOfLine serde)) := by
    apply StreamState.ext
    . rw [StreamState.textBuf_gathered, StreamState.textBuf_gathered,
        join_textPart_eq hserde h hnothing.noText]
    . exact acc_gathered hserde h hblocks
    . rw [StreamState.messageId_gathered, StreamState.messageId_gathered, hnothing.messageId]
    . rw [StreamState.stopReason_gathered, StreamState.stopReason_gathered, hnothing.stopReason]
  unfold consumeStreamEvents
  rw [StreamState.foldlM_onItem_of_ok herrors, StreamState.foldlM_onItem_of_ok herrors']
  exact congrArg (StreamState.finish serde) hgathered

end BareLines

/--
If a line is refused, the lines are consumed alike exactly if the events of the data lines fail. If none
is, this or that the other lines add nothing is needed; it is enough if they leave the blocks alone.
-/
theorem consumedAlike_iff (hserde : RefusesMarkers serde) (lines : List String)
    : ((∃ line ∈ lines, Refused serde line)
          → (ConsumedAlike serde lines ↔ Failing serde (lines.filterMap (eventOfLine serde))))
        ∧ ((∀ line ∈ lines, ¬Refused serde line)
          → (ConsumedAlike serde lines
              → Failing serde (lines.filterMap (eventOfLine serde)) ∨ AddsNothing serde lines)
            ∧ (BareLeaveBlocks serde [] lines
              → (ConsumedAlike serde lines
                ↔ Failing serde (lines.filterMap (eventOfLine serde))
                  ∨ AddsNothing serde lines))) := by
  unfold ConsumedAlike
  rw [consumeRuntimeStream_eq]
  constructor
  . intro hrefused
    rw [streamItems_of_refused serde hrefused]
    constructor
    . intro heq
      by_contra hfailing
      rw [consume_of_not_failing hfailing] at heq
      cases heq
    . intro hfailing
      rw [consume_of_failing hfailing]
  . intro hnone
    rw [streamItems_of_not_refused serde hnone]
    have hneeded : (consumeStreamEvents serde
        ((lines.filterMap (providerEvent serde)).map Except.ok)).toOption
          = (consumeStreamEvents serde
            ((lines.filterMap (eventOfLine serde)).map Except.ok)).toOption
        → Failing serde (lines.filterMap (eventOfLine serde)) ∨ AddsNothing serde lines := by
      intro heq
      obtain ⟨hiff, hsame⟩ := consume_eq_iff.mp heq
      rw [or_iff_not_imp_left]
      exact fun hfailing => addsNothing_of_sameContent hserde hnone (mt hiff.mp hfailing)
        (hsame hfailing)
    refine ⟨hneeded, fun hblocks => ⟨hneeded, fun henough => ?_⟩⟩
    by_cases hfailing : Failing serde (lines.filterMap (eventOfLine serde))
    . rw [consume_of_failing hfailing,
        consume_of_failing (failing_of_blocks hserde hnone hblocks hfailing)]
    . rw [consume_of_addsNothing hserde hnone hblocks (henough.resolve_left hfailing) hfailing]

def pingSerde : SerdeJson where
  toString := SerdeJson.small.toString
  fromStr s :=
    if s = "\x7b\"type\":\"ping\"\x7d" then
      .ok (.object [("type", .string "ping")])
    else
      SerdeJson.small.fromStr s

theorem mem_of_pingSerde {text : String} {value : Value} (h : pingSerde.fromStr text = .ok value)
    : text ∈ ["\x7b\"type\":\"ping\"\x7d", "null", "true", "false", "[]", "\x7b\x7d"] := by
  unfold pingSerde at h
  dsimp only at h
  split at h
  . next hping => exact List.mem_cons.mpr (.inl hping)
  . refine List.mem_cons_of_mem _ ?_
    unfold SerdeJson.small at h
    dsimp only at h
    split at h
    . exact List.mem_of_elem_eq_true rfl
    . exact List.mem_of_elem_eq_true rfl
    . exact List.mem_of_elem_eq_true rfl
    . exact List.mem_of_elem_eq_true rfl
    . exact List.mem_of_elem_eq_true rfl
    . cases h
    . cases h

theorem refusesMarkers_pingSerde : RefusesMarkers pingSerde where
  data rest value h := by
    have hmem := List.mem_map_of_mem (f := fun text : String => text.toList.head?)
      (mem_of_pingSerde h)
    rw [String.toList_append] at hmem
    change some 'd' ∈ _ at hmem
    revert hmem
    decide +kernel
  done text value htrim h := by
    have hmem := List.mem_map_of_mem (f := Text.trim) (mem_of_pingSerde h)
    rw [htrim] at hmem
    revert hmem
    decide +kernel

theorem consumedAlike_iff_ping
    : ConsumedAlike pingSerde
        ["data: \x7b\"type\":\"ping\"\x7d", "", "\x7b\"type\":\"ping\"\x7d"] := by
  have hdata : bareEvent pingSerde "data: \x7b\"type\":\"ping\"\x7d" = none := by decide +kernel
  have hblank : bareEvent pingSerde "" = none := by decide +kernel
  have hping : bareEvent pingSerde "\x7b\"type\":\"ping\"\x7d" = some .ping := by decide +kernel
  refine (((consumedAlike_iff pingSerde refusesMarkers_pingSerde _).2 ?_).2 ?_).mpr (.inr ⟨?_, ?_, ?_, ?_⟩)
  . unfold Refused
    decide +kernel
  . refine ⟨by rw [hdata]; rintro event ⟨⟩, by rw [hblank]; rintro event ⟨⟩, ?_, trivial⟩
    rw [hping]
    rintro event ⟨⟩
    exact ⟨trivial, trivial⟩
  . simp only [List.forall_mem_cons, hdata, hblank, hping]
    simp [StreamEvent.isError]
  . simp only [List.forall_mem_cons, hdata, hblank, hping]
    simp [StreamEvent.textPart]
  . decide +kernel
  . decide +kernel

/-- An event line before a data line: the provider gives up, the runtime skips it. -/
theorem eventLine_not_consumedAlike
    : ¬ConsumedAlike pingSerde ["event: ping", "data: \x7b\"type\":\"ping\"\x7d", ""] := by
  unfold ConsumedAlike
  decide +kernel

end OpenCodeProvider

end AnimaAgent
