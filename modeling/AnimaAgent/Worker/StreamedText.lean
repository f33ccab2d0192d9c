import AnimaAgent.Worker.AdaptedLines
import AnimaAgent.Worker.StreamShape

/-!
This module contains what the consumer of the runtime's streams gets out of the events of an OpenCode
server: the text of the message that is followed, and its tools. A tool without input makes the response
fail, and a text that comes behind the end of the message is still added to it.
-/

namespace AnimaAgent

structure TargetDelta where
  part : String
  isText : Bool
  delta : String
  late : Bool
  deriving DecidableEq

def OpenCodeEventAdapter.targetDelta (adapter : OpenCodeEventAdapter) (raw : Value)
    : Option TargetDelta :=
  (adapter.deltaPart raw).map (fun part =>
    { part
      isText := OpenCodeEvent.isTextField ((OpenCodeEvent.extractField raw).getD "")
      delta := (OpenCodeEvent.extractDelta raw).getD ""
      late := adapter.messageStopped })

namespace TargetDelta

def allText (deltas : List TargetDelta) : String :=
  String.join ((deltas.filter TargetDelta.isText).map TargetDelta.delta)

def textInTime (deltas : List TargetDelta) : String :=
  String.join ((deltas.filter (fun delta => delta.isText && !delta.late)).map TargetDelta.delta)

def inputs (deltas : List TargetDelta) (part : String) : List String :=
  (deltas.filter (fun delta => !delta.isText && delta.part == part)).map TargetDelta.delta

end TargetDelta

structure HeardRun where
  run : AdapterRun
  deltas : List TargetDelta

namespace HeardRun

def start (targetSessionId : String) (lines : UnifiedStreamSource) : HeardRun where
  run := .start targetSessionId lines
  deltas := []

variable (serde : SerdeJson) (hash : HashOrder) (s : HeardRun)

def deltaRead (poll : MessageIdPoll) : Option TargetDelta :=
  if s.run.adapter.buffered.isEmpty
      && (s.run.adapter.pollTargetUserMessageId poll).upstreamError.isNone then
    (s.run.eventRead serde).bind s.run.adapter.targetDelta
  else
    none

def step (poll : MessageIdPoll) : Option HeardRun :=
  (s.run.turn serde hash poll).map (fun run =>
    { run, deltas := s.deltas ++ (s.deltaRead serde poll).toList })

def response : Except TaskExecutorError (ParsedResponse × Value) :=
  consumeRuntimeStream serde (adaptedLines serde s.run.sent)

def ToolClosed (part : String) : Prop :=
  part ∈ s.run.adapter.stoppedParts
    ∧ ∃ index name, .ok (.blockStart index part (.toolUse name)) ∈ s.run.sent

/-- The session, the sender or the source has failed, or the input of a tool is no JSON. -/
def MayFail : Prop :=
  (∃ item ∈ s.run.sent, AdaptedEvent.Fails item)
    ∨ ∃ part, s.ToolClosed part ∧ TargetDelta.inputs s.deltas part ≠ []
      ∧ ∃ error, serde.fromStr (String.join (TargetDelta.inputs s.deltas part)) = .error error

/-- The response has the text that arrived in time, and it fails only if it may. -/
structure AnswersTruly : Prop where
  text : ∀ parsed value, s.response serde = .ok (parsed, value)
    → parsed.text = TargetDelta.textInTime s.deltas
  failure : ∀ error, s.response serde = .error error → s.MayFail serde

/-- Every tool that was closed had got input, and no text came behind the end of the message. -/
structure HeardInTime : Prop where
  inputs : ∀ part, s.ToolClosed part → TargetDelta.inputs s.deltas part ≠ []
  text : ∀ delta ∈ s.deltas, delta.isText = true → delta.late = true → delta.delta = ""

end HeardRun

structure Heard (events : List AdaptedEvent) (deltas : List TargetDelta)
    (indices : IndexMap String Nat) (started stopped : List String) : Prop
    extends OpenCodeEventAdapter.Ledger indices started stopped where
  told : ∀ delta ∈ deltas, delta.part ∈ started
  text : (gatheredFrom events).textBuf = TargetDelta.allText deltas
  tools : ∀ index tool, (gatheredFrom events).acc.tools.lookup index = some tool
    → indices.get tool.id = some index
      ∧ tool.jsonBuf = String.join (TargetDelta.inputs deltas tool.id)
      ∧ (tool.complete = true ↔ tool.id ∈ stopped)
  blocks : ∀ part, (∃ index name, .blockStart index part (.toolUse name) ∈ events)
    ↔ ∃ index tool, (gatheredFrom events).acc.tools.lookup index = some tool ∧ tool.id = part

section Gathered

variable (events : List AdaptedEvent) (event : AdaptedEvent)

theorem gatheredFrom_append
    : gatheredFrom (events ++ [event]) = (gatheredFrom events).advance event.toEvent := by
  unfold gatheredFrom StreamState.gathered
  rw [List.map_append, List.foldl_append]
  rfl

theorem textBuf_gatheredFrom_append
    : (gatheredFrom (events ++ [event])).textBuf
        = (gatheredFrom events).textBuf ++ event.toEvent.textPart := by
  rw [gatheredFrom_append, StreamState.textBuf_advance]

theorem tools_gatheredFrom_append
    : (gatheredFrom (events ++ [event])).acc.tools
        = Keyed.step (gatheredFrom events).acc.tools event.toEvent.toolAction := by
  rw [gatheredFrom_append, StreamState.tools_advance]

end Gathered

namespace Heard

variable {events : List AdaptedEvent} {deltas : List TargetDelta} {indices : IndexMap String Nat}
  {started stopped : List String}

theorem skipTools (h : Heard events deltas indices started stopped) {event : AdaptedEvent}
    (htool : event.toEvent.toolAction = .skip)
    (hblock : ∀ index part name, event ≠ .blockStart index part (.toolUse name))
    {deltas' : List TargetDelta} (htold : ∀ delta ∈ deltas', delta.part ∈ started)
    (htext : (gatheredFrom events).textBuf ++ event.toEvent.textPart = TargetDelta.allText deltas')
    (hinputs : ∀ part, TargetDelta.inputs deltas' part = TargetDelta.inputs deltas part)
    : Heard (events ++ [event]) deltas' indices started stopped := by
  have htools : (gatheredFrom (events ++ [event])).acc.tools = (gatheredFrom events).acc.tools := by
    rw [tools_gatheredFrom_append, htool]
    rfl
  refine { h with told := htold, text := ?_, tools := ?_, blocks := ?_ }
  . rw [textBuf_gatheredFrom_append, htext]
  . rw [htools]
    intro index tool htool
    rw [hinputs]
    exact h.tools index tool htool
  . intro part
    rw [htools, ← h.blocks part]
    simp only [List.mem_append, List.mem_singleton]
    constructor
    . rintro ⟨index, name, hmem | heq⟩
      . exact ⟨index, name, hmem⟩
      . exact absurd heq.symm (hblock index part name)
    . rintro ⟨index, name, hmem⟩
      exact ⟨index, name, .inl hmem⟩

theorem quiet (h : Heard events deltas indices started stopped) {event : AdaptedEvent}
    (htext : event.toEvent.textPart = "") (htool : event.toEvent.toolAction = .skip)
    (hblock : ∀ index part name, event ≠ .blockStart index part (.toolUse name))
    : Heard (events ++ [event]) deltas indices started stopped := by
  refine h.skipTools htool hblock h.told ?_ (fun _ => rfl)
  rw [htext, String.append_empty, h.text]

theorem grow (h : Heard events deltas indices started stopped) {part : String}
    (hnew : part ∉ started)
    : Heard events deltas (indices.insert part indices.entries.length) (started ++ [part]) stopped := by
  refine { h.toLedger.insert hnew with told := ?_, text := h.text, tools := ?_, blocks := h.blocks }
  . intro delta hmem
    exact List.mem_append_left _ (h.told delta hmem)
  . intro index tool htool
    obtain ⟨hindex, hrest⟩ := h.tools index tool htool
    exact ⟨(h.get_insert hnew tool.id index).mpr (.inr hindex), hrest⟩

theorem inputs_eq_nil (h : Heard events deltas indices started stopped) {part : String}
    (hnew : part ∉ started)
    : TargetDelta.inputs deltas part = [] := by
  unfold TargetDelta.inputs
  rw [List.map_eq_nil_iff, List.filter_eq_nil_iff]
  intro delta hmem hdelta
  obtain ⟨_, hpart⟩ := Bool.and_eq_true_iff.mp hdelta
  exact hnew (eq_of_beq hpart ▸ h.told delta hmem)

theorem startTool (h : Heard events deltas indices started stopped) {part : String} {index : Nat}
    (hindex : indices.get part = some index)
    (hunused : ∀ tool, (gatheredFrom events).acc.tools.lookup index ≠ some tool)
    (hinputs : TargetDelta.inputs deltas part = []) (hopen : part ∉ stopped) (name : String)
    : Heard (events ++ [.blockStart index part (.toolUse name)]) deltas indices started stopped := by
  have htools : ∀ other,
      (gatheredFrom (events ++ [.blockStart index part (.toolUse name)])).acc.tools.lookup other
      = if other = index then some { id := part, name, jsonBuf := "", complete := false }
        else (gatheredFrom events).acc.tools.lookup other := by
    intro other
    rw [tools_gatheredFrom_append]
    change ((gatheredFrom events).acc.tools.insert index _).lookup other = _
    by_cases hother : other = index
    . rw [hother, if_pos rfl, AList.lookup_insert]
    . rw [if_neg hother, AList.lookup_insert_ne hother]
  refine { h with text := ?_, tools := ?_, blocks := ?_ }
  . rw [textBuf_gatheredFrom_append]
    exact String.append_empty.trans h.text
  . intro other tool htool
    rw [htools] at htool
    split at htool
    . next heq =>
      cases htool
      rw [heq, hinputs]
      exact ⟨hindex, rfl, iff_of_false nofun hopen⟩
    . exact h.tools other tool htool
  . intro other
    simp only [List.mem_append, List.mem_singleton, htools]
    constructor
    . rintro ⟨index', name', hmem | heq⟩
      . obtain ⟨index'', tool, htool, hid⟩ := (h.blocks other).mp ⟨index', name', hmem⟩
        have hne : index'' ≠ index := by
          rintro rfl
          exact hunused tool htool
        exact ⟨index'', tool, (if_neg hne).trans htool, hid⟩
      . cases heq
        exact ⟨index, _, if_pos rfl, rfl⟩
    . rintro ⟨index', tool, htool, rfl⟩
      split at htool
      . cases htool
        exact ⟨index, name, .inr rfl⟩
      . obtain ⟨index'', name', hmem⟩ := (h.blocks tool.id).mpr ⟨index', tool, htool, rfl⟩
        exact ⟨index'', name', .inl hmem⟩

theorem updateTool (h : Heard events deltas indices started stopped) {part : String} {index : Nat}
    (hindex : indices.get part = some index) {event : AdaptedEvent} {f : ToolAccState → ToolAccState}
    (hevent : event.toEvent.toolAction = .update index f) (hf : ∀ tool, (f tool).id = tool.id)
    (hblock : ∀ index part name, event ≠ .blockStart index part (.toolUse name))
    {deltas' : List TargetDelta} {stopped' : List String}
    (hledger : OpenCodeEventAdapter.Ledger indices started stopped')
    (htold : ∀ delta ∈ deltas', delta.part ∈ started)
    (htext : (gatheredFrom events).textBuf ++ event.toEvent.textPart = TargetDelta.allText deltas')
    (hupdated : ∀ tool, tool.id = part
      → tool.jsonBuf = String.join (TargetDelta.inputs deltas part)
      → (tool.complete = true ↔ part ∈ stopped)
      → (f tool).jsonBuf = String.join (TargetDelta.inputs deltas' part)
        ∧ ((f tool).complete = true ↔ part ∈ stopped'))
    (hothers : ∀ other, other ≠ part
      → TargetDelta.inputs deltas' other = TargetDelta.inputs deltas other
        ∧ (other ∈ stopped' ↔ other ∈ stopped))
    : Heard (events ++ [event]) deltas' indices started stopped' := by
  have htools : ∀ other, (gatheredFrom (events ++ [event])).acc.tools.lookup other
      = if other = index then ((gatheredFrom events).acc.tools.lookup index).map f
        else (gatheredFrom events).acc.tools.lookup other := by
    intro other
    rw [tools_gatheredFrom_append, hevent, Keyed.lookup_step_update]
  refine { hledger with told := htold, text := ?_, tools := ?_, blocks := ?_ }
  . rw [textBuf_gatheredFrom_append, htext]
  . intro other tool htool
    rw [htools] at htool
    split at htool
    . next heq =>
      subst heq
      obtain ⟨before, hbefore, rfl⟩ := Option.map_eq_some_iff.mp htool
      obtain ⟨hget, hbuf, hcomplete⟩ := h.tools other before hbefore
      have hid : before.id = part := h.injective before.id part other hget hindex
      rw [hf]
      refine ⟨hget, ?_⟩
      rw [hid] at hbuf hcomplete ⊢
      exact hupdated before hid hbuf hcomplete
    . next hne =>
      obtain ⟨hget, hbuf, hcomplete⟩ := h.tools other tool htool
      have hid : tool.id ≠ part := by
        intro hid
        rw [hid, hindex] at hget
        exact hne (Option.some.inj hget).symm
      rw [(hothers tool.id hid).1, (hothers tool.id hid).2]
      exact ⟨hget, hbuf, hcomplete⟩
  . intro other
    have hsame : (∃ index' tool, (gatheredFrom (events ++ [event])).acc.tools.lookup index' = some tool
          ∧ tool.id = other)
        ↔ ∃ index' tool, (gatheredFrom events).acc.tools.lookup index' = some tool
          ∧ tool.id = other := by
      constructor
      . rintro ⟨index', tool, htool, hid⟩
        rw [htools] at htool
        split at htool
        . obtain ⟨before, hbefore, rfl⟩ := Option.map_eq_some_iff.mp htool
          exact ⟨index, before, hbefore, (hf before).symm.trans hid⟩
        . exact ⟨index', tool, htool, hid⟩
      . rintro ⟨index', tool, htool, hid⟩
        by_cases heq : index' = index
        . subst heq
          refine ⟨index', f tool, ?_, (hf tool).trans hid⟩
          rw [htools, if_pos rfl, htool, Option.map_some]
        . exact ⟨index', tool, (htools index').trans ((if_neg heq).trans htool), hid⟩
    rw [hsame, ← h.blocks other]
    simp only [List.mem_append, List.mem_singleton]
    constructor
    . rintro ⟨index', name, hmem | heq⟩
      . exact ⟨index', name, hmem⟩
      . exact absurd heq.symm (hblock index' other name)
    . rintro ⟨index', name, hmem⟩
      exact ⟨index', name, .inl hmem⟩

theorem closeBlock (h : Heard events deltas indices started stopped) {part : String} {index : Nat}
    (hindex : indices.get part = some index)
    : Heard (events ++ [.blockStop index]) deltas indices started (stopped ++ [part]) := by
  have hstarted : part ∈ started := (h.started_iff part).mpr ⟨index, hindex⟩
  have hevent : (AdaptedEvent.blockStop index).toEvent.toolAction
      = .update index (fun tool => { tool with complete := true }) := rfl
  refine h.updateTool hindex hevent (fun _ => rfl) (fun _ _ _ => nofun) (h.toLedger.stop hstarted)
    h.told ?_ ?_ ?_
  . exact String.append_empty.trans h.text
  . intro tool _ hbuf _
    exact ⟨hbuf, iff_of_true rfl (List.mem_append_right _ (List.mem_singleton_self part))⟩
  . intro other hne
    refine ⟨rfl, ?_⟩
    rw [List.mem_append, List.mem_singleton, or_iff_left hne]

theorem told_append (h : Heard events deltas indices started stopped) {delta : TargetDelta}
    (hstarted : delta.part ∈ started)
    : ∀ other ∈ deltas ++ [delta], other.part ∈ started := by
  intro other hmem
  obtain hmem | hmem := List.mem_append.mp hmem
  . exact h.told other hmem
  . rw [List.mem_singleton.mp hmem]
    exact hstarted

theorem hearText (h : Heard events deltas indices started stopped) {part : String} {index : Nat}
    (hstarted : part ∈ started) (text : String) (late : Bool)
    : Heard (events ++ [.textDelta index text])
        (deltas ++ [{ part, isText := true, delta := text, late }]) indices started stopped := by
  refine h.skipTools rfl (fun _ _ _ => by nofun) (h.told_append hstarted) ?_ ?_
  . rw [h.text]
    unfold TargetDelta.allText
    rw [List.filter_append, List.map_append, String.join_append]
    simp [AdaptedEvent.toEvent, StreamEvent.textPart]
  . intro other
    unfold TargetDelta.inputs
    rw [List.filter_append]
    exact congrArg _ (List.append_nil _)

theorem hearInput (h : Heard events deltas indices started stopped) {part : String} {index : Nat}
    (hindex : indices.get part = some index) (text : String) (late : Bool)
    : Heard (events ++ [.inputDelta index text])
        (deltas ++ [{ part, isText := false, delta := text, late }]) indices started stopped := by
  have hstarted : part ∈ started := (h.started_iff part).mpr ⟨index, hindex⟩
  have hevent : (AdaptedEvent.inputDelta index text).toEvent.toolAction
      = .update index (fun tool => { tool with jsonBuf := tool.jsonBuf ++ text }) := rfl
  refine h.updateTool hindex hevent (fun _ => rfl) (fun _ _ _ => nofun) h.toLedger
    (h.told_append hstarted) ?_ ?_ ?_
  . unfold TargetDelta.allText
    rw [List.filter_append]
    exact String.append_empty.trans (h.text.trans (congrArg _ (congrArg _ (List.append_nil _).symm)))
  . intro tool _ hbuf hcomplete
    refine ⟨?_, hcomplete⟩
    unfold TargetDelta.inputs at hbuf ⊢
    rw [List.filter_append, List.map_append, String.join_append, ← hbuf]
    simp
  . intro other hne
    refine ⟨?_, Iff.rfl⟩
    unfold TargetDelta.inputs
    rw [List.filter_append, List.map_append]
    simp [Ne.symm hne]

end Heard

namespace OpenCodeEventAdapter

def Hears (base : List AdaptedEvent) (deltas : List TargetDelta) (adapter : OpenCodeEventAdapter)
    : Prop :=
  Heard (base ++ adapter.buffered) deltas adapter.partIndices adapter.startedParts
    adapter.stoppedParts

section Operations

variable {base : List AdaptedEvent} {deltas : List TargetDelta} {adapter : OpenCodeEventAdapter}

theorem hears_queueSse {event : AdaptedEvent}
    (h : Heard (base ++ adapter.buffered ++ [event]) deltas adapter.partIndices adapter.startedParts
      adapter.stoppedParts)
    : (adapter.queueSse event).Hears base deltas := by
  rw [List.append_assoc] at h
  exact h

theorem hears_quiet (h : adapter.Hears base deltas) (event : AdaptedEvent)
    (htext : event.toEvent.textPart = "") (htool : event.toEvent.toolAction = .skip)
    (hblock : ∀ index part name, event ≠ .blockStart index part (.toolUse name))
    : (adapter.queueSse event).Hears base deltas := by
  exact hears_queueSse (Heard.quiet h htext htool hblock)

theorem hears_ensureMessageStarted (h : adapter.Hears base deltas)
    : adapter.ensureMessageStarted.Hears base deltas := by
  unfold ensureMessageStarted
  split
  . exact h
  . split
    . exact h
    . exact hears_quiet h _ rfl rfl (fun _ _ _ => nofun)

theorem hears_recordPartKind (h : adapter.Hears base deltas) (part : String) (kind : PartKind)
    : (adapter.recordPartKind part kind).Hears base deltas := by
  unfold recordPartKind
  split
  . exact h
  . exact h

theorem hears_ensurePartStarted (h : adapter.Hears base deltas) (part : String) (kind : PartKind)
    : (adapter.ensurePartStarted part kind).Hears base deltas := by
  unfold ensurePartStarted
  replace h := hears_recordPartKind (hears_ensureMessageStarted h) part kind
  revert h
  generalize adapter.ensureMessageStarted.recordPartKind part kind = adapter
  intro h
  dsimp only
  split
  . exact h
  . next hnew =>
    rw [partIndex_of_none (show IndexMap.get
      { adapter with startedParts := adapter.startedParts ++ [part] }.partIndices part = none
      from h.get_eq_none hnew)]
    dsimp only
    have hgrown := h.grow hnew
    have hindex := (h.get_insert hnew part adapter.partIndices.entries.length).mpr (.inl ⟨rfl, rfl⟩)
    cases (adapter.partKinds.get part).getD kind with
    | text => exact hears_queueSse (hgrown.quiet rfl rfl (fun _ _ _ h => by cases h))
    | toolUse name =>
      refine hears_queueSse (hgrown.startTool hindex ?_ (h.inputs_eq_nil hnew) ?_ name)
      . intro tool htool
        exact h.get_ne_length tool.id (h.tools _ tool htool).1
      . exact fun hstopped => hnew (h.stopped_started part hstopped)

theorem hears_stopPart (h : adapter.Hears base deltas) (part : String)
    : (adapter.stopPart part).Hears base deltas := by
  unfold stopPart
  split
  . exact h
  . next hopen =>
    obtain ⟨hstarted, _⟩ := not_or.mp hopen
    obtain ⟨index, hindex⟩ := (h.started_iff part).mp (not_not.mp hstarted)
    dsimp only
    rw [partIndex_of_get (show IndexMap.get
      { adapter with stoppedParts := adapter.stoppedParts ++ [part] }.partIndices part = some index
      from hindex)]
    exact hears_queueSse (h.closeBlock hindex)

variable (hash : HashOrder)

theorem hears_stopAllParts (h : adapter.Hears base deltas)
    : (adapter.stopAllParts hash).Hears base deltas := by
  unfold stopAllParts
  generalize hash.order adapter.startedParts = parts
  induction parts generalizing adapter with
  | nil => exact h
  | cons part parts ih => exact ih (hears_stopPart h part)

theorem hears_stopMessageIfNeeded (h : adapter.Hears base deltas)
    : (adapter.stopMessageIfNeeded hash).Hears base deltas := by
  unfold stopMessageIfNeeded
  split
  . exact h
  . have hsummary := hears_quiet (hears_stopAllParts hash h)
      (.messageDelta (adapter.stopAllParts hash).stopReason) rfl rfl (fun _ _ _ => nofun)
    exact hears_quiet hsummary .messageStop rfl rfl (fun _ _ _ => nofun)

variable (raw : Value)

theorem hears_handleTargetUpdated (h : adapter.Hears base deltas)
    : (adapter.handleTargetUpdated hash raw).Hears base deltas := by
  have hstarted := hears_ensureMessageStarted h
  unfold handleTargetUpdated
  dsimp only
  split
  . next stopReason _ =>
    have hreason : ({ adapter.ensureMessageStarted with
        stopReason := some stopReason } : OpenCodeEventAdapter).Hears base deltas := hstarted
    split
    . exact hears_stopAllParts hash hreason
    . exact hears_stopMessageIfNeeded hash hreason
  . split
    . exact hears_stopMessageIfNeeded hash hstarted
    . exact hstarted

theorem hears_followMessage (h : adapter.Hears base deltas) (messageId : String)
    (sameParentAssistant : Bool)
    : (adapter.followMessage hash messageId sameParentAssistant).Hears base deltas := by
  unfold followMessage
  split
  . exact h
  . split
    . exact hears_stopAllParts hash h
    . exact h

theorem hears_handleMessageUpdated (h : adapter.Hears base deltas)
    : (adapter.handleMessageUpdated hash raw).Hears base deltas := by
  unfold handleMessageUpdated
  split
  . exact h
  . split
    . exact h
    . next messageId _ =>
      extract_lets role parentId asked sameParentAssistant followed
      have hasked : asked.Hears base deltas := by
        unfold asked
        split
        . exact h
        . exact h
      have hfollowed : followed.Hears base deltas :=
        hears_followMessage hash hasked messageId sameParentAssistant
      split
      . exact hfollowed
      . exact hears_handleTargetUpdated hash raw hfollowed

theorem hears_handleMessagePartUpdated (h : adapter.Hears base deltas)
    : (adapter.handleMessagePartUpdated raw).Hears base deltas := by
  unfold handleMessagePartUpdated
  split
  . exact h
  . next part _ =>
    have hkind : ∀ kind, ({ adapter with
        partKinds := adapter.partKinds.insert part kind } : OpenCodeEventAdapter).Hears base deltas :=
      fun _ => h
    dsimp only
    split
    . exact hears_stopPart (hears_ensurePartStarted (hkind _) part _) part
    . exact hears_ensurePartStarted (hkind _) part _

theorem hears_handleSessionStatus (h : adapter.Hears base deltas)
    : (adapter.handleSessionStatus hash raw).Hears base deltas := by
  unfold handleSessionStatus
  dsimp only
  split
  . exact h
  . split
    . exact hears_quiet h _ rfl rfl (fun _ _ _ => nofun)
    . split
      . refine hears_stopMessageIfNeeded hash ?_
        exact h
      . exact h

theorem hears_handleMessagePartDelta (h : adapter.Hears base deltas) {part : String}
    (hpart : adapter.targetPart raw = some part) (late : Bool)
    : (adapter.handleMessagePartDelta raw).Hears base
        (deltas ++ [{
          part
          isText := OpenCodeEvent.isTextField ((OpenCodeEvent.extractField raw).getD "")
          delta := (OpenCodeEvent.extractDelta raw).getD ""
          late }]) := by
  unfold handleMessagePartDelta
  rw [hpart]
  have hnext := hears_ensurePartStarted h part (adapter.deltaKind raw part)
  have hmem : part ∈ (adapter.ensurePartStarted part (adapter.deltaKind raw part)).startedParts :=
    mem_startedParts_ensurePartStarted part _
  dsimp only
  revert hnext hmem
  generalize adapter.ensurePartStarted part (adapter.deltaKind raw part) = next
  intro hnext hmem
  obtain ⟨index, hindex⟩ := (hnext.started_iff part).mp hmem
  rw [partIndex_of_get hindex]
  dsimp only
  split
  . next htext =>
    rw [htext]
    exact hears_queueSse (hnext.hearText hmem _ late)
  . next htext =>
    rw [Bool.not_eq_true] at htext
    rw [htext]
    exact hears_queueSse (hnext.hearInput hindex _ late)

theorem targetDelta_of_ne (h : OpenCodeEvent.extractEventType raw ≠ some "message.part.delta")
    : adapter.targetDelta raw = none := by
  unfold targetDelta deltaPart
  rw [if_neg h]
  rfl

theorem hears_handleRawEvent (h : adapter.Hears base deltas)
    : (adapter.handleRawEvent hash raw).Hears base
        (deltas ++ (adapter.targetDelta raw).toList) := by
  by_cases htype : OpenCodeEvent.extractEventType raw = some "message.part.delta"
  . rw [handleRawEvent_of_delta hash raw htype]
    have hdelta : adapter.deltaPart raw = adapter.targetPart raw := if_pos htype
    unfold targetDelta
    rw [hdelta]
    cases hpart : adapter.targetPart raw with
    | none =>
      unfold handleMessagePartDelta
      rw [hpart]
      exact (List.append_nil deltas).symm ▸ h
    | some part => exact hears_handleMessagePartDelta raw h hpart adapter.messageStopped
  . rw [targetDelta_of_ne raw htype]
    change (adapter.handleRawEvent hash raw).Hears base (deltas ++ [])
    rw [List.append_nil]
    unfold handleRawEvent
    split
    . exact hears_handleMessageUpdated hash raw h
    . exact hears_handleMessagePartUpdated raw h
    . next heq => exact absurd heq htype
    . exact hears_handleSessionStatus hash raw h
    . exact h

theorem hears_flushEofOnce (h : adapter.Hears base deltas)
    : (adapter.flushEofOnce hash).Hears base deltas := by
  unfold flushEofOnce
  split
  . exact h
  . refine hears_stopMessageIfNeeded hash ?_
    exact h

theorem hears_pollTargetUserMessageId (h : adapter.Hears base deltas) (poll : MessageIdPoll)
    : (adapter.pollTargetUserMessageId poll).Hears base deltas := by
  obtain ⟨user, hpoll⟩ | ⟨error, hpoll⟩ := pollTargetUserMessageId_cases adapter poll
  . rw [hpoll]
    exact h
  . rw [hpoll]
    exact h

theorem buffered_pollTargetUserMessageId (poll : MessageIdPoll)
    : (adapter.pollTargetUserMessageId poll).buffered = adapter.buffered := by
  obtain ⟨user, hpoll⟩ | ⟨error, hpoll⟩ := pollTargetUserMessageId_cases adapter poll
  . rw [hpoll]
  . rw [hpoll]

end Operations

end OpenCodeEventAdapter

namespace HeardRun

open OpenCodeEventAdapter

def sentEvents (run : AdapterRun) : List AdaptedEvent :=
  run.sent.filterMap Except.toOption

structure Follows (s : HeardRun) : Prop where
  hears : s.run.adapter.Hears (sentEvents s.run) s.deltas
  emptied : s.run.ended = true → s.run.adapter.buffered = []

section Step

variable {serde : SerdeJson} {hash : HashOrder} {run : AdapterRun} {deltas : List TargetDelta}

theorem sentEvents_record (entries : List AdapterEntry)
    : sentEvents (run.record entries)
        = sentEvents run
          ++ (entries.filterMap AdapterEntry.sent?).filterMap Except.toOption := by
  unfold sentEvents AdapterRun.sent AdapterRun.record
  rw [List.filterMap_append, List.filterMap_append]

theorem follows_pop (h : run.adapter.Hears (sentEvents run) deltas) (hended : run.ended = false)
    {event : AdaptedEvent} {buffered : List AdaptedEvent}
    (hbuffered : run.adapter.buffered = event :: buffered)
    : Follows {
        run := { run with adapter := { run.adapter with buffered }, dataLines := [] }.record
          [.sent (.ok event)]
        deltas } := by
  refine ⟨?_, fun hend => absurd hend (by simp [AdapterRun.record, hended])⟩
  unfold Hears at h ⊢
  rw [hbuffered] at h
  rw [sentEvents_record]
  refine Eq.mp ?_ h
  congr 1
  exact (List.append_assoc (sentEvents run) [event] buffered).symm

theorem follows_failed {adapter : OpenCodeEventAdapter} (h : adapter.Hears (sentEvents run) deltas)
    (hbuffered : adapter.buffered = []) (entries : List AdapterEntry)
    (hentries : (entries.filterMap AdapterEntry.sent?).filterMap Except.toOption = [])
    (lines : UnifiedStreamSource)
    : Follows { run := { run with adapter, lines, ended := true }.record entries, deltas } := by
  refine ⟨?_, fun _ => hbuffered⟩
  rw [sentEvents_record, hentries, List.append_nil]
  exact h

theorem follows_onBlank (h : run.adapter.Hears (sentEvents run) deltas) (hended : run.ended = false)
    : Follows {
        run := run.onBlank serde hash
        deltas := deltas
          ++ ((frameEvent serde run.dataLines).bind run.adapter.targetDelta).toList } := by
  unfold AdapterRun.onBlank
  cases frameEvent serde run.dataLines with
  | none =>
    refine ⟨?_, fun hend => absurd hend (by simp [hended])⟩
    exact (List.append_nil deltas).symm ▸ h
  | some raw =>
    refine ⟨hears_handleRawEvent hash raw h, ?_⟩
    intro hend
    exact List.isEmpty_iff.mp (Bool.and_eq_true_iff.mp hend).1

theorem follows_onEof (h : run.adapter.Hears (sentEvents run) deltas)
    : Follows {
        run := run.onEof serde hash
        deltas := deltas
          ++ ((frameEvent serde run.dataLines).bind run.adapter.targetDelta).toList } := by
  unfold AdapterRun.onEof
  cases frameEvent serde run.dataLines with
  | none =>
    refine ⟨?_, fun hend => List.isEmpty_iff.mp hend⟩
    exact (List.append_nil deltas).symm ▸ hears_flushEofOnce hash h
  | some raw =>
    refine ⟨?_, fun hend => List.isEmpty_iff.mp hend⟩
    exact hears_flushEofOnce hash (hears_handleRawEvent hash raw h)

variable (serde hash run) in
theorem follows_readItem (h : run.adapter.Hears (sentEvents run) deltas)
    (hended : run.ended = false) (hbuffered : run.adapter.buffered = [])
    : Follows {
        run := run.readItem serde hash
        deltas := deltas ++ ((run.eventRead serde).bind run.adapter.targetDelta).toList } := by
  unfold AdapterRun.readItem AdapterRun.eventRead
  split
  . next line lines hlines =>
    have hread : sentEvents ({ run with lines }.record [.read (.ok line)]) = sentEvents run :=
      (sentEvents_record _).trans (List.append_nil _)
    have hbefore : ({ run with lines }.record [.read (.ok line)]).adapter.Hears
        (sentEvents ({ run with lines }.record [.read (.ok line)])) deltas := by
      rw [hread]
      exact h
    unfold AdapterRun.onLine
    dsimp only
    split
    . exact follows_onBlank hbefore hended
    . have hkept : deltas = deltas ++ (none.bind run.adapter.targetDelta).toList :=
        (List.append_nil deltas).symm
      rw [← hkept]
      split
      . exact ⟨hbefore, fun hend => absurd hend (by simp [AdapterRun.record, hended])⟩
      . exact ⟨hbefore, fun hend => absurd hend (by simp [AdapterRun.record, hended])⟩
  . next error lines hlines =>
    have hkept : deltas = deltas ++ (none.bind run.adapter.targetDelta).toList :=
      (List.append_nil deltas).symm
    rw [← hkept]
    exact follows_failed h hbuffered _ rfl lines
  . exact follows_onEof h

theorem follows_step {s s' : HeardRun} {poll : MessageIdPoll} (h : s.Follows)
    (hstep : s.step serde hash poll = some s')
    : s'.Follows := by
  obtain ⟨run', hturn, rfl⟩ := Option.map_eq_some_iff.mp hstep
  unfold AdapterRun.turn at hturn
  unfold deltaRead
  split at hturn
  . cases hturn
  . next hended =>
    rw [Bool.not_eq_true] at hended
    split at hturn
    . next event buffered hbuffered =>
      cases hturn
      rw [hbuffered]
      exact (List.append_nil s.deltas).symm ▸ follows_pop h.hears hended hbuffered
    . next hbuffered =>
      rw [hbuffered]
      dsimp only at hturn
      split at hturn
      . next error herror =>
        cases hturn
        rw [herror]
        have hkept := (List.append_nil s.deltas).symm
        refine hkept ▸ follows_failed ?_ ?_ [.sent (.error error)] rfl s.run.lines
        . exact hears_pollTargetUserMessageId h.hears poll
        . rw [← hbuffered]
          exact buffered_pollTargetUserMessageId poll
      . next hnone =>
        cases hturn
        rw [hnone]
        have hpolled := follows_readItem serde hash
          { s.run with adapter := s.run.adapter.pollTargetUserMessageId poll }
          (hears_pollTargetUserMessageId h.hears poll) hended
          ((buffered_pollTargetUserMessageId poll).trans hbuffered)
        have hdelta : ∀ raw, (s.run.adapter.pollTargetUserMessageId poll).targetDelta raw
            = s.run.adapter.targetDelta raw := by
          intro raw
          obtain ⟨user, hpoll⟩ | ⟨error, hpoll⟩ := pollTargetUserMessageId_cases s.run.adapter poll
          . rw [hpoll]
            rfl
          . rw [hpoll]
            rfl
        rw [funext hdelta] at hpolled
        exact hpolled

theorem follows_start (targetSessionId : String) (lines : UnifiedStreamSource)
    : Follows (start targetSessionId lines) := by
  refine ⟨⟨ledger_new targetSessionId, nofun, rfl, nofun, ?_⟩, nofun⟩
  intro part
  exact iff_of_false nofun nofun

end Step

end HeardRun

namespace TargetDelta

variable (deltas : List TargetDelta)

theorem length_textInTime_le : (textInTime deltas).length ≤ (allText deltas).length := by
  unfold textInTime allText
  induction deltas with
  | nil => exact Nat.le_refl _
  | cons delta deltas ih =>
    rw [List.filter_cons, List.filter_cons]
    cases delta.isText with
    | false => exact ih
    | true =>
      cases delta.late with
      | false => simpa using ih
      | true =>
        simp only [Bool.not_true, Bool.and_false, Bool.false_eq_true, if_false, if_true,
          List.map_cons, String.join_cons, String.length_append]
        exact Nat.le_trans ih (Nat.le_add_left ..)

theorem allText_eq_textInTime_iff
    : allText deltas = textInTime deltas
        ↔ ∀ delta ∈ deltas, delta.isText = true → delta.late = true → delta.delta = "" := by
  induction deltas with
  | nil => simp [textInTime, allText]
  | cons delta deltas ih =>
    have hlength := length_textInTime_le deltas
    rw [List.forall_mem_cons, ← ih]
    unfold textInTime allText at hlength ⊢
    rw [List.filter_cons, List.filter_cons]
    cases delta.isText with
    | false => simp
    | true =>
      cases delta.late with
      | false => simp
      | true =>
        simp only [Bool.not_true, Bool.and_false, Bool.false_eq_true, if_false, if_true,
          List.map_cons, String.join_cons, forall_const]
        constructor
        . intro heq
          have hlengths := congrArg String.length heq
          rw [String.length_append] at hlengths
          have hempty : delta.delta = "" := by
            rw [← String.length_eq_zero_iff]
            omega
          rw [hempty, String.empty_append] at heq
          exact ⟨hempty, heq⟩
        . rintro ⟨hempty, heq⟩
          rw [hempty, String.empty_append, heq]

end TargetDelta

namespace HeardRun

open OpenCodeEventAdapter

section Ended

variable {serde : SerdeJson} {s : HeardRun}

theorem mem_sentEvents_iff {run : AdapterRun} {event : AdaptedEvent}
    : event ∈ sentEvents run ↔ .ok event ∈ run.sent := by
  unfold sentEvents
  rw [List.mem_filterMap]
  constructor
  . rintro ⟨item, hmem, hitem⟩
    cases item with
    | error error => cases hitem
    | ok event' =>
      cases hitem
      exact hmem
  . intro hmem
    exact ⟨_, hmem, rfl⟩

theorem sent_eq_map_ok {run : AdapterRun} (h : ¬ ∃ item ∈ run.sent, AdaptedEvent.Fails item)
    : run.sent = (sentEvents run).map Except.ok := by
  have hmap : ∀ items : List (Except TaskExecutorError AdaptedEvent),
      (∀ item ∈ items, ¬ AdaptedEvent.Fails item)
        → items = (items.filterMap Except.toOption).map Except.ok := by
    intro items hitems
    induction items with
    | nil => rfl
    | cons item items ih =>
      cases item with
      | error error => exact absurd trivial (hitems _ (List.mem_cons_self ..))
      | ok event =>
        have hrest := ih (fun item hmem => hitems item (List.mem_cons_of_mem _ hmem))
        exact congrArg (List.cons (Except.ok event)) hrest
  exact hmap run.sent (fun item hmem hfails => h ⟨item, hmem, hfails⟩)

variable (hs : s.Follows) (hended : s.run.ended = true)

include hs hended in
theorem heard_of_ended
    : Heard (sentEvents s.run) s.deltas s.run.adapter.partIndices s.run.adapter.startedParts
        s.run.adapter.stoppedParts := by
  have hhears := hs.hears
  unfold Hears at hhears
  rw [hs.emptied hended, List.append_nil] at hhears
  exact hhears

variable (hcarried : ∀ event, .ok event ∈ s.run.sent → event.CarriedBy serde)

include hcarried in
theorem response_of_fails (hfails : ∃ item ∈ s.run.sent, AdaptedEvent.Fails item)
    : ∃ error, s.response serde = .error error := by
  obtain ⟨item, hmem, hitem⟩ := hfails
  obtain ⟨error, herror⟩ := foldlM_onLine_of_fails hcarried hmem hitem {}
  refine ⟨error, ?_⟩
  unfold response consumeRuntimeStream
  rw [herror]
  rfl

include hcarried in
theorem response_of_not_fails (hfails : ¬ ∃ item ∈ s.run.sent, AdaptedEvent.Fails item)
    : s.response serde = ((gatheredFrom (sentEvents s.run)).finish serde).mapError (fun error =>
        { kind := .responseParseFailed
          stage := .planExecute
          internalMessage := error.message }) := by
  have hsent := sent_eq_map_ok hfails
  have hevents : ∀ event ∈ sentEvents s.run, event.CarriedBy serde :=
    fun event hmem => hcarried event (mem_sentEvents_iff.mp hmem)
  have hok : ∀ event ∈ sentEvents s.run, event.toEvent.isError = false := by
    intro event hmem
    rw [← Bool.not_eq_true]
    exact fun herror => hfails ⟨_, mem_sentEvents_iff.mp hmem, herror⟩
  unfold response consumeRuntimeStream
  rw [hsent, foldlM_onLine_of_ok hevents hok]
  rfl

include hs hended in
theorem complete_iff_toolClosed {index : Nat} {tool : ToolAccState}
    (htool : (gatheredFrom (sentEvents s.run)).acc.tools.lookup index = some tool)
    : tool.complete = true ↔ s.ToolClosed tool.id := by
  have hheard := heard_of_ended hs hended
  rw [(hheard.tools index tool htool).2.2]
  refine ⟨fun hstopped => ⟨hstopped, ?_⟩, And.left⟩
  obtain ⟨index', name, hmem⟩ := (hheard.blocks tool.id).mpr ⟨index, tool, htool, rfl⟩
  exact ⟨index', name, mem_sentEvents_iff.mp hmem⟩

include hs hended hcarried in
theorem response_of_malformed {part : String} (hclosed : s.ToolClosed part)
    (hinput : ∃ error, serde.fromStr (String.join (TargetDelta.inputs s.deltas part)) = .error error)
    : ∃ error, s.response serde = .error error := by
  by_cases hfails : ∃ item ∈ s.run.sent, AdaptedEvent.Fails item
  . exact response_of_fails hcarried hfails
  . have hheard := heard_of_ended hs hended
    obtain ⟨index, name, hmem⟩ := hclosed.2
    obtain ⟨index', tool, htool, rfl⟩ :=
      (hheard.blocks part).mp ⟨index, name, mem_sentEvents_iff.mpr hmem⟩
    have hmalformed : ¬ tool.WellFormed serde := by
      rintro ⟨input, hparsed⟩
      obtain ⟨error, herror⟩ := hinput
      rw [(hheard.tools index' tool htool).2.1, herror] at hparsed
      cases hparsed
    obtain ⟨error, herror⟩ := finish_of_malformed htool
      ((complete_iff_toolClosed hs hended htool).mpr hclosed) hmalformed
    rw [response_of_not_fails hcarried hfails, herror]
    exact ⟨_, rfl⟩

include hs hended hcarried in
theorem response_of_ready (hfails : ¬ ∃ item ∈ s.run.sent, AdaptedEvent.Fails item)
    (hready : ∀ part, s.ToolClosed part
      → ∃ input, serde.fromStr (String.join (TargetDelta.inputs s.deltas part)) = .ok input)
    : ∃ parsed value, s.response serde = .ok (parsed, value)
        ∧ parsed.text = TargetDelta.allText s.deltas := by
  have hheard := heard_of_ended hs hended
  have htools : ∀ index tool, (gatheredFrom (sentEvents s.run)).acc.tools.lookup index = some tool
      → tool.complete = true → tool.WellFormed serde := by
    intro index tool htool hcomplete
    unfold ToolAccState.WellFormed
    rw [(hheard.tools index tool htool).2.1]
    exact hready tool.id ((complete_iff_toolClosed hs hended htool).mp hcomplete)
  obtain ⟨parsed, value, hfinish, htext⟩ := finish_of_ready htools
  refine ⟨parsed, value, ?_, htext.trans hheard.text⟩
  rw [response_of_not_fails hcarried hfails, hfinish]
  rfl

include hs hended hcarried in
theorem answersTruly_iff_heardInTime (hempty : ∃ error, serde.fromStr "" = .error error)
    : s.AnswersTruly serde ↔ s.MayFail serde ∨ s.HeardInTime := by
  by_cases hmay : s.MayFail serde
  . have herror : ∃ error, s.response serde = .error error := by
      obtain hfails | ⟨part, hclosed, _, hinput⟩ := hmay
      . exact response_of_fails hcarried hfails
      . exact response_of_malformed hs hended hcarried hclosed hinput
    obtain ⟨error, herror⟩ := herror
    refine iff_of_true ⟨?_, fun _ _ => hmay⟩ (.inl hmay)
    intro parsed value hok
    rw [herror] at hok
    cases hok
  . have hfails : ¬ ∃ item ∈ s.run.sent, AdaptedEvent.Fails item := fun h => hmay (.inl h)
    rw [or_iff_right hmay]
    by_cases hall : ∀ part, s.ToolClosed part → TargetDelta.inputs s.deltas part ≠ []
    . have hready : ∀ part, s.ToolClosed part
          → ∃ input, serde.fromStr (String.join (TargetDelta.inputs s.deltas part)) = .ok input := by
        intro part hclosed
        cases hinput : serde.fromStr (String.join (TargetDelta.inputs s.deltas part)) with
        | ok input => exact ⟨input, rfl⟩
        | error error => exact absurd (.inr ⟨part, hclosed, hall part hclosed, error, hinput⟩) hmay
      obtain ⟨parsed, value, hok, htext⟩ := response_of_ready hs hended hcarried hfails hready
      have hlate := TargetDelta.allText_eq_textInTime_iff s.deltas
      rw [← htext] at hlate
      constructor
      . intro h
        exact ⟨hall, hlate.mp (h.text parsed value hok)⟩
      . intro h
        constructor
        . intro parsed' value' hok'
          cases hok.symm.trans hok'
          exact hlate.mpr h.text
        . intro error herror
          rw [hok] at herror
          cases herror
    . refine iff_of_false ?_ (fun h => hall h.inputs)
      intro h
      push Not at hall
      obtain ⟨part, hclosed, hnil⟩ := hall
      have hinput : ∃ error,
          serde.fromStr (String.join (TargetDelta.inputs s.deltas part)) = .error error := by
        rw [hnil]
        exact hempty
      obtain ⟨error, herror⟩ := response_of_malformed hs hended hcarried hclosed hinput
      exact hmay (h.failure error herror)

end Ended

section Progress

variable {serde : SerdeJson} {hash : HashOrder} {run run' : AdapterRun} {poll : MessageIdPoll}

theorem eofFlushed_stopPart (adapter : OpenCodeEventAdapter) (part : String)
    : (adapter.stopPart part).eofFlushed = adapter.eofFlushed := by
  unfold stopPart
  split
  . rfl
  . unfold partIndex
    dsimp only
    split <;> rfl

theorem eofFlushed_stopMessageIfNeeded (adapter : OpenCodeEventAdapter)
    : (adapter.stopMessageIfNeeded hash).eofFlushed = adapter.eofFlushed := by
  have hall : ∀ (parts : List String) (adapter : OpenCodeEventAdapter),
      (parts.foldl stopPart adapter).eofFlushed = adapter.eofFlushed := by
    intro parts
    induction parts with
    | nil => exact fun _ => rfl
    | cons part parts ih => exact fun adapter => (ih _).trans (eofFlushed_stopPart adapter part)
  unfold stopMessageIfNeeded
  split
  . rfl
  . exact hall _ adapter

theorem eofFlushed_flushEofOnce (adapter : OpenCodeEventAdapter)
    : (adapter.flushEofOnce hash).eofFlushed = true := by
  unfold flushEofOnce
  split
  . assumption
  . exact eofFlushed_stopMessageIfNeeded _

def pending (run : AdapterRun) : Nat :=
  run.dataLines.length + if run.adapter.eofFlushed then 0 else 1

def Less (run' run : AdapterRun) : Prop :=
  Prod.Lex (· < ·) (Prod.Lex (· < ·) (· < ·))
    (run'.lines.length, pending run', run'.adapter.buffered.length)
    (run.lines.length, pending run, run.adapter.buffered.length)

theorem lines_onLine (line : String) : (run.onLine serde hash line).lines = run.lines := by
  unfold AdapterRun.onLine AdapterRun.onBlank
  dsimp only
  split
  . split <;> rfl
  . split <;> rfl

theorem less_onEof (hbuffered : run.adapter.buffered = [])
    : (run.onEof serde hash).ended = true ∨ Less (run.onEof serde hash) run := by
  have hafter : pending (run.onEof serde hash) = 0 := by
    unfold pending AdapterRun.onEof
    dsimp only
    rw [eofFlushed_flushEofOnce]
    rfl
  have hkept : (run.onEof serde hash).lines = run.lines := by
    unfold AdapterRun.onEof
    dsimp only
    split <;> rfl
  cases hpending : pending run with
  | succ n =>
    right
    unfold Less
    rw [hafter, hkept, hpending]
    exact Prod.Lex.right _ (Prod.Lex.left _ _ (Nat.succ_pos n))
  | zero =>
    left
    unfold pending at hpending
    obtain ⟨hdata, hflushed⟩ := Nat.add_eq_zero_iff.mp hpending
    have hnil := List.length_eq_zero_iff.mp hdata
    have heof : run.adapter.eofFlushed = true := by
      rw [← Bool.not_eq_false]
      intro h
      rw [h] at hflushed
      cases hflushed
    unfold AdapterRun.onEof
    rw [hnil, AdapterRun.frameEvent_nil]
    dsimp only
    unfold flushEofOnce
    rw [if_pos heof, hbuffered]
    rfl

theorem less_readItem (hbuffered : run.adapter.buffered = [])
    : (run.readItem serde hash).ended = true ∨ Less (run.readItem serde hash) run := by
  unfold AdapterRun.readItem
  split
  . next line lines hlines =>
    right
    unfold Less
    rw [lines_onLine, hlines]
    exact Prod.Lex.left _ _ (Nat.lt_succ_self _)
  . exact .inl rfl
  . exact less_onEof hbuffered

theorem less_turn (hturn : run.turn serde hash poll = some run')
    : run'.ended = true ∨ Less run' run := by
  unfold AdapterRun.turn at hturn
  split at hturn
  . cases hturn
  . split at hturn
    . next event buffered hbuffered =>
      cases hturn
      right
      unfold Less pending AdapterRun.record
      dsimp only
      rw [hbuffered]
      refine Prod.Lex.right _ ?_
      cases run.dataLines with
      | nil => exact Prod.Lex.right _ (Nat.lt_succ_self _)
      | cons line lines =>
        refine Prod.Lex.left _ _ ?_
        rw [List.length_nil, List.length_cons]
        omega
    . next hbuffered =>
      dsimp only at hturn
      split at hturn
      . cases hturn
        exact .inl rfl
      . cases hturn
        obtain ⟨user, hpoll⟩ | ⟨error, hpoll⟩ := pollTargetUserMessageId_cases run.adapter poll
        . rw [hpoll]
          exact less_readItem hbuffered
        . rw [hpoll]
          exact less_readItem hbuffered

theorem less_step {s s' : HeardRun} (hstep : s.step serde hash poll = some s')
    : s'.run.ended = true ∨ Less s'.run s.run := by
  obtain ⟨run', hturn, rfl⟩ := Option.map_eq_some_iff.mp hstep
  exact less_turn hturn

variable (serde hash) in
theorem exists_step {s : HeardRun} (hended : s.run.ended = false) (poll : MessageIdPoll)
    : ∃ s', s.step serde hash poll = some s' := by
  unfold step AdapterRun.turn
  rw [if_neg (by simp [hended])]
  split
  . exact ⟨_, rfl⟩
  . dsimp only
    split
    . exact ⟨_, rfl⟩
    . exact ⟨_, rfl⟩

variable (serde hash) in
theorem exists_ended (s : HeardRun) (polls : Nat → MessageIdPoll)
    : ∃ n s', Runs.run (step serde hash) s ((List.range n).map polls) = some s'
        ∧ s'.run.ended = true := by
  cases hended : s.run.ended with
  | true => exact ⟨0, s, rfl, hended⟩
  | false =>
    obtain ⟨next, hstep⟩ := exists_step serde hash hended (polls 0)
    have hrange : ∀ n, (List.range (n + 1)).map polls
        = polls 0 :: (List.range n).map (fun k => polls (k + 1)) := by
      intro n
      rw [List.range_succ_eq_map, List.map_cons, List.map_map]
      rfl
    obtain hend | hless := less_step hstep
    . refine ⟨1, next, ?_, hend⟩
      rw [hrange, Runs.run_cons_of_some _ hstep]
      rfl
    . obtain ⟨n, s', hrun, hend⟩ := exists_ended next (fun k => polls (k + 1))
      refine ⟨n + 1, s', ?_, hend⟩
      rw [hrange, Runs.run_cons_of_some _ hstep, hrun]
termination_by (s.run.lines.length, pending s.run, s.run.adapter.buffered.length)
decreasing_by exact hless

variable (serde hash) in
/--
Whatever the polls find, the consumer gets an answer, and it is what it should be exactly if it may fail
or everything was heard in time.
-/
theorem exists_answersTruly_iff (targetSessionId : String) (lines : UnifiedStreamSource)
    (polls : Nat → MessageIdPoll)
    (hcarried : ∀ n s, Runs.run (step serde hash) (start targetSessionId lines)
        ((List.range n).map polls) = some s
      → s.run.ended = true → ∀ event, .ok event ∈ s.run.sent → event.CarriedBy serde)
    (hempty : ∃ error, serde.fromStr "" = .error error)
    : ∃ n s, Runs.run (step serde hash) (start targetSessionId lines) ((List.range n).map polls)
          = some s
        ∧ s.run.ended = true ∧ (s.AnswersTruly serde ↔ s.MayFail serde ∨ s.HeardInTime) := by
  obtain ⟨n, s, hrun, hended⟩ := exists_ended serde hash (start targetSessionId lines) polls
  have hfollows : s.Follows :=
    (Runs.always_of_forall_step (fun _ _ _ => follows_step) _
      (follows_start targetSessionId lines)).run_eq_some hrun
  exact ⟨n, s, hrun, hended,
    answersTruly_iff_heardInTime hfollows hended (hcarried n s hrun hended) hempty⟩

end Progress

section Samples

def assistantEvent : Value :=
  .object [
    ("messageID", .string "a"),
    ("parentID", .string "u"),
    ("role", .string "assistant"),
    ("sessionID", .string "s"),
    ("type", .string "message.updated")]

def toolEvent : Value :=
  .object [
    ("messageID", .string "a"),
    ("part", .object [("type", .string "tool")]),
    ("partID", .string "p"),
    ("sessionID", .string "s"),
    ("type", .string "message.part.updated")]

def toolEvents : List AdaptedEvent :=
  [.messageStart "a", .blockStart 0 "p" (.toolUse "tool"), .blockStop 0, .messageDelta none,
    .messageStop]

def toolFormat : SerdeJson :=
  .ofValues ([assistantEvent, toolEvent] ++ toolEvents.map AdaptedEvent.toValue)

def toolPolls (n : Nat) : MessageIdPoll :=
  if n = 0 then .received (.ok "u") else .empty

def toolRun (n : Nat) : Option HeardRun :=
  Runs.run (step toolFormat .inserted)
    (start "s" (AdapterRun.eventLines assistantEvent ++ AdapterRun.eventLines toolEvent))
    ((List.range n).map toolPolls)

theorem toolRun_ended
    : ∃ s, toolRun 11 = some s ∧ s.run.ended = true ∧ s.run.sent = toolEvents.map Except.ok
        ∧ s.deltas = [] ∧ "p" ∈ s.run.adapter.stoppedParts := by
  have hfinal : (toolRun 11).any (fun s => s.run.ended
      && decide (s.run.sent = toolEvents.map Except.ok) && decide (s.deltas = [])
      && decide ("p" ∈ s.run.adapter.stoppedParts)) = true := by
    decide +kernel
  cases hrun : toolRun 11 with
  | none =>
    rw [hrun] at hfinal
    cases hfinal
  | some s =>
    rw [hrun] at hfinal
    simp only [Option.any_some, Bool.and_eq_true, decide_eq_true_eq] at hfinal
    obtain ⟨⟨⟨hended, hsent⟩, hdeltas⟩, hstopped⟩ := hfinal
    exact ⟨s, rfl, hended, hsent, hdeltas, hstopped⟩

theorem toolRun_add_eq_none {n : Nat} {s : HeardRun} (hrun : toolRun n = some s)
    (hended : s.run.ended = true) (k : Nat)
    : toolRun (n + (k + 1)) = none := by
  have hstep : ∀ poll, s.step toolFormat .inserted poll = none := by
    intro poll
    unfold step AdapterRun.turn
    rw [if_pos hended]
    rfl
  unfold toolRun at hrun ⊢
  rw [List.range_add, List.map_append, Runs.run_append, hrun, List.range_succ_eq_map,
    List.map_cons, List.map_cons]
  exact Runs.run_cons_of_none _ (hstep _)

theorem toolRun_ended_unique {n m : Nat} {s t : HeardRun} (hn : toolRun n = some s)
    (hm : toolRun m = some t) (hs : s.run.ended = true) (ht : t.run.ended = true)
    : s = t := by
  obtain hlt | rfl | hlt := Nat.lt_trichotomy n m
  . obtain ⟨k, rfl⟩ := Nat.exists_eq_add_of_lt hlt
    cases (toolRun_add_eq_none hn hs k).symm.trans hm
  . exact Option.some.inj (hn.symm.trans hm)
  . obtain ⟨k, rfl⟩ := Nat.exists_eq_add_of_lt hlt
    cases (toolRun_add_eq_none hm ht k).symm.trans hn

theorem carriedBy_toolFormat : ∀ event ∈ toolEvents, event.CarriedBy toolFormat := by
  unfold toolEvents
  simp only [List.forall_mem_cons, List.not_mem_nil, false_implies, implies_true, and_true]
  refine ⟨?_, ?_, ?_, ?_, ?_⟩
  all_goals
    refine ⟨rfl, by decide +kernel, ?_⟩
    rintro _ ⟨⟩ <;> decide

theorem carriedBy_of_toolRun (n : Nat) (s : HeardRun) (hrun : toolRun n = some s)
    (hended : s.run.ended = true)
    : ∀ event, .ok event ∈ s.run.sent → event.CarriedBy toolFormat := by
  obtain ⟨t, htool, ht, hsent, _⟩ := toolRun_ended
  cases toolRun_ended_unique hrun htool hended ht
  intro event hmem
  rw [hsent] at hmem
  obtain ⟨_, hevent, ⟨⟩⟩ := List.mem_map.mp hmem
  exact carriedBy_toolFormat event hevent

theorem exists_answersTruly_iff_tool
    : ∃ n s, toolRun n = some s ∧ s.run.ended = true
        ∧ (s.AnswersTruly toolFormat ↔ s.MayFail toolFormat ∨ s.HeardInTime) := by
  exact exists_answersTruly_iff toolFormat .inserted "s" _ toolPolls carriedBy_of_toolRun ⟨_, rfl⟩

theorem not_answersTruly_tool
    : ∃ s, toolRun 11 = some s ∧ s.run.ended = true ∧ ¬ s.AnswersTruly toolFormat := by
  obtain ⟨s, hrun, hended, hsent, hdeltas, hstopped⟩ := toolRun_ended
  refine ⟨s, hrun, hended, ?_⟩
  intro h
  have hfollows : s.Follows :=
    (Runs.always_of_forall_step (fun _ _ _ => follows_step) _ (follows_start _ _)).run_eq_some hrun
  have hclosed : s.ToolClosed "p" := by
    refine ⟨hstopped, 0, "tool", ?_⟩
    rw [hsent]
    exact List.mem_cons_of_mem _ (List.mem_cons_self ..)
  have hnil : ∀ part, TargetDelta.inputs s.deltas part = [] := by
    intro part
    rw [hdeltas]
    rfl
  have hinput : ∃ error,
      toolFormat.fromStr (String.join (TargetDelta.inputs s.deltas "p")) = .error error := by
    rw [hnil]
    exact ⟨_, rfl⟩
  obtain ⟨error, herror⟩ := response_of_malformed hfollows hended
    (carriedBy_of_toolRun 11 s hrun hended) hclosed hinput
  obtain ⟨item, hmem, hfails⟩ | ⟨part, _, hinputs, _⟩ := h.failure error herror
  . rw [hsent] at hmem
    obtain ⟨event, hevent, rfl⟩ := List.mem_map.mp hmem
    have hok : ∀ event ∈ toolEvents, event.toEvent.isError = false := by decide
    cases (hok event hevent).symm.trans hfails
  . exact hinputs (hnil part)

end Samples

end HeardRun

end AnimaAgent
