import Mathlib.Data.List.SplitBy
import AnimaAgent.Execution.AgenticLoop
import AnimaAgent.Tools.Lemmas.Execution

namespace AnimaAgent

def loopToolCalls (events : List LoopEvent) : List ToolEvent :=
  toolCalls (events.filterMap (fun
    | .tool event => some event
    | _ => none))

@[simp]
theorem loopToolCalls_append (as bs : List LoopEvent)
    : loopToolCalls (as ++ bs) = loopToolCalls as ++ loopToolCalls bs := by
  unfold loopToolCalls
  rw [List.filterMap_append, toolCalls_append]

@[simp]
theorem loopToolCalls_map_tool (events : List ToolEvent)
    : loopToolCalls (events.map LoopEvent.tool) = toolCalls events := by
  unfold loopToolCalls
  rw [List.filterMap_map]
  congr 1
  exact List.filterMap_some

namespace LoopEnv

variable (env : LoopEnv)

def toolOptions (uuid : String) (toolUse : ParsedToolUse) : RunToolOptions where
  toolName := toolUse.name
  input := toolUse.input
  context := env.toolContext
  invocationId := some ("toolinv_" ++ uuid)

def failedInvocation (uuid : String) (toolUse : ParsedToolUse) (error : String)
    : ToolInvocationRecord :=
  ((ToolInvocationRecord.new env.now ("toolinv_" ++ uuid) toolUse.name
    (some toolUse.id)).markPhase env.now .failed).setError error

section SingleTool

variable (uuid : String) (toolUse : ParsedToolUse)

theorem executeSingleTool_of_none (h : env.toolRegistry.get toolUse.name = none)
    : (env.executeSingleTool uuid toolUse).run.1
          = (let error := "tool '" ++ toolUse.name ++ "' not found in registry"
            .completed (env.failedInvocation uuid toolUse error) (.error error))
        ∧ toolCalls (env.executeSingleTool uuid toolUse).run.2 = [] := by
  unfold executeSingleTool
  dsimp only
  rw [h]
  exact ⟨rfl, rfl⟩

section Registered

variable {tool : Tool} (h : env.toolRegistry.get toolUse.name = some tool)

def toolRun (tool : Tool) : ToolM RunToolUseOutcome :=
  runToolUse env.serde env.now tool (env.toolOptions uuid toolUse) env.permissionChecker
    env.hookRegistry uuid

def ofToolRun : Except ToolError RunToolUseOutcome → SingleToolExecutionOutcome
  | .ok (.completed invocation result) =>
    .completed { invocation with toolUseId := some toolUse.id } result
  | .ok (.awaitingPermission awaiting) =>
    .awaitingPermission
      { awaiting with invocation := { awaiting.invocation with toolUseId := some toolUse.id } }
  | .error err =>
    .completed (env.failedInvocation uuid toolUse err.display)
      (.error ("tool execution error: " ++ err.display))

include h in
theorem executeSingleTool_of_some
    : (env.executeSingleTool uuid toolUse).run.1
          = env.ofToolRun uuid toolUse (env.toolRun uuid toolUse tool).outcome
        ∧ toolCalls (env.executeSingleTool uuid toolUse).run.2
          = toolCalls (env.toolRun uuid toolUse tool).events := by
  unfold executeSingleTool
  dsimp only
  rw [h]
  dsimp only
  rw [WriterT.fst_bind, WriterT.fst_bind, WriterT.snd_bind, WriterT.snd_bind, toolCalls_append,
    toolCalls_append, Traced.run_attempt_fst, Traced.run_attempt_snd]
  change _ ∧ _ ++ (toolCalls (env.toolRun uuid toolUse tool).events ++ _) = _
  unfold ofToolRun toolRun toolOptions
  generalize (runToolUse env.serde env.now tool _ env.permissionChecker env.hookRegistry uuid).outcome
    = outcome
  rcases outcome with err | ⟨invocation, result⟩ | awaiting
  . exact ⟨rfl, by rw [WriterT.snd_pure, toolCalls_nil, List.append_nil]; rfl⟩
  . exact ⟨rfl, by rw [WriterT.snd_pure, toolCalls_nil, List.append_nil]; rfl⟩
  . exact ⟨rfl, by rw [WriterT.snd_pure, toolCalls_nil, List.append_nil]; rfl⟩

end Registered

end SingleTool

def resultMsg (uuid toolUseId : String) (invocation : ToolInvocationRecord) (result : ToolResult)
    : InternalMsg :=
  buildToolResultMsg env.serde uuid toolUseId result
    (some (invocation.markPhase env.now .resultRecorded))

section Does

variable {env}
variable {i : Nat} {item : IndexedToolUse}

def SingleToolDoes (env : LoopEnv) (i : Nat) (item : IndexedToolUse)
    (outcome : SingleToolExecutionOutcome) (calls : List ToolEvent)
    : Prop :=
  (env.executeItem i item).run.1 = { index := item.index, toolUseId := item.toolUse.id, outcome }
    ∧ toolCalls (env.executeItem i item).run.2 = calls

theorem singleToolDoes_of_executeSingleTool {outcome : SingleToolExecutionOutcome}
    {calls : List ToolEvent}
    (h : (env.executeSingleTool (env.uuid i (2 * item.index + 2)) item.toolUse).run.1 = outcome
      ∧ toolCalls (env.executeSingleTool (env.uuid i (2 * item.index + 2)) item.toolUse).run.2
        = calls)
    : env.SingleToolDoes i item outcome calls := by
  obtain ⟨houtcome, hcalls⟩ := h
  unfold SingleToolDoes executeItem
  rw [WriterT.fst_bind, WriterT.snd_bind, houtcome, toolCalls_append, hcalls]
  exact ⟨rfl, List.append_nil _⟩

end Does

/-- The tool use waits for a permission before its tool is called. -/
def Asks (toolUse : ParsedToolUse) : Prop :=
  ∃ tool, env.toolRegistry.get toolUse.name = some tool
    ∧ AsksPermission env.serde tool env.hookRegistry env.permissionChecker toolUse.name
      toolUse.input

theorem executeSingleTool_awaits_iff (uuid : String) (toolUse : ParsedToolUse)
    : (∃ awaiting, (env.executeSingleTool uuid toolUse).run.1 = .awaitingPermission awaiting)
        ↔ env.Asks toolUse := by
  unfold Asks
  cases htool : env.toolRegistry.get toolUse.name with
  | none =>
    rw [(env.executeSingleTool_of_none uuid toolUse htool).1]
    simp
  | some tool =>
    rw [(env.executeSingleTool_of_some uuid toolUse htool).1]
    have hrun := runToolUse_awaits_iff env.serde env.now tool (env.toolOptions uuid toolUse)
      env.hookRegistry env.permissionChecker uuid
    constructor
    . rintro ⟨awaiting, h⟩
      refine ⟨tool, rfl, hrun.mp ?_⟩
      unfold ofToolRun toolRun at h
      split at h
      . cases h
      . next awaiting' hrun' => exact ⟨awaiting', hrun'⟩
      . cases h
    . rintro ⟨tool', htool', hasks⟩
      cases htool'
      obtain ⟨awaiting, hawaiting⟩ := hrun.mpr hasks
      unfold toolRun
      rw [hawaiting]
      exact ⟨_, rfl⟩

end LoopEnv

structure IsResultMsg (id : String) (msg : InternalMsg) : Prop where
  role : msg.role = .user
  toolUseId : msg.toolUseId = some id
  filtered : msg.filtered = false
  blocks : ∃ content isError, msg.blocks = [.toolResult id content isError]

theorem IsResultMsg.toolResultIds {id : String} {msg : InternalMsg} (h : IsResultMsg id msg)
    : msg.toolResultIds = [id] := by
  obtain ⟨content, isError, hblocks⟩ := h.blocks
  unfold InternalMsg.toolResultIds
  rw [hblocks]
  rfl

theorem isResultMsg_buildToolResultMsg (serde : SerdeJson) (uuid id : String) (result : ToolResult)
    (invocation : Option ToolInvocationRecord)
    : IsResultMsg id (buildToolResultMsg serde uuid id result invocation) where
  role := rfl
  toolUseId := rfl
  filtered := rfl
  blocks := ⟨_, _, rfl⟩

namespace IndexedToolOutcome

def Awaits (item : IndexedToolOutcome) : Prop :=
  ∃ awaiting, item.outcome = .awaitingPermission awaiting

end IndexedToolOutcome

namespace LoopEnv

variable (env : LoopEnv)

theorem snd_executeItem (i : Nat) (item : IndexedToolUse)
    : (env.executeItem i item).run.2
        = (env.executeSingleTool (env.uuid i (2 * item.index + 2)) item.toolUse).run.2 := by
  unfold executeItem
  rw [WriterT.snd_bind, WriterT.snd_pure, List.append_nil]

theorem executeItem_awaits_iff (i : Nat) (item : IndexedToolUse)
    : (env.executeItem i item).run.1.Awaits ↔ env.Asks item.toolUse := by
  exact env.executeSingleTool_awaits_iff _ item.toolUse

theorem executeSegment_perm (i : Nat) (segment : List IndexedToolUse)
    : (env.executeSegment i segment).run.1.Perm
        (segment.map (fun item => (env.executeItem i item).run.1)) := by
  unfold executeSegment
  split
  . unfold executeToolSegment
    split
    . rfl
    . rfl
    . rw [WriterT.fst_bind, WriterT.fst_pure, WriterT.fst_mapM]
      exact List.perm_insertionSort _ _
  . rw [WriterT.fst_mapM]

theorem earliestPermission_eq_none_iff (outcomes : List IndexedToolOutcome)
    : earliestPermission outcomes = none ↔ ∀ item ∈ outcomes, ¬item.Awaits := by
  unfold earliestPermission
  rw [List.findSome?_eq_none_iff]
  apply forall_congr'
  intro item
  apply imp_congr_right
  intro _
  unfold IndexedToolOutcome.Awaits
  cases item.outcome with
  | completed invocation result => simp
  | awaitingPermission awaiting => simp

theorem earliestPermission_eq_some {outcomes : List IndexedToolOutcome} {id : String}
    {awaiting : AwaitingToolPermission}
    (h : earliestPermission outcomes = some (id, awaiting))
    : ∃ item ∈ outcomes, item.toolUseId = id ∧ item.Awaits := by
  unfold earliestPermission at h
  rw [List.findSome?_eq_some_iff] at h
  obtain ⟨_, item, _, rfl, hitem, _⟩ := h
  refine ⟨item, by simp, ?_⟩
  unfold IndexedToolOutcome.Awaits
  cases houtcome : item.outcome with
  | completed invocation result =>
    rw [houtcome] at hitem
    cases hitem
  | awaitingPermission awaiting' =>
    rw [houtcome] at hitem
    cases hitem
    exact ⟨rfl, awaiting, rfl⟩

theorem recordOutcomes_results (i : Nat) (outcomes : List IndexedToolOutcome)
    (h : ∀ item ∈ outcomes, ¬item.Awaits)
    : List.Forall₂ IsResultMsg (outcomes.map IndexedToolOutcome.toolUseId)
        (outcomes.mapM (env.recordOutcome i)).run.1.flatten := by
  rw [WriterT.fst_mapM, ← List.flatMap_def]
  induction outcomes with
  | nil => exact .nil
  | cons item outcomes ih =>
    have ih := ih (fun item' hmem => h item' (List.mem_cons_of_mem item hmem))
    have hitem := h item (List.mem_cons_self ..)
    rw [List.flatMap_cons, List.map_cons]
    unfold recordOutcome
    cases houtcome : item.outcome with
    | completed invocation result =>
      exact .cons (isResultMsg_buildToolResultMsg ..) ih
    | awaitingPermission awaiting => exact absurd ⟨awaiting, houtcome⟩ hitem

def segmentIds (segments : List (List IndexedToolUse)) : List String :=
  segments.flatten.map (fun item => item.toolUse.id)

structure SegmentsDo (segments : List (List IndexedToolUse)) (results : List InternalMsg)
    : Prop where
  results : ∃ ids, List.Forall₂ IsResultMsg ids results ∧ ids.Perm (segmentIds segments)
  noneAsks : ∀ item ∈ segments.flatten, ¬env.Asks item.toolUse

theorem SegmentsDo.nil : env.SegmentsDo [] [] where
  results := ⟨[], .nil, .refl _⟩
  noneAsks := by
    intro item hmem
    cases hmem

variable {env}

theorem SegmentsDo.cons {segment : List IndexedToolUse} {rest : List (List IndexedToolUse)}
    {first results : List InternalMsg} {ids : List String}
    (hfirst : List.Forall₂ IsResultMsg ids first)
    (hids : ids.Perm (segment.map (fun item => item.toolUse.id)))
    (hasks : ∀ item ∈ segment, ¬env.Asks item.toolUse) (h : env.SegmentsDo rest results)
    : env.SegmentsDo (segment :: rest) (first ++ results) := by
  obtain ⟨ids', hresults, hids'⟩ := h.results
  constructor
  . refine ⟨ids ++ ids', List.rel_append hfirst hresults, ?_⟩
    unfold segmentIds
    rw [List.flatten_cons, List.map_append]
    exact hids.append hids'
  . intro item hmem
    rw [List.flatten_cons, List.mem_append] at hmem
    rcases hmem with hmem | hmem
    . exact hasks item hmem
    . exact h.noneAsks item hmem

variable (env)

theorem executeSegment_spec (i : Nat) (segment : List IndexedToolUse)
    : ((env.executeSegment i segment).run.1.map IndexedToolOutcome.toolUseId).Perm
          (segment.map (fun item => item.toolUse.id))
        ∧ ((∀ outcome ∈ (env.executeSegment i segment).run.1, ¬outcome.Awaits)
          ↔ ∀ item ∈ segment, ¬env.Asks item.toolUse) := by
  have hperm := env.executeSegment_perm i segment
  constructor
  . have hids := hperm.map IndexedToolOutcome.toolUseId
    rw [List.map_map] at hids
    exact hids
  . constructor
    . intro h item hmem hasks
      have hmem := hperm.mem_iff.mpr (List.mem_map.mpr ⟨item, hmem, rfl⟩)
      exact h _ hmem ((env.executeItem_awaits_iff i item).mpr hasks)
    . intro h outcome hmem hawaits
      obtain ⟨item, hitem, rfl⟩ := List.mem_map.mp (hperm.mem_iff.mp hmem)
      exact h item hitem ((env.executeItem_awaits_iff i item).mp hawaits)

theorem earliestPermission_executeSegment_iff (i : Nat) (segment : List IndexedToolUse)
    : earliestPermission (env.executeSegment i segment).run.1 = none
        ↔ ∀ item ∈ segment, ¬env.Asks item.toolUse := by
  rw [earliestPermission_eq_none_iff]
  exact (env.executeSegment_spec i segment).2

theorem runSegments_completed {i : Nat} {segments : List (List IndexedToolUse)}
    {messages messages' : List InternalMsg}
    (h : (env.runSegments i segments messages).run.1 = (messages', none))
    : ∃ results, messages' = messages ++ results ∧ env.SegmentsDo segments results := by
  induction segments generalizing messages with
  | nil =>
    cases h
    exact ⟨[], (List.append_nil _).symm, .nil env⟩
  | cons segment rest ih =>
    obtain ⟨hids, hasks⟩ := env.executeSegment_spec i segment
    rw [runSegments, WriterT.fst_bind] at h
    split at h
    . cases h
    . next hnone =>
      rw [earliestPermission_eq_none_iff] at hnone
      rw [WriterT.fst_bind] at h
      obtain ⟨results, hmessages, hdo⟩ := ih h
      refine ⟨_, by rw [hmessages, List.append_assoc], ?_⟩
      exact .cons (env.recordOutcomes_results i _ hnone) hids (hasks.mp hnone) hdo

theorem runSegments_suspended {i : Nat} {segments : List (List IndexedToolUse)}
    {messages messages' : List InternalMsg} {id : String} {awaiting : AwaitingToolPermission}
    (h : (env.runSegments i segments messages).run.1 = (messages', some (id, awaiting)))
    : ∃ done segment rest results,
        segments = done ++ segment :: rest
          ∧ messages' = messages ++ results
          ∧ env.SegmentsDo done results
          ∧ ∃ item ∈ segment, item.toolUse.id = id ∧ env.Asks item.toolUse := by
  induction segments generalizing messages with
  | nil => cases h
  | cons segment rest ih =>
    obtain ⟨hids, hasks⟩ := env.executeSegment_spec i segment
    rw [runSegments, WriterT.fst_bind] at h
    split at h
    . next awaiting' hsome =>
      cases h
      obtain ⟨outcome, hmem, hid, hawaits⟩ := earliestPermission_eq_some hsome
      obtain ⟨item, hitem, rfl⟩ :=
        List.mem_map.mp ((env.executeSegment_perm i segment).mem_iff.mp hmem)
      refine ⟨[], segment, rest, [], rfl, (List.append_nil _).symm, .nil env, ?_⟩
      exact ⟨item, hitem, hid, (env.executeItem_awaits_iff i item).mp hawaits⟩
    . next hnone =>
      rw [earliestPermission_eq_none_iff] at hnone
      rw [WriterT.fst_bind] at h
      obtain ⟨done, segment', rest', results, hsegments, hmessages, hdo, hitem⟩ := ih h
      refine ⟨segment :: done, segment', rest', _, by rw [hsegments]; rfl,
        by rw [hmessages, List.append_assoc], ?_, hitem⟩
      exact .cons (env.recordOutcomes_results i _ hnone) hids (hasks.mp hnone) hdo

theorem flatten_segments (toolUses : List ParsedToolUse)
    : (env.segments toolUses).flatten
        = toolUses.zipIdx.map (fun entry => { index := entry.2, toolUse := entry.1 }) := by
  unfold segments
  dsimp only
  exact List.flatten_splitBy _ _

theorem segmentIds_segments (toolUses : List ParsedToolUse)
    : segmentIds (env.segments toolUses) = toolUses.map ParsedToolUse.id := by
  unfold segmentIds
  rw [flatten_segments, List.map_map]
  have : (fun item : IndexedToolUse => item.toolUse.id)
      ∘ (fun entry : ParsedToolUse × Nat => { index := entry.2, toolUse := entry.1 })
      = ParsedToolUse.id ∘ Prod.fst := by
    rfl
  rw [this, ← List.map_map, List.zipIdx_map_fst]

theorem segment_ne_nil {toolUses : List ParsedToolUse} {segment : List IndexedToolUse}
    (h : segment ∈ env.segments toolUses)
    : segment ≠ [] := by
  unfold segments at h
  dsimp only at h
  exact List.ne_nil_of_mem_splitBy h

end LoopEnv

end AnimaAgent
