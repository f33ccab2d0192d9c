import AnimaAgent.Execution.Lemmas.Resume
import AnimaAgent.Execution.Lemmas.Step
import AnimaAgent.Tools.Lemmas.Engagement

namespace AnimaAgent

def engagements (events : List LoopEvent) : List ToolEvent :=
  (events.filterMap (fun
    | .tool event => some event
    | _ => none)).filter ToolEvent.engages

namespace LoopEnv

variable (env : LoopEnv)

def respond (remaining : Nat) (state : LoopState) (parsed : ParsedResponse)
    : LoopM AgenticLoopOutcome := do
  match ← env.act state parsed with
  | .done outcome => pure outcome
  | .continue state => env.iterate remaining state

def executedItems (i : Nat) : List (List IndexedToolUse) → List IndexedToolUse
  | [] => []
  | segment :: rest =>
    match earliestPermission (env.executeSegment i segment).run.1 with
    | some _ => segment
    | none => segment ++ executedItems i rest

def itemEngagements (i : Nat) (item : IndexedToolUse) : List ToolEvent :=
  (env.executeItem i item).run.2.filter ToolEvent.engages

def GoesAhead (toolUse : ParsedToolUse) : Prop :=
  ∃ tool, env.toolRegistry.get toolUse.name = some tool
    ∧ AnimaAgent.GoesAhead env.serde tool env.hookRegistry env.permissionChecker toolUse.name
      toolUse.input

/--
After a tool use that is not concurrency-safe and asks for a permission, no later one of the response
is called or asked about.
-/
def StopsAtAsk (i : Nat) (toolUses : List ParsedToolUse) : Prop :=
  ∀ asked ∈ env.executedItems i (env.segments toolUses),
    env.isToolUseConcurrencySafe asked.toolUse = false → env.Asks asked.toolUse
    → ∀ later ∈ env.executedItems i (env.segments toolUses), asked.index < later.index
    → env.itemEngagements i later = []

def Overtakes (asked later : IndexedToolUse) : Prop :=
  env.isToolUseConcurrencySafe asked.toolUse = false ∧ env.Asks asked.toolUse
    ∧ env.GoesAhead later.toolUse

/--
In the first segment with a tool use that asks, nothing goes ahead after one that asks and is not
concurrency-safe.
-/
def AsksLast (segments : List (List IndexedToolUse)) : Prop :=
  ∀ done segment rest, segments = done ++ segment :: rest
    → (∀ item ∈ done.flatten, ¬env.Asks item.toolUse)
    → segment.Pairwise (fun asked later => ¬env.Overtakes asked later)

section Items

variable {env} {i : Nat}

theorem engaged_append_iff {before after : List ToolEvent} (h : Idle before)
    : Engaged (before ++ after) ↔ Engaged after := by
  constructor
  . rintro ⟨event, hmem, hengages⟩
    obtain hmem | hmem := List.mem_append.mp hmem
    . exact absurd ⟨event, hmem, hengages⟩ h.not_engaged
    . exact ⟨event, hmem, hengages⟩
  . rintro ⟨event, hmem, hengages⟩
    exact ⟨event, List.mem_append_right _ hmem, hengages⟩

theorem executeSingleTool_engaged_iff (uuid : String) (toolUse : ParsedToolUse)
    : Engaged (env.executeSingleTool uuid toolUse).run.2 ↔ env.GoesAhead toolUse := by
  unfold executeSingleTool GoesAhead
  dsimp only
  rw [WriterT.snd_bind, WriterT.snd_tell, engaged_append_iff (idle_nil.cons rfl)]
  cases env.toolRegistry.get toolUse.name with
  | none =>
    constructor
    . intro hengaged
      exact absurd hengaged (idle_nil.cons rfl).not_engaged
    . rintro ⟨tool, htool, -⟩
      cases htool
  | some tool =>
    have hrun := runToolUse_engaged_iff env.serde env.now tool (env.toolOptions uuid toolUse)
      env.hookRegistry env.permissionChecker uuid
    have hevents : ∀ run : ToolM RunToolUseOutcome, ∀ f : _ → Writer (List ToolEvent) _,
        (∀ outcome, (f outcome).run.2 = []) →
        (run.attempt >>= f : Writer (List ToolEvent) SingleToolExecutionOutcome).run.2
          = run.events := by
      intro run f hf
      rw [WriterT.snd_bind, hf, List.append_nil]
      rfl
    dsimp only
    rw [hevents]
    . constructor
      . intro hengaged
        exact ⟨tool, rfl, hrun.mp hengaged⟩
      . rintro ⟨tool', htool, hahead⟩
        cases htool
        exact hrun.mpr hahead
    . intro outcome
      rcases outcome with err | ⟨invocation, result⟩ | awaiting
      . rfl
      . rfl
      . rfl

theorem itemEngagements_eq_nil_iff (item : IndexedToolUse)
    : env.itemEngagements i item = [] ↔ ¬env.GoesAhead item.toolUse := by
  unfold itemEngagements
  rw [← executeSingleTool_engaged_iff (env.uuid i (2 * item.index + 2)), snd_executeItem,
    List.filter_eq_nil_iff]
  unfold Engaged
  rw [not_exists]
  apply forall_congr'
  intro event
  rw [not_and]

end Items

section Executed

variable {env} {i : Nat}

theorem snd_executeSegment (segment : List IndexedToolUse)
    : (env.executeSegment i segment).run.2
        = segment.flatMap (fun item => (env.executeItem i item).run.2) := by
  unfold executeSegment executeToolSegment
  split
  . split
    . rfl
    . rw [List.flatMap_singleton, WriterT.snd_bind, WriterT.snd_pure, List.append_nil]
    . rw [WriterT.snd_bind, WriterT.snd_pure, List.append_nil, WriterT.snd_mapM]
  . rw [WriterT.snd_mapM]

theorem idle_recordOutcome (item : IndexedToolOutcome) : Idle (env.recordOutcome i item).run.2 := by
  unfold recordOutcome
  cases item.outcome with
  | completed invocation result => exact idle_nil.cons rfl
  | awaitingPermission awaiting => exact idle_nil

theorem engagements_runSegments (segments : List (List IndexedToolUse)) (messages : List InternalMsg)
    : (env.runSegments i segments messages).run.2.filter ToolEvent.engages
        = (env.executedItems i segments).flatMap (env.itemEngagements i) := by
  have hsegment : ∀ segment : List IndexedToolUse,
      (env.executeSegment i segment).run.2.filter ToolEvent.engages
        = segment.flatMap (env.itemEngagements i) := by
    intro segment
    rw [snd_executeSegment, List.filter_flatMap]
    rfl
  induction segments generalizing messages with
  | nil => rfl
  | cons segment rest ih =>
    rw [runSegments, executedItems, WriterT.snd_bind, List.filter_append, hsegment]
    cases earliestPermission (env.executeSegment i segment).run.1 with
    | some awaiting => exact List.append_nil _
    | none =>
      dsimp only
      rw [WriterT.snd_bind, List.filter_append, WriterT.snd_mapM, ih, List.flatMap_append]
      have hrecorded : ((env.executeSegment i segment).run.1.flatMap
          (fun item => (env.recordOutcome i item).run.2)).filter ToolEvent.engages = [] := by
        rw [List.filter_eq_nil_iff]
        intro event hmem
        obtain ⟨item, _, hevent⟩ := List.mem_flatMap.mp hmem
        rw [idle_recordOutcome item event hevent]
        exact Bool.false_ne_true
      rw [hrecorded, List.nil_append]

theorem executedItems_sublist (segments : List (List IndexedToolUse))
    : (env.executedItems i segments).Sublist segments.flatten := by
  induction segments with
  | nil => exact List.Sublist.refl _
  | cons segment rest ih =>
    rw [executedItems, List.flatten_cons]
    split
    . exact List.sublist_append_left ..
    . exact (List.Sublist.refl _).append ih

theorem pairwise_executedItems_iff (segments : List (List IndexedToolUse))
    : (env.executedItems i segments).Pairwise (fun asked later => ¬env.Overtakes asked later)
        ↔ env.AsksLast segments := by
  induction segments with
  | nil =>
    constructor
    . intro _ done segment rest hsegments
      cases (List.append_eq_nil_iff.mp hsegments.symm).2
    . intro _
      exact .nil
  | cons segment rest ih =>
    rw [executedItems]
    cases hawaiting : earliestPermission (env.executeSegment i segment).run.1 with
    | some awaiting =>
      dsimp only
      constructor
      . intro hpairwise done segment' rest' hsegments hdone
        cases done with
        | nil =>
          cases hsegments
          exact hpairwise
        | cons first done =>
          -- The segment asks, so none after it is preceded only by segments that do not.
          cases hsegments
          have hasks : ∀ item ∈ segment, ¬env.Asks item.toolUse := by
            intro item hmem
            apply hdone item
            rw [List.flatten_cons]
            exact List.mem_append_left _ hmem
          rw [(env.earliestPermission_executeSegment_iff i segment).mpr hasks] at hawaiting
          cases hawaiting
      . intro h
        exact h [] segment rest rfl (fun item hmem => by cases hmem)
    | none =>
      have hnone := (env.earliestPermission_executeSegment_iff i segment).mp hawaiting
      dsimp only
      rw [List.pairwise_append, ih]
      constructor
      . rintro ⟨hsegment, hrest, -⟩ done segment' rest' hsegments hdone
        cases done with
        | nil =>
          cases hsegments
          exact hsegment
        | cons first done =>
          cases hsegments
          apply hrest done segment' rest' rfl
          intro item hmem
          apply hdone item
          rw [List.flatten_cons]
          exact List.mem_append_right _ hmem
      . intro h
        refine ⟨h [] segment rest rfl (fun item hmem => by cases hmem), ?_, ?_⟩
        . intro done segment' rest' hsegments hdone
          apply h (segment :: done) segment' rest' (by rw [hsegments]; rfl)
          intro item hmem
          rw [List.flatten_cons] at hmem
          obtain hmem | hmem := List.mem_append.mp hmem
          . exact hnone item hmem
          . exact hdone item hmem
        . intro asked hmem later _ hovertakes
          exact hnone asked hmem hovertakes.2.1

theorem runSegments_of_asks {segments : List (List IndexedToolUse)} {messages : List InternalMsg}
    (h : ∃ item ∈ env.executedItems i segments, env.Asks item.toolUse)
    : ∃ awaiting, (env.runSegments i segments messages).run.1.2 = some awaiting := by
  obtain ⟨item, hmem, hasks⟩ := h
  induction segments generalizing messages with
  | nil => cases hmem
  | cons segment rest ih =>
    rw [executedItems] at hmem
    rw [runSegments, WriterT.fst_bind]
    cases hawaiting : earliestPermission (env.executeSegment i segment).run.1 with
    | some awaiting => exact ⟨awaiting, rfl⟩
    | none =>
      rw [hawaiting] at hmem
      dsimp only at hmem ⊢
      rw [WriterT.fst_bind]
      apply ih
      obtain hmem | hmem := List.mem_append.mp hmem
      . exact absurd hasks ((env.earliestPermission_executeSegment_iff i segment).mp hawaiting item hmem)
      . exact hmem

theorem pairwise_index_segments (toolUses : List ParsedToolUse)
    : (env.segments toolUses).flatten.Pairwise (fun a b => a.index < b.index) := by
  rw [flatten_segments, List.pairwise_map]
  have hrange := List.pairwise_lt_range' (s := 0) (n := toolUses.length)
  rw [← List.zipIdx_map_snd 0 toolUses, List.pairwise_map] at hrange
  exact hrange

theorem stopsAtAsk_iff_pairwise (toolUses : List ParsedToolUse)
    : env.StopsAtAsk i toolUses
        ↔ (env.executedItems i (env.segments toolUses)).Pairwise (fun asked later =>
          ¬env.Overtakes asked later) := by
  have horder : (env.executedItems i (env.segments toolUses)).Pairwise (fun a b => a.index < b.index) :=
    (pairwise_index_segments toolUses).sublist (executedItems_sublist _)
  unfold StopsAtAsk Overtakes
  generalize env.executedItems i (env.segments toolUses) = executed at horder ⊢
  constructor
  . intro hstops
    apply horder.imp_of_mem
    rintro asked later hasked hlater hlt ⟨hsafe, hasks, hahead⟩
    exact (itemEngagements_eq_nil_iff later).mp (hstops asked hasked hsafe hasks later hlater hlt) hahead
  . intro hpairwise asked hasked hsafe hasks later hlater hlt
    obtain ⟨m, hm, rfl⟩ := List.getElem_of_mem hasked
    obtain ⟨n, hn, rfl⟩ := List.getElem_of_mem hlater
    have hmn : m < n := by
      by_contra hle
      obtain heq | hgt := Nat.lt_or_eq_of_le (Nat.le_of_not_lt hle)
      . have := List.pairwise_iff_getElem.mp horder n m hn hm heq
        omega
      . subst hgt
        omega
    rw [itemEngagements_eq_nil_iff]
    intro hahead
    exact List.pairwise_iff_getElem.mp hpairwise m n hm hn hmn ⟨hsafe, hasks, hahead⟩

end Executed

/--
With a tool use that asks the loop suspends, having called and asked about the executed tool uses only.
These stop at every one that asks and is not concurrency-safe exactly if it asks last in its segment.
-/
theorem stopsAtAsk_iff (remaining : Nat) (state : LoopState) (parsed : ParsedResponse)
    : ((∃ item ∈ env.executedItems state.iterations (env.segments parsed.toolUses),
            env.Asks item.toolUse)
          → (∃ suspension, (env.respond remaining state parsed).outcome = .ok (.suspended suspension))
            ∧ engagements (env.respond remaining state parsed).events
              = (env.executedItems state.iterations (env.segments parsed.toolUses)).flatMap
                (env.itemEngagements state.iterations))
        ∧ (env.StopsAtAsk state.iterations parsed.toolUses
          ↔ env.AsksLast (env.segments parsed.toolUses)) := by
  refine ⟨?_, (stopsAtAsk_iff_pairwise _).trans (pairwise_executedItems_iff _)⟩
  intro hasks
  have hnonempty : ¬parsed.toolUses.isEmpty = true := by
    intro hempty
    rw [List.isEmpty_iff.mp hempty] at hasks
    obtain ⟨item, hmem, -⟩ := hasks
    cases hmem
  obtain ⟨suspension, hact⟩ : ∃ suspension,
      (env.act state parsed).outcome = .ok (.done (.suspended suspension)) := by
    have hsuspends : ∃ awaiting, (env.runSegments state.iterations (env.segments parsed.toolUses)
        state.messages).run.1.2 = some awaiting :=
      runSegments_of_asks hasks
    rw [act_outcome, if_neg hnonempty, runToolUses_fst]
    obtain ⟨⟨toolUseId, awaiting⟩, hawaiting⟩ := hsuspends
    rcases hrun : (env.runSegments state.iterations (env.segments parsed.toolUses)
      state.messages).run.1 with ⟨messages, awaiting'⟩
    rw [hrun] at hawaiting
    dsimp only at hawaiting
    subst hawaiting
    exact ⟨_, rfl⟩
  have hevents : (env.act state parsed).events
      = (env.runSegments state.iterations (env.segments parsed.toolUses)
        state.messages).run.2.map LoopEvent.tool := by
    unfold act runToolUses
    rw [if_neg hnonempty, Traced.events_liftMap, WriterT.snd_bind]
    split
    next messages awaiting _ =>
      cases awaiting with
      | none => rw [WriterT.snd_pure, List.append_nil]
      | some awaiting => rw [WriterT.snd_pure, List.append_nil]
  unfold respond
  refine ⟨⟨suspension, Traced.outcome_bind_of_ok _ hact⟩, ?_⟩
  rw [Traced.events_bind_of_ok _ hact]
  dsimp only
  rw [Traced.events_pure, List.append_nil, hevents, ← engagements_runSegments _ state.messages]
  unfold engagements
  rw [List.filterMap_map]
  congr 1
  exact List.filterMap_some

def editThenWrite : LoopEnv :=
  { LoopEnv.withTools
      [ { constTool "edit" (.ok (.text "edited")) with isConcurrencySafe := false }
      , { constTool "write" (.ok (.text "written")) with isConcurrencySafe := false } ] with
    permissionChecker := some
      { mode := .ruleBased, rules := [{ toolPattern := "write", decision := .allow, priority := 0 }] } }

/-- While the user is asked about the first tool use, the second one is called. -/
theorem editThenWrite_not_stopsAtAsk
    : ¬editThenWrite.StopsAtAsk 0 [bareToolUse "t0" "edit", bareToolUse "t1" "write"] := by
  intro h
  have hexecuted : editThenWrite.executedItems 0
        (editThenWrite.segments [bareToolUse "t0" "edit", bareToolUse "t1" "write"])
      = [{ index := 0, toolUse := bareToolUse "t0" "edit" },
        { index := 1, toolUse := bareToolUse "t1" "write" }] := by
    decide +kernel
  unfold StopsAtAsk at h
  rw [hexecuted] at h
  have hasks : editThenWrite.Asks (bareToolUse "t0" "edit") := by
    rw [← editThenWrite.executeSingleTool_awaits_iff ""]
    exact ⟨_, rfl⟩
  have hlater := h _ (List.mem_cons_self ..) (by decide +kernel) hasks _
    (List.mem_cons_of_mem _ (List.mem_cons_self ..)) (by decide)
  revert hlater
  decide +kernel

end LoopEnv

end AnimaAgent
