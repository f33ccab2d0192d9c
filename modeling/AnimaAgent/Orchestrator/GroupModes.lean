import AnimaAgent.Orchestrator.SettledSubtasks

namespace AnimaAgent

namespace Value

def withoutRun : Value → Value
  | .object fields =>
    .object (fields.filter (fun field => field.1 != "duration_ms" && field.1 != "worker_id"))
  | other => other

theorem map_setField (f : Value → Value) (key : String) (value : Value)
    (fields : List (String × Value))
    : (setField key value fields).map (fun field => (field.1, f field.2))
        = setField key (f value) (fields.map (fun field => (field.1, f field.2))) := by
  induction fields with
  | nil => rfl
  | cons field fields ih =>
    rw [List.map_cons]
    unfold setField
    dsimp only
    split
    . rfl
    . split
      . rfl
      . rw [List.map_cons, ih]

end Value

def TaskResult.withoutRun (result : TaskResult) : TaskResult :=
  { result with taskId := "", durationMs := 0, workerId := none }

namespace OrchestratorEnvironment

def awaitReceiver (results : List TaskResult) (i : Nat)
    : List (Option TaskResult) → List Nat → Option (TaskResult × List (Option TaskResult) × List Nat)
  | channels, [] => channels[i]?.join.map (fun result => (result, channels, []))
  | channels, thread :: completions =>
    match channels[i]?.join with
    | some result => some (result, channels, thread :: completions)
    | none => awaitReceiver results i (channels.set thread results[thread]?) completions

section Threads

variable (env : OrchestratorEnvironment) (plan : OrchestrationPlan)

def receiveThreads (place : GroupPlace) (results : List TaskResult) (lastSuccess : Option TaskResult)
    : List (LoweredTask × Nat) → List (Option TaskResult) → List Nat → OrchestrationState
      → Option (Option TaskResult × OrchestrationState)
  | [], _, _, state => some (lastSuccess, state)
  | (lowered, i) :: receivers, channels, completions, state =>
    match plan.subtasks.get lowered.name with
    | none => receiveThreads place results lastSuccess receivers channels completions state
    | some subtask =>
      (awaitReceiver results i channels completions).bind fun (result, channels, completions) =>
        let state := env.recordResult subtask lowered place result state
        if result.status = "success" then
          receiveThreads place results (some result) receivers channels completions state
        else
          some (some result, state)

def executeGroupThreads (place : GroupPlace) (group : List LoweredTask) (completions : List Nat)
    (state : OrchestrationState)
    : Option (Option TaskResult × OrchestrationState) :=
  let (submitted, state) := env.submitGroup plan place group state
  env.receiveThreads plan place (submitted.map Prod.snd) none (submitted.map Prod.fst).zipIdx
    (List.replicate submitted.length none) completions state

end Threads

structure Channels (results : List TaskResult) (channels : List (Option TaskResult))
    (completions : List Nat)
    : Prop where
  length : channels.length = results.length
  own : ∀ (i : Nat) result, channels[i]?.join = some result → results[i]? = some result
  all : ∀ i < results.length, channels[i]?.join = none → i ∈ completions

theorem Channels.awaitReceiver {results : List TaskResult} {channels : List (Option TaskResult)}
    {completions : List Nat} {i : Nat} {result : TaskResult} (h : Channels results channels completions)
    (hresult : results[i]? = some result)
    : ∃ channels' completions',
        awaitReceiver results i channels completions = some (result, channels', completions')
          ∧ Channels results channels' completions' := by
  have hlt : i < results.length := (List.getElem?_eq_some_iff.mp hresult).1
  induction completions generalizing channels with
  | nil =>
    cases hchannel : channels[i]?.join with
    | none => cases h.all i hlt hchannel
    | some sent =>
      obtain rfl := Option.some.inj ((h.own i sent hchannel).symm.trans hresult)
      refine ⟨channels, [], ?_, h⟩
      rw [OrchestratorEnvironment.awaitReceiver, hchannel]
      rfl
  | cons thread completions ih =>
    rw [OrchestratorEnvironment.awaitReceiver]
    cases hchannel : channels[i]?.join with
    | some sent =>
      obtain rfl := Option.some.inj ((h.own i sent hchannel).symm.trans hresult)
      exact ⟨channels, thread :: completions, rfl, h⟩
    | none =>
      refine ih ⟨by rw [List.length_set, h.length], ?_, ?_⟩
      . intro j sent hsent
        rw [List.getElem?_set] at hsent
        split at hsent
        . next heq =>
          subst heq
          split at hsent
          . simpa using hsent
          . cases hsent
        . exact h.own j sent hsent
      . intro j hj hnone
        rw [List.getElem?_set] at hnone
        split at hnone
        . next heq =>
          subst heq
          rw [h.length, if_pos hj, List.getElem?_eq_getElem hj] at hnone
          cases hnone
        . next hne =>
          exact (List.mem_cons.mp (h.all j hj hnone)).resolve_left (fun heq => hne heq.symm)

section Threads

variable {env : OrchestratorEnvironment} {plan : OrchestrationPlan} {place : GroupPlace}

theorem receiveThreads_eq {results received : List TaskResult}
    {submitted : List (LoweredTask × TaskResult)}
    (hresults : results = received ++ submitted.map Prod.snd)
    {channels : List (Option TaskResult)} {completions : List Nat}
    (h : Channels results channels completions) (lastSuccess : Option TaskResult)
    (state : OrchestrationState)
    : env.receiveThreads plan place results lastSuccess
          ((submitted.map Prod.fst).zipIdx received.length) channels completions state
        = some (env.receiveGroup plan place lastSuccess submitted state) := by
  induction submitted generalizing received channels completions lastSuccess state with
  | nil => rfl
  | cons entry submitted ih =>
    obtain ⟨lowered, result⟩ := entry
    have hnext : results = (received ++ [result]) ++ submitted.map Prod.snd := by
      rw [hresults, List.map_cons, List.append_assoc, List.singleton_append]
    have hlength : received.length + 1 = (received ++ [result]).length := by
      rw [List.length_append, List.length_singleton]
    rw [List.map_cons, List.zipIdx_cons, receiveThreads, receiveGroup]
    cases hget : plan.subtasks.get lowered.name with
    | none =>
      dsimp only
      rw [hlength]
      exact ih hnext h lastSuccess state
    | some subtask =>
      have hresult : results[received.length]? = some result := by
        rw [hresults, List.map_cons, List.getElem?_append_right (Nat.le_refl _), Nat.sub_self]
        rfl
      obtain ⟨channels', completions', hawait, h'⟩ := h.awaitReceiver hresult
      dsimp only
      rw [hawait, Option.bind_some]
      dsimp only
      split
      . rw [hlength]
        exact ih hnext h' (some result) _
      . rfl

theorem executeGroupThreads_eq {group : List LoweredTask} {completions : List Nat}
    (hgroup : ∀ lowered ∈ group, env.IsLowered plan lowered)
    (hcompletions : ∀ i < group.length, i ∈ completions) (state : OrchestrationState)
    : env.executeGroupThreads plan place group completions state
        = some (env.executeGroupParallel plan place group state) := by
  obtain ⟨_, _, _, hfst, _⟩ := @submitGroup_spec env plan group place hgroup state
  unfold executeGroupThreads executeGroupParallel
  generalize env.submitGroup plan place group state = submitted at hfst ⊢
  obtain ⟨submitted, state'⟩ := submitted
  have hlength : submitted.length = group.length := by rw [← hfst, List.length_map]
  refine @receiveThreads_eq env plan place (submitted.map Prod.snd) [] submitted rfl _ completions ?_
    none state'
  refine ⟨by rw [List.length_replicate, List.length_map], ?_, ?_⟩
  . intro i result hsent
    rw [List.getElem?_replicate] at hsent
    split at hsent
    . cases hsent
    . cases hsent
  . intro i hi _
    exact hcompletions i (by rwa [List.length_map, hlength] at hi)

end Threads

structure Executed (env : OrchestratorEnvironment) (plan : OrchestrationPlan) (lowered : LoweredTask)
    : Prop where
  isLowered : env.IsLowered plan lowered
  parallelSafe : lowered.parallelSafe = true
  executed : ∃ workerId durationMs, env.submission lowered.name = .executed workerId durationMs

def ownResult (env : OrchestratorEnvironment) (plan : OrchestrationPlan) (state : OrchestrationState)
    (lowered : LoweredTask)
    : TaskResult :=
  env.submitTask lowered (env.prepareLoweredTask plan lowered state)

def groupTaskIds (plan : OrchestrationPlan) (group : List LoweredTask) : List String :=
  group.filterMap (fun lowered =>
    (plan.subtasks.get lowered.name).map (fun subtask => runtimeSubtaskTaskId subtask.id))

def putEntries (result : LoweredTask → TaskResult) (group : List LoweredTask)
    (entries : List (String × Value))
    : List (String × Value) :=
  group.foldl
    (fun entries lowered => Value.setField lowered.name (resultEntry lowered (result lowered)) entries)
    entries

structure GroupCompletes (plan : OrchestrationPlan) (own : LoweredTask → TaskResult)
    (group : List LoweredTask) (lastSuccess : Option TaskResult) (state : OrchestrationState)
    (outcome : Option TaskResult × OrchestrationState)
    : Prop where
  result : outcome.1 = (group.getLast?.map own).or lastSuccess
  entries : outcome.2.subtaskResults = putEntries own group state.subtaskResults
  statuses : ∀ taskId, outcome.2.runtimeState.taskStatus taskId
    = if taskId ∈ groupTaskIds plan group then some .completed else state.runtimeState.taskStatus taskId

section Outcome

variable {env : OrchestratorEnvironment} {plan : OrchestrationPlan} {place : GroupPlace}
  {group : List LoweredTask} {lowered : LoweredTask}

theorem Executed.ownResult_eq (h : Executed env plan lowered) {workerId : String} {durationMs : UInt64}
    (hexecuted : env.submission lowered.name = .executed workerId durationMs)
    (state : OrchestrationState)
    : env.ownResult plan state lowered
        = { taskId := lowered.task.id, traceId := lowered.task.traceId, status := "success",
            result := some (givenValue env plan lowered state), error := none, durationMs,
            workerId := some workerId, blockedReason := none } := by
  have hprimitive := primitive_of_parallelSafe h.isLowered h.parallelSafe
  have hblocked : (givenValue env plan lowered state).get "blocked_reason" = none := by
    unfold givenValue
    split
    . rfl
    . rfl
  have hids : (env.prepareLoweredTask plan lowered state).id = lowered.task.id
      ∧ (env.prepareLoweredTask plan lowered state).traceId = lowered.task.traceId := by
    unfold prepareLoweredTask
    split
    . exact ⟨rfl, rfl⟩
    . exact ⟨rfl, rfl⟩
    . exact ⟨rfl, rfl⟩
  unfold ownResult submitTask
  rw [hexecuted, hids.1, hids.2]
  dsimp only
  rw [executeTask_prepared_eq h.isLowered hprimitive]
  dsimp only
  rw [hblocked]
  rfl

theorem Executed.success (h : Executed env plan lowered) (state : OrchestrationState)
    : (env.ownResult plan state lowered).status = "success"
        ∧ (env.ownResult plan state lowered).blockedReason = none := by
  obtain ⟨workerId, durationMs, hexecuted⟩ := h.executed
  rw [h.ownResult_eq hexecuted]
  exact ⟨rfl, rfl⟩

theorem Executed.ownResult_congr (h : Executed env plan lowered) {state state' : OrchestrationState}
    (hentry : (Value.object state.subtaskResults).get lowered.name
      = (Value.object state'.subtaskResults).get lowered.name)
    : env.ownResult plan state lowered = env.ownResult plan state' lowered := by
  have hvalue : givenValue env plan lowered state = givenValue env plan lowered state' := by
    unfold givenValue transformData
    rw [hentry]
  obtain ⟨workerId, durationMs, hexecuted⟩ := h.executed
  rw [h.ownResult_eq hexecuted, h.ownResult_eq hexecuted, hvalue]

theorem GroupCompletes.congr {own own' : LoweredTask → TaskResult} {lastSuccess : Option TaskResult}
    {state : OrchestrationState} {outcome : Option TaskResult × OrchestrationState}
    (h : GroupCompletes plan own group lastSuccess state outcome)
    (hown : ∀ lowered ∈ group, own lowered = own' lowered)
    : GroupCompletes plan own' group lastSuccess state outcome := by
  refine ⟨?_, ?_, h.statuses⟩
  . rw [h.result]
    cases hlast : group.getLast? with
    | none => rfl
    | some last => rw [Option.map_some, Option.map_some, hown last (List.mem_of_getLast? hlast)]
  . rw [h.entries]
    unfold putEntries
    apply List.foldl_ext
    intro entries lowered hmem
    rw [hown lowered hmem]

theorem groupTaskIds_cons {subtask : SubTask} (hget : plan.subtasks.get lowered.name = some subtask)
    (group : List LoweredTask)
    : groupTaskIds plan (lowered :: group)
        = runtimeSubtaskTaskId subtask.id :: groupTaskIds plan group := by
  unfold groupTaskIds
  rw [List.filterMap_cons, hget, Option.map_some]

theorem recordResult_success {subtask : SubTask} {result : TaskResult}
    (hsuccess : result.status = "success") (state : OrchestrationState)
    : (env.recordResult subtask lowered place result state).subtaskResults
          = Value.setField lowered.name (resultEntry lowered result) state.subtaskResults
        ∧ ∀ taskId, (env.recordResult subtask lowered place result state).runtimeState.taskStatus taskId
          = if taskId = runtimeSubtaskTaskId subtask.id then some .completed
            else state.runtimeState.taskStatus taskId := by
  unfold recordResult finalizeSubtaskResult applySubtaskResultToContext
  dsimp only
  rw [if_pos hsuccess, if_pos hsuccess]
  exact ⟨rfl, fun taskId => taskStatus_upsertRuntimeSubtaskTask ..⟩

theorem GroupCompletes.cons {own : LoweredTask → TaskResult} {subtask : SubTask}
    {lastSuccess : Option TaskResult} {state state' : OrchestrationState}
    {outcome : Option TaskResult × OrchestrationState}
    (hget : plan.subtasks.get lowered.name = some subtask)
    (hentries : state'.subtaskResults
      = Value.setField lowered.name (resultEntry lowered (own lowered)) state.subtaskResults)
    (hstatuses : ∀ taskId, state'.runtimeState.taskStatus taskId
      = if taskId = runtimeSubtaskTaskId subtask.id then some .completed
        else state.runtimeState.taskStatus taskId)
    (h : GroupCompletes plan own group (some (own lowered)) state' outcome)
    : GroupCompletes plan own (lowered :: group) lastSuccess state outcome := by
  constructor
  . rw [h.result, List.getLast?_cons]
    cases group.getLast? with
    | none => rfl
    | some last => rfl
  . rw [h.entries, hentries]
    rfl
  . intro taskId
    rw [h.statuses, hstatuses, groupTaskIds_cons hget]
    by_cases hmem : taskId ∈ groupTaskIds plan group
    . rw [if_pos hmem, if_pos (List.mem_cons_of_mem _ hmem)]
    . rw [if_neg hmem]
      simp only [List.mem_cons, hmem, or_false]

theorem executeGroupSerial_completes (hgroup : ∀ lowered ∈ group, Executed env plan lowered)
    (hnodup : (group.map LoweredTask.name).Nodup) (lastSuccess : Option TaskResult)
    (state : OrchestrationState)
    : GroupCompletes plan (env.ownResult plan state) group lastSuccess state
        (env.executeGroupSerial plan place lastSuccess group state) := by
  induction group generalizing lastSuccess state with
  | nil => exact ⟨rfl, rfl, fun taskId => (if_neg List.not_mem_nil).symm⟩
  | cons lowered group ih =>
    have hlowered := hgroup lowered (List.mem_cons_self ..)
    have hrest := fun task hmem => hgroup task (List.mem_cons_of_mem lowered hmem)
    obtain ⟨subtask, hget, _⟩ := id hlowered.isLowered
    obtain ⟨hsuccess, hblocked⟩ := hlowered.success state
    obtain ⟨hnew, hnodup⟩ := List.nodup_cons.mp hnodup
    unfold executeGroupSerial executeLoweredSubtask
    rw [hget]
    dsimp only
    unfold ownResult at hsuccess hblocked
    rw [if_pos hsuccess, hblocked, Option.isSome_none, if_neg Bool.false_ne_true,
      if_neg (fun hprompt =>
        primitive_of_parallelSafe hlowered.isLowered hlowered.parallelSafe hprompt.1)]
    obtain ⟨hentries, hstatuses⟩ := @recordResult_success env place lowered subtask _ hsuccess
      (env.markSubtaskStarted subtask lowered place state)
    refine GroupCompletes.cons hget hentries ?_ ((ih hrest hnodup _ _).congr ?_)
    . intro taskId
      rw [hstatuses]
      split
      . rfl
      . next hne => exact (taskStatus_upsertRuntimeSubtaskTask ..).trans (if_neg hne)
    . intro task hmem
      apply (hrest task hmem).ownResult_congr
      have hname : lowered.name ≠ task.name := by
        intro heq
        exact hnew (heq ▸ List.mem_map_of_mem hmem)
      rw [hentries]
      exact congrArg (Option.map Prod.snd) (Value.find?_setField_ne _ _ hname)

theorem submitGroup_eq (hgroup : ∀ lowered ∈ group, Executed env plan lowered)
    (state : OrchestrationState)
    : (env.submitGroup plan place group state).1
          = group.map (fun lowered => (lowered, env.ownResult plan state lowered))
        ∧ (env.submitGroup plan place group state).2.subtaskResults = state.subtaskResults
        ∧ ∀ taskId, taskId ∉ groupTaskIds plan group
          → (env.submitGroup plan place group state).2.runtimeState.taskStatus taskId
            = state.runtimeState.taskStatus taskId := by
  induction group generalizing state with
  | nil => exact ⟨rfl, rfl, fun _ _ => rfl⟩
  | cons lowered group ih =>
    have hrest := fun task hmem => hgroup task (List.mem_cons_of_mem lowered hmem)
    obtain ⟨subtask, hget, _⟩ := id (hgroup lowered (List.mem_cons_self ..)).isLowered
    obtain ⟨hreceivers, hentries, hstatuses⟩ :=
      ih hrest (env.markSubtaskStarted subtask lowered place state)
    unfold submitGroup
    rw [hget, groupTaskIds_cons hget]
    dsimp only
    refine ⟨?_, hentries, ?_⟩
    . rw [hreceivers, List.map_cons]
      refine congrArg _ (List.map_congr_left ?_)
      intro task hmem
      rw [(hrest task hmem).ownResult_congr rfl]
      exact rfl
    . intro taskId hmem
      rw [List.mem_cons, not_or] at hmem
      obtain ⟨hne, hmem⟩ := hmem
      exact (hstatuses taskId hmem).trans
        ((taskStatus_upsertRuntimeSubtaskTask ..).trans (if_neg hne))

theorem receiveGroup_completes {own : LoweredTask → TaskResult}
    (hgroup : ∀ lowered ∈ group, env.IsLowered plan lowered ∧ (own lowered).status = "success")
    (lastSuccess : Option TaskResult) (state : OrchestrationState)
    : GroupCompletes plan own group lastSuccess state (env.receiveGroup plan place lastSuccess
        (group.map (fun lowered => (lowered, own lowered))) state) := by
  induction group generalizing lastSuccess state with
  | nil => exact ⟨rfl, rfl, fun taskId => (if_neg List.not_mem_nil).symm⟩
  | cons lowered group ih =>
    have hrest := fun task hmem => hgroup task (List.mem_cons_of_mem lowered hmem)
    obtain ⟨⟨subtask, hget, _⟩, hsuccess⟩ := hgroup lowered (List.mem_cons_self ..)
    obtain ⟨hentries, hstatuses⟩ := @recordResult_success env place lowered subtask _ hsuccess state
    rw [List.map_cons]
    unfold receiveGroup
    rw [hget]
    dsimp only
    rw [if_pos hsuccess]
    exact GroupCompletes.cons hget hentries hstatuses (ih hrest _ _)

theorem executeGroupParallel_completes (hgroup : ∀ lowered ∈ group, Executed env plan lowered)
    (state : OrchestrationState)
    : GroupCompletes plan (env.ownResult plan state) group none state
        (env.executeGroupParallel plan place group state) := by
  obtain ⟨hreceivers, hentries, hstatuses⟩ := @submitGroup_eq env plan place group hgroup state
  have hcompletes := @receiveGroup_completes env plan place group (env.ownResult plan state)
    (fun lowered hmem => ⟨(hgroup lowered hmem).isLowered, ((hgroup lowered hmem).success state).1⟩)
    none (env.submitGroup plan place group state).2
  rw [← hreceivers] at hcompletes
  refine ⟨hcompletes.result, ?_, ?_⟩
  . rw [← hentries]
    exact hcompletes.entries
  . intro taskId
    refine (hcompletes.statuses taskId).trans ?_
    split
    . rfl
    . next hmem => exact hstatuses taskId hmem

theorem resultEntry_withoutRun {result result' : TaskResult}
    (h : result.withoutRun = result'.withoutRun)
    : (resultEntry lowered result).withoutRun = (resultEntry lowered result').withoutRun := by
  unfold TaskResult.withoutRun at h
  injection h with _ _ hstatus hresult herror _ _ hreason
  unfold resultEntry
  rw [hstatus, hresult, herror, hreason]
  rfl

theorem map_withoutRun_putEntries (own : LoweredTask → TaskResult) (group : List LoweredTask)
    (entries : List (String × Value))
    : (putEntries own group entries).map (fun entry => (entry.1, entry.2.withoutRun))
        = group.foldl
            (fun entries lowered =>
              Value.setField lowered.name (resultEntry lowered (own lowered)).withoutRun entries)
            (entries.map (fun entry => (entry.1, entry.2.withoutRun))) := by
  unfold putEntries
  induction group generalizing entries with
  | nil => rfl
  | cons lowered group ih =>
    rw [List.foldl_cons, List.foldl_cons, ih, Value.map_setField]

end Outcome

/-- Two executions leave the same results, statuses and context, but for the workers and the clock. -/
structure SameOutcome (outcome outcome' : Option TaskResult × OrchestrationState) : Prop where
  result : outcome.1.map TaskResult.withoutRun = outcome'.1.map TaskResult.withoutRun
  entries : outcome.2.subtaskResults.map (fun entry => (entry.1, entry.2.withoutRun))
    = outcome'.2.subtaskResults.map (fun entry => (entry.1, entry.2.withoutRun))
  statuses : ∀ taskId, outcome.2.runtimeState.taskStatus taskId
    = outcome'.2.runtimeState.taskStatus taskId

theorem GroupCompletes.sameOutcome {plan : OrchestrationPlan} {own own' : LoweredTask → TaskResult}
    {group : List LoweredTask} {state : OrchestrationState}
    {outcome outcome' : Option TaskResult × OrchestrationState}
    (h : GroupCompletes plan own group none state outcome)
    (h' : GroupCompletes plan own' group none state outcome')
    (hown : ∀ lowered ∈ group, (own lowered).withoutRun = (own' lowered).withoutRun)
    : SameOutcome outcome outcome' := by
  constructor
  . rw [h.result, h'.result]
    cases hlast : group.getLast? with
    | none => rfl
    | some last => exact congrArg some (hown last (List.mem_of_getLast? hlast))
  . rw [h.entries, h'.entries, map_withoutRun_putEntries, map_withoutRun_putEntries]
    apply List.foldl_ext
    intro entries lowered hmem
    rw [resultEntry_withoutRun (hown lowered hmem)]
  . intro taskId
    rw [h.statuses, h'.statuses]

section Main

variable (env : OrchestratorEnvironment) (plan : OrchestrationPlan)

theorem nodup_groupTasks {group : Nat × List LoweredTask} (h : group ∈ env.groupTasks plan)
    : (group.2.map LoweredTask.name).Nodup := by
  have hnodup : ((env.stages plan).flatMap (fun s => s.items.map LoweredTask.name)).Nodup := by
    rw [← List.map_flatMap, map_name_items]
    exact plan.flatten_parallelGroups.1
  exact (List.nodup_flatMap.mp hnodup).1 (env.stage group) (List.mem_map_of_mem h)

/--
A group of a plan that needs no prompts leaves the same if it is executed one by one as in threads that
complete in any order, with any other workers and clock.
-/
theorem executeGroupThreads_sameOutcome {group : Nat × List LoweredTask}
    (hgroup : group ∈ env.groupTasks plan) (hsafe : ∀ lowered ∈ group.2, lowered.parallelSafe = true)
    (hexecuted : ∀ lowered ∈ group.2, ∃ workerId durationMs,
      env.submission lowered.name = .executed workerId durationMs)
    (submission : String → Submission) (now : UInt64)
    (hsubmission : ∀ lowered ∈ group.2, ∃ workerId durationMs,
      submission lowered.name = .executed workerId durationMs)
    (place place' : GroupPlace) (completions : List Nat)
    (hcompletions : completions.Perm (List.range group.2.length)) (state : OrchestrationState)
    : ∃ outcome, ({ env with submission, now } : OrchestratorEnvironment).executeGroupThreads plan
          place' group.2 completions state = some outcome
        ∧ SameOutcome (env.executeGroupSerial plan place none group.2 state) outcome := by
  have hlowered := (env.groupTasks_spec plan hgroup).2
  have hserial : ∀ lowered ∈ group.2, Executed env plan lowered := fun lowered hmem =>
    ⟨hlowered lowered hmem, hsafe lowered hmem, hexecuted lowered hmem⟩
  have hthreads : ∀ lowered ∈ group.2, Executed { env with submission, now } plan lowered :=
    fun lowered hmem => ⟨hlowered lowered hmem, hsafe lowered hmem, hsubmission lowered hmem⟩
  refine ⟨_, executeGroupThreads_eq (fun lowered hmem => (hthreads lowered hmem).isLowered) ?_ state,
    ?_⟩
  . intro i hi
    exact hcompletions.mem_iff.mpr (List.mem_range.mpr hi)
  . refine (executeGroupSerial_completes hserial (env.nodup_groupTasks plan hgroup) none
      state).sameOutcome (executeGroupParallel_completes hthreads state) ?_
    intro lowered hmem
    obtain ⟨workerId, durationMs, hworker⟩ := hexecuted lowered hmem
    obtain ⟨workerId', durationMs', hworker'⟩ := hsubmission lowered hmem
    rw [(hserial lowered hmem).ownResult_eq hworker, (hthreads lowered hmem).ownResult_eq hworker']
    rfl

end Main

def twoReports : OrchestrationPlan :=
  decomposeTask "build a shop" "trace_1" "job_1" (fun i => "id_" ++ toString i) 0
    (some [{ name := "notes", taskType := "generic" }, { name := "report", taskType := "reporting" }])

theorem executeGroupThreads_sameOutcome_twoReports
    : ∃ group ∈ (answering (.ok .null)).groupTasks twoReports,
        group.2.map LoweredTask.name = ["notes", "report"]
          ∧ ∃ outcome, ({ answering (.ok .null) with
                submission := fun _ => .executed "worker_2" 7
                now := 9 } : OrchestratorEnvironment).executeGroupThreads
              twoReports ⟨.whitelistParallel, 0, 2⟩ group.2 [1, 0] { runtimeState := {} } = some outcome
            ∧ SameOutcome ((answering (.ok .null)).executeGroupSerial twoReports ⟨.serial, 0, 2⟩ none
              group.2 { runtimeState := {} }) outcome := by
  have hnames : ((answering (.ok .null)).groupTasks twoReports).map
      (fun group => group.2.map LoweredTask.name) = [["notes", "report"]] := by
    decide +kernel
  have hsafe : ((answering (.ok .null)).groupTasks twoReports).all
      (fun group => group.2.all LoweredTask.parallelSafe) = true := by
    decide +kernel
  have hmem : ["notes", "report"] ∈ ((answering (.ok .null)).groupTasks twoReports).map
      (fun group => group.2.map LoweredTask.name) := by
    rw [hnames]
    exact List.mem_singleton_self _
  obtain ⟨group, hmem, hgroup⟩ := List.mem_map.mp hmem
  have hlength : group.2.length = 2 := by
    rw [← List.length_map LoweredTask.name, hgroup]
    rfl
  refine ⟨group, hmem, hgroup, ?_⟩
  refine executeGroupThreads_sameOutcome (answering (.ok .null)) twoReports hmem ?_ ?_
    (fun _ => .executed "worker_2" 7) 9 ?_ _ _ [1, 0] ?_ { runtimeState := {} }
  . exact List.all_eq_true.mp (List.all_eq_true.mp hsafe group hmem)
  . exact fun _ _ => ⟨"worker_1", 5, rfl⟩
  . exact fun _ _ => ⟨"worker_2", 7, rfl⟩
  . rw [hlength]
    decide

end OrchestratorEnvironment

end AnimaAgent
