import AnimaAgent.Orchestrator.GroupEvents
import AnimaAgent.Orchestrator.ParallelGroups

namespace AnimaAgent

open Stages (Stage)

theorem OrchestrationPlan.flatten_parallelGroups (plan : OrchestrationPlan)
    : plan.parallelGroups.flatten.Nodup
        ∧ ∀ name, name ∈ plan.parallelGroups.flatten ↔ name ∈ plan.subtasks.keys := by
  obtain ⟨hnodup, hmem⟩ := (layered_topologicalSort plan.subtasks).flatten
  rw [plan.grouped, plan.ordered]
  refine ⟨hnodup, ?_⟩
  intro name
  refine (hmem name).trans (and_iff_right_of_imp ?_)
  exact (topologicalSort_spec plan.subtasks).2 name

namespace OrchestratorEnvironment

variable (env : OrchestratorEnvironment) (plan : OrchestrationPlan)

def taskNamed (name : String) : Option LoweredTask :=
  (env.loweredTasks plan).find? (fun task => task.name == name)

theorem isLowered_lowerSubtask {name : String} {subtask : SubTask}
    (h : plan.subtasks.get name = some subtask)
    : env.IsLowered plan (env.lowerSubtask plan subtask) := by
  refine ⟨subtask, ?_, rfl⟩
  rw [← plan.named name subtask h] at h
  exact h

theorem mem_loweredTasks_iff {lowered : LoweredTask}
    : lowered ∈ env.loweredTasks plan ↔ env.IsLowered plan lowered := by
  unfold loweredTasks
  rw [List.mem_map]
  constructor
  . rintro ⟨subtask, hmem, rfl⟩
    obtain ⟨name, _, hget⟩ := List.mem_filterMap.mp hmem
    exact env.isLowered_lowerSubtask plan hget
  . rintro ⟨subtask, hget, hlowered⟩
    refine ⟨subtask, List.mem_filterMap.mpr ⟨lowered.name, ?_, hget⟩, hlowered.symm⟩
    rw [plan.ordered]
    exact (topologicalSort_spec plan.subtasks).2 _ (IndexMap.mem_keys_iff.mpr ⟨subtask, hget⟩)

theorem taskNamed_eq_some {name : String} {lowered : LoweredTask}
    (h : env.taskNamed plan name = some lowered)
    : env.IsLowered plan lowered ∧ lowered.name = name := by
  have hname := List.find?_some h
  exact ⟨(env.mem_loweredTasks_iff plan).mp (List.mem_of_find?_eq_some h), by simpa using hname⟩

theorem IsLowered.eq {env : OrchestratorEnvironment} {plan : OrchestrationPlan}
    {lowered lowered' : LoweredTask} (h : env.IsLowered plan lowered)
    (h' : env.IsLowered plan lowered') (hname : lowered.name = lowered'.name)
    : lowered = lowered' := by
  obtain ⟨subtask, hget, rfl⟩ := h
  obtain ⟨subtask', hget', rfl⟩ := h'
  rw [hname, hget'] at hget
  cases hget
  rfl

theorem exists_taskNamed {name : String} (h : name ∈ plan.subtasks.keys)
    : ∃ lowered, env.taskNamed plan name = some lowered := by
  obtain ⟨subtask, hget⟩ := IndexMap.mem_keys_iff.mp h
  have hlowered := env.isLowered_lowerSubtask plan hget
  apply Option.isSome_iff_exists.mp
  apply List.find?_isSome.mpr
  refine ⟨_, (env.mem_loweredTasks_iff plan).mpr hlowered, ?_⟩
  exact beq_iff_eq.mpr (plan.named name subtask hget)

theorem groupTasks_spec {group : Nat × List LoweredTask} (h : group ∈ env.groupTasks plan)
    : group.2 ≠ [] ∧ ∀ lowered ∈ group.2, env.IsLowered plan lowered := by
  obtain ⟨hmem, hne⟩ := List.mem_filter.mp h
  obtain ⟨⟨names, i⟩, _, rfl⟩ := List.mem_map.mp hmem
  refine ⟨by simpa using hne, ?_⟩
  intro lowered hlowered
  obtain ⟨name, _, hfind⟩ := List.mem_filterMap.mp hlowered
  exact (env.taskNamed_eq_some plan hfind).1

def stages : List (Stage LoweredTask) :=
  (env.groupTasks plan).map env.stage

theorem items_ne_nil {s : Stage LoweredTask} (h : s ∈ env.stages plan) : s.items ≠ [] := by
  obtain ⟨group, hgroup, rfl⟩ := List.mem_map.mp h
  exact (env.groupTasks_spec plan hgroup).1

theorem isLowered_of_mem {s : Stage LoweredTask} (h : s ∈ env.stages plan) {lowered : LoweredTask}
    (hmem : lowered ∈ s.items)
    : env.IsLowered plan lowered := by
  obtain ⟨group, hgroup, rfl⟩ := List.mem_map.mp h
  exact (env.groupTasks_spec plan hgroup).2 lowered hmem

theorem pairwise_index : (env.stages plan).Pairwise (fun s t => s.index < t.index) := by
  have hzip : (plan.parallelGroups.zipIdx.map Prod.snd).Pairwise (fun i j => i < j) := by
    rw [List.zipIdx_map_snd]
    exact List.pairwise_lt_range'
  unfold stages groupTasks
  rw [List.pairwise_map]
  apply List.Pairwise.filter
  rw [List.pairwise_map]
  exact List.pairwise_map.mp hzip

theorem flatMap_items_filter (groups : List (Nat × List LoweredTask))
    : ((groups.filter (fun (_, tasks) => !tasks.isEmpty)).map env.stage).flatMap Stage.items
        = groups.flatMap Prod.snd := by
  induction groups with
  | nil => rfl
  | cons group groups ih =>
    obtain ⟨i, tasks⟩ := group
    cases tasks with
    | nil => exact ih
    | cons task tasks =>
      rw [List.filter_cons_of_pos rfl, List.map_cons, List.flatMap_cons, List.flatMap_cons, ih]
      rfl

theorem map_name_tasks {names : List String} (h : ∀ name ∈ names, name ∈ plan.subtasks.keys)
    : (names.filterMap (env.taskNamed plan)).map LoweredTask.name = names := by
  rw [List.map_filterMap]
  calc
    names.filterMap (fun name => (env.taskNamed plan name).map LoweredTask.name)
      = names.filterMap some := by
        apply List.filterMap_congr
        intro name hmem
        obtain ⟨lowered, htask⟩ := env.exists_taskNamed plan (h name hmem)
        rw [htask, Option.map_some, (env.taskNamed_eq_some plan htask).2]
    _ = names := List.filterMap_some

theorem map_name_items
    : ((env.stages plan).flatMap Stage.items).map LoweredTask.name = plan.parallelGroups.flatten := by
  unfold stages groupTasks
  rw [flatMap_items_filter, List.flatMap_map, List.map_flatMap]
  have hnames : ∀ group ∈ plan.parallelGroups.zipIdx,
      (group.1.filterMap (env.taskNamed plan)).map LoweredTask.name = group.1 := by
    intro group hmem
    apply env.map_name_tasks plan
    intro name hname
    apply (plan.flatten_parallelGroups.2 name).mp
    exact List.mem_flatten.mpr ⟨group.1, List.fst_mem_of_mem_zipIdx hmem, hname⟩
  calc
    plan.parallelGroups.zipIdx.flatMap
        (fun group => (group.1.filterMap (env.taskNamed plan)).map LoweredTask.name)
      = plan.parallelGroups.zipIdx.flatMap Prod.fst := List.flatMap_congr hnames
    _ = (plan.parallelGroups.zipIdx.map Prod.fst).flatten := List.flatMap_def
    _ = plan.parallelGroups.flatten := by rw [List.zipIdx_map_fst]

theorem nodup_items : ((env.stages plan).flatMap Stage.items).Nodup := by
  apply List.Nodup.of_map LoweredTask.name
  rw [map_name_items]
  exact plan.flatten_parallelGroups.1

theorem exists_stage {lowered : LoweredTask} (h : env.IsLowered plan lowered)
    : ∃ s ∈ env.stages plan, lowered ∈ s.items := by
  obtain ⟨subtask, hget, _⟩ := id h
  have hname : lowered.name ∈ ((env.stages plan).flatMap Stage.items).map LoweredTask.name := by
    rw [map_name_items]
    exact (plan.flatten_parallelGroups.2 _).mpr (IndexMap.mem_keys_iff.mpr ⟨subtask, hget⟩)
  obtain ⟨other, hmem, heq⟩ := List.mem_map.mp hname
  obtain ⟨s, hs, hother⟩ := List.mem_flatMap.mp hmem
  rw [h.eq (env.isLowered_of_mem plan hs hother) heq.symm]
  exact ⟨s, hs, hother⟩

end OrchestratorEnvironment

end AnimaAgent
