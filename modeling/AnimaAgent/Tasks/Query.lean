import AnimaAgent.Runtime.Types

namespace AnimaAgent

namespace RuntimeStateSnapshot

def values {ρ : Type} (map : AList (fun _ : String => ρ)) : List ρ :=
  map.entries.map Sigma.snd

theorem mem_values_iff {ρ : Type} {map : AList (fun _ : String => ρ)} {record : ρ}
    : record ∈ values map ↔ ∃ id, map.lookup id = some record := by
  unfold values
  rw [List.mem_map]
  constructor
  . rintro ⟨entry, hmem, rfl⟩
    exact ⟨entry.1, AList.mem_lookup_iff.mpr hmem⟩
  . rintro ⟨id, hlookup⟩
    exact ⟨⟨id, record⟩, AList.mem_lookup_iff.mp hlookup, rfl⟩

def maxByKey {ρ : Type} (key : ρ → UInt64) : List ρ → Option ρ
  | [] => none
  | record :: records =>
    match maxByKey key records with
    | none => some record
    | some best => if key record ≤ key best then some best else some record

theorem maxByKey_eq_none_iff {ρ : Type} {key : ρ → UInt64} {records : List ρ}
    : maxByKey key records = none ↔ records = [] := by
  cases records with
  | nil => exact iff_of_true rfl rfl
  | cons record records =>
    refine iff_of_false ?_ (List.cons_ne_nil _ _)
    unfold maxByKey
    cases maxByKey key records with
    | none => exact Option.some_ne_none _
    | some best =>
      dsimp only
      split
      . exact Option.some_ne_none _
      . exact Option.some_ne_none _

variable (snapshot : RuntimeStateSnapshot)

def runByJobId (jobId : String) : Option RunRecord :=
  (snapshot.index.runIdsByJobId.lookup jobId).bind snapshot.runs.lookup

def taskOrder (a b : TaskRecord) : Bool :=
  let started := fun task : TaskRecord => task.startedAtMs.getD task.updatedAtMs
  decide (started a < started b) || (started a == started b
    && (decide (b.updatedAtMs < a.updatedAtMs) || (a.updatedAtMs == b.updatedAtMs
      && decide (a.taskId ≤ b.taskId))))

def tasksForRun (runId : String) : List TaskRecord :=
  ((values snapshot.tasks).filter (fun task => task.runId == runId)).mergeSort taskOrder

def tasksForJob (jobId : String) : List TaskRecord :=
  match snapshot.runByJobId jobId with
  | some run => snapshot.tasksForRun run.runId
  | none => []

def tasksForPlan (planId : String) : List TaskRecord :=
  (((snapshot.index.taskIdsByPlanId.lookup planId).getD []).filterMap
    snapshot.tasks.lookup).mergeSort taskOrder

def planTask (planId : String) : Option TaskRecord :=
  (snapshot.tasksForPlan planId).find? (fun task => task.parentTaskId.isNone)

def subtasksForPlan (planId : String) : List TaskRecord :=
  ((snapshot.tasksForPlan planId).filter (fun task => task.parentTaskId.isSome)).mergeSort taskOrder

def activeSuspensionOf (runId : String) : Option SuspensionRecord :=
  (values snapshot.suspensions).find?
    (fun record => record.runId == runId && record.status == .active)

def activeRequirement (runId : String) : Option RequirementRecord :=
  (values snapshot.requirements).find? (fun record => record.runId == runId)

def latestToolInvocation (runId : String) : Option ToolInvocationRuntimeRecord :=
  maxByKey ToolInvocationRuntimeRecord.startedAtMs
    ((values snapshot.toolInvocations).filter (fun record => record.runId == runId))

def invocationByQuestionId (questionId : String) : Option ToolInvocationRuntimeRecord :=
  (snapshot.index.invocationIdsByQuestionId.lookup questionId).bind snapshot.toolInvocations.lookup

end RuntimeStateSnapshot

end AnimaAgent
