import AnimaAgent.Library.IndexMap
import AnimaAgent.Support.Value

namespace AnimaAgent

structure SubTask where
  id : String
  parentId : String
  parentJobId : String
  traceId : String
  name : String
  taskType : String
  description : String
  dependencies : List String
  priority : Nat
  specialistType : String
  payload : Value

abbrev SubTasks := IndexMap String SubTask

structure VisitState where
  visited : List String := []
  order : List String := []

def visit (subtasks : SubTasks) (visiting : List String) (name : String) (state : VisitState)
    : VisitState :=
  if _hnew : name ∈ state.visited ∨ name ∈ visiting then
    state
  else
    let inner :=
      match _hget : subtasks.get name with
      | some subtask =>
        subtask.dependencies.foldl
          (fun state dependency => visit subtasks (name :: visiting) dependency state) state
      | none => state
    { visited := name :: inner.visited, order := inner.order ++ [name] }
termination_by (subtasks.keys.filter (fun key => decide (key ∉ visiting))).length
decreasing_by
  have hname : name ∈ subtasks.keys.filter (fun key => decide (key ∉ visiting)) := by
    have hkey : name ∈ subtasks.keys := IndexMap.mem_keys_iff.mpr ⟨_, _hget⟩
    exact List.mem_filter.mpr ⟨hkey, decide_eq_true (fun h => _hnew (.inr h))⟩
  have hfilter : subtasks.keys.filter (fun key => decide (key ∉ name :: visiting))
      = (subtasks.keys.filter (fun key => decide (key ∉ visiting))).filter
          (fun key => decide (key ≠ name)) := by
    rw [List.filter_filter]
    apply List.filter_congr
    intro key _
    simp [not_or]
  rw [hfilter]
  exact List.length_filter_lt_length_iff_exists.mpr ⟨name, hname, by simp⟩

def topologicalSort (subtasks : SubTasks) : List String :=
  (subtasks.keys.foldl (fun state name => visit subtasks [] name state) {}).order

def depsSatisfied (subtasks : SubTasks) (completed : List String) (name : String) : Bool :=
  (subtasks.get name).any
    (fun subtask => subtask.dependencies.all (fun d => decide (d ∈ completed)))

def stillRemains (subtasks : SubTasks) (completed : List String) (name : String) : Bool :=
  (subtasks.get name).any
    (fun subtask => !subtask.dependencies.all (fun d => decide (d ∈ completed)))

def nextGroup (subtasks : SubTasks) (completed remaining : List String) : List String :=
  remaining.filter (depsSatisfied subtasks completed)

def stillRemaining (subtasks : SubTasks) (completed remaining : List String) : List String :=
  remaining.filter (stillRemains subtasks completed)

theorem stillRemaining_length_lt {subtasks : SubTasks} {completed remaining : List String}
    (h : nextGroup subtasks completed remaining ≠ [])
    : (stillRemaining subtasks completed remaining).length < remaining.length := by
  obtain ⟨name, hname⟩ := List.exists_mem_of_ne_nil _ h
  obtain ⟨hmem, hsatisfied⟩ := List.mem_filter.mp hname
  refine List.length_filter_lt_length_iff_exists.mpr ⟨name, hmem, ?_⟩
  unfold depsSatisfied at hsatisfied
  unfold stillRemains
  cases hget : subtasks.get name with
  | none => exact Bool.false_ne_true
  | some subtask =>
    rw [hget, Option.any_some] at hsatisfied
    rw [Option.any_some, hsatisfied]
    exact Bool.false_ne_true

def parallelGroupsFrom (subtasks : SubTasks) (completed remaining : List String)
    : List (List String) :=
  if remaining = [] then
    []
  else if _hgroup : nextGroup subtasks completed remaining = [] then
    -- nothing can be started, so that all that remains is started
    [stillRemaining subtasks completed remaining]
  else
    nextGroup subtasks completed remaining
      :: parallelGroupsFrom subtasks (completed ++ nextGroup subtasks completed remaining)
        (stillRemaining subtasks completed remaining)
termination_by remaining.length
decreasing_by exact stillRemaining_length_lt _hgroup

def computeParallelGroups (subtasks : SubTasks) (executionOrder : List String)
    : List (List String) :=
  parallelGroupsFrom subtasks [] executionOrder

structure OrchestrationPlan where
  id : String
  traceId : String
  parentJobId : String
  originalRequest : String
  matchedRule : Option String
  subtasks : SubTasks
  executionOrder : List String
  parallelGroups : List (List String)
  createdAt : UInt64
  named : ∀ name subtask, subtasks.get name = some subtask → subtask.name = name
  ordered : executionOrder = topologicalSort subtasks
  grouped : parallelGroups = computeParallelGroups subtasks executionOrder

structure LlmSubtaskSpec where
  name : String
  taskType : String := "generic"
  specialistType : String := "default"
  dependencies : List String := []
  description : String := ""

def tryLlmDecompose (decoded : Option (List LlmSubtaskSpec)) : Option (List LlmSubtaskSpec) :=
  decoded.bind fun specs => if specs.isEmpty then none else some (specs.take 6)

section Build

variable (request traceId parentJobId planId : String)

def LlmSubtaskSpec.toSubTask (spec : LlmSubtaskSpec) (subId : String) : SubTask where
  id := subId
  parentId := planId
  parentJobId := parentJobId
  traceId := traceId
  name := spec.name
  taskType := spec.taskType
  description :=
    if spec.description.isEmpty then spec.name ++ " for: " ++ request else spec.description
  dependencies := spec.dependencies.dedup
  priority := 5
  specialistType := spec.specialistType
  payload := .object [("request", .string request), ("rule", .string "llm-decompose"),
    ("subtask", .string spec.name)]

def specSubtasks (uuid : Nat → String) (specs : List LlmSubtaskSpec) : SubTasks :=
  specs.zipIdx.foldl
    (fun subtasks (spec, i) => subtasks.insert spec.name
      (spec.toSubTask request traceId parentJobId planId (uuid (i + 1)))) IndexMap.empty

theorem specSubtasks_named (uuid : Nat → String) (specs : List LlmSubtaskSpec) (name : String)
    (subtask : SubTask)
    (h : (specSubtasks request traceId parentJobId planId uuid specs).get name = some subtask)
    : subtask.name = name := by
  unfold specSubtasks at h
  generalize specs.zipIdx = indexed at h
  have hnamed : ∀ name subtask, (IndexMap.empty : SubTasks).get name = some subtask
      → subtask.name = name := by
    intro name subtask h
    cases h
  generalize IndexMap.empty = subtasks at h hnamed
  induction indexed generalizing subtasks with
  | nil => exact hnamed name subtask h
  | cons entry indexed ih =>
    refine ih _ h ?_
    intro name subtask hget
    obtain ⟨rfl, rfl⟩ | hget := IndexMap.get_insert hget
    . rfl
    . exact hnamed name subtask hget

def planOfSubtasks (matchedRule : Option String) (subtasks : SubTasks) (now : UInt64)
    (named : ∀ name subtask, subtasks.get name = some subtask → subtask.name = name)
    : OrchestrationPlan where
  id := planId
  traceId := traceId
  parentJobId := parentJobId
  originalRequest := request
  matchedRule := matchedRule
  subtasks := subtasks
  executionOrder := topologicalSort subtasks
  parallelGroups := computeParallelGroups subtasks (topologicalSort subtasks)
  createdAt := now
  named := named
  ordered := rfl
  grouped := rfl

end Build

section Decompose

variable (request traceId parentJobId : String) (uuid : Nat → String) (now : UInt64)

def buildPlanFromLlmSpecs (specs : List LlmSubtaskSpec) : OrchestrationPlan :=
  planOfSubtasks request traceId parentJobId (uuid 0) (some "llm-decompose")
    (specSubtasks request traceId parentJobId (uuid 0) uuid specs) now
    (specSubtasks_named request traceId parentJobId (uuid 0) uuid specs)

def genericSubTask : SubTask where
  id := uuid 1
  parentId := uuid 0
  parentJobId := parentJobId
  traceId := traceId
  name := "generic"
  taskType := "generic"
  description := "Generic task: " ++ request
  dependencies := []
  priority := 5
  specialistType := "default"
  payload := .object [("request", .string request)]

def decomposeTask (decoded : Option (List LlmSubtaskSpec)) : OrchestrationPlan :=
  match tryLlmDecompose decoded with
  | some specs => buildPlanFromLlmSpecs request traceId parentJobId uuid now specs
  | none =>
    planOfSubtasks request traceId parentJobId (uuid 0) none
      (IndexMap.empty.insert "generic" (genericSubTask request traceId parentJobId uuid)) now
      (fun _ _ hget => by
        obtain ⟨rfl, rfl⟩ | hget := IndexMap.get_insert hget
        . rfl
        . cases hget)

end Decompose

end AnimaAgent
