import AnimaAgent.Library.Index
import AnimaAgent.Runtime.RestartFidelity

namespace AnimaAgent

open Index

def RuntimeStateSnapshot.sessionInvocationIds (snapshot : RuntimeStateSnapshot) (chatId : String)
    : List String :=
  (snapshot.toolInvocations.entries.filter
    (fun entry => decide (entry.2.runId ∈ snapshot.sessionRunIds chatId))).map Sigma.fst

/-- The runtime state, with what was deleted with a session and has not been written since. -/
structure SessionRecords where
  snapshot : RuntimeStateSnapshot := {}
  deletedRuns : List String := []
  deletedInvocations : List String := []

namespace SessionRecords

variable (state : SessionRecords)

def deletedRunsAfter : StoreAction → List String
  | .append (.runUpserted run) => state.deletedRuns.filter (fun id => decide (id ≠ run.runId))
  | .deleteSession chatId => state.deletedRuns ++ state.snapshot.sessionRunIds chatId
  | _ => state.deletedRuns

def deletedInvocationsAfter : StoreAction → List String
  | .append (.toolInvocationUpserted invocation) =>
    state.deletedInvocations.filter (fun id => decide (id ≠ invocation.invocationId))
  | .deleteSession chatId => state.deletedInvocations ++ state.snapshot.sessionInvocationIds chatId
  | _ => state.deletedInvocations

def step (action : StoreAction) : Option SessionRecords :=
  some
    { snapshot := state.snapshot.perform action
      deletedRuns := state.deletedRunsAfter action
      deletedInvocations := state.deletedInvocationsAfter action }

/-- The indexes name records that carry their keys, and nothing of a deleted session. -/
structure IndexIntegrity : Prop where
  jobs : Names (fun run jobId => run.jobId = jobId) state.snapshot.index.runIdsByJobId
    state.snapshot.runs
  questions : Names (fun suspension questionId => suspension.questionId = some questionId)
    state.snapshot.index.suspensionIdsByQuestionId state.snapshot.suspensions
  plans : Lists TaskRecord.planId state.snapshot.index.taskIdsByPlanId state.snapshot.tasks
  invocations : Backed SuspensionRecord.invocationEntry
    state.snapshot.index.invocationIdsByQuestionId state.snapshot.suspensions
  liveInvocations : ∀ questionId invocationId,
    state.snapshot.index.invocationIdsByQuestionId.lookup questionId = some invocationId
      → invocationId ∉ state.deletedInvocations
  hints : ∀ runId ∈ state.deletedRuns, state.snapshot.projectionHints.lookup runId = none

structure Unreferenced (chatId : String) : Prop where
  questions : ∀ questionId id suspension,
    state.snapshot.index.suspensionIdsByQuestionId.lookup questionId = some id
      → state.snapshot.suspensions.lookup id = some suspension
      → suspension.runId ∉ state.snapshot.sessionRunIds chatId
  plans : ∀ id task, state.snapshot.tasks.lookup id = some task → task.planId.isSome
    → task.runId ∉ state.snapshot.sessionRunIds chatId
  invocations : ∀ questionId invocationId,
    state.snapshot.index.invocationIdsByQuestionId.lookup questionId = some invocationId
      → ∃ id suspension, state.snapshot.suspensions.lookup id = some suspension
        ∧ suspension.runId ∉ state.snapshot.sessionRunIds chatId
        ∧ suspension.invocationEntry = some (questionId, invocationId)
  liveInvocations : ∀ questionId invocationId,
    state.snapshot.index.invocationIdsByQuestionId.lookup questionId = some invocationId
      → invocationId ∉ state.snapshot.sessionInvocationIds chatId
  hints : ∀ runId ∈ state.snapshot.sessionRunIds chatId,
    state.snapshot.projectionHints.lookup runId = none

structure KeepsQuestion (suspension : SuspensionRecord) : Prop where
  question : ∀ questionId,
    state.snapshot.index.suspensionIdsByQuestionId.lookup questionId
        = some suspension.suspensionId
      → suspension.questionId = some questionId
  invocation : ∀ questionId invocationId,
    state.snapshot.index.invocationIdsByQuestionId.lookup questionId = some invocationId
      → (∀ invocationId', suspension.invocationEntry ≠ some (questionId, invocationId'))
      → ∃ id suspension', id ≠ suspension.suspensionId
        ∧ state.snapshot.suspensions.lookup id = some suspension'
        ∧ suspension'.invocationEntry = some (questionId, invocationId)
  liveInvocation : ∀ questionId invocationId,
    suspension.invocationEntry = some (questionId, invocationId)
      → invocationId ∉ state.deletedInvocations

/-- A written record keeps its keys, and a deleted session is not referred to. -/
def KeepsKeys : StoreAction → Prop
  | .append (.runUpserted run) =>
    ∀ jobId, state.snapshot.index.runIdsByJobId.lookup jobId = some run.runId → run.jobId = jobId
  | .append (.taskUpserted task) =>
    ∀ planId, task.taskId ∈ members state.snapshot.index.taskIdsByPlanId planId
      → task.planId = some planId
  | .append (.suspensionUpserted suspension) => state.KeepsQuestion suspension
  | .append (.projectionHintRecorded runId ..) => runId ∉ state.deletedRuns
  | .deleteSession chatId => state.Unreferenced chatId
  | _ => True

end SessionRecords

theorem RuntimeTaskIndex.taskIdsByPlanId_addTask (index : RuntimeTaskIndex) (task : TaskRecord)
    : (index.addTask task).taskIdsByPlanId
        = join index.taskIdsByPlanId task.taskId task.planId := by
  unfold RuntimeTaskIndex.addTask
  cases task.planId with
  | none => rfl
  | some planId => rfl

namespace SessionRecords

section Step

variable {state : SessionRecords} (h : state.IndexIntegrity)

include h

theorem IndexIntegrity.runUpserted_iff (run : RunRecord)
    : IndexIntegrity
          { snapshot := reduceEvent state.snapshot (.runUpserted run)
            deletedRuns := state.deletedRuns.filter (fun id => decide (id ≠ run.runId))
            deletedInvocations := state.deletedInvocations }
        ↔ ∀ jobId, state.snapshot.index.runIdsByJobId.lookup jobId = some run.runId
          → run.jobId = jobId := by
  rw [← names_enter_iff h.jobs run.runId rfl]
  constructor
  . exact fun hafter => hafter.jobs
  . intro hjobs
    refine ⟨hjobs, h.questions, h.plans, h.invocations, h.liveInvocations, ?_⟩
    exact fun runId hmem => h.hints runId (List.mem_of_mem_filter hmem)

theorem IndexIntegrity.turnUpserted (turn : TurnRecord)
    : IndexIntegrity { state with snapshot := reduceEvent state.snapshot (.turnUpserted turn) } := by
  have hjobs : Names (fun run jobId => run.jobId = jobId) state.snapshot.index.runIdsByJobId
      (state.snapshot.enterTurn turn) := by
    unfold RuntimeStateSnapshot.enterTurn
    cases hrun : state.snapshot.runs.lookup turn.runId with
    | none => exact h.jobs
    | some run =>
      apply (names_insert_iff h.jobs turn.runId _).mpr
      intro jobId hjob
      obtain ⟨run', hrun', hcarries⟩ := h.jobs jobId turn.runId hjob
      cases hrun.symm.trans hrun'
      exact hcarries
  exact ⟨hjobs, h.questions, h.plans, h.invocations, h.liveInvocations, h.hints⟩

theorem IndexIntegrity.taskUpserted_iff (task : TaskRecord)
    : IndexIntegrity { state with snapshot := reduceEvent state.snapshot (.taskUpserted task) }
        ↔ ∀ planId, task.taskId ∈ members state.snapshot.index.taskIdsByPlanId planId
          → task.planId = some planId := by
  rw [← lists_join_iff h.plans task.taskId task, ← RuntimeTaskIndex.taskIdsByPlanId_addTask]
  constructor
  . exact fun hafter => hafter.plans
  . intro hplans
    constructor
    . change Names _ (state.snapshot.index.addTask task).runIdsByJobId _
      rw [RuntimeTaskIndex.runIdsByJobId_addTask]
      exact h.jobs
    . change Names _ (state.snapshot.index.addTask task).suspensionIdsByQuestionId _
      rw [RuntimeTaskIndex.suspensionIdsByQuestionId_addTask]
      exact h.questions
    . exact hplans
    . change Backed _ (state.snapshot.index.addTask task).invocationIdsByQuestionId _
      rw [RuntimeTaskIndex.invocationIdsByQuestionId_addTask]
      exact h.invocations
    . intro questionId invocationId hlookup
      change (state.snapshot.index.addTask task).invocationIdsByQuestionId.lookup _ = _ at hlookup
      rw [RuntimeTaskIndex.invocationIdsByQuestionId_addTask] at hlookup
      exact h.liveInvocations questionId invocationId hlookup
    . exact h.hints

theorem IndexIntegrity.suspensionUpserted_iff (suspension : SuspensionRecord)
    : IndexIntegrity
          { state with snapshot := reduceEvent state.snapshot (.suspensionUpserted suspension) }
        ↔ state.KeepsQuestion suspension := by
  have hquestions : Names (fun suspension questionId => suspension.questionId = some questionId)
        (state.snapshot.index.addSuspension suspension).suspensionIdsByQuestionId
        (state.snapshot.suspensions.insert suspension.suspensionId suspension)
      ↔ ∀ questionId, state.snapshot.index.suspensionIdsByQuestionId.lookup questionId
          = some suspension.suspensionId
        → suspension.questionId = some questionId := by
    cases hquestion : suspension.questionId with
    | none =>
      have hsame : (state.snapshot.index.addSuspension suspension).suspensionIdsByQuestionId
          = state.snapshot.index.suspensionIdsByQuestionId := by
        unfold RuntimeTaskIndex.addSuspension
        rw [hquestion]
      rw [hsame, names_insert_iff h.questions, hquestion]
    | some questionId =>
      rw [RuntimeTaskIndex.suspensionIdsByQuestionId_addSuspension _ hquestion,
        names_enter_iff h.questions _ hquestion, hquestion]
  have hinvocations := (backed_enter_iff suspension.suspensionId suspension :
    Backed SuspensionRecord.invocationEntry
      (Rows.enter SuspensionRecord.invocationEntry suspension
        state.snapshot.index.invocationIdsByQuestionId)
      (state.snapshot.suspensions.insert suspension.suspensionId suspension) ↔ _)
  rw [← RuntimeTaskIndex.invocationIdsByQuestionId_enter] at hinvocations
  have hlive : (∀ questionId invocationId,
        (state.snapshot.index.addSuspension suspension).invocationIdsByQuestionId.lookup questionId
            = some invocationId
          → invocationId ∉ state.deletedInvocations)
      ↔ ∀ questionId invocationId, suspension.invocationEntry = some (questionId, invocationId)
        → invocationId ∉ state.deletedInvocations := by
    rw [RuntimeTaskIndex.invocationIdsByQuestionId_enter]
    unfold Rows.enter
    cases hentry : suspension.invocationEntry with
    | none => exact iff_of_true h.liveInvocations nofun
    | some e =>
      constructor
      . rintro hall questionId invocationId heq
        cases heq
        exact hall questionId invocationId (AList.lookup_insert _)
      . intro hnew questionId invocationId hlookup
        by_cases heq : questionId = e.1
        . subst heq
          cases (AList.lookup_insert _).symm.trans hlookup
          exact hnew e.1 e.2 rfl
        . exact h.liveInvocations questionId invocationId
            ((AList.lookup_insert_ne heq).symm.trans hlookup)
  constructor
  . intro hafter
    exact ⟨hquestions.mp hafter.questions, hinvocations.mp hafter.invocations,
      hlive.mp hafter.liveInvocations⟩
  . intro hkeeps
    constructor
    . change Names _ (state.snapshot.index.addSuspension suspension).runIdsByJobId _
      rw [RuntimeTaskIndex.runIdsByJobId_addSuspension]
      exact h.jobs
    . exact hquestions.mpr hkeeps.question
    . change Lists _ (state.snapshot.index.addSuspension suspension).taskIdsByPlanId _
      rw [RuntimeTaskIndex.taskIdsByPlanId_addSuspension]
      exact h.plans
    . exact hinvocations.mpr hkeeps.invocation
    . exact hlive.mpr hkeeps.liveInvocation
    . exact h.hints

theorem IndexIntegrity.projectionHintRecorded_iff (runId scope key : String) (value : Value)
    : IndexIntegrity
          { state with
            snapshot :=
              reduceEvent state.snapshot (.projectionHintRecorded runId scope key value) }
        ↔ runId ∉ state.deletedRuns := by
  constructor
  . intro hafter hmem
    have hnone := hafter.hints runId hmem
    cases (AList.lookup_insert _).symm.trans hnone
  . intro hlive
    refine ⟨h.jobs, h.questions, h.plans, h.invocations, h.liveInvocations, ?_⟩
    intro runId' hmem
    have hne : runId' ≠ runId := by
      rintro rfl
      exact hlive hmem
    exact (AList.lookup_insert_ne hne).trans (h.hints runId' hmem)

theorem IndexIntegrity.purgeSession_iff (chatId : String)
    : IndexIntegrity
          { snapshot := state.snapshot.purgeSession chatId
            deletedRuns := state.deletedRuns ++ state.snapshot.sessionRunIds chatId
            deletedInvocations :=
              state.deletedInvocations ++ state.snapshot.sessionInvocationIds chatId }
        ↔ state.Unreferenced chatId := by
  have hjobs := names_keep_both h.jobs
    (fun runId => decide (runId ∉ state.snapshot.sessionRunIds chatId))
  have hquestions := names_keep_iff h.questions
    (fun _ suspension => decide (suspension.runId ∉ state.snapshot.sessionRunIds chatId))
  have hplans := lists_keep_iff h.plans
    (fun _ task => decide (task.runId ∉ state.snapshot.sessionRunIds chatId))
  have hinvocations := (backed_keep_iff
      (fun _ (suspension : SuspensionRecord) =>
        decide (suspension.runId ∉ state.snapshot.sessionRunIds chatId)) :
    Backed SuspensionRecord.invocationEntry state.snapshot.index.invocationIdsByQuestionId
      (Rows.keep
        (fun _ suspension => decide (suspension.runId ∉ state.snapshot.sessionRunIds chatId))
        state.snapshot.suspensions) ↔ _)
  simp only [decide_eq_true_eq] at hquestions hplans hinvocations
  constructor
  . intro hafter
    refine ⟨hquestions.mp hafter.questions, hplans.mp hafter.plans,
      hinvocations.mp hafter.invocations, ?_, ?_⟩
    . intro questionId invocationId hlookup hmem
      exact hafter.liveInvocations questionId invocationId hlookup
        (List.mem_append_right _ hmem)
    . exact fun runId hmem => hafter.hints runId (List.mem_append_right _ hmem)
  . intro hfree
    refine ⟨hjobs, hquestions.mpr hfree.questions, hplans.mpr hfree.plans,
      hinvocations.mpr hfree.invocations, ?_, ?_⟩
    . intro questionId invocationId hlookup hmem
      obtain hmem | hmem := List.mem_append.mp hmem
      . exact h.liveInvocations questionId invocationId hlookup hmem
      . exact hfree.liveInvocations questionId invocationId hlookup hmem
    . intro runId hmem
      obtain hmem | hmem := List.mem_append.mp hmem
      . exact h.hints runId hmem
      . exact hfree.hints runId hmem

theorem IndexIntegrity.step_iff (action : StoreAction) {state' : SessionRecords}
    (hstep : state.step action = some state')
    : state'.IndexIntegrity ↔ state.KeepsKeys action := by
  cases hstep
  cases action with
  | append event =>
    cases event with
    | runUpserted run => exact h.runUpserted_iff run
    | turnUpserted turn => exact iff_of_true (h.turnUpserted turn) trivial
    | taskUpserted task => exact h.taskUpserted_iff task
    | suspensionUpserted suspension => exact h.suspensionUpserted_iff suspension
    | toolInvocationUpserted invocation =>
      refine iff_of_true ⟨h.jobs, h.questions, h.plans, h.invocations, ?_, h.hints⟩ trivial
      intro questionId invocationId hlookup hmem
      exact h.liveInvocations questionId invocationId hlookup (List.mem_of_mem_filter hmem)
    | requirementUpserted requirement =>
      exact iff_of_true ⟨h.jobs, h.questions, h.plans, h.invocations, h.liveInvocations, h.hints⟩
        trivial
    | messageAppended message =>
      exact iff_of_true ⟨h.jobs, h.questions, h.plans, h.invocations, h.liveInvocations, h.hints⟩
        trivial
    | projectionHintRecorded runId scope key value =>
      exact h.projectionHintRecorded_iff runId scope key value
  | deleteSession chatId => exact h.purgeSession_iff chatId
  | setSessionTitle chatId title =>
    exact iff_of_true ⟨h.jobs, h.questions, h.plans, h.invocations, h.liveInvocations, h.hints⟩
      trivial
  | deleteSessionTitle chatId =>
    exact iff_of_true ⟨h.jobs, h.questions, h.plans, h.invocations, h.liveInvocations, h.hints⟩
      trivial

end Step

theorem indexIntegrity_empty : IndexIntegrity {} := by
  constructor
  . intro jobId runId hlookup
    cases hlookup
  . intro questionId suspensionId hlookup
    cases hlookup
  . constructor
    . intro planId taskId hmem
      cases hmem
    . intro taskId task planId hlookup
      cases hlookup
  . intro questionId invocationId hlookup
    cases hlookup
  . intro questionId invocationId hlookup
    cases hlookup
  . intro runId hmem
    cases hmem

theorem always_indexIntegrity_iff (actions : List StoreAction)
    : Runs.Always SessionRecords.step SessionRecords.IndexIntegrity {} actions
        ↔ Runs.Guarded SessionRecords.step SessionRecords.KeepsKeys {} actions := by
  refine Runs.always_iff_guarded (fun _ => True) (fun _ => True) ?_ trivial indexIntegrity_empty
    (fun _ _ => trivial)
  exact fun state action state' _ _ h hstep => ⟨trivial, h.step_iff action hstep⟩

def plannedSession : List StoreAction :=
  [.append (.runUpserted
      { runId := "run_job_1", traceId := "job_1", jobId := "job_1", chatId := some "chat_1"
        channel := "web", status := .running, currentTurnId := none, latestError := none
        createdAtMs := 0, updatedAtMs := 0, completedAtMs := none }),
    .append (.taskUpserted
      { taskId := "subtask_1", runId := "run_job_1", turnId := none, parentTaskId := none
        traceId := "job_1", jobId := "subtask_1", parentJobId := some "job_1"
        planId := some "plan_1", kind := .subtask, name := "design", taskType := "design"
        description := "design", status := .pending, executionMode := none, resultKind := none
        specialistType := none, dependencies := [], metadata := .object [], startedAtMs := none
        updatedAtMs := 0, completedAtMs := none, error := none })]

theorem deletedPlan_not_indexIntegrity
    : ¬Runs.Always SessionRecords.step SessionRecords.IndexIntegrity {}
        (plannedSession ++ [.deleteSession "chat_1"]) := by
  have hplan : (Runs.run SessionRecords.step {}
      (plannedSession ++ [.deleteSession "chat_1"])).map (fun state =>
        (members state.snapshot.index.taskIdsByPlanId "plan_1",
          state.snapshot.tasks.lookup "subtask_1")) = some (["subtask_1"], none) := by
    decide +kernel
  intro h
  obtain ⟨state, hrun, heq⟩ := Option.map_eq_some_iff.mp hplan
  obtain ⟨hlisted, hmissing⟩ := Prod.mk.inj heq
  obtain ⟨task, htask, _⟩ := (h.run_eq_some hrun).plans.sound "plan_1" "subtask_1" (by
    rw [hlisted]
    exact List.mem_singleton_self _)
  cases hmissing.symm.trans htask

end SessionRecords

end AnimaAgent
