import AnimaAgent.Web.JobProjection
import AnimaAgent.Web.PurgedSessions

namespace AnimaAgent

namespace RuntimeStateSnapshot

variable (snapshot : RuntimeStateSnapshot) (chatId : String)

structure Separate : Prop where
  turns : ∀ runId run turnId turn, snapshot.runs.lookup runId = some run
    → run.chatId ≠ some chatId → run.currentTurnId = some turnId
    → snapshot.turns.lookup turnId = some turn → ¬snapshot.InSession chatId turn.runId
  plans : ∀ id task taskId task', snapshot.tasks.lookup id = some task
    → ¬snapshot.InSession chatId task.runId
    → taskId ∈ (snapshot.index.taskIdsByPlanId.lookup (task.planId.getD task.taskId)).getD []
    → snapshot.tasks.lookup taskId = some task' → ¬snapshot.InSession chatId task'.runId
  questions : ∀ id suspension invocation, snapshot.suspensions.lookup id = some suspension
    → ¬snapshot.InSession chatId suspension.runId
    → snapshot.invocationByQuestionId (suspension.questionId.getD suspension.suspensionId)
      = some invocation
    → ¬snapshot.InSession chatId invocation.runId

variable {snapshot chatId}

section Run

variable {run : RunRecord} (hrun : ¬snapshot.InSession chatId run.runId)

include hrun

theorem decide_of_runId_beq {runId : String} (h : (runId == run.runId) = true)
    : decide (runId ∉ snapshot.sessionRunIds chatId) = true := by
  rw [beq_iff_eq.mp h]
  exact decide_eq_true hrun

theorem activeSuspensionOf_purgeSession
    : (snapshot.purgeSession chatId).activeSuspensionOf run.runId
        = snapshot.activeSuspensionOf run.runId := by
  refine find?_values_keep ?_ snapshot.suspensions
  intro suspension h
  exact decide_of_runId_beq hrun (Bool.and_eq_true_iff.mp h).1

theorem activeRequirement_purgeSession
    : (snapshot.purgeSession chatId).activeRequirement run.runId
        = snapshot.activeRequirement run.runId := by
  exact find?_values_keep (fun _ h => decide_of_runId_beq hrun h) snapshot.requirements

theorem latestToolInvocation_purgeSession
    : (snapshot.purgeSession chatId).latestToolInvocation run.runId
        = snapshot.latestToolInvocation run.runId := by
  unfold latestToolInvocation
  congr 1
  exact filter_values_keep (fun _ h => decide_of_runId_beq hrun h) snapshot.toolInvocations

theorem tasksForRun_purgeSession
    : (snapshot.purgeSession chatId).tasksForRun run.runId = snapshot.tasksForRun run.runId := by
  unfold tasksForRun
  congr 1
  exact filter_values_keep (fun _ h => decide_of_runId_beq hrun h) snapshot.tasks

theorem derivePendingQuestion_purgeSession
    : (snapshot.purgeSession chatId).derivePendingQuestion run
        = snapshot.derivePendingQuestion run := by
  unfold derivePendingQuestion
  rw [activeSuspensionOf_purgeSession hrun]

theorem deriveExecutionSummary_purgeSession
    : (snapshot.purgeSession chatId).deriveExecutionSummary run
        = snapshot.deriveExecutionSummary run := by
  have hplan := any_values_keep
    (q := fun task : TaskRecord => task.runId == run.runId && task.kind == .plan)
    (fun _ h => decide_of_runId_beq hrun (Bool.and_eq_true_iff.mp h).1) snapshot.tasks
  have hstatus : (snapshot.purgeSession chatId).runStatusText run = snapshot.runStatusText run := by
    unfold runStatusText
    rw [activeSuspensionOf_purgeSession hrun, activeRequirement_purgeSession hrun]
  unfold deriveExecutionSummary
  rw [hstatus]
  unfold purgeSession at hplan ⊢
  dsimp only at hplan ⊢
  rw [hplan]

section Separate

variable (hseparate : snapshot.Separate chatId)

include hseparate

theorem tasksForPlan_purgeSession {task : TaskRecord} (hmem : task ∈ values snapshot.tasks)
    (htask : task.runId = run.runId)
    : (snapshot.purgeSession chatId).tasksForPlan (task.planId.getD task.taskId)
        = snapshot.tasksForPlan (task.planId.getD task.taskId) := by
  obtain ⟨id, hid⟩ := mem_values_iff.mp hmem
  unfold tasksForPlan
  congr 1
  apply List.filterMap_congr
  intro taskId htaskId
  refine lookup_keep_of ?_
  intro task' htask'
  exact decide_eq_true (hseparate.plans id task taskId task' hid (htask ▸ hrun) htaskId htask')

theorem deriveOrchestrationSummary_purgeSession
    : (snapshot.purgeSession chatId).deriveOrchestrationSummary run
        = snapshot.deriveOrchestrationSummary run := by
  have htasks := filter_values_keep
    (q := fun task : TaskRecord => task.runId == run.runId && task.kind == .plan)
    (fun _ h => decide_of_runId_beq hrun (Bool.and_eq_true_iff.mp h).1) snapshot.tasks
  unfold deriveOrchestrationSummary
  change (((values (Rows.keep _ snapshot.tasks)).filter _).mergeSort _).getLast?.bind _ = _
  rw [htasks]
  apply Option.bind_congr
  intro latestPlan hlatest
  have hmem := (List.mem_mergeSort.mp (List.mem_of_getLast? hlatest))
  obtain ⟨hmem, hrunId⟩ := List.mem_filter.mp hmem
  have hplan := tasksForPlan_purgeSession hrun hseparate hmem
    (beq_iff_eq.mp (Bool.and_eq_true_iff.mp hrunId).1)
  unfold planTask subtasksForPlan
  dsimp only
  rw [hplan]

theorem invocationByQuestionId_purgeSession {question : PendingQuestion}
    (hquestion : snapshot.derivePendingQuestion run = some question)
    : (snapshot.purgeSession chatId).invocationByQuestionId question.questionId
        = snapshot.invocationByQuestionId question.questionId := by
  unfold derivePendingQuestion at hquestion
  obtain ⟨suspension, hactive, hsome⟩ := Option.bind_eq_some_iff.mp hquestion
  cases hsome
  obtain ⟨id, hid⟩ := mem_values_iff.mp (List.mem_of_find?_eq_some hactive)
  have hfound : (suspension.runId == run.runId && suspension.status == .active) = true :=
    List.find?_some (p := fun record : SuspensionRecord =>
      record.runId == run.runId && record.status == .active) hactive
  have hfound := (Bool.and_eq_true_iff.mp hfound).1
  have hother : ¬snapshot.InSession chatId suspension.runId := beq_iff_eq.mp hfound ▸ hrun
  apply Option.bind_congr
  intro invocationId hinvocationId
  refine lookup_keep_of ?_
  intro invocation hinvocation
  refine decide_eq_true (hseparate.questions id suspension invocation hid hother ?_)
  exact Option.bind_eq_some_iff.mpr ⟨invocationId, hinvocationId, hinvocation⟩

theorem runToolState_purgeSession
    : (snapshot.purgeSession chatId).runToolState run (snapshot.derivePendingQuestion run)
        = snapshot.runToolState run (snapshot.derivePendingQuestion run) := by
  have hasked : (snapshot.derivePendingQuestion run).bind (fun question =>
        (snapshot.purgeSession chatId).invocationByQuestionId question.questionId)
      = (snapshot.derivePendingQuestion run).bind (fun question =>
        snapshot.invocationByQuestionId question.questionId) :=
    Option.bind_congr (fun _ h => invocationByQuestionId_purgeSession hrun hseparate h)
  unfold runToolState
  rw [hasked, latestToolInvocation_purgeSession hrun]

end Separate

end Run

section Lookup

variable {run : RunRecord} {runId : String} (hseparate : snapshot.Separate chatId)
  (hlookup : snapshot.runs.lookup runId = some run) (hchat : run.chatId ≠ some chatId)

include hseparate hlookup hchat

theorem currentTurn_purgeSession
    : run.currentTurnId.bind (snapshot.purgeSession chatId).turns.lookup
        = run.currentTurnId.bind snapshot.turns.lookup := by
  apply Option.bind_congr
  intro turnId hturnId
  unfold purgeSession
  dsimp only
  rw [Rows.lookup_keep]
  cases hturn : snapshot.turns.lookup turnId with
  | none => rfl
  | some turn =>
    apply Option.filter_some_pos
    apply decide_eq_true
    rw [mem_runTurnIds]
    rintro ⟨turn', hturn', hin⟩
    cases hturn.symm.trans hturn'
    exact hseparate.turns runId run turnId turn hlookup hchat hturnId hturn hin

theorem deriveJobStatusSummary_purgeSession (hrun : ¬snapshot.InSession chatId run.runId)
    : (snapshot.purgeSession chatId).deriveJobStatusSummary run
        = snapshot.deriveJobStatusSummary run := by
  have hturn := currentTurn_purgeSession hseparate hlookup hchat
  have hsummary : (snapshot.purgeSession chatId).runSummary run = snapshot.runSummary run := by
    funext pendingQuestion orchestration
    unfold runSummary
    rw [hturn]
    rfl
  funext pendingQuestion toolState orchestration
  unfold deriveJobStatusSummary
  rw [activeRequirement_purgeSession hrun, hsummary]

theorem sameShown_purgeSession (hrun : ¬snapshot.InSession chatId run.runId)
    : SameShown snapshot (snapshot.purgeSession chatId) run := by
  constructor
  . exact deriveOrchestrationSummary_purgeSession hrun hseparate
  . exact derivePendingQuestion_purgeSession hrun
  . exact runToolState_purgeSession hrun hseparate
  . exact deriveJobStatusSummary_purgeSession hseparate hlookup hchat hrun
  . exact deriveExecutionSummary_purgeSession hrun

end Lookup

end RuntimeStateSnapshot

end AnimaAgent
