import AnimaAgent.Agent.EventEmitter
import AnimaAgent.Runtime.Projection
import AnimaAgent.Runtime.RestartFidelity

/-!
This module contains when a run that has ended is shown as it has ended. Its requirement, an active
suspension and the tool invocations that are left of it come before the status of the run itself.
-/

namespace AnimaAgent

def RunStatus.endedAs : RunStatus → Option String
  | running => none
  | completed => some "completed"
  | failed => some "failed"

def ProjectionJobStatusSummary.Shows (summary : ProjectionJobStatusSummary) (status : String)
    : Prop :=
  summary.status = status ∧ summary.statusLabel = status

namespace RuntimeStateSnapshot

variable (snapshot : RuntimeStateSnapshot) (run : RunRecord)

def ShowsEnded : Prop :=
  ∀ runId run, snapshot.runs.lookup runId = some run
    → ∀ status, run.status.endedAs = some status
      → ∃ summary, snapshot.buildProjection.jobStatuses.lookup run.jobId = some summary
        ∧ summary.Shows status

structure Idle : Prop where
  suspensions : ∀ id suspension, snapshot.suspensions.lookup id = some suspension
    → suspension.runId = run.runId → suspension.status ≠ .active
  invocations : ∀ id invocation, snapshot.toolInvocations.lookup id = some invocation
    → invocation.runId ≠ run.runId

def Settled : Prop :=
  match (snapshot.activeRequirement run.runId).map RequirementRecord.status with
  | some .exhausted => run.status = .failed
  | some .satisfied => run.status = .completed ∨ snapshot.Idle run
  | some .waitingUserInput => False
  | some .followupScheduled => False
  | some .active => snapshot.Idle run
  | none => snapshot.Idle run

def RunsOfJobs : Prop :=
  ∀ runId run, snapshot.runs.lookup runId = some run → runId = runtimeRunId run.jobId

section Lookups

variable {snapshot run}

theorem derivePendingQuestion_eq_none_iff
    : snapshot.derivePendingQuestion run = none
        ↔ ∀ id suspension, snapshot.suspensions.lookup id = some suspension
          → suspension.runId = run.runId → suspension.status ≠ .active := by
  have hfind : snapshot.derivePendingQuestion run = none
      ↔ snapshot.activeSuspensionOf run.runId = none := by
    unfold derivePendingQuestion
    cases snapshot.activeSuspensionOf run.runId with
    | none => exact iff_of_true rfl rfl
    | some suspension => exact iff_of_false (Option.some_ne_none _) (Option.some_ne_none _)
  rw [hfind]
  unfold activeSuspensionOf
  rw [List.find?_eq_none]
  constructor
  . intro h id suspension hlookup hrun hactive
    apply h suspension (mem_values_iff.mpr ⟨id, hlookup⟩)
    simp [hrun, hactive]
  . intro h suspension hmem
    obtain ⟨id, hlookup⟩ := mem_values_iff.mp hmem
    have hsuspension := h id suspension hlookup
    simpa using hsuspension

theorem runToolState_none_eq_none_iff
    : snapshot.runToolState run none = none
        ↔ ∀ id invocation, snapshot.toolInvocations.lookup id = some invocation
          → invocation.runId ≠ run.runId := by
  unfold runToolState latestToolInvocation
  rw [Option.bind_none, Option.none_or, Option.map_eq_none_iff, maxByKey_eq_none_iff,
    List.filter_eq_nil_iff]
  constructor
  . intro h id invocation hlookup hrun
    exact h invocation (mem_values_iff.mpr ⟨id, hlookup⟩) (beq_iff_eq.mpr hrun)
  . intro h invocation hmem hrun
    obtain ⟨id, hlookup⟩ := mem_values_iff.mp hmem
    exact h id invocation hlookup (beq_iff_eq.mp hrun)

theorem idle_iff
    : snapshot.Idle run
        ↔ snapshot.derivePendingQuestion run = none ∧ snapshot.runToolState run none = none := by
  rw [derivePendingQuestion_eq_none_iff, runToolState_none_eq_none_iff]
  exact ⟨fun h => ⟨h.suspensions, h.invocations⟩, fun h => ⟨h.1, h.2⟩⟩

end Lookups

section Cascade

variable {snapshot run} {status : String}

theorem runSummary_of_ended (h : run.status.endedAs = some status)
    (pendingQuestion : Option PendingQuestion)
    (orchestration : Option ProjectionOrchestrationSummary)
    : (snapshot.runSummary run pendingQuestion orchestration).Shows status := by
  unfold runSummary
  cases hrun : run.status with
  | running =>
    rw [hrun] at h
    cases h
  | completed =>
    rw [hrun] at h
    cases h
    exact ⟨rfl, rfl⟩
  | failed =>
    rw [hrun] at h
    cases h
    exact ⟨rfl, rfl⟩

theorem endedAs_ne (h : run.status.endedAs = some status)
    : status ≠ "executing" ∧ status ≠ "waiting_user_input" := by
  cases hrun : run.status with
  | running =>
    rw [hrun] at h
    cases h
  | completed =>
    rw [hrun] at h
    cases h
    decide
  | failed =>
    rw [hrun] at h
    cases h
    decide

theorem endedAs_failed_iff : run.status.endedAs = some "failed" ↔ run.status = .failed := by
  cases run.status with
  | running => exact iff_of_false (Option.some_ne_none _).symm RunStatus.noConfusion
  | completed => exact iff_of_false (by decide) RunStatus.noConfusion
  | failed => exact iff_of_true rfl rfl

theorem shown_iff_idle (h : run.status.endedAs = some status)
    (orchestration : Option ProjectionOrchestrationSummary)
    (hrequirement : (snapshot.activeRequirement run.runId).bind
      (requirementSummary run (snapshot.derivePendingQuestion run)) = none)
    : (snapshot.deriveJobStatusSummary run (snapshot.derivePendingQuestion run)
          (snapshot.runToolState run (snapshot.derivePendingQuestion run)) orchestration).Shows status
        ↔ snapshot.Idle run := by
  obtain ⟨hexecuting, hwaiting⟩ := endedAs_ne h
  rw [idle_iff]
  unfold deriveJobStatusSummary
  rw [hrequirement]
  cases hpending : snapshot.derivePendingQuestion run with
  | some question =>
    exact iff_of_false (fun hshows => hwaiting hshows.1.symm) (fun hidle => by cases hidle.1)
  | none =>
    cases htool : snapshot.runToolState run none with
    | some toolState =>
      exact iff_of_false (fun hshows => hexecuting hshows.1.symm) (fun hidle => by cases hidle.2)
    | none => exact iff_of_true (runSummary_of_ended h none orchestration) ⟨rfl, rfl⟩

theorem deriveJobStatusSummary_of_requirement {requirement : RequirementRecord}
    {pendingQuestion : Option PendingQuestion} {summary : ProjectionJobStatusSummary}
    (hrequirement : snapshot.activeRequirement run.runId = some requirement)
    (hsummary : requirementSummary run pendingQuestion requirement = some summary)
    (toolState : Option ProjectionToolStateSummary)
    (orchestration : Option ProjectionOrchestrationSummary)
    : snapshot.deriveJobStatusSummary run pendingQuestion toolState orchestration = summary := by
  unfold deriveJobStatusSummary
  rw [hrequirement, Option.bind_some, hsummary]

theorem shown_iff_settled (h : run.status.endedAs = some status)
    (orchestration : Option ProjectionOrchestrationSummary)
    : (snapshot.deriveJobStatusSummary run (snapshot.derivePendingQuestion run)
          (snapshot.runToolState run (snapshot.derivePendingQuestion run)) orchestration).Shows status
        ↔ snapshot.Settled run := by
  obtain ⟨hexecuting, hwaiting⟩ := endedAs_ne h
  have hidle := @shown_iff_idle snapshot run status h orchestration
  unfold Settled
  cases hrequirement : snapshot.activeRequirement run.runId with
  | none => exact hidle (by rw [hrequirement]; rfl)
  | some requirement =>
    rw [hrequirement, Option.bind_some] at hidle
    have hdecided := @deriveJobStatusSummary_of_requirement snapshot run requirement
      (snapshot.derivePendingQuestion run)
    unfold requirementSummary at hidle hdecided
    dsimp only [Option.map_some]
    cases hstatus : requirement.status with
    | active => exact hidle (by rw [hstatus])
    | exhausted =>
      rw [hdecided hrequirement (by rw [hstatus])]
      constructor
      . intro hshows
        rw [← hshows.1] at h
        exact endedAs_failed_iff.mp h
      . intro hfailed
        rw [hfailed] at h
        cases h
        exact ⟨rfl, rfl⟩
    | satisfied =>
      dsimp only
      by_cases hrun : run.status = .completed
      . rw [hdecided hrequirement (by rw [hstatus]; exact if_pos hrun)]
        rw [hrun] at h
        cases h
        exact iff_of_true ⟨rfl, rfl⟩ (.inl hrun)
      . rw [hidle (by rw [hstatus]; exact if_neg hrun), or_iff_right hrun]
    | waitingUserInput =>
      rw [hdecided hrequirement (by rw [hstatus])]
      exact iff_of_false (fun hshows => hwaiting hshows.1.symm) id
    | followupScheduled =>
      rw [hdecided hrequirement (by rw [hstatus])]
      exact iff_of_false (fun hshows => hexecuting hshows.1.symm) id

end Cascade

section View

variable {snapshot run}

theorem lookup_insertSome_ne {ρ : Type} {map : AList (fun _ : String => ρ)} {key other : String}
    (h : other ≠ key) (record : Option ρ)
    : (insertSome map key record).lookup other = map.lookup other := by
  cases record with
  | none => rfl
  | some record => exact AList.lookup_insert_ne h

theorem lookup_insertSome_self {ρ : Type} {map : AList (fun _ : String => ρ)} {key : String}
    (h : map.lookup key = none) (record : Option ρ)
    : (insertSome map key record).lookup key = record := by
  cases record with
  | none => exact h
  | some record => exact AList.lookup_insert _

theorem projectRuns_of_other {jobId : String} {runs : List RunRecord}
    (h : ∀ run ∈ runs, run.jobId ≠ jobId) (view : RuntimeProjectionView)
    : (runs.foldl (fun view run => snapshot.projectRun run view) view).jobStatuses.lookup jobId
        = view.jobStatuses.lookup jobId := by
  induction runs generalizing view with
  | nil => rfl
  | cons run runs ih =>
    rw [List.foldl_cons, ih (fun run' hmem => h run' (List.mem_cons_of_mem _ hmem))]
    exact AList.lookup_insert_ne (h run (List.mem_cons_self ..)).symm

theorem lookup_projectRuns {runs : List RunRecord} (hjobs : (runs.map RunRecord.jobId).Nodup)
    {view : RuntimeProjectionView}
    (hview : ∀ run ∈ runs, view.toolStates.lookup run.jobId = none) (hmem : run ∈ runs)
    : (runs.foldl (fun view run => snapshot.projectRun run view) view).jobStatuses.lookup run.jobId
        = some (snapshot.deriveJobStatusSummary run (snapshot.derivePendingQuestion run)
            (snapshot.runToolState run (snapshot.derivePendingQuestion run))
            (snapshot.deriveOrchestrationSummary run)) := by
  induction runs generalizing view with
  | nil => cases hmem
  | cons first runs ih =>
    obtain ⟨hfirst, hrest⟩ := List.nodup_cons.mp hjobs
    have hother : ∀ run ∈ runs, run.jobId ≠ first.jobId := by
      intro run hmem heq
      exact hfirst (List.mem_map.mpr ⟨run, hmem, heq⟩)
    rw [List.foldl_cons]
    obtain rfl | hmem := List.mem_cons.mp hmem
    . rw [projectRuns_of_other hother]
      unfold projectRun
      dsimp only
      rw [AList.lookup_insert, lookup_insertSome_self (hview run (List.mem_cons_self ..))]
    . apply ih hrest _ hmem
      intro run' hmem'
      unfold projectRun
      dsimp only
      rw [lookup_insertSome_ne (hother run' hmem')]
      exact hview run' (List.mem_cons_of_mem _ hmem')

theorem RunsOfJobs.nodup_jobIds (h : snapshot.RunsOfJobs)
    : ((values snapshot.runs).map RunRecord.jobId).Nodup := by
  unfold values
  rw [List.map_map]
  refine List.Nodup.of_map runtimeRunId ?_
  rw [List.map_map]
  have hkeys : snapshot.runs.entries.map (runtimeRunId ∘ RunRecord.jobId ∘ Sigma.snd)
      = snapshot.runs.entries.map Sigma.fst := by
    apply List.map_congr_left
    intro entry hmem
    exact (h entry.1 entry.2 (AList.mem_lookup_iff.mpr hmem)).symm
  rw [hkeys]
  exact snapshot.runs.nodupKeys

theorem lookup_jobStatuses (h : snapshot.RunsOfJobs) {runId : String}
    (hrun : snapshot.runs.lookup runId = some run)
    : snapshot.buildProjection.jobStatuses.lookup run.jobId
        = some (snapshot.deriveJobStatusSummary run (snapshot.derivePendingQuestion run)
            (snapshot.runToolState run (snapshot.derivePendingQuestion run))
            (snapshot.deriveOrchestrationSummary run)) := by
  exact lookup_projectRuns h.nodup_jobIds (fun _ _ => rfl) (mem_values_iff.mpr ⟨runId, hrun⟩)

theorem RunsOfJobs.showsEnded_iff (h : snapshot.RunsOfJobs)
    : snapshot.ShowsEnded
        ↔ ∀ runId run, snapshot.runs.lookup runId = some run → run.status ≠ .running
          → snapshot.Settled run := by
  constructor
  . intro hshows runId run hrun hended
    have hstatus : ∃ status, run.status.endedAs = some status := by
      cases hstatus : run.status with
      | running => exact absurd hstatus hended
      | completed => exact ⟨_, rfl⟩
      | failed => exact ⟨_, rfl⟩
    obtain ⟨status, hstatus⟩ := hstatus
    obtain ⟨summary, hlookup, hsummary⟩ := hshows runId run hrun status hstatus
    rw [lookup_jobStatuses h hrun] at hlookup
    cases hlookup
    exact (shown_iff_settled hstatus _).mp hsummary
  . intro hsettled runId run hrun status hstatus
    refine ⟨_, lookup_jobStatuses h hrun, (shown_iff_settled hstatus _).mpr ?_⟩
    apply hsettled runId run hrun
    intro hrunning
    rw [hrunning] at hstatus
    cases hstatus

end View

def WritesRunsOfJobs : StoreAction → Prop
  | .append (.runUpserted run) => run.runId = runtimeRunId run.jobId
  | _ => True

theorem upsertRun_writesRunsOfJobs (now : UInt64) (inbound : InboundMessage) (status : RunStatus)
    (currentTurnId : Option String) (snapshot : RuntimeStateSnapshot)
    : ∃ action, snapshot.upsertRun now inbound status currentTurnId = snapshot.perform action
        ∧ WritesRunsOfJobs action := by
  exact ⟨.append (.runUpserted _), rfl, rfl⟩

def performAll (snapshot : RuntimeStateSnapshot) (actions : List StoreAction)
    : RuntimeStateSnapshot :=
  actions.foldl perform snapshot

section Reached

variable {snapshot}

theorem exists_of_enterTurn {turn : TurnRecord} {runId : String} {run : RunRecord}
    (h : (snapshot.enterTurn turn).lookup runId = some run)
    : ∃ run', snapshot.runs.lookup runId = some run' ∧ run'.jobId = run.jobId := by
  unfold enterTurn at h
  cases hrun : snapshot.runs.lookup turn.runId with
  | none =>
    rw [hrun] at h
    exact ⟨run, h, rfl⟩
  | some run' =>
    rw [hrun] at h
    by_cases hid : runId = turn.runId
    . subst hid
      have hsame := h.symm.trans (AList.lookup_insert _)
      cases hsame
      exact ⟨run', hrun, rfl⟩
    . exact ⟨run, (AList.lookup_insert_ne hid).symm.trans h, rfl⟩

theorem RunsOfJobs.perform (h : snapshot.RunsOfJobs) {action : StoreAction}
    (haction : WritesRunsOfJobs action)
    : (snapshot.perform action).RunsOfJobs := by
  intro runId run hrun
  cases action with
  | append event =>
    cases event with
    | runUpserted written =>
      by_cases hid : runId = written.runId
      . subst hid
        have hsame := hrun.symm.trans (AList.lookup_insert _)
        cases hsame
        exact haction
      . exact h runId run ((AList.lookup_insert_ne hid).symm.trans hrun)
    | turnUpserted turn =>
      obtain ⟨run', hrun', hjob⟩ := exists_of_enterTurn hrun
      rw [← hjob]
      exact h runId run' hrun'
    | _ => exact h runId run hrun
  | deleteSession chatId =>
    have hkept := hrun
    change (Rows.keep _ snapshot.runs).lookup runId = some run at hkept
    rw [Rows.lookup_keep, Option.filter_eq_some_iff] at hkept
    exact h runId run hkept.1
  | setSessionTitle chatId title => exact h runId run hrun
  | deleteSessionTitle chatId => exact h runId run hrun

theorem RunsOfJobs.performAll (h : snapshot.RunsOfJobs) {actions : List StoreAction}
    (hactions : ∀ action ∈ actions, WritesRunsOfJobs action)
    : (snapshot.performAll actions).RunsOfJobs := by
  induction actions generalizing snapshot with
  | nil => exact h
  | cons action rest ih =>
    apply ih (h.perform (hactions action (List.mem_cons_self ..)))
    exact fun action hmem => hactions action (List.mem_cons_of_mem _ hmem)

/--
In every state that is reached, whatever the order in which its maps are gone through, the runs that
have ended are shown as they have ended exactly if what is left of each agrees with its end.
-/
theorem reached_showsEnded_iff (actions : List StoreAction)
    (hactions : ∀ action ∈ actions, WritesRunsOfJobs action) (listed : RuntimeStateSnapshot)
    (hlisted : SameState listed (performAll {} actions))
    : listed.ShowsEnded
        ↔ ∀ runId run, listed.runs.lookup runId = some run → run.status ≠ .running
          → listed.Settled run := by
  have hempty : RunsOfJobs {} := by
    intro runId run hrun
    cases hrun
  have hreached := hempty.performAll hactions
  apply RunsOfJobs.showsEnded_iff
  intro runId run hrun
  exact hreached runId run ((hlisted.runs runId).symm.trans hrun)

end Reached

def toolUsed : List StoreAction :=
  let run : RunRecord :=
    { runId := "run_job_1", traceId := "job_1", jobId := "job_1", chatId := some "chat_1"
      channel := "web", status := .running, currentTurnId := none, latestError := none
      createdAtMs := 1, updatedAtMs := 1, completedAtMs := none }
  [ .append (.runUpserted run),
    .append (.toolInvocationUpserted
      { invocationId := "invocation_1", runId := "run_job_1", turnId := none, taskId := none
        toolName := "echo", toolUseId := some "toolu_1", phase := "result_recorded"
        permissionState := "allowed", inputPreview := none, resultSummary := some "hello"
        errorSummary := none, startedAtMs := 2, finishedAtMs := some 3 }),
    .append (.runUpserted { run with status := .completed, completedAtMs := some 4 }) ]

theorem writesRunsOfJobs_toolUsed : ∀ action ∈ toolUsed, WritesRunsOfJobs action := by
  intro action hmem
  obtain rfl | hmem := List.mem_cons.mp hmem
  . rfl
  . obtain rfl | hmem := List.mem_cons.mp hmem
    . trivial
    . cases List.mem_singleton.mp hmem
      rfl

theorem reached_showsEnded_iff_toolUsed
    : (performAll {} toolUsed).ShowsEnded
        ↔ ∀ runId run, (performAll {} toolUsed).runs.lookup runId = some run
          → run.status ≠ .running → (performAll {} toolUsed).Settled run := by
  apply reached_showsEnded_iff toolUsed writesRunsOfJobs_toolUsed
  constructor <;> intros <;> rfl

theorem toolUsed_not_showsEnded
    : (∀ action ∈ toolUsed, WritesRunsOfJobs action) ∧ ¬(performAll {} toolUsed).ShowsEnded := by
  refine ⟨writesRunsOfJobs_toolUsed, ?_⟩
  have hshown : ((performAll {} toolUsed).runs.lookup "run_job_1").map (fun run =>
      (run.status.endedAs,
        ((performAll {} toolUsed).buildProjection.jobStatuses.lookup run.jobId).map
          ProjectionJobStatusSummary.status))
      = some (some "completed", some "executing") := by
    decide +kernel
  intro hshows
  obtain ⟨run, hrun, heq⟩ := Option.map_eq_some_iff.mp hshown
  obtain ⟨hended, hstatus⟩ := Prod.mk.inj heq
  obtain ⟨summary, hlookup, hsummary⟩ := hshows "run_job_1" run hrun "completed" hended
  rw [hlookup, Option.map_some, hsummary.1] at hstatus
  exact absurd hstatus (by decide)

end RuntimeStateSnapshot

end AnimaAgent
