import AnimaAgent.Web.JobProjection
import AnimaAgent.Web.JobStore
import AnimaAgent.Worker.Core

namespace AnimaAgent

structure WorkerStatus where
  id : String
  status : String
  currentTask : Option CurrentTaskInfo
  deriving DecidableEq

structure WorkerTaskView where
  workerId : String
  status : String
  taskId : String
  traceId : String
  taskType : String
  elapsedMs : UInt64
  contentPreview : String
  phase : Option String
  deriving DecidableEq

structure PlanTaskView where
  id : String
  taskType : String
  payload : Value
  deriving DecidableEq

structure PlanProposalView where
  proposalId : String
  summary : String
  tasks : List PlanTaskView
  proposedAtMs : UInt64
  deriving DecidableEq

structure OrchestrationView where
  planId : Option String
  activeSubtaskName : Option String
  activeSubtaskType : Option String
  activeSubtaskId : Option String
  totalSubtasks : Nat
  activeSubtasks : Nat
  completedSubtasks : Nat
  failedSubtasks : Nat
  childJobIds : List String
  deriving DecidableEq

structure JobView (δ : Type) where
  jobId : String
  traceId : String
  messageId : String
  kind : JobKind
  parentJobId : Option String
  channel : String
  chatId : Option String
  senderId : String
  userContent : Option String
  accepted : Bool
  startedAtMs : UInt64
  updatedAtMs : UInt64
  elapsedMs : UInt64
  recentEvents : List JobEventView
  worker : Option WorkerTaskView
  review : Option JobReviewView
  pendingPlan : Option PlanProposalView
  orchestration : Option OrchestrationView
  derived : δ

structure JobEvidence where
  jobId : String
  events : List RuntimeTimelineEvent
  summary : Option ExecutionSummary
  failure : Option RuntimeFailureSnapshot
  review : Option JobReviewView
  worker : Option WorkerTaskView
  run : Option RunRecord
  executionSummary : Option ProjectionExecutionSummary
  projectedFailure : Option ProjectionFailureSummary
  pendingQuestion : Option PendingQuestion
  toolState : Option ProjectionToolStateSummary
  jobStatus : Option ProjectionJobStatusSummary
  idleSinceUpdateMs : UInt64

structure JobSources where
  timeline : List RuntimeTimelineEvent
  summaries : List ExecutionSummary
  failures : List RuntimeFailureSnapshot
  workers : List WorkerStatus
  store : JobStore
  snapshot : RuntimeStateSnapshot
  projection : JobProjectionView

def maxJobViews : Nat := 100

structure JobTimelineIndex where
  orderedIds : List String
  grouped : AList (fun _ : String => List RuntimeTimelineEvent)

namespace JobTimelineIndex

variable (index : JobTimelineIndex)

def see (jobId : String) : JobTimelineIndex :=
  { index with orderedIds := Distinct.see index.orderedIds jobId }

def eventsOf (jobId : String) : List RuntimeTimelineEvent :=
  (index.grouped.lookup jobId).getD []

def group (event : RuntimeTimelineEvent) : JobTimelineIndex :=
  { index with
    grouped := index.grouped.insert event.messageId (index.eventsOf event.messageId ++ [event]) }

end JobTimelineIndex

def currentTaskMatches (jobId : String) (task : CurrentTaskInfo) : Bool :=
  task.traceId == jobId || task.taskId == jobId

def matchWorker (now : UInt64) (jobId : String) (workers : List WorkerStatus)
    : Option WorkerTaskView :=
  workers.findSome? fun worker =>
    (worker.currentTask.filter (currentTaskMatches jobId)).map fun task =>
      { workerId := worker.id
        status := worker.status
        taskId := task.taskId
        traceId := task.traceId
        taskType := task.taskType
        elapsedMs := saturatingSub now task.startedMs
        contentPreview := task.contentPreview
        phase := some task.phase }

def PlanTaskView.fromValue (value : Value) : PlanTaskView where
  id := (value.stringAt "id").getD ""
  taskType := (value.stringAt "task_type").getD ""
  payload := (value.get "payload").getD .null

def PendingQuestion.plan (question : PendingQuestion) : Option PlanProposalView :=
  if question.sourceKind = .planApproval then
    let raw := question.rawQuestion
    let tasks := (raw.get "plan").bind (fun plan => (plan.get "tasks").bind Value.asArray)
    some {
      proposalId := (raw.stringAt "proposal_id").getD ""
      summary := (raw.stringAt "summary").getD ""
      tasks := (tasks.getD []).map PlanTaskView.fromValue
      proposedAtMs := question.askedAtMs }
  else
    none

def eventParentJobId (events : List RuntimeTimelineEvent) : Option String :=
  events.reverse.findSome? (fun event => event.payload.stringAt "parent_job_id")

namespace JobSources

variable {δ : Type} (sources : JobSources) (now : UInt64)

def buildJobTimelineIndex : JobTimelineIndex :=
  let index := sources.store.acceptedJobs.foldl (fun index job => index.see job.jobId)
    { orderedIds := [], grouped := ∅ }
  let index := (RuntimeStateSnapshot.values sources.snapshot.runs).foldl
    (fun index run => index.see run.jobId) index
  sources.timeline.foldl (fun index event => (index.see event.messageId).group event) index

def runtimeParentJobId (jobId : String) : Option String :=
  (sources.snapshot.tasksForJob jobId).findSome? TaskRecord.parentJobId

section Job

variable (jobId : String) (events : List RuntimeTimelineEvent)

def deriveStartedAtMs : UInt64 :=
  (((sources.snapshot.runByJobId jobId).map RunRecord.createdAtMs).or
    ((events.head?.map RuntimeTimelineEvent.recordedAtMs).or
      ((sources.store.acceptedJob jobId).map AcceptedJob.acceptedAtMs))).getD now

def deriveUpdatedAtMs : UInt64 :=
  (((matchWorker now jobId sources.workers).map (fun worker => saturatingSub now worker.elapsedMs)).or
    (((sources.snapshot.runByJobId jobId).map RunRecord.updatedAtMs).or
      (events.getLast?.map RuntimeTimelineEvent.recordedAtMs))).getD
        (sources.deriveStartedAtMs now jobId events)

def deriveJobHierarchy (traceId : String) : JobKind × Option String :=
  let selfJobId := events.head?.map RuntimeTimelineEvent.messageId
  let other := fun parentJobId => decide (some parentJobId ≠ selfJobId)
  match ((sources.runtimeParentJobId jobId).filter other).or
    ((eventParentJobId events).filter other) with
  | some parentJobId => (.subtask, some parentJobId)
  | none =>
    match sources.store.acceptedJob jobId with
    | some job => (job.kind, job.parentJobId)
    | none =>
      match sources.store.parentJobIdByTrace traceId with
      | some parentJobId => (.subtask, some parentJobId)
      | none => (.main, none)

def deriveTraceId : String :=
  (((sources.snapshot.runByJobId jobId).map RunRecord.traceId).or
    ((events.head?.map RuntimeTimelineEvent.traceId).or
      ((sources.store.acceptedJob jobId).map AcceptedJob.traceId))).getD jobId

def transcribedContent (run : RunRecord) : Option String :=
  (sources.snapshot.transcript.find?
      (fun message => message.runId == run.runId && message.role == .user)).bind fun message =>
    match message.blocks.head? with
    | some (.text text) => some text
    | _ => none

def deriveUserContent : Option String :=
  ((sources.store.acceptedJob jobId).map AcceptedJob.userContent).or
    (((events.find? (fun event => event.event == "message_received")).bind
        (fun event => event.payload.stringAt "content_preview")).or
      ((sources.snapshot.runByJobId jobId).bind sources.transcribedContent))

def evidence : JobEvidence where
  jobId := jobId
  events := events
  summary := sources.summaries.find? (fun summary => summary.messageId == jobId)
  failure := sources.failures.find? (fun failure => failure.messageId == jobId)
  review := sources.store.reviewFor jobId
  worker := matchWorker now jobId sources.workers
  run := sources.snapshot.runByJobId jobId
  executionSummary := sources.projection.executionSummaries.lookup jobId
  projectedFailure := sources.projection.failures.lookup jobId
  pendingQuestion := sources.projection.pendingQuestions.lookup jobId
  toolState := sources.projection.toolStates.lookup jobId
  jobStatus := sources.projection.jobStatuses.lookup jobId
  idleSinceUpdateMs := saturatingSub now (sources.deriveUpdatedAtMs now jobId events)

def buildJobView (derive : JobEvidence → δ) : JobView δ :=
  let run := sources.snapshot.runByJobId jobId
  let accepted := sources.store.acceptedJob jobId
  let first := events.head?
  let traceId := sources.deriveTraceId jobId events
  let (kind, parentJobId) := sources.deriveJobHierarchy jobId events traceId
  let startedAtMs := sources.deriveStartedAtMs now jobId events
  { jobId
    traceId
    messageId := ((first.map RuntimeTimelineEvent.messageId).or
      (accepted.map AcceptedJob.messageId)).getD jobId
    kind
    parentJobId
    channel := ((run.map RunRecord.channel).or ((first.map RuntimeTimelineEvent.channel).or
      (accepted.map AcceptedJob.channel))).getD "web"
    chatId := (run.bind RunRecord.chatId).or ((first.bind RuntimeTimelineEvent.chatId).or
      (accepted.bind AcceptedJob.chatId))
    senderId := ((first.map RuntimeTimelineEvent.senderId).or
      (accepted.map AcceptedJob.senderId)).getD "web-user"
    userContent := sources.deriveUserContent jobId events
    accepted := accepted.isSome || !events.isEmpty
    startedAtMs
    updatedAtMs := sources.deriveUpdatedAtMs now jobId events
    elapsedMs := saturatingSub now startedAtMs
    recentEvents := collectRecentJobEvents events
    worker := matchWorker now jobId sources.workers
    review := sources.store.reviewFor jobId
    pendingPlan := (sources.projection.pendingQuestions.lookup jobId).bind PendingQuestion.plan
    orchestration := none
    derived := derive (sources.evidence now jobId events) }

end Job

end JobSources

def latestPayload (events : List JobEventView) (eventName key : String) : Option Value :=
  (events.reverse.find? (fun event => event.event == eventName)).bind
    (fun event => event.payload.get key)

def countEvents (events : List JobEventView) (eventName : String) : Nat :=
  (events.filter (fun event => event.event == eventName)).length

section Orchestration

variable {δ : Type} (jobs : List (JobView δ)) (job : JobView δ) (sources : JobSources)

def childJobIds (jobId : String) : List String :=
  (jobs.filter (fun job => job.parentJobId == some jobId)).map JobView.jobId

def ProjectionOrchestrationSummary.toView (summary : ProjectionOrchestrationSummary)
    (children : List String)
    : OrchestrationView where
  planId := summary.planId
  activeSubtaskName := summary.activeSubtaskName
  activeSubtaskType := summary.activeSubtaskType
  activeSubtaskId := summary.activeSubtaskId
  totalSubtasks := summary.totalSubtasks
  activeSubtasks := summary.activeSubtasks
  completedSubtasks := summary.completedSubtasks
  failedSubtasks := summary.failedSubtasks
  childJobIds := children

def RuntimeStateSnapshot.orchestrationFromTasks (snapshot : RuntimeStateSnapshot) (jobId : String)
    (children : List String)
    : Option OrchestrationView :=
  ((snapshot.tasksForJob jobId).findSome? TaskRecord.planId).map fun planId =>
    let subtasks := snapshot.subtasksForPlan planId
    let count := fun status : TaskStatus =>
      (subtasks.filter (fun task => task.status == status)).length
    let activeSubtask := RuntimeStateSnapshot.maxByKey TaskRecord.updatedAtMs
      (subtasks.filter (fun task => task.status == .running))
    { planId := some planId
      activeSubtaskName := activeSubtask.map TaskRecord.name
      activeSubtaskType := activeSubtask.map TaskRecord.taskType
      activeSubtaskId := activeSubtask.map TaskRecord.taskId
      totalSubtasks := subtasks.length
      activeSubtasks := count .running
      completedSubtasks := count .completed
      failedSubtasks := count .failed
      childJobIds := children }

def orchestrationFromEvents (events : List JobEventView) (children : List String)
    : Option OrchestrationView :=
  let created := "orchestration_plan_created"
  let started := "orchestration_subtask_started"
  let planId := (latestPayload events created "plan_id").bind Value.asStr
  let activeSubtaskName := (latestPayload events started "subtask_name").bind Value.asStr
  let failedSubtasks := countEvents events "orchestration_subtask_failed"
  if planId.isSome || !children.isEmpty
      || events.any (fun event => event.event.startsWith "orchestration_") then
    some {
      planId
      activeSubtaskName
      activeSubtaskType := (latestPayload events started "original_task_type").bind Value.asStr
      activeSubtaskId := (latestPayload events started "subtask_id").bind Value.asStr
      totalSubtasks := (((latestPayload events created "subtask_count").bind Value.asU64).map
        UInt64.toNat).getD children.length
      activeSubtasks := if activeSubtaskName.isSome && failedSubtasks == 0 then 1 else 0
      completedSubtasks := countEvents events "orchestration_subtask_completed"
      failedSubtasks
      childJobIds := children }
  else
    none

def deriveOrchestrationView (children : List String) : Option OrchestrationView :=
  (((sources.projection.orchestration.lookup job.jobId).map (fun summary => summary.toView children)).or
    (sources.snapshot.orchestrationFromTasks job.jobId children)).or
      (orchestrationFromEvents job.recentEvents children)

def attachOrchestration : JobView δ :=
  if job.kind = .main then
    { job with
      orchestration := deriveOrchestrationView job sources (childJobIds jobs job.jobId) }
  else
    job

end Orchestration

namespace JobSources

variable {δ : Type} (sources : JobSources) (derive : JobEvidence → δ) (now : UInt64)

def builtJobViews : List (JobView δ) :=
  let index := sources.buildJobTimelineIndex
  index.orderedIds.map (fun jobId => sources.buildJobView now jobId (index.eventsOf jobId) derive)

def sortedJobViews : List (JobView δ) :=
  let jobs := sources.builtJobViews derive now
  Newest.sorted (fun job => job.startedAtMs.toNat)
    (jobs.map (fun job => attachOrchestration jobs job sources))

def buildJobViewsWithProjection : List (JobView δ) :=
  let jobs := sources.sortedJobViews derive now
  if jobs.length > maxJobViews then jobs.drop (jobs.length - maxJobViews) else jobs

end JobSources

end AnimaAgent
