import AnimaAgent.Library.IndexMap
import AnimaAgent.Runtime.RecordFormat
import AnimaAgent.Support.Text

namespace AnimaAgent

inductive UserVerdict where
  | accepted
  | rejected
  deriving DecidableEq

inductive JobKind where
  | main
  | subtask
  deriving DecidableEq

structure AcceptedJob where
  jobId : String
  traceId : String
  messageId : String
  kind : JobKind
  parentJobId : Option String
  channel : String
  chatId : Option String
  senderId : String
  userContent : String
  acceptedAtMs : UInt64
  deriving DecidableEq

structure JobReviewInput where
  userVerdict : UserVerdict
  reason : Option String
  note : Option String

structure JobReviewView where
  verdict : UserVerdict
  reason : Option String
  note : Option String
  reviewedAtMs : UInt64
  deriving DecidableEq

structure JobStore where
  accepted : IndexMap String AcceptedJob
  reviews : IndexMap String JobReviewView

namespace JobStore

def new : JobStore where
  accepted := .empty
  reviews := .empty

variable (store : JobStore)

def registerAcceptedJob (job : AcceptedJob) : JobStore :=
  { store with accepted := store.accepted.insert job.jobId job }

def acceptedJob (jobId : String) : Option AcceptedJob :=
  store.accepted.get jobId

def acceptedJobs : List AcceptedJob :=
  store.accepted.values

def parentJobIdByTrace (traceId : String) : Option String :=
  (store.acceptedJobs.find? (fun job => job.traceId == traceId && job.parentJobId.isSome)).bind
    AcceptedJob.parentJobId

def recordReview (jobId : String) (input : JobReviewInput) (now : UInt64)
    : JobReviewView × JobStore :=
  let review := {
    verdict := input.userVerdict
    reason := input.reason.filter (fun value => Text.trim value != "")
    note := input.note.filter (fun value => Text.trim value != "")
    reviewedAtMs := now }
  (review, { store with reviews := store.reviews.insert jobId review })

def reviewFor (jobId : String) : Option JobReviewView :=
  store.reviews.get jobId

def removeByChatId (chatId : String) : JobStore :=
  let jobIds := (store.accepted.entries.filter (fun entry => entry.2.chatId == some chatId)).map
    Prod.fst
  { accepted := jobIds.foldl IndexMap.shiftRemove store.accepted
    reviews := jobIds.foldl IndexMap.shiftRemove store.reviews }

end JobStore

structure RuntimeTimelineEvent where
  event : String
  traceId : String
  messageId : String
  channel : String
  chatId : Option String
  senderId : String
  recordedAtMs : UInt64
  payload : Value
  deriving DecidableEq

structure RuntimeFailureSnapshot where
  errorCode : String
  errorStage : String
  messageId : String
  channel : String
  chatId : Option String
  occurredAtMs : UInt64
  internalMessage : String
  deriving DecidableEq

structure ExecutionStageDurations where
  contextMs : UInt64
  sessionMs : UInt64
  classifyMs : UInt64
  executeMs : UInt64
  totalMs : UInt64
  deriving DecidableEq

structure ExecutionSummary where
  traceId : String
  messageId : String
  channel : String
  chatId : Option String
  planType : String
  status : String
  cacheHit : Bool
  workerId : Option String
  errorCode : Option String
  errorStage : Option String
  taskDurationMs : UInt64
  stages : ExecutionStageDurations
  deriving DecidableEq

def recordTimeline (timeline : List RuntimeTimelineEvent) (event : RuntimeTimelineEvent)
    : List RuntimeTimelineEvent :=
  let timeline := timeline ++ [event]
  if timeline.length > 50 then timeline.drop (timeline.length - 50) else timeline

def recordSummary (summaries : List ExecutionSummary) (summary : ExecutionSummary)
    : List ExecutionSummary :=
  let summaries := summaries ++ [summary]
  if summaries.length > 20 then summaries.drop (summaries.length - 20) else summaries

structure JobEventView where
  event : String
  recordedAtMs : UInt64
  payload : Value
  deriving DecidableEq

namespace RuntimeTimelineEvent

def toView (event : RuntimeTimelineEvent) : JobEventView where
  event := event.event
  recordedAtMs := event.recordedAtMs
  payload := event.payload

def isPlanCreated (event : RuntimeTimelineEvent) : Bool :=
  event.event == "orchestration_plan_created"

end RuntimeTimelineEvent

def maxJobEvents : Nat := 8

def dropExcess : Nat → List RuntimeTimelineEvent → List RuntimeTimelineEvent
  | 0, events => events
  | excess + 1, events =>
    match events.findIdx? (fun event => !event.isPlanCreated) with
    | some index => dropExcess excess (events.eraseIdx index)
    | none => events.drop (excess + 1)

def collectRecentJobEvents (events : List RuntimeTimelineEvent) : List JobEventView :=
  let latest := events.reverse.take maxJobEvents
  let injected :=
    if latest.any RuntimeTimelineEvent.isPlanCreated then
      none
    else
      events.reverse.find? RuntimeTimelineEvent.isPlanCreated
  let sorted := (latest ++ injected.toList).mergeSort
    (fun a b => decide (a.recordedAtMs ≤ b.recordedAtMs))
  let excess := sorted.length - maxJobEvents
  let kept := if injected.isSome then dropExcess excess sorted else sorted.drop excess
  kept.map RuntimeTimelineEvent.toView

end AnimaAgent
