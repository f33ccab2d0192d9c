import AnimaAgent.Agent.QuestionContinuation

namespace AnimaAgent

structure AgentFollowupPlan where
  reason : String
  missingRequirements : List String
  followupPrompt : String
  resultFingerprint : String
  deriving DecidableEq

structure UserInputRequirement where
  reason : String
  missingRequirements : List String
  pendingQuestion : PendingQuestion
  deriving DecidableEq

inductive RequirementJudgement where
  | satisfied
  | needsAgentFollowup (plan : AgentFollowupPlan)
  | needsUserInput (requirement : UserInputRequirement)

inductive RequirementVerdict where
  | satisfied
  | needsAgentFollowup (reason : String) (missingRequirements : List String) (followupPrompt : String)
  | needsUserInput (requirement : UserInputRequirement)

def fingerprintResult (serde : SerdeJson) (result : Option Value) : String :=
  let compact := String.ofList
    ((serde.toString (result.getD .null)).toList.filter (fun c => !Text.isWhitespace c))
  if compact.utf8ByteSize > 240 then String.ofList (compact.toList.take 240) else compact

def judgeRequirement (serde : SerdeJson) (rawResult : Option Value)
    : RequirementVerdict → RequirementJudgement
  | .satisfied => .satisfied
  | .needsAgentFollowup reason missingRequirements followupPrompt =>
    .needsAgentFollowup
      { reason, missingRequirements, followupPrompt
        resultFingerprint := fingerprintResult serde rawResult }
  | .needsUserInput requirement => .needsUserInput requirement

inductive TurnOutcomePlan where
  | complete (shouldResolveQuestion : Bool)
  | askUserInput (shouldResolveQuestion : Bool) (requirement : UserInputRequirement)
  | scheduleFollowup (plan : AgentFollowupPlan)

def planTurnOutcome (hasResolvedQuestion : Bool) : RequirementJudgement → TurnOutcomePlan
  | .satisfied => .complete hasResolvedQuestion
  | .needsUserInput requirement => .askUserInput hasResolvedQuestion requirement
  | .needsAgentFollowup plan => .scheduleFollowup plan

def preparePendingQuestionForStorage (question : PendingQuestion) (inbound : InboundMessage)
    : PendingQuestion :=
  { question with
    jobId := inbound.id
    inbound := some inbound }

inductive ContextAssemblyMode where
  | initial
  | questionContinuation
  | subtaskBlockedContinuation
  | followup
  deriving DecidableEq, Repr

structure RequirementContextSnapshot where
  originalUserRequest : String
  attemptedRounds : Nat
  maxRounds : Nat
  previousFingerprint : Option String
  pendingQuestionPrompt : Option String
  pendingQuestionAnswerSummary : Option String
  latestSummaryStatus : Option String
  deriving DecidableEq

structure ContextAssemblyMetadata where
  memoryKey : String
  historySessionId : String
  opencodeSessionId : String
  deriving DecidableEq

structure ContextAssemblyRequest where
  mode : ContextAssemblyMode
  inboundId : String
  channel : String
  chatId : Option String
  originalUserRequest : String
  opencodeSessionId : String
  pendingQuestion : Option PendingQuestion
  latestSummaryStatus : Option String
  attemptedRounds : Nat
  maxRounds : Nat
  previousFingerprint : Option String
  followupPrompt : Option String
  deriving DecidableEq

structure ContextAssemblyResult where
  promptText : String
  requirementSnapshot : RequirementContextSnapshot
  metadata : ContextAssemblyMetadata
  deriving DecidableEq

def truncatePreview (text : String) (maxChars : Nat) : String :=
  let truncated := String.ofList (text.toList.take maxChars)
  if text.toList.length > maxChars then truncated ++ "…" else truncated

def buildQuestionContinuationPrompt (request : ContextAssemblyRequest) : String :=
  match request.pendingQuestion with
  | none => request.originalUserRequest
  | some question =>
    match question.answerSummary with
    | some answerSummary =>
      if Text.trim answerSummary = "" then request.originalUserRequest else answerSummary
    | none => request.originalUserRequest

def buildPromptText (request : ContextAssemblyRequest) : String :=
  match request.followupPrompt with
  | some prompt => prompt
  | none =>
    match request.mode with
    | .initial => request.originalUserRequest
    | .questionContinuation => buildQuestionContinuationPrompt request
    | .subtaskBlockedContinuation => request.originalUserRequest
    | .followup => request.originalUserRequest

def assembleContext (request : ContextAssemblyRequest) : ContextAssemblyResult :=
  let historySessionId := request.chatId.getD request.inboundId
  { promptText := buildPromptText request
    requirementSnapshot :=
      { originalUserRequest := request.originalUserRequest
        attemptedRounds := request.attemptedRounds
        maxRounds := request.maxRounds
        previousFingerprint := request.previousFingerprint
        pendingQuestionPrompt := request.pendingQuestion.map PendingQuestion.prompt
        pendingQuestionAnswerSummary :=
          request.pendingQuestion.bind PendingQuestion.answerSummary
        latestSummaryStatus := request.latestSummaryStatus }
    metadata :=
      { memoryKey := request.channel ++ ":" ++ historySessionId
        historySessionId
        opencodeSessionId := request.opencodeSessionId } }

section TruncatePreview

variable {text : String} {maxChars : Nat}

theorem truncatePreview_of_le (h : text.toList.length ≤ maxChars)
    : truncatePreview text maxChars = text := by
  unfold truncatePreview
  dsimp only
  rw [if_neg (by omega), List.take_of_length_le h, String.ofList_toList]

theorem toList_truncatePreview_of_lt (h : maxChars < text.toList.length)
    : (truncatePreview text maxChars).toList = text.toList.take maxChars ++ ['…'] := by
  unfold truncatePreview
  dsimp only
  rw [if_pos h, String.toList_append, String.toList_ofList]
  rfl

end TruncatePreview

structure RequirementProgressState where
  originalUserRequest : String
  attemptedRounds : Nat
  maxRounds : Nat
  lastResultFingerprint : Option String
  lastReason : Option String
  deriving DecidableEq

def defaultMaxRequirementFollowupRounds : Nat :=
  3

namespace RuntimeStateSnapshot

def rebuildRequirement (snapshot : RuntimeStateSnapshot) (jobId : String)
    : Option RequirementProgressState :=
  (snapshot.requirements.lookup (runtimeRequirementId jobId)).map (fun requirement =>
    { originalUserRequest := requirement.originalUserRequest
      attemptedRounds := requirement.attemptedRounds
      maxRounds := requirement.maxRounds
      lastResultFingerprint := requirement.lastResultFingerprint
      lastReason := requirement.lastReason })

def requirementRecord (snapshot : RuntimeStateSnapshot) (now : UInt64) (inbound : InboundMessage)
    (progress : RequirementProgressState) (status : RequirementStatus)
    : RequirementRecord where
  requirementId := runtimeRequirementId inbound.id
  runId := runtimeRunId inbound.id
  turnId := snapshot.currentTurnId inbound
  jobId := inbound.id
  originalUserRequest := progress.originalUserRequest
  attemptedRounds := progress.attemptedRounds
  maxRounds := progress.maxRounds
  lastResultFingerprint := progress.lastResultFingerprint
  lastReason := progress.lastReason
  status := status
  createdAtMs := ((snapshot.requirements.lookup (runtimeRequirementId inbound.id)).map
    RequirementRecord.createdAtMs).getD now
  updatedAtMs := now

end RuntimeStateSnapshot

/-- The coordinator of suspensions together with the progress of the requirements. -/
structure AgentState extends SuspensionCoordinator where
  requirementProgress : AList (fun _ : String => RequirementProgressState) := ∅

namespace AgentState

variable (now : UInt64) (state : AgentState)

def upsert (upsert : RuntimeUpsert) : AgentState :=
  { state with runtimeState := state.runtimeState.apply upsert }

def requirementState (jobId : String) (hydrateCache : Bool)
    : Option RequirementProgressState × AgentState :=
  match state.runtimeState.rebuildRequirement jobId with
  | some progress =>
    if hydrateCache then
      (some progress,
        { state with
          requirementProgress := state.requirementProgress.insert jobId progress })
    else
      (some progress, state)
  | none => (state.requirementProgress.lookup jobId, state)

def upsertRuntimeRequirement (inbound : InboundMessage) (progress : RequirementProgressState)
    (status : RequirementStatus)
    : AgentState :=
  state.upsert (.requirement (state.runtimeState.requirementRecord now inbound progress status))

def ensureRequirement (inbound : InboundMessage) (defaultMaxRounds : Nat)
    : RequirementProgressState × AgentState :=
  let (progress, state) := state.requirementState inbound.id true
  let entry := progress.getD
    { originalUserRequest := inbound.content
      attemptedRounds := 0
      maxRounds := defaultMaxRounds
      lastResultFingerprint := none
      lastReason := none }
  let state :=
    { state with requirementProgress := state.requirementProgress.insert inbound.id entry }
  let state := state.upsert
    (.task now inbound .requirement .running "evaluating requirement progress" none)
  (entry, state.upsertRuntimeRequirement now inbound entry .active)

def rebuildInboundFromSnapshot (jobId : String) (progress : RequirementProgressState)
    : Option InboundMessage :=
  (state.runtimeState.runs.lookup (runtimeRunId jobId)).map (fun run =>
    { id := jobId
      channel := run.channel
      senderId := ""
      chatId := run.chatId
      content := progress.originalUserRequest })

def updateRequirement (jobId : String) (attemptedRounds : Nat)
    (lastResultFingerprint lastReason : Option String)
    : AgentState :=
  match state.requirementState jobId true with
  | (none, state) => state
  | (some progress, state) =>
    let progress := { progress with attemptedRounds, lastResultFingerprint, lastReason }
    let state :=
      { state with requirementProgress := state.requirementProgress.insert jobId progress }
    match state.rebuildInboundFromSnapshot jobId progress with
    | some inbound => state.upsertRuntimeRequirement now inbound progress .followupScheduled
    | none => state

def clearRequirement (jobId : String) : AgentState :=
  { state with requirementProgress := state.requirementProgress.erase jobId }

def assembleTurnContext (latestSummaryStatus : Option String) (inbound : InboundMessage)
    (mode : ContextAssemblyMode) (opencodeSessionId : String)
    (pendingQuestion : Option PendingQuestion) (followupPrompt : Option String)
    : ContextAssemblyResult × AgentState :=
  let (progress, state) :=
    state.ensureRequirement now inbound defaultMaxRequirementFollowupRounds
  (assembleContext
    { mode
      inboundId := inbound.id
      channel := inbound.channel
      chatId := inbound.chatId
      originalUserRequest := progress.originalUserRequest
      opencodeSessionId
      pendingQuestion
      latestSummaryStatus
      attemptedRounds := progress.attemptedRounds
      maxRounds := progress.maxRounds
      previousFingerprint := progress.lastResultFingerprint
      followupPrompt }, state)

def originalUserRequest (inbound : InboundMessage) : String :=
  ((state.requirementState inbound.id false).1.map
    RequirementProgressState.originalUserRequest).getD inbound.content

theorem requirementState_fst (jobId : String) (hydrateCache : Bool)
    : (state.requirementState jobId hydrateCache).1
        = (state.runtimeState.rebuildRequirement jobId).or
          (state.requirementProgress.lookup jobId) := by
  unfold requirementState
  cases state.runtimeState.rebuildRequirement jobId with
  | none => rfl
  | some progress => cases hydrateCache <;> rfl

theorem ensureRequirement_originalUserRequest (inbound : InboundMessage) (defaultMaxRounds : Nat)
    : (state.ensureRequirement now inbound defaultMaxRounds).1.originalUserRequest
        = state.originalUserRequest inbound := by
  unfold ensureRequirement originalUserRequest
  dsimp only
  rw [requirementState_fst, requirementState_fst]
  cases (state.runtimeState.rebuildRequirement inbound.id).or
    (state.requirementProgress.lookup inbound.id) <;> rfl

theorem promptText_questionContinuation (latestSummaryStatus : Option String)
    (inbound : InboundMessage) (opencodeSessionId : String) {question : PendingQuestion}
    {answerSummary : String} (h : question.answerSummary = some answerSummary)
    : (state.assembleTurnContext now latestSummaryStatus inbound .questionContinuation
          opencodeSessionId (some question) none).1.promptText
        = if Text.trim answerSummary = "" then
            state.originalUserRequest inbound
          else
            answerSummary := by
  rw [← state.ensureRequirement_originalUserRequest now inbound
    defaultMaxRequirementFollowupRounds]
  unfold assembleTurnContext assembleContext buildPromptText buildQuestionContinuationPrompt
  dsimp only
  rw [h]

end AgentState

end AnimaAgent
