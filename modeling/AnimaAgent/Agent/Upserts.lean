import AnimaAgent.Agent.Suspension

namespace AnimaAgent

theorem runtimeRunId_inj {a b : String} : runtimeRunId a = runtimeRunId b ↔ a = b := by
  exact String.append_right_inj _

theorem runtimeSuspensionId_inj {a b : String}
    : runtimeSuspensionId a = runtimeSuspensionId b ↔ a = b := by
  exact String.append_right_inj _

theorem runtimeTurnId_ne_empty (jobId source : String) : runtimeTurnId jobId source ≠ "" := by
  intro h
  have := congrArg String.length h
  unfold runtimeTurnId at this
  rw [String.length_append, String.length_append, String.length_append] at this
  have hturn : "turn_".length = 5 := rfl
  have hempty : "".length = 0 := rfl
  omega

inductive RuntimeUpsert where
  | turn (now : UInt64) (inbound : InboundMessage) (source : String) (status : TurnStatus)
  /-- A turn, and the run with the identifier that `upsert_turn` has returned. -/
  | turnOfRun (now : UInt64) (inbound : InboundMessage) (source : String) (status : TurnStatus)
    (runStatus : RunStatus)
  | task (now : UInt64) (inbound : InboundMessage) (phase : RuntimeTaskPhase) (status : TaskStatus)
    (description : String) (error : Option String)
  | suspension (now : UInt64) (inbound : InboundMessage) (question : PendingQuestion)
    (taskId invocationId : Option String) (kind : SuspensionKind) (status : SuspensionStatus)
  | toolInvocation (inbound : InboundMessage) (invocation : ToolInvocationRecord)
    (inputPreview : Option String)
  | requirement (requirement : RequirementRecord)
  | projectionHint (runId scope key : String) (value : Value)
  | message (now : UInt64) (inbound : InboundMessage) (message : InternalMsg)

namespace RuntimeStateSnapshot

def apply (snapshot : RuntimeStateSnapshot) : RuntimeUpsert → RuntimeStateSnapshot
  | .turn now inbound source status => snapshot.upsertTurn now inbound source status
  | .turnOfRun now inbound source status runStatus =>
    (snapshot.upsertTurn now inbound source status).upsertRun now inbound runStatus
      (some (runtimeTurnId inbound.id source))
  | .task now inbound phase status description error =>
    snapshot.upsertTask now inbound phase status description error
  | .suspension now inbound question taskId invocationId kind status =>
    snapshot.upsertSuspension now inbound question taskId invocationId kind status
  | .toolInvocation inbound invocation inputPreview =>
    snapshot.upsertToolInvocation inbound invocation inputPreview
  | .requirement requirement => reduceEvent snapshot (.requirementUpserted requirement)
  | .projectionHint runId scope key value =>
    reduceEvent snapshot (.projectionHintRecorded runId scope key value)
  | .message now inbound message => snapshot.appendTranscriptMessage now inbound message

def applyAll (snapshot : RuntimeStateSnapshot) (upserts : List RuntimeUpsert)
    : RuntimeStateSnapshot :=
  upserts.foldl apply snapshot

def reached (history : List RuntimeUpsert) : RuntimeStateSnapshot :=
  applyAll {} history

structure SameTurns (a b : RuntimeStateSnapshot) : Prop where
  currentTurnId : ∀ inbound, a.currentTurnId inbound = b.currentTurnId inbound
  turns : a.turns = b.turns
  transcript : a.transcript = b.transcript

structure SameSuspensions (a b : RuntimeStateSnapshot) : Prop where
  suspensions : a.suspensions = b.suspensions
  index : a.index.suspensionIdsByQuestionId = b.index.suspensionIdsByQuestionId

theorem SameSuspensions.suspensionOf {a b : RuntimeStateSnapshot} (h : SameSuspensions a b)
    (questionId : String)
    : a.suspensionOf questionId = b.suspensionOf questionId := by
  unfold RuntimeStateSnapshot.suspensionOf
  rw [h.suspensions, h.index]

theorem SameTurns.turnMessages {a b : RuntimeStateSnapshot} (h : SameTurns a b) (runId : String)
    (turnId : Option String)
    : a.turnMessages runId turnId = b.turnMessages runId turnId := by
  unfold RuntimeStateSnapshot.turnMessages
  rw [h.turns, h.transcript]

section Frame

variable (now : UInt64) (inbound : InboundMessage) (snapshot : RuntimeStateSnapshot)

theorem upsertTurn_sameSuspensions (source : String) (status : TurnStatus)
    : SameSuspensions (snapshot.upsertTurn now inbound source status) snapshot := by
  exact ⟨rfl, rfl⟩

theorem upsertTask_sameSuspensions (phase : RuntimeTaskPhase) (status : TaskStatus)
    (description : String) (error : Option String)
    : SameSuspensions (snapshot.upsertTask now inbound phase status description error) snapshot := by
  exact ⟨rfl, RuntimeTaskIndex.suspensionIdsByQuestionId_addTask ..⟩

theorem upsertTask_sameTurns (phase : RuntimeTaskPhase) (status : TaskStatus)
    (description : String) (error : Option String)
    : SameTurns (snapshot.upsertTask now inbound phase status description error) snapshot := by
  exact ⟨fun _ => rfl, rfl, rfl⟩

theorem upsertSuspension_sameTurns (question : PendingQuestion) (taskId invocationId : Option String)
    (kind : SuspensionKind) (status : SuspensionStatus)
    : SameTurns (snapshot.upsertSuspension now inbound question taskId invocationId kind status)
        snapshot := by
  exact ⟨fun _ => rfl, rfl, rfl⟩

theorem currentTurnId_upsertRun (status : RunStatus) (turnId : Option String)
    (other : InboundMessage)
    : (snapshot.upsertRun now inbound status turnId).currentTurnId other
        = if other.id = inbound.id then turnId else snapshot.currentTurnId other := by
  unfold currentTurnId upsertRun reduceEvent
  dsimp only
  split
  . next h =>
    rw [h, AList.lookup_insert]
    rfl
  . next h => rw [AList.lookup_insert_ne (mt runtimeRunId_inj.mp h)]

theorem currentTurnId_upsertTurn (source : String) (status : TurnStatus) (other : InboundMessage)
    : (snapshot.upsertTurn now inbound source status).currentTurnId other
        = if other.id = inbound.id then
            some (runtimeTurnId inbound.id source)
          else
            snapshot.currentTurnId other := by
  unfold upsertTurn
  dsimp only
  rw [currentTurnId_upsertRun]
  split
  . rfl
  . next h =>
    -- the run that the turn is entered in is the one of `inbound` as well
    unfold currentTurnId reduceEvent enterTurn
    dsimp only
    split
    . rfl
    . rw [AList.lookup_insert_ne (mt runtimeRunId_inj.mp h)]

theorem transcript_upsertTurn (source : String) (status : TurnStatus)
    : (snapshot.upsertTurn now inbound source status).transcript = snapshot.transcript := by
  rfl

theorem lookup_turns_upsertTurn (source : String) (status : TurnStatus)
    : ((snapshot.upsertTurn now inbound source status).turns.lookup
          (runtimeTurnId inbound.id source)).map TurnRecord.transcriptCheckpoint
        = some snapshot.transcript.length := by
  unfold upsertTurn upsertRun reduceEvent
  dsimp only
  rw [AList.lookup_insert]
  rfl

theorem lookup_turns_upsertTurn_ne (source : String) (status : TurnStatus) {turnId : String}
    (h : turnId ≠ runtimeTurnId inbound.id source)
    : (snapshot.upsertTurn now inbound source status).turns.lookup turnId
        = snapshot.turns.lookup turnId := by
  unfold upsertTurn upsertRun reduceEvent
  dsimp only
  rw [AList.lookup_insert_ne h]

theorem turnMessages_upsertTurn (source : String) (status : TurnStatus) (runId : String)
    : (snapshot.upsertTurn now inbound source status).turnMessages runId
          (some (runtimeTurnId inbound.id source)) = [] := by
  unfold turnMessages
  rw [Option.bind_some, lookup_turns_upsertTurn, transcript_upsertTurn, Option.getD_some]
  dsimp only
  rw [List.drop_length]
  rfl

theorem turnMessages_upsertTurn_ne (source : String) (status : TurnStatus) (runId : String)
    {turnId : String} (h : turnId ≠ runtimeTurnId inbound.id source)
    : (snapshot.upsertTurn now inbound source status).turnMessages runId (some turnId)
        = snapshot.turnMessages runId (some turnId) := by
  unfold turnMessages
  rw [Option.bind_some, Option.bind_some, lookup_turns_upsertTurn_ne _ _ _ _ _ h,
    transcript_upsertTurn]

theorem suspensionOf_upsertSuspension (question : PendingQuestion)
    (taskId invocationId : Option String) (kind : SuspensionKind) (status : SuspensionStatus)
    : (snapshot.upsertSuspension now inbound question taskId invocationId kind status).suspensionOf
          question.questionId
        = some (snapshot.suspensionRecord now inbound question taskId invocationId kind status) := by
  unfold suspensionOf upsertSuspension reduceEvent
  dsimp only
  rw [RuntimeTaskIndex.suspensionIdsByQuestionId_addSuspension _ rfl, AList.lookup_insert]
  exact AList.lookup_insert _

end Frame

structure WellFormed (snapshot : RuntimeStateSnapshot) : Prop where
  index : ∀ questionId id,
    snapshot.index.suspensionIdsByQuestionId.lookup questionId = some id
      → id = runtimeSuspensionId questionId
  checkpoint : ∀ turnId turn,
    snapshot.turns.lookup turnId = some turn
      → turn.transcriptCheckpoint ≤ snapshot.transcript.length
  currentTurn : ∀ inbound, snapshot.currentTurnId inbound ≠ some ""
  suspensionTurn : ∀ id record, snapshot.suspensions.lookup id = some record → record.turnId ≠ ""
  transcriptTurn : ∀ inbound, ∀ record ∈ snapshot.transcript,
    record.runId = runtimeRunId inbound.id → record.turnId ≠ none
      → snapshot.currentTurnId inbound ≠ none

theorem wellFormed_empty : WellFormed {} := by
  constructor
  . intro questionId id h
    cases h
  . intro turnId turn h
    cases h
  . intro inbound h
    cases h
  . intro id record h
    cases h
  . intro inbound record hmem
    cases hmem

section WellFormed

variable {snapshot : RuntimeStateSnapshot} (hwf : WellFormed snapshot)

include hwf

theorem WellFormed.congr {other : RuntimeStateSnapshot} (hturns : SameTurns other snapshot)
    (hsuspensions : SameSuspensions other snapshot)
    : WellFormed other := by
  constructor
  . rw [hsuspensions.index]
    exact hwf.index
  . rw [hturns.turns, hturns.transcript]
    exact hwf.checkpoint
  . intro inbound
    rw [hturns.currentTurnId]
    exact hwf.currentTurn inbound
  . rw [hsuspensions.suspensions]
    exact hwf.suspensionTurn
  . intro inbound
    rw [hturns.transcript, hturns.currentTurnId]
    exact hwf.transcriptTurn inbound

theorem WellFormed.checkpoint_le (turnId : Option String)
    : ((turnId.bind snapshot.turns.lookup).map TurnRecord.transcriptCheckpoint).getD 0
        ≤ snapshot.transcript.length := by
  cases turnId with
  | none => exact Nat.zero_le _
  | some turnId =>
    rw [Option.bind_some]
    cases h : snapshot.turns.lookup turnId with
    | none => exact Nat.zero_le _
    | some turn => exact hwf.checkpoint turnId turn h

theorem WellFormed.turnId_ne {questionId : String} {record : SuspensionRecord}
    (h : snapshot.suspensionOf questionId = some record)
    : record.turnId ≠ "" := by
  unfold suspensionOf at h
  rw [Option.bind_eq_some_iff] at h
  obtain ⟨id, _, hrecord⟩ := h
  exact hwf.suspensionTurn id record hrecord

variable (now : UInt64) (inbound : InboundMessage)

theorem WellFormed.upsertTurn (source : String) (status : TurnStatus)
    : WellFormed (snapshot.upsertTurn now inbound source status) := by
  constructor
  . exact hwf.index
  . intro turnId turn h
    rw [transcript_upsertTurn]
    by_cases hturn : turnId = runtimeTurnId inbound.id source
    . have hcheckpoint := lookup_turns_upsertTurn now inbound snapshot source status
      rw [← hturn, h] at hcheckpoint
      exact Nat.le_of_eq (Option.some.inj hcheckpoint)
    . rw [lookup_turns_upsertTurn_ne _ _ _ _ _ hturn] at h
      exact hwf.checkpoint turnId turn h
  . intro other
    rw [currentTurnId_upsertTurn]
    split
    . exact fun h => runtimeTurnId_ne_empty _ _ (Option.some.inj h)
    . exact hwf.currentTurn other
  . exact hwf.suspensionTurn
  . intro other record hmem hrun hturn
    rw [currentTurnId_upsertTurn]
    split
    . exact Option.some_ne_none _
    . exact hwf.transcriptTurn other record hmem hrun hturn

theorem WellFormed.upsertRun (status : RunStatus) (jobId source : String)
    : WellFormed (snapshot.upsertRun now inbound status (some (runtimeTurnId jobId source))) := by
  constructor
  . exact hwf.index
  . exact hwf.checkpoint
  . intro other
    rw [currentTurnId_upsertRun]
    split
    . exact fun h => runtimeTurnId_ne_empty _ _ (Option.some.inj h)
    . exact hwf.currentTurn other
  . exact hwf.suspensionTurn
  . intro other record hmem hrun hturn
    rw [currentTurnId_upsertRun]
    split
    . exact Option.some_ne_none _
    . exact hwf.transcriptTurn other record hmem hrun hturn

theorem WellFormed.upsertSuspension (question : PendingQuestion)
    (taskId invocationId : Option String) (kind : SuspensionKind) (status : SuspensionStatus)
    : WellFormed
        (snapshot.upsertSuspension now inbound question taskId invocationId kind status) := by
  constructor
  . intro questionId id h
    unfold RuntimeStateSnapshot.upsertSuspension reduceEvent at h
    dsimp only at h
    rw [RuntimeTaskIndex.suspensionIdsByQuestionId_addSuspension _ rfl] at h
    by_cases hquestion : questionId = question.questionId
    . subst hquestion
      rw [AList.lookup_insert] at h
      exact (Option.some.inj h).symm
    . rw [AList.lookup_insert_ne hquestion] at h
      exact hwf.index questionId id h
  . exact hwf.checkpoint
  . exact hwf.currentTurn
  . intro id record h
    unfold RuntimeStateSnapshot.upsertSuspension reduceEvent at h
    dsimp only at h
    by_cases hid : id = runtimeSuspensionId question.questionId
    . rw [hid] at h
      have h := Option.some.inj ((AList.lookup_insert _).symm.trans h)
      rw [← h]
      change (snapshot.currentTurnId inbound).getD _ ≠ ""
      cases hturn : snapshot.currentTurnId inbound with
      | none => exact runtimeTurnId_ne_empty _ _
      | some turnId =>
        intro hempty
        exact hwf.currentTurn inbound (hturn.trans (congrArg some hempty))
    . have h := (AList.lookup_insert_ne hid).symm.trans h
      exact hwf.suspensionTurn id record h
  . exact hwf.transcriptTurn

theorem WellFormed.suspensionOf_upsertSuspension_ne {question : PendingQuestion}
    (taskId invocationId : Option String) (kind : SuspensionKind) (status : SuspensionStatus)
    {questionId : String} (h : questionId ≠ question.questionId)
    : (snapshot.upsertSuspension now inbound question taskId invocationId kind status).suspensionOf
          questionId
        = snapshot.suspensionOf questionId := by
  unfold suspensionOf RuntimeStateSnapshot.upsertSuspension reduceEvent
  dsimp only
  rw [RuntimeTaskIndex.suspensionIdsByQuestionId_addSuspension _ rfl, AList.lookup_insert_ne h]
  cases hid : snapshot.index.suspensionIdsByQuestionId.lookup questionId with
  | none => rfl
  | some id =>
    rw [Option.bind_some, Option.bind_some, hwf.index questionId id hid]
    exact AList.lookup_insert_ne (mt runtimeSuspensionId_inj.mp h)

theorem WellFormed.appendTranscriptMessage (message : InternalMsg)
    : WellFormed (snapshot.appendTranscriptMessage now inbound message) := by
  constructor
  . exact hwf.index
  . intro turnId turn h
    have := hwf.checkpoint turnId turn h
    change _ ≤ (snapshot.transcript ++ [_]).length
    rw [List.length_append]
    omega
  . exact hwf.currentTurn
  . exact hwf.suspensionTurn
  . intro other record hmem hrun hturn
    change record ∈ snapshot.transcript ++ [_] at hmem
    rw [List.mem_append, List.mem_singleton] at hmem
    rcases hmem with hmem | rfl
    . exact hwf.transcriptTurn other record hmem hrun hturn
    . have hsame : inbound.id = other.id := runtimeRunId_inj.mp hrun
      have hcurrent : snapshot.currentTurnId other = snapshot.currentTurnId inbound := by
        unfold RuntimeStateSnapshot.currentTurnId
        rw [hsame]
      change snapshot.currentTurnId other ≠ none
      rw [hcurrent]
      exact hturn

theorem WellFormed.turnMessages_appendTranscriptMessage (message : InternalMsg) (runId : String)
    (turnId : Option String)
    : (snapshot.appendTranscriptMessage now inbound message).turnMessages runId turnId
        = snapshot.turnMessages runId turnId
          ++ if runtimeRunId inbound.id = runId ∧ snapshot.currentTurnId inbound = turnId then
              [message]
            else
              [] := by
  unfold turnMessages
  change List.map _ (List.filter _ (List.drop
    (((turnId.bind snapshot.turns.lookup).map TurnRecord.transcriptCheckpoint).getD 0)
    (snapshot.transcript ++ [_]))) = _
  rw [List.drop_append_of_le_length (hwf.checkpoint_le turnId), List.filter_append, List.map_append]
  congr 1
  split
  . next h =>
    obtain ⟨hrun, hturn⟩ := h
    rw [List.filter_cons_of_pos (by simp [hrun, hturn])]
    rfl
  . next h =>
    rw [List.filter_cons_of_neg (by simpa using h)]
    rfl

end WellFormed

theorem WellFormed.apply {snapshot : RuntimeStateSnapshot} (hwf : WellFormed snapshot)
    (upsert : RuntimeUpsert)
    : WellFormed (snapshot.apply upsert) := by
  cases upsert with
  | turn now inbound source status => exact hwf.upsertTurn now inbound source status
  | turnOfRun now inbound source status runStatus =>
    exact (hwf.upsertTurn now inbound source status).upsertRun now inbound runStatus _ _
  | task now inbound phase status description error =>
    exact hwf.congr (upsertTask_sameTurns ..) (upsertTask_sameSuspensions ..)
  | suspension now inbound question taskId invocationId kind status =>
    exact hwf.upsertSuspension now inbound question taskId invocationId kind status
  | toolInvocation inbound invocation inputPreview =>
    exact hwf.congr ⟨fun _ => rfl, rfl, rfl⟩ ⟨rfl, rfl⟩
  | requirement requirement => exact hwf.congr ⟨fun _ => rfl, rfl, rfl⟩ ⟨rfl, rfl⟩
  | projectionHint runId scope key value => exact hwf.congr ⟨fun _ => rfl, rfl, rfl⟩ ⟨rfl, rfl⟩
  | message now inbound message => exact hwf.appendTranscriptMessage now inbound message

theorem WellFormed.applyAll {snapshot : RuntimeStateSnapshot} (hwf : WellFormed snapshot)
    (upserts : List RuntimeUpsert)
    : WellFormed (snapshot.applyAll upserts) := by
  induction upserts generalizing snapshot with
  | nil => exact hwf
  | cons upsert rest ih => exact ih (hwf.apply upsert)

theorem wellFormed_reached (history : List RuntimeUpsert) : WellFormed (reached history) := by
  exact wellFormed_empty.applyAll history

end RuntimeStateSnapshot

end AnimaAgent
