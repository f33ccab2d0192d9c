import AnimaAgent.Agent.QuestionContinuation
import AnimaAgent.Execution.Suspension
import AnimaAgent.Library.Runs

namespace AnimaAgent

namespace RuntimeStateSnapshot

def RebuildsMessages (questionId : String) (messages : List InternalMsg)
    (snapshot : RuntimeStateSnapshot)
    : Prop :=
  ∃ record, snapshot.suspensionOf questionId = some record
    ∧ snapshot.rebuildTurnMessages record = messages

def InFreshTurn (inbound : InboundMessage) (snapshot : RuntimeStateSnapshot) : Prop :=
  ∃ turnId, snapshot.currentTurnId inbound = some turnId
    ∧ snapshot.turnMessages (runtimeRunId inbound.id) (some turnId) = []

def KeepsTurn (questionId : String) (record : SuspensionRecord) (snapshot : RuntimeStateSnapshot)
    : RuntimeUpsert → Prop
  | .turn _ inbound source _ => runtimeTurnId inbound.id source ≠ record.turnId
  | .turnOfRun _ inbound source _ _ => runtimeTurnId inbound.id source ≠ record.turnId
  | .suspension _ inbound question .. =>
    question.questionId = questionId
      → runtimeRunId inbound.id = record.runId
        ∧ snapshot.currentTurnId inbound = some record.turnId
  | .message _ inbound _ =>
    ¬(runtimeRunId inbound.id = record.runId
      ∧ snapshot.currentTurnId inbound = some record.turnId)
  | _ => True

def KeepsTurnOf (questionId : String) (snapshot : RuntimeStateSnapshot) (upsert : RuntimeUpsert)
    : Prop :=
  ∀ record, snapshot.suspensionOf questionId = some record
    → snapshot.KeepsTurn questionId record upsert

/-- A write that appends no message to the run and does not ask the question for another run. -/
def UpsertsFor (questionId : String) (inbound : InboundMessage) : RuntimeUpsert → Prop
  | .suspension _ other question .. => question.questionId = questionId → other.id = inbound.id
  | .message _ other _ => other.id ≠ inbound.id
  | _ => True

theorem rebuildTurnMessages_eq (snapshot : RuntimeStateSnapshot) {record : SuspensionRecord}
    (h : record.turnId ≠ "")
    : snapshot.rebuildTurnMessages record
        = snapshot.turnMessages record.runId (some record.turnId) := by
  unfold rebuildTurnMessages
  rw [if_neg h]

theorem rebuildToolInvocation_messages {snapshot : RuntimeStateSnapshot} {questionId : String}
    {state : SuspendedToolInvocationState} {messages : List InternalMsg}
    (h : snapshot.RebuildsMessages questionId messages)
    (hstate : snapshot.rebuildToolInvocation questionId = some state)
    : state.suspension.messages = messages := by
  obtain ⟨record, hrecord, hmessages⟩ := h
  unfold rebuildToolInvocation at hstate
  rw [hrecord] at hstate
  simp only [Option.bind_eq_bind, Option.bind_eq_some_iff] at hstate
  obtain ⟨record', hfilter, _, _, _, _, _, _, _, _, hstate⟩ := hstate
  obtain ⟨hsame, _⟩ := Option.filter_eq_some_iff.mp hfilter
  cases hsame
  cases hstate
  exact hmessages

section Store

variable {snapshot : RuntimeStateSnapshot} (hwf : WellFormed snapshot)
variable (now : UInt64) (inbound : InboundMessage)

theorem currentTurnId_appendTranscriptMessages (messages : List InternalMsg)
    (snapshot : RuntimeStateSnapshot) (other : InboundMessage)
    : (snapshot.appendTranscriptMessages now inbound messages).currentTurnId other
        = snapshot.currentTurnId other := by
  induction messages generalizing snapshot with
  | nil => rfl
  | cons message rest ih => exact ih _

include hwf in
theorem WellFormed.appendTranscriptMessages (messages : List InternalMsg)
    : WellFormed (snapshot.appendTranscriptMessages now inbound messages) := by
  induction messages generalizing snapshot with
  | nil => exact hwf
  | cons message rest ih => exact ih (hwf.appendTranscriptMessage now inbound message)

include hwf in
theorem WellFormed.turnMessages_appendTranscriptMessages (messages : List InternalMsg)
    (turnId : Option String)
    : (snapshot.appendTranscriptMessages now inbound messages).turnMessages
          (runtimeRunId inbound.id) turnId
        = snapshot.turnMessages (runtimeRunId inbound.id) turnId
          ++ if snapshot.currentTurnId inbound = turnId then messages else [] := by
  induction messages generalizing snapshot with
  | nil => rw [ite_self, List.append_nil]; rfl
  | cons message rest ih =>
    have hrest := ih (hwf.appendTranscriptMessage now inbound message)
    have hcurrent : (snapshot.appendTranscriptMessage now inbound message).currentTurnId inbound
        = snapshot.currentTurnId inbound := by
      rfl
    rw [hcurrent, hwf.turnMessages_appendTranscriptMessage, List.append_assoc] at hrest
    refine hrest.trans ?_
    by_cases h : snapshot.currentTurnId inbound = turnId
    . rw [if_pos ⟨rfl, h⟩, if_pos h, if_pos h]
      rfl
    . rw [if_neg (fun h' => h h'.2), if_neg h, if_neg h]
      rfl

theorem WellFormed.turnMessages_of_no_turn (hwf : WellFormed snapshot)
    (h : snapshot.currentTurnId inbound = none) (turnId : String)
    : snapshot.turnMessages (runtimeRunId inbound.id) (some turnId) = [] := by
  unfold turnMessages
  dsimp only
  rw [List.map_eq_nil_iff, List.filter_eq_nil_iff]
  intro record hmem hrecord
  rw [Bool.and_eq_true, beq_iff_eq, beq_iff_eq] at hrecord
  refine hwf.transcriptTurn inbound record (List.mem_of_mem_drop hmem) hrecord.1 ?_ h
  rw [hrecord.2]
  exact Option.some_ne_none _

def askUpserts (source jobId questionId : String) (state : SuspendedToolInvocationState)
    : List RuntimeUpsert :=
  let question :=
    SuspensionCoordinator.toolPermissionQuestion now questionId jobId state
      (suspensionPayload source state)
  let stored :=
    SuspensionCoordinator.toolPermissionQuestion now questionId (runtimeMessageId state.inbound)
      state (SuspensionCoordinator.toolPermissionPayload state)
  [ .task now state.inbound .toolPermission .suspended question.prompt none,
    .suspension now state.inbound question (some (runtimeTaskId state.inbound.id .toolPermission))
      (some state.invocationId) .toolPermission .active,
    .task now state.inbound .toolPermission .suspended
      ("awaiting permission for tool " ++ state.toolName) none,
    .suspension now state.inbound stored
      (some (runtimeTaskId (runtimeMessageId state.inbound) .toolPermission))
      (some state.invocationId) .toolPermission .active,
    .toolInvocation state.inbound state.suspension.suspendedTool.invocation state.inputPreview ]

theorem runtimeState_askToolPermission (coordinator : SuspensionCoordinator)
    (source jobId questionId : String) (state : SuspendedToolInvocationState)
    : (coordinator.askToolPermission now source jobId questionId state).runtimeState
        = (coordinator.runtimeState.appendTranscriptMessages now state.inbound
          state.suspension.messages).applyAll (askUpserts now source jobId questionId state) := by
  rfl

theorem suspensionOf_askToolPermission (coordinator : SuspensionCoordinator)
    (source jobId questionId : String) (state : SuspendedToolInvocationState)
    : ∃ record,
        (coordinator.askToolPermission now source jobId questionId state).runtimeState.suspensionOf
            questionId = some record
          ∧ record.runId = runtimeRunId state.inbound.id
          ∧ record.turnId
            = (coordinator.runtimeState.currentTurnId state.inbound).getD
              (runtimeTurnId state.inbound.id "initial") := by
  have hsame := suspensionOf_upsertSuspension now state.inbound
    ((coordinator.runtimeState.appendTranscriptMessages now state.inbound
      state.suspension.messages).applyAll ((askUpserts now source jobId questionId state).take 3))
    (SuspensionCoordinator.toolPermissionQuestion now questionId (runtimeMessageId state.inbound)
      state (SuspensionCoordinator.toolPermissionPayload state))
    (some (runtimeTaskId (runtimeMessageId state.inbound) .toolPermission))
    (some state.invocationId) .toolPermission .active
  refine ⟨_, hsame, rfl, ?_⟩
  exact congrArg (Option.getD · _) (currentTurnId_appendTranscriptMessages now state.inbound
    state.suspension.messages coordinator.runtimeState state.inbound)

theorem rebuildsMessages_askToolPermission {coordinator : SuspensionCoordinator}
    (hwf : WellFormed coordinator.runtimeState) (source jobId questionId : String)
    {state : SuspendedToolInvocationState} (hmessages : state.suspension.messages ≠ [])
    : RebuildsMessages questionId state.suspension.messages
          (coordinator.askToolPermission now source jobId questionId state).runtimeState
        ↔ coordinator.runtimeState.InFreshTurn state.inbound := by
  obtain ⟨record, hrecord, hrun, hturn⟩ :=
    suspensionOf_askToolPermission now coordinator source jobId questionId state
  have hne : record.turnId ≠ "" := by
    refine WellFormed.turnId_ne ?_ hrecord
    rw [runtimeState_askToolPermission]
    exact (hwf.appendTranscriptMessages now _ _).applyAll _
  have hrebuilt : (coordinator.askToolPermission now source jobId questionId state
      ).runtimeState.rebuildTurnMessages record
        = coordinator.runtimeState.turnMessages (runtimeRunId state.inbound.id) (some record.turnId)
          ++ if coordinator.runtimeState.currentTurnId state.inbound = some record.turnId then
              state.suspension.messages
            else
              [] := by
    rw [rebuildTurnMessages_eq _ hne, hrun]
    exact hwf.turnMessages_appendTranscriptMessages now state.inbound _ _
  unfold RebuildsMessages InFreshTurn
  rw [hrecord]
  cases hcurrent : coordinator.runtimeState.currentTurnId state.inbound with
  | none =>
    rw [hcurrent, if_neg (Option.some_ne_none _).symm,
      hwf.turnMessages_of_no_turn _ hcurrent] at hrebuilt
    constructor
    . rintro ⟨record', hsame, hrecord'⟩
      cases hsame
      exact absurd (hrecord'.symm.trans hrebuilt) hmessages
    . rintro ⟨turnId, hsome, _⟩
      cases hsome
  | some turnId =>
    rw [hcurrent, Option.getD_some] at hturn
    rw [hcurrent, hturn, if_pos rfl] at hrebuilt
    constructor
    . rintro ⟨record', hsame, hrecord'⟩
      cases hsame
      refine ⟨turnId, rfl, ?_⟩
      exact List.append_left_eq_self.mp (hrebuilt.symm.trans hrecord')
    . rintro ⟨turnId', hsame, hfresh⟩
      cases hsame
      refine ⟨record, rfl, ?_⟩
      rw [hrebuilt, hfresh]
      rfl

end Store

section Step

variable {snapshot : RuntimeStateSnapshot} (hwf : WellFormed snapshot)
variable {questionId : String} {messages : List InternalMsg}

theorem RebuildsMessages.congr {other : RuntimeStateSnapshot} (hwf : WellFormed snapshot)
    (h : snapshot.RebuildsMessages questionId messages) (hsame : SameSuspensions other snapshot)
    (hturn : ∀ record, snapshot.suspensionOf questionId = some record
      → other.turnMessages record.runId (some record.turnId)
        = snapshot.turnMessages record.runId (some record.turnId))
    : other.RebuildsMessages questionId messages := by
  obtain ⟨record, hrecord, hmessages⟩ := h
  have hne := hwf.turnId_ne hrecord
  refine ⟨record, (hsame.suspensionOf questionId).trans hrecord, ?_⟩
  rw [rebuildTurnMessages_eq _ hne, hturn record hrecord, ← rebuildTurnMessages_eq _ hne]
  exact hmessages

include hwf in
theorem RebuildsMessages.apply (h : snapshot.RebuildsMessages questionId messages)
    {upsert : RuntimeUpsert} (hkeeps : snapshot.KeepsTurnOf questionId upsert)
    : (snapshot.apply upsert).RebuildsMessages questionId messages := by
  cases upsert with
  | turn now inbound source status =>
    refine h.congr hwf (upsertTurn_sameSuspensions ..) ?_
    intro record hrecord
    exact turnMessages_upsertTurn_ne _ _ _ _ _ _ (Ne.symm (hkeeps record hrecord))
  | turnOfRun now inbound source status runStatus =>
    refine h.congr hwf ⟨rfl, rfl⟩ ?_
    intro record hrecord
    exact turnMessages_upsertTurn_ne now inbound snapshot source status _
      (Ne.symm (hkeeps record hrecord))
  | task now inbound phase status description error =>
    refine h.congr hwf (upsertTask_sameSuspensions ..) ?_
    intro record hrecord
    exact (upsertTask_sameTurns ..).turnMessages _ _
  | suspension now inbound question taskId invocationId kind status =>
    obtain ⟨record, hrecord, hmessages⟩ := h
    by_cases hquestion : question.questionId = questionId
    . -- the record is replaced by one of the same run and the same turn
      obtain ⟨hrun, hturn⟩ := hkeeps record hrecord hquestion
      have hfound := suspensionOf_upsertSuspension now inbound snapshot question taskId invocationId
        kind status
      rw [hquestion] at hfound
      refine ⟨_, hfound, ?_⟩
      have hturnId : (snapshot.suspensionRecord now inbound question taskId invocationId kind
          status).turnId = record.turnId := by
        change (snapshot.currentTurnId inbound).getD _ = _
        rw [hturn]
        rfl
      have hne := hwf.turnId_ne hrecord
      rw [rebuildTurnMessages_eq _ (hturnId ▸ hne), hturnId]
      refine ((upsertSuspension_sameTurns ..).turnMessages _ _).trans ?_
      change snapshot.turnMessages (runtimeRunId inbound.id) _ = _
      rw [hrun, ← rebuildTurnMessages_eq _ hne]
      exact hmessages
    . have hne := hwf.turnId_ne hrecord
      refine ⟨record, ?_, ?_⟩
      . exact (hwf.suspensionOf_upsertSuspension_ne now inbound _ _ _ _
          (Ne.symm hquestion)).trans hrecord
      . rw [rebuildTurnMessages_eq _ hne, ← hmessages, rebuildTurnMessages_eq _ hne]
        exact (upsertSuspension_sameTurns ..).turnMessages _ _
  | toolInvocation inbound invocation inputPreview =>
    exact h.congr hwf ⟨rfl, rfl⟩ (fun _ _ => rfl)
  | requirement requirement => exact h.congr hwf ⟨rfl, rfl⟩ (fun _ _ => rfl)
  | projectionHint runId scope key value => exact h.congr hwf ⟨rfl, rfl⟩ (fun _ _ => rfl)
  | message now inbound message =>
    refine h.congr hwf ⟨rfl, rfl⟩ ?_
    intro record hrecord
    refine (hwf.turnMessages_appendTranscriptMessage now inbound message _ _).trans ?_
    rw [if_neg (hkeeps record hrecord), List.append_nil]

end Step

theorem apply_turnOfRun_sameTurns (snapshot : RuntimeStateSnapshot) (now : UInt64)
    (inbound : InboundMessage) (source : String) (status : TurnStatus) (runStatus : RunStatus)
    : SameTurns (snapshot.apply (.turnOfRun now inbound source status runStatus))
        (snapshot.upsertTurn now inbound source status) := by
  refine ⟨?_, rfl, rfl⟩
  intro other
  refine (currentTurnId_upsertRun ..).trans ?_
  rw [currentTurnId_upsertTurn]
  split
  . rfl
  . rfl

structure Asked (inbound : InboundMessage) (questionId : String) (snapshot : RuntimeStateSnapshot)
    : Prop where
  wellFormed : WellFormed snapshot
  ownRun : ∀ record, snapshot.suspensionOf questionId = some record
    → record.runId = runtimeRunId inbound.id
  currentTurn : ∃ turnId, snapshot.currentTurnId inbound = some turnId
    ∧ ∀ record, snapshot.suspensionOf questionId = some record → turnId ≠ record.turnId
      → snapshot.turnMessages (runtimeRunId inbound.id) (some turnId) = []

section Asked

variable {snapshot : RuntimeStateSnapshot} {inbound : InboundMessage} {questionId : String}
variable (h : snapshot.Asked inbound questionId)

include h

theorem Asked.congr {other : RuntimeStateSnapshot} (hturns : SameTurns other snapshot)
    (hsuspensions : SameSuspensions other snapshot)
    : other.Asked inbound questionId := by
  refine ⟨h.wellFormed.congr hturns hsuspensions, ?_, ?_⟩
  . rw [hsuspensions.suspensionOf]
    exact h.ownRun
  . simp only [hturns.currentTurnId, hsuspensions.suspensionOf, hturns.turnMessages]
    exact h.currentTurn

theorem Asked.upsertTurn (now : UInt64) (other : InboundMessage) (source : String)
    (status : TurnStatus)
    : (snapshot.upsertTurn now other source status).Asked inbound questionId := by
  refine ⟨h.wellFormed.upsertTurn now other source status, h.ownRun, ?_⟩
  rw [currentTurnId_upsertTurn]
  split
  . exact ⟨_, rfl, fun _ _ _ => turnMessages_upsertTurn ..⟩
  . obtain ⟨turnId, hcurrent, hempty⟩ := h.currentTurn
    refine ⟨turnId, hcurrent, ?_⟩
    intro record hrecord hne
    by_cases hturn : turnId = runtimeTurnId other.id source
    . rw [hturn]
      exact turnMessages_upsertTurn ..
    . rw [turnMessages_upsertTurn_ne _ _ _ _ _ _ hturn]
      exact hempty record hrecord hne

theorem Asked.upsertSuspension (now : UInt64) {other : InboundMessage} {question : PendingQuestion}
    (taskId invocationId : Option String) (kind : SuspensionKind) (status : SuspensionStatus)
    (hown : question.questionId = questionId → other.id = inbound.id)
    : (snapshot.upsertSuspension now other question taskId invocationId kind status).Asked inbound
        questionId := by
  have hwf := h.wellFormed.upsertSuspension now other question taskId invocationId kind status
  obtain ⟨turnId, hcurrent, hempty⟩ := h.currentTurn
  by_cases hquestion : question.questionId = questionId
  . -- the new record is of the run, in its current turn
    have hid := hown hquestion
    have hfound := suspensionOf_upsertSuspension now other snapshot question taskId invocationId
      kind status
    rw [hquestion] at hfound
    refine ⟨hwf, ?_, turnId, hcurrent, ?_⟩
    . intro record hrecord
      cases hfound.symm.trans hrecord
      exact congrArg runtimeRunId hid
    . intro record hrecord hne
      cases hfound.symm.trans hrecord
      refine absurd ?_ hne
      have hsame : snapshot.currentTurnId other = some turnId := by
        unfold currentTurnId
        rw [hid]
        exact hcurrent
      change turnId = (snapshot.currentTurnId other).getD _
      rw [hsame]
      rfl
  . have hsame := h.wellFormed.suspensionOf_upsertSuspension_ne now other taskId invocationId kind
      status (Ne.symm hquestion)
    refine ⟨hwf, ?_, turnId, hcurrent, ?_⟩
    . rw [hsame]
      exact h.ownRun
    . rw [hsame]
      exact hempty

theorem Asked.appendTranscriptMessage (now : UInt64) {other : InboundMessage}
    (message : InternalMsg) (hother : other.id ≠ inbound.id)
    : (snapshot.appendTranscriptMessage now other message).Asked inbound questionId := by
  refine ⟨h.wellFormed.appendTranscriptMessage now other message, h.ownRun, ?_⟩
  obtain ⟨turnId, hcurrent, hempty⟩ := h.currentTurn
  refine ⟨turnId, hcurrent, ?_⟩
  intro record hrecord hne
  rw [h.wellFormed.turnMessages_appendTranscriptMessage, hempty record hrecord hne,
    if_neg (fun hboth => hother (runtimeRunId_inj.mp hboth.1))]
  rfl

theorem Asked.apply {upsert : RuntimeUpsert} (hupsert : UpsertsFor questionId inbound upsert)
    : (snapshot.apply upsert).Asked inbound questionId := by
  cases upsert with
  | turn now other source status => exact h.upsertTurn now other source status
  | turnOfRun now other source status runStatus =>
    exact (h.upsertTurn now other source status).congr (apply_turnOfRun_sameTurns ..) ⟨rfl, rfl⟩
  | task now other phase status description error =>
    exact h.congr (upsertTask_sameTurns ..) (upsertTask_sameSuspensions ..)
  | suspension now other question taskId invocationId kind status =>
    exact h.upsertSuspension now taskId invocationId kind status hupsert
  | toolInvocation other invocation inputPreview =>
    exact h.congr ⟨fun _ => rfl, rfl, rfl⟩ ⟨rfl, rfl⟩
  | requirement requirement => exact h.congr ⟨fun _ => rfl, rfl, rfl⟩ ⟨rfl, rfl⟩
  | projectionHint runId scope key value => exact h.congr ⟨fun _ => rfl, rfl, rfl⟩ ⟨rfl, rfl⟩
  | message now other message => exact h.appendTranscriptMessage now message hupsert

theorem Asked.keepsTurnOf {messages : List InternalMsg} (hmessages : messages ≠ [])
    {upsert : RuntimeUpsert} (hupsert : UpsertsFor questionId inbound upsert)
    (hafter : (snapshot.apply upsert).RebuildsMessages questionId messages)
    : snapshot.KeepsTurnOf questionId upsert := by
  intro record hrecord
  have hne := h.wellFormed.turnId_ne hrecord
  obtain ⟨record', hrecord', hrebuilt⟩ := hafter
  have hne' := (h.apply hupsert).wellFormed.turnId_ne hrecord'
  rw [rebuildTurnMessages_eq _ hne'] at hrebuilt
  cases upsert with
  | turn now other source status =>
    intro hturn
    cases hrecord.symm.trans hrecord'
    rw [← hturn] at hrebuilt
    exact hmessages (hrebuilt.symm.trans (turnMessages_upsertTurn ..))
  | turnOfRun now other source status runStatus =>
    intro hturn
    cases hrecord.symm.trans hrecord'
    rw [(apply_turnOfRun_sameTurns ..).turnMessages, ← hturn] at hrebuilt
    exact hmessages (hrebuilt.symm.trans (turnMessages_upsertTurn ..))
  | suspension now other question taskId invocationId kind status =>
    intro hquestion
    have hid : other.id = inbound.id := hupsert hquestion
    obtain ⟨turnId, hcurrent, hempty⟩ := h.currentTurn
    have hother : snapshot.currentTurnId other = some turnId := by
      unfold currentTurnId
      rw [hid]
      exact hcurrent
    refine ⟨(congrArg runtimeRunId hid).trans (h.ownRun record hrecord).symm, ?_⟩
    by_contra hturn
    -- the suspension was taken to a turn without messages
    have hfound := suspensionOf_upsertSuspension now other snapshot question taskId invocationId
      kind status
    rw [hquestion] at hfound
    cases hfound.symm.trans hrecord'
    have hturnId : (snapshot.suspensionRecord now other question taskId invocationId kind
        status).turnId = turnId := by
      change (snapshot.currentTurnId other).getD _ = _
      rw [hother]
      rfl
    rw [hturnId] at hrebuilt
    have hsame := (upsertSuspension_sameTurns now other snapshot question taskId invocationId kind
      status).turnMessages (runtimeRunId other.id) (some turnId)
    refine hmessages (hrebuilt.symm.trans (hsame.trans ?_))
    rw [hid]
    refine hempty record hrecord ?_
    intro heq
    exact hturn (heq ▸ hother)
  | message now other message =>
    rintro ⟨hrun, _⟩
    rw [h.ownRun record hrecord] at hrun
    exact hupsert (runtimeRunId_inj.mp hrun)
  | _ => trivial

end Asked

end RuntimeStateSnapshot

theorem LoopEnv.suspended_messages_ne_nil (env : LoopEnv) {messages : List InternalMsg}
    {iterations compactCount : Nat} {suspension : AgenticLoopSuspension}
    (h : (env.continueAgenticLoop messages iterations compactCount).outcome
      = .ok (.suspended suspension))
    : suspension.messages ≠ [] := by
  obtain ⟨state, parsed, assistant, _, hdone, _⟩ := env.iterate_suspended h
  obtain ⟨_, _, _, results, _, hmessages, _, _⟩ := env.runToolUses_suspended hdone
  rw [hmessages]
  unfold LoopEnv.answered
  simp

namespace RuntimeStateSnapshot

def upsertStep (snapshot : RuntimeStateSnapshot) (upsert : RuntimeUpsert)
    : Option RuntimeStateSnapshot :=
  some (snapshot.apply upsert)

/-- From a suspension on the messages of its loop are rebuilt, whatever is written in the meantime. -/
def AlwaysRebuilds (questionId : String) (messages : List InternalMsg)
    (stored : RuntimeStateSnapshot) (upserts : List RuntimeUpsert)
    : Prop :=
  Runs.Always upsertStep (RebuildsMessages questionId messages) stored upserts

def AlwaysKeepsTurn (questionId : String) (stored : RuntimeStateSnapshot)
    (upserts : List RuntimeUpsert)
    : Prop :=
  Runs.Guarded upsertStep (KeepsTurnOf questionId) stored upserts

/--
The messages of a suspended loop are rebuilt after all writes that follow exactly when its run was in a
turn without messages and all these writes keep this turn. That nothing else will do is said of writes
that are no messages of the run.
-/
theorem alwaysRebuilds_iff (env : LoopEnv) {messages : List InternalMsg}
    {iterations compactCount : Nat} {state : SuspendedToolInvocationState}
    (hsuspended : (env.continueAgenticLoop messages iterations compactCount).outcome
      = .ok (.suspended state.suspension))
    {coordinator : SuspensionCoordinator} {history : List RuntimeUpsert}
    (hreached : coordinator.runtimeState = reached history) (now : UInt64)
    (source jobId questionId : String) (upserts : List RuntimeUpsert)
    : (coordinator.runtimeState.InFreshTurn state.inbound
          → AlwaysKeepsTurn questionId
            (coordinator.askToolPermission now source jobId questionId state).runtimeState upserts
          → AlwaysRebuilds questionId state.suspension.messages
            (coordinator.askToolPermission now source jobId questionId state).runtimeState upserts)
        ∧ ((∀ upsert ∈ upserts, UpsertsFor questionId state.inbound upsert)
          → AlwaysRebuilds questionId state.suspension.messages
            (coordinator.askToolPermission now source jobId questionId state).runtimeState upserts
          → coordinator.runtimeState.InFreshTurn state.inbound
            ∧ AlwaysKeepsTurn questionId
              (coordinator.askToolPermission now source jobId questionId state).runtimeState
              upserts) := by
  have hmessages := env.suspended_messages_ne_nil hsuspended
  have hwf : WellFormed coordinator.runtimeState := hreached ▸ wellFormed_reached history
  have hstored : WellFormed
      (coordinator.askToolPermission now source jobId questionId state).runtimeState := by
    rw [runtimeState_askToolPermission]
    exact (hwf.appendTranscriptMessages now _ _).applyAll _
  have hask := rebuildsMessages_askToolPermission now hwf source jobId questionId hmessages
  constructor
  . intro hfresh hkeeps
    have halways : Runs.Always upsertStep
        (fun snapshot => WellFormed snapshot
          ∧ snapshot.RebuildsMessages questionId state.suspension.messages)
        (coordinator.askToolPermission now source jobId questionId state).runtimeState upserts := by
      apply Runs.always_of_guarded _ ⟨hstored, hask.mpr hfresh⟩ hkeeps
      rintro snapshot upsert snapshot' ⟨hwf, hrebuilds⟩ hkeeps hstep
      cases hstep
      exact ⟨hwf.apply upsert, hrebuilds.apply hwf hkeeps⟩
    exact halways.mono (fun _ h => h.2)
  . intro hupserts halways
    have hfresh := hask.mp halways.head
    refine ⟨hfresh, ?_⟩
    have hasked : Asked state.inbound questionId
        (coordinator.askToolPermission now source jobId questionId state).runtimeState := by
      obtain ⟨record, hrecord, hrun, hturn⟩ :=
        suspensionOf_askToolPermission now coordinator source jobId questionId state
      obtain ⟨turnId, hcurrent, _⟩ := hfresh
      refine ⟨hstored, ?_, turnId, ?_, ?_⟩
      . intro record' hrecord'
        cases hrecord.symm.trans hrecord'
        exact hrun
      . exact (currentTurnId_appendTranscriptMessages now state.inbound state.suspension.messages
          coordinator.runtimeState state.inbound).trans hcurrent
      . intro record' hrecord' hne
        cases hrecord.symm.trans hrecord'
        rw [hcurrent] at hturn
        exact absurd hturn.symm hne
    refine Runs.guarded_of_always ?_ ?_ hasked hupserts halways
    . intro snapshot upsert snapshot' h hupsert hstep
      cases hstep
      exact h.apply hupsert
    . intro snapshot upsert snapshot' h hupsert _ hstep hafter
      cases hstep
      exact h.keepsTurnOf hmessages hupsert hafter

def firstMessage : InboundMessage where
  id := "job_1"
  channel := "cli"
  senderId := "user"
  chatId := none
  content := "say hello"

def firstMsg : InternalMsg where
  role := .user
  blocks := [.text firstMessage.content]
  messageId := firstMessage.id
  toolUseId := none
  filtered := false
  metadata := .object []

def suspendedWith : Except AgenticLoopError AgenticLoopOutcome → Option AgenticLoopSuspension
  | .ok (.suspended suspension) => some suspension
  | _ => none

def firstSuspension
    : { suspension // (askingTwice.continueAgenticLoop [firstMsg] 0 0).outcome
        = .ok (.suspended suspension) } :=
  ⟨(suspendedWith (askingTwice.continueAgenticLoop [firstMsg] 0 0).outcome).get
    (by decide +kernel), rfl⟩

def firstSuspended : SuspendedToolInvocationState where
  suspension := firstSuspension.val
  inbound := firstMessage
  opencodeSessionId := "session_1"

def received : List RuntimeUpsert :=
  [ .turn 0 firstMessage "initial" .running,
    .task 0 firstMessage .main .running "processing inbound message" none,
    .message 0 firstMessage firstMsg ]

def receivedFirst : SuspensionCoordinator where
  runtimeState := reached received

def askedFirst : RuntimeStateSnapshot :=
  (receivedFirst.handleInitialToolPermissionSuspension 0 "q_1" firstMessage "session_1"
    firstSuspension.val).runtimeState

def handled : List RuntimeUpsert :=
  [ .turn 0 firstMessage "initial" .running,
    .task 0 firstMessage .main .running "handling upstream result via initial" none,
    .turnOfRun 0 firstMessage "initial" .waiting .running,
    .task 0 firstMessage .main .suspended "waiting for required user input" none ]

/-- After a first suspension the first message is rebuilt twice, and later nothing is. -/
theorem firstSuspension_not_alwaysRebuilds
    : (askedFirst.rebuildToolInvocation "q_1").map (fun state => state.suspension.messages)
          = some (firstMsg :: firstSuspension.val.messages)
        ∧ ((askedFirst.applyAll handled).rebuildToolInvocation "q_1").map
            (fun state => state.suspension.messages)
          = some []
        ∧ ¬AlwaysRebuilds "q_1" firstSuspension.val.messages askedFirst handled := by
  have hbefore : (askedFirst.rebuildToolInvocation "q_1").map
      (fun state => state.suspension.messages)
        = some (firstMsg :: firstSuspension.val.messages) := by
    decide +kernel
  have hafter : ((askedFirst.applyAll handled).rebuildToolInvocation "q_1").map
      (fun state => state.suspension.messages) = some [] := by
    decide +kernel
  refine ⟨hbefore, hafter, ?_⟩
  intro halways
  obtain ⟨state, hstate, hmessages⟩ := Option.map_eq_some_iff.mp hbefore
  have hsame := rebuildToolInvocation_messages halways.head hstate
  rw [hmessages] at hsame
  exact List.cons_ne_self _ _ hsame

theorem alwaysRebuilds_iff_firstSuspension
    : ((askingTwice.continueAgenticLoop [firstMsg] 0 0).outcome
            = .ok (.suspended firstSuspended.suspension)
          ∧ receivedFirst.runtimeState = reached received)
        ∧ (receivedFirst.runtimeState.InFreshTurn firstMessage
          → AlwaysKeepsTurn "q_1" askedFirst handled
          → AlwaysRebuilds "q_1" firstSuspended.suspension.messages askedFirst handled)
        ∧ ((∀ upsert ∈ handled, UpsertsFor "q_1" firstMessage upsert)
          → AlwaysRebuilds "q_1" firstSuspended.suspension.messages askedFirst handled
          → receivedFirst.runtimeState.InFreshTurn firstMessage
            ∧ AlwaysKeepsTurn "q_1" askedFirst handled) := by
  have hsuspended : (askingTwice.continueAgenticLoop [firstMsg] 0 0).outcome
      = .ok (.suspended firstSuspended.suspension) := firstSuspension.property
  have hreached : receivedFirst.runtimeState = reached received := rfl
  refine ⟨⟨hsuspended, hreached⟩, ?_⟩
  exact alwaysRebuilds_iff askingTwice hsuspended hreached 0 "suspend" "job_1" "q_1" handled

end RuntimeStateSnapshot

end AnimaAgent
