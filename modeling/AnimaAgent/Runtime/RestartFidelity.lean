import AnimaAgent.Library.Runs
import AnimaAgent.Runtime.StoredRecords

/-!
This module contains when a new store on the same database starts with the state that the old one had
in memory. Rows that are replaced or deleted are lost for the lookup indexes, turns change their runs
in memory only, and lifecycle hints are never loaded.
-/

namespace AnimaAgent

def RuntimeStateSnapshot.hint (snapshot : RuntimeStateSnapshot) (runId key : String)
    : Option Value :=
  (snapshot.projectionHints.lookup runId).bind (fun hints => hints.lookup key)

/-- The same records, hints and lookup indexes, whatever the order of the maps. -/
structure SameState (a b : RuntimeStateSnapshot) : Prop where
  runs : ∀ id, a.runs.lookup id = b.runs.lookup id
  turns : ∀ id, a.turns.lookup id = b.turns.lookup id
  tasks : ∀ id, a.tasks.lookup id = b.tasks.lookup id
  suspensions : ∀ id, a.suspensions.lookup id = b.suspensions.lookup id
  toolInvocations : ∀ id, a.toolInvocations.lookup id = b.toolInvocations.lookup id
  requirements : ∀ id, a.requirements.lookup id = b.requirements.lookup id
  transcript : a.transcript = b.transcript
  hints : ∀ runId key, a.hint runId key = b.hint runId key
  runIdsByJobId : ∀ jobId,
    a.index.runIdsByJobId.lookup jobId = b.index.runIdsByJobId.lookup jobId
  taskIdsByPlanId : ∀ planId,
    a.index.taskIdsByPlanId.lookup planId = b.index.taskIdsByPlanId.lookup planId
  suspensionIdsByQuestionId : ∀ questionId,
    a.index.suspensionIdsByQuestionId.lookup questionId
      = b.index.suspensionIdsByQuestionId.lookup questionId
  invocationIdsByQuestionId : ∀ questionId,
    a.index.invocationIdsByQuestionId.lookup questionId
      = b.index.invocationIdsByQuestionId.lookup questionId

def RunRecord.jobEntry (run : RunRecord) : Option (String × String) :=
  some (run.jobId, run.runId)

def TaskRecord.planEntry (task : TaskRecord) : Option (String × String) :=
  task.planId.map (fun planId => (planId, task.taskId))

namespace SuspensionRecord

def questionEntry (suspension : SuspensionRecord) : Option (String × String) :=
  suspension.questionId.map (fun questionId => (questionId, suspension.suspensionId))

def invocationEntry (suspension : SuspensionRecord) : Option (String × String) :=
  suspension.questionId.bind fun questionId =>
    suspension.invocationId.map (fun invocationId => (questionId, invocationId))

end SuspensionRecord

namespace RuntimeTaskIndex

theorem suspensionIdsByQuestionId_enter (index : RuntimeTaskIndex) (suspension : SuspensionRecord)
    : (index.addSuspension suspension).suspensionIdsByQuestionId
        = Rows.enter SuspensionRecord.questionEntry suspension index.suspensionIdsByQuestionId := by
  unfold addSuspension Rows.enter SuspensionRecord.questionEntry
  cases suspension.questionId with
  | none => rfl
  | some questionId =>
    cases suspension.invocationId with
    | none => rfl
    | some invocationId => rfl

theorem invocationIdsByQuestionId_enter (index : RuntimeTaskIndex) (suspension : SuspensionRecord)
    : (index.addSuspension suspension).invocationIdsByQuestionId
        = Rows.enter SuspensionRecord.invocationEntry suspension
            index.invocationIdsByQuestionId := by
  unfold addSuspension Rows.enter SuspensionRecord.invocationEntry
  cases suspension.questionId with
  | none => rfl
  | some questionId =>
    cases suspension.invocationId with
    | none => rfl
    | some invocationId => rfl

end RuntimeTaskIndex

structure StoredRecords where
  runs : List RunRecord := []
  turns : List TurnRecord := []
  tasks : List TaskRecord := []
  suspensions : List SuspensionRecord := []
  toolInvocations : List ToolInvocationRuntimeRecord := []
  requirements : List RequirementRecord := []
  transcript : List MessageRecord := []

namespace SqliteStore

structure Holds (store : SqliteStore) (serde : SerdeJson) (records : StoredRecords) : Prop where
  runs : HoldsTable serde RunRecord.runId RunRecord.toValue RunRecord.fromValue
    store.runs records.runs
  turns : HoldsTable serde TurnRecord.turnId TurnRecord.toValue TurnRecord.fromValue
    store.turns records.turns
  tasks : HoldsTable serde TaskRecord.taskId TaskRecord.toValue TaskRecord.fromValue
    store.tasks records.tasks
  suspensions : HoldsTable serde SuspensionRecord.suspensionId SuspensionRecord.toValue
    SuspensionRecord.fromValue store.suspensions records.suspensions
  toolInvocations : HoldsTable serde ToolInvocationRuntimeRecord.invocationId
    ToolInvocationRuntimeRecord.toValue ToolInvocationRuntimeRecord.fromValue
    store.toolInvocations records.toolInvocations
  requirements : HoldsTable serde RequirementRecord.requirementId RequirementRecord.toValue
    RequirementRecord.fromValue store.requirements records.requirements
  transcript : HoldsTable serde MessageRecord.messageId MessageRecord.toValue
    MessageRecord.fromValue store.transcript records.transcript

def storedSuspensions (store : SqliteStore) (serde : SerdeJson) : List SuspensionRecord :=
  store.suspensions.filterMap (decodeRow serde SuspensionRecord.fromValue)

end SqliteStore

structure Restores (records : StoredRecords) (snapshot : RuntimeStateSnapshot) : Prop where
  runs : ∀ id,
    Rows.last (Rows.rowEntry RunRecord.runId) records.runs id = snapshot.runs.lookup id
  turns : ∀ id,
    Rows.last (Rows.rowEntry TurnRecord.turnId) records.turns id = snapshot.turns.lookup id
  tasks : ∀ id,
    Rows.last (Rows.rowEntry TaskRecord.taskId) records.tasks id = snapshot.tasks.lookup id
  suspensions : ∀ id,
    Rows.last (Rows.rowEntry SuspensionRecord.suspensionId) records.suspensions id
      = snapshot.suspensions.lookup id
  toolInvocations : ∀ id,
    Rows.last (Rows.rowEntry ToolInvocationRuntimeRecord.invocationId) records.toolInvocations id
      = snapshot.toolInvocations.lookup id
  requirements : ∀ id,
    Rows.last (Rows.rowEntry RequirementRecord.requirementId) records.requirements id
      = snapshot.requirements.lookup id
  transcript : records.transcript = snapshot.transcript
  hints : ∀ runId key, snapshot.hint runId key = none
  runIdsByJobId : ∀ jobId,
    Rows.last RunRecord.jobEntry records.runs jobId
      = snapshot.index.runIdsByJobId.lookup jobId
  taskIdsByPlanId : ∀ planId,
    (Rows.groups TaskRecord.planEntry records.tasks).lookup planId
      = snapshot.index.taskIdsByPlanId.lookup planId
  suspensionIdsByQuestionId : ∀ questionId,
    Rows.last SuspensionRecord.questionEntry records.suspensions questionId
      = snapshot.index.suspensionIdsByQuestionId.lookup questionId
  invocationIdsByQuestionId : ∀ questionId,
    Rows.last SuspensionRecord.invocationEntry records.suspensions questionId
      = snapshot.index.invocationIdsByQuestionId.lookup questionId

namespace SqliteStore

variable {store : SqliteStore} {serde : SerdeJson} {records : StoredRecords}

theorem holds_empty : Holds {} serde {} := by
  constructor <;> exact HoldsTable.nil

theorem Holds.storedSuspensions_eq (h : store.Holds serde records)
    : store.storedSuspensions serde = records.suspensions := by
  exact h.suspensions.decoded

theorem Holds.sameState_iff (h : store.Holds serde records) (snapshot : RuntimeStateSnapshot)
    : SameState (store.loadSnapshot serde) snapshot ↔ Restores records snapshot := by
  have hruns := fun id => h.runs.lookup_index (fun id run => some (id, run)) id
  have hturns := fun id => h.turns.lookup_index (fun id turn => some (id, turn)) id
  have htasks := fun id => h.tasks.lookup_index (fun id task => some (id, task)) id
  have hsuspensions := fun id =>
    h.suspensions.lookup_index (fun id suspension => some (id, suspension)) id
  have hinvocations := fun id =>
    h.toolInvocations.lookup_index (fun id invocation => some (id, invocation)) id
  have hrequirements := fun id =>
    h.requirements.lookup_index (fun id requirement => some (id, requirement)) id
  have hjobs := fun jobId => h.runs.lookup_index (fun id run => some (run.jobId, id)) jobId
  have hplans := fun planId =>
    h.tasks.lookup_groups (fun id task => task.planId.map (fun planId => (planId, id))) planId
  have hquestions := fun questionId =>
    h.suspensions.lookup_index (fun id suspension =>
      suspension.questionId.map (fun questionId => (questionId, id))) questionId
  have hquestionInvocations := fun questionId =>
    h.suspensions.lookup_index (fun _ suspension => suspension.invocationEntry) questionId
  constructor
  . intro hsame
    exact {
      runs := fun id => (hruns id).symm.trans (hsame.runs id)
      turns := fun id => (hturns id).symm.trans (hsame.turns id)
      tasks := fun id => (htasks id).symm.trans (hsame.tasks id)
      suspensions := fun id => (hsuspensions id).symm.trans (hsame.suspensions id)
      toolInvocations := fun id => (hinvocations id).symm.trans (hsame.toolInvocations id)
      requirements := fun id => (hrequirements id).symm.trans (hsame.requirements id)
      transcript := h.transcript.decoded.symm.trans hsame.transcript
      hints := fun runId key => (hsame.hints runId key).symm
      runIdsByJobId := fun jobId => (hjobs jobId).symm.trans (hsame.runIdsByJobId jobId)
      taskIdsByPlanId := fun planId => (hplans planId).symm.trans (hsame.taskIdsByPlanId planId)
      suspensionIdsByQuestionId := fun questionId =>
        (hquestions questionId).symm.trans (hsame.suspensionIdsByQuestionId questionId)
      invocationIdsByQuestionId := fun questionId =>
        (hquestionInvocations questionId).symm.trans
          (hsame.invocationIdsByQuestionId questionId) }
  . intro hrestores
    exact {
      runs := fun id => (hruns id).trans (hrestores.runs id)
      turns := fun id => (hturns id).trans (hrestores.turns id)
      tasks := fun id => (htasks id).trans (hrestores.tasks id)
      suspensions := fun id => (hsuspensions id).trans (hrestores.suspensions id)
      toolInvocations := fun id => (hinvocations id).trans (hrestores.toolInvocations id)
      requirements := fun id => (hrequirements id).trans (hrestores.requirements id)
      transcript := h.transcript.decoded.trans hrestores.transcript
      hints := fun runId key => (hrestores.hints runId key).symm
      runIdsByJobId := fun jobId => (hjobs jobId).trans (hrestores.runIdsByJobId jobId)
      taskIdsByPlanId := fun planId => (hplans planId).trans (hrestores.taskIdsByPlanId planId)
      suspensionIdsByQuestionId := fun questionId =>
        (hquestions questionId).trans (hrestores.suspensionIdsByQuestionId questionId)
      invocationIdsByQuestionId := fun questionId =>
        (hquestionInvocations questionId).trans
          (hrestores.invocationIdsByQuestionId questionId) }

end SqliteStore

namespace SqliteStateStore

variable (state : SqliteStateStore) (serde : SerdeJson)

def Restarts : Prop :=
  SameState (state.store.loadSnapshot serde) state.snapshot

def EventReadsBack : RuntimeDomainEvent → Prop
  | .runUpserted run => serde.ReadsBack run.toValue
  | .turnUpserted turn => serde.ReadsBack turn.toValue ∧ turn.transcriptCheckpoint < UInt64.size
  | .taskUpserted task => serde.ReadsBack task.toValue
  | .suspensionUpserted suspension => serde.ReadsBack suspension.toValue
  | .toolInvocationUpserted invocation => serde.ReadsBack invocation.toValue
  | .requirementUpserted requirement =>
    serde.ReadsBack requirement.toValue ∧ requirement.attemptedRounds < UInt64.size
      ∧ requirement.maxRounds < UInt64.size
  | .messageAppended message => serde.ReadsBack message.toValue
  | .projectionHintRecorded .. => True

def Durable : RuntimeDomainEvent → Prop
  -- a run leaves no other job's entry behind
  | .runUpserted run => ∀ jobId, jobId ≠ run.jobId →
      state.snapshot.index.runIdsByJobId.lookup jobId ≠ some run.runId
  -- a turn is the current turn of its run already, if it has a run
  | .turnUpserted turn => ∀ run, state.snapshot.runs.lookup turn.runId = some run →
      run.currentTurnId = some turn.turnId ∧ run.updatedAtMs = turn.updatedAtMs
  -- a task is new to its plan, or the last one in it, and leaves no other plan
  | .taskUpserted task => ∀ planId taskIds,
      state.snapshot.index.taskIdsByPlanId.lookup planId = some taskIds → task.taskId ∈ taskIds →
        task.planEntry = some (planId, task.taskId) ∧ taskIds.getLast? = some task.taskId
  -- a suspension leaves no other question's entry behind, and no invocation that is lost
  | .suspensionUpserted suspension =>
      (∀ questionId, suspension.questionId ≠ some questionId →
        state.snapshot.index.suspensionIdsByQuestionId.lookup questionId
          ≠ some suspension.suspensionId)
      ∧ ∀ questionId, (∀ invocationId,
          suspension.invocationEntry ≠ some (questionId, invocationId)) →
        Rows.last SuspensionRecord.invocationEntry
            (Rows.delete SuspensionRecord.suspensionId suspension.suspensionId
              (state.store.storedSuspensions serde))
            questionId
          = state.snapshot.index.invocationIdsByQuestionId.lookup questionId
  | .projectionHintRecorded .. => False
  | _ => True

structure Detached (chatId : String) : Prop where
  jobs : ∀ jobId runId, state.snapshot.index.runIdsByJobId.lookup jobId = some runId →
    runId ∈ state.snapshot.sessionRunIds chatId →
      ∀ id run, state.snapshot.runs.lookup id = some run → run.jobId = jobId →
        id ∈ state.snapshot.sessionRunIds chatId
  plans : ∀ id task, state.snapshot.tasks.lookup id = some task →
    task.runId ∈ state.snapshot.sessionRunIds chatId → task.planId = none
  questions : ∀ questionId id suspension,
    state.snapshot.index.suspensionIdsByQuestionId.lookup questionId = some id →
      state.snapshot.suspensions.lookup id = some suspension →
        suspension.runId ∉ state.snapshot.sessionRunIds chatId
  invocations : ∀ questionId,
    Rows.last SuspensionRecord.invocationEntry
        ((state.store.storedSuspensions serde).filter (fun suspension =>
          decide (suspension.runId ∉ state.snapshot.sessionRunIds chatId)))
        questionId
      = state.snapshot.index.invocationIdsByQuestionId.lookup questionId

end SqliteStateStore

def StoredRecords.without (records : StoredRecords) (runIds turnIds : List String)
    : StoredRecords where
  runs := records.runs.filter (fun run => decide (run.runId ∉ runIds))
  turns := records.turns.filter (fun turn => decide (turn.turnId ∉ turnIds))
  tasks := records.tasks.filter (fun task => decide (task.runId ∉ runIds))
  suspensions := records.suspensions.filter (fun suspension => decide (suspension.runId ∉ runIds))
  toolInvocations :=
    records.toolInvocations.filter (fun invocation => decide (invocation.runId ∉ runIds))
  requirements :=
    records.requirements.filter (fun requirement => decide (requirement.runId ∉ runIds))
  transcript := records.transcript.filter (fun message => decide (message.runId ∉ runIds))

namespace Restores

variable {records : StoredRecords} {snapshot : RuntimeStateSnapshot}

theorem runUpserted_iff (h : Restores records snapshot) (run : RunRecord)
    : Restores { records with runs := Rows.upsert RunRecord.runId run records.runs }
          (reduceEvent snapshot (.runUpserted run))
        ↔ ∀ jobId, jobId ≠ run.jobId →
            snapshot.index.runIdsByJobId.lookup jobId ≠ some run.runId := by
  have hindex : (∀ jobId, Rows.last RunRecord.jobEntry
        (Rows.upsert RunRecord.runId run records.runs) jobId
          = (snapshot.index.runIdsByJobId.insert run.jobId run.runId).lookup jobId)
      ↔ ∀ jobId, jobId ≠ run.jobId →
          snapshot.index.runIdsByJobId.lookup jobId ≠ some run.runId := by
    refine (Rows.last_upsert_iff _ run h.runIdsByJobId).trans (forall_congr' fun jobId => ?_)
    rw [Rows.last_delete_iff, h.runIdsByJobId]
    . refine imp_congr_left ⟨?_, ?_⟩
      . rintro hne rfl
        exact hne run.runId rfl
      . rintro hne v hv
        cases hv
        exact hne rfl
    . rintro row v hv
      cases hv
      rfl
  constructor
  . intro hafter
    exact hindex.mp hafter.runIdsByJobId
  . intro hkept
    exact { h with
      runs := Rows.last_rowEntry_upsert h.runs run
      runIdsByJobId := hindex.mpr hkept }

theorem turnUpserted_iff (h : Restores records snapshot) (turn : TurnRecord)
    : Restores { records with turns := Rows.upsert TurnRecord.turnId turn records.turns }
          (reduceEvent snapshot (.turnUpserted turn))
        ↔ ∀ run, snapshot.runs.lookup turn.runId = some run →
            run.currentTurnId = some turn.turnId ∧ run.updatedAtMs = turn.updatedAtMs := by
  have hruns : (∀ id, snapshot.runs.lookup id = (snapshot.enterTurn turn).lookup id)
      ↔ ∀ run, snapshot.runs.lookup turn.runId = some run →
          run.currentTurnId = some turn.turnId ∧ run.updatedAtMs = turn.updatedAtMs := by
    unfold RuntimeStateSnapshot.enterTurn
    cases hrun : snapshot.runs.lookup turn.runId with
    | none => exact iff_of_true (fun _ => rfl) nofun
    | some run =>
      constructor
      . intro hsame
        have hself := hsame turn.runId
        rw [hrun, AList.lookup_insert] at hself
        rintro run' ⟨⟩
        have hrun' := Option.some.inj hself
        exact ⟨congrArg RunRecord.currentTurnId hrun', congrArg RunRecord.updatedAtMs hrun'⟩
      . intro hcurrent id
        obtain ⟨hturn, hupdated⟩ := hcurrent run rfl
        by_cases hid : id = turn.runId
        . subst hid
          rw [hrun, AList.lookup_insert, ← hturn, ← hupdated]
        . exact (AList.lookup_insert_ne hid).symm
  constructor
  . intro hafter
    exact hruns.mp (fun id => (h.runs id).symm.trans (hafter.runs id))
  . intro hcurrent
    exact { h with
      runs := fun id => (h.runs id).trans (hruns.mpr hcurrent id)
      turns := Rows.last_rowEntry_upsert h.turns turn }

theorem enterGroup_planEntry (index : RuntimeTaskIndex) (task : TaskRecord)
    : (index.addTask task).taskIdsByPlanId
        = Rows.enterGroup TaskRecord.planEntry task index.taskIdsByPlanId := by
  unfold RuntimeTaskIndex.addTask Rows.enterGroup TaskRecord.planEntry
  cases task.planId with
  | none => rfl
  | some planId => rfl

theorem taskUpserted_iff (h : Restores records snapshot)
    (hnodup : (records.tasks.map TaskRecord.taskId).Nodup) (task : TaskRecord)
    : Restores { records with tasks := Rows.upsert TaskRecord.taskId task records.tasks }
          (reduceEvent snapshot (.taskUpserted task))
        ↔ ∀ planId taskIds, snapshot.index.taskIdsByPlanId.lookup planId = some taskIds →
            task.taskId ∈ taskIds →
              task.planEntry = some (planId, task.taskId)
                ∧ taskIds.getLast? = some task.taskId := by
  have hkey : ∀ task e, TaskRecord.planEntry task = some e → e.2 = task.taskId := by
    intro task e he
    obtain ⟨planId, _, rfl⟩ := Option.map_eq_some_iff.mp he
    rfl
  have hindex := Rows.groups_upsert_iff task hkey hnodup h.taskIdsByPlanId
  rw [← enterGroup_planEntry] at hindex
  constructor
  . intro hafter
    exact hindex.mp hafter.taskIdsByPlanId
  . intro hkept
    refine { h with
      tasks := Rows.last_rowEntry_upsert h.tasks task
      taskIdsByPlanId := hindex.mpr hkept
      runIdsByJobId := ?_
      suspensionIdsByQuestionId := ?_
      invocationIdsByQuestionId := ?_ }
    . intro jobId
      rw [h.runIdsByJobId]
      exact congrArg (AList.lookup jobId) (RuntimeTaskIndex.runIdsByJobId_addTask ..).symm
    . intro questionId
      rw [h.suspensionIdsByQuestionId]
      exact congrArg (AList.lookup questionId)
        (RuntimeTaskIndex.suspensionIdsByQuestionId_addTask ..).symm
    . intro questionId
      rw [h.invocationIdsByQuestionId]
      exact congrArg (AList.lookup questionId)
        (RuntimeTaskIndex.invocationIdsByQuestionId_addTask ..).symm

theorem suspensionUpserted_iff (h : Restores records snapshot) (suspension : SuspensionRecord)
    : Restores
          { records with
            suspensions :=
              Rows.upsert SuspensionRecord.suspensionId suspension records.suspensions }
          (reduceEvent snapshot (.suspensionUpserted suspension))
        ↔ (∀ questionId, suspension.questionId ≠ some questionId →
            snapshot.index.suspensionIdsByQuestionId.lookup questionId
              ≠ some suspension.suspensionId)
          ∧ ∀ questionId, (∀ invocationId,
              suspension.invocationEntry ≠ some (questionId, invocationId)) →
            Rows.last SuspensionRecord.invocationEntry
                (Rows.delete SuspensionRecord.suspensionId suspension.suspensionId
                  records.suspensions)
                questionId
              = snapshot.index.invocationIdsByQuestionId.lookup questionId := by
  have hquestions : (∀ questionId, Rows.last SuspensionRecord.questionEntry
        (Rows.upsert SuspensionRecord.suspensionId suspension records.suspensions) questionId
          = (Rows.enter SuspensionRecord.questionEntry suspension
              snapshot.index.suspensionIdsByQuestionId).lookup questionId)
      ↔ ∀ questionId, suspension.questionId ≠ some questionId →
          snapshot.index.suspensionIdsByQuestionId.lookup questionId
            ≠ some suspension.suspensionId := by
    refine (Rows.last_upsert_iff _ suspension h.suspensionIdsByQuestionId).trans
      (forall_congr' fun questionId => ?_)
    rw [Rows.last_delete_iff, h.suspensionIdsByQuestionId]
    . refine imp_congr_left ⟨?_, ?_⟩
      . intro hne hquestion
        refine hne suspension.suspensionId ?_
        rw [SuspensionRecord.questionEntry, hquestion]
        rfl
      . intro hne v hv
        obtain ⟨questionId', hquestion, heq⟩ := Option.map_eq_some_iff.mp hv
        cases heq
        exact hne hquestion
    . intro row v hv
      obtain ⟨questionId', _, heq⟩ := Option.map_eq_some_iff.mp hv
      cases heq
      rfl
  have hinvocations := Rows.last_upsert_iff SuspensionRecord.suspensionId suspension
    h.invocationIdsByQuestionId
  simp only [h.invocationIdsByQuestionId] at hinvocations
  constructor
  . intro hafter
    refine ⟨hquestions.mp ?_, hinvocations.mp ?_⟩
    . rw [← RuntimeTaskIndex.suspensionIdsByQuestionId_enter]
      exact hafter.suspensionIdsByQuestionId
    . rw [← RuntimeTaskIndex.invocationIdsByQuestionId_enter]
      exact hafter.invocationIdsByQuestionId
  . rintro ⟨hkept, hinvocationsKept⟩
    have hsuspensionIds := hquestions.mpr hkept
    have hinvocationIds := hinvocations.mpr hinvocationsKept
    rw [← RuntimeTaskIndex.suspensionIdsByQuestionId_enter] at hsuspensionIds
    rw [← RuntimeTaskIndex.invocationIdsByQuestionId_enter] at hinvocationIds
    refine { h with
      suspensions := Rows.last_rowEntry_upsert h.suspensions suspension
      runIdsByJobId := ?_
      taskIdsByPlanId := ?_
      suspensionIdsByQuestionId := hsuspensionIds
      invocationIdsByQuestionId := hinvocationIds }
    . intro jobId
      rw [h.runIdsByJobId]
      exact congrArg (AList.lookup jobId) (RuntimeTaskIndex.runIdsByJobId_addSuspension ..).symm
    . intro planId
      rw [h.taskIdsByPlanId]
      exact congrArg (AList.lookup planId)
        (RuntimeTaskIndex.taskIdsByPlanId_addSuspension ..).symm

theorem not_projectionHintRecorded (runId scope key : String) (value : Value)
    : ¬Restores records (reduceEvent snapshot (.projectionHintRecorded runId scope key value)) := by
  intro hafter
  have hhint := hafter.hints runId (scope ++ "." ++ key)
  unfold RuntimeStateSnapshot.hint reduceEvent at hhint
  dsimp only at hhint
  rw [AList.lookup_insert, Option.bind_some, AList.lookup_insert] at hhint
  cases hhint

theorem filter_eq_keep {β : Type} {key : β → String} {rows : List β}
    {map : AList (fun _ : String => β)} (hnodup : (rows.map key).Nodup)
    (hmap : ∀ id, Rows.last (Rows.rowEntry key) rows id = map.lookup id) {p : β → Bool}
    {q : String → β → Bool} (hpq : ∀ row, q (key row) row = p row) (id : String)
    : Rows.last (Rows.rowEntry key) (rows.filter p) id = (Rows.keep q map).lookup id := by
  rw [Rows.last_rowEntry_filter hnodup, Rows.lookup_keep, ← hmap]
  cases hlast : Rows.last (Rows.rowEntry key) rows id with
  | none => rfl
  | some row =>
    obtain ⟨_, rfl⟩ := Rows.last_rowEntry_key hlast
    rw [Option.filter_some, Option.filter_some, hpq]

theorem jobs_purge_iff (h : Restores records snapshot)
    (hnodup : (records.runs.map RunRecord.runId).Nodup) (runIds : List String)
    : (∀ jobId, Rows.last RunRecord.jobEntry
            (records.runs.filter (fun run => decide (run.runId ∉ runIds))) jobId
          = (Rows.keep (fun _ runId => decide (runId ∉ runIds))
              snapshot.index.runIdsByJobId).lookup jobId)
        ↔ ∀ jobId runId, snapshot.index.runIdsByJobId.lookup jobId = some runId → runId ∈ runIds →
            ∀ id run, snapshot.runs.lookup id = some run → run.jobId = jobId → id ∈ runIds := by
  constructor
  . intro hafter jobId runId hlookup hremoved id run hrun hjob
    have hjobAfter := hafter jobId
    rw [Rows.lookup_keep, hlookup, Option.filter_some_neg (by simp [hremoved]),
      Rows.last_eq_none_iff] at hjobAfter
    rw [← h.runs] at hrun
    obtain ⟨hmem, rfl⟩ := Rows.last_rowEntry_key hrun
    by_contra hkept
    refine hjobAfter run (List.mem_filter.mpr ⟨hmem, decide_eq_true hkept⟩) run.runId ?_
    rw [RunRecord.jobEntry, hjob]
  . intro hdetached jobId
    rw [Rows.lookup_keep]
    cases hlookup : snapshot.index.runIdsByJobId.lookup jobId with
    | none =>
      rw [← h.runIdsByJobId, Rows.last_eq_none_iff] at hlookup
      exact Rows.last_eq_none_iff.mpr
        (fun run hmem => hlookup run (List.mem_of_mem_filter hmem))
    | some runId =>
      by_cases hremoved : runId ∈ runIds
      . rw [Option.filter_some_neg (by simp [hremoved]), Rows.last_eq_none_iff]
        rintro run hmem v hv
        obtain ⟨hmem, hkept⟩ := List.mem_filter.mp hmem
        have hrun := Rows.last_rowEntry_of_mem hnodup hmem
        rw [h.runs] at hrun
        exact of_decide_eq_true hkept (hdetached jobId runId hlookup hremoved run.runId run hrun
          (congrArg Prod.fst (Option.some.inj hv)))
      . rw [Option.filter_some_pos (by simp [hremoved]), ← hlookup, ← h.runIdsByJobId]
        refine (Rows.last_filter_iff (fun v => v ∈ runIds) ?_).mpr ?_
        . rintro run _ v hv
          obtain rfl : run.runId = v := congrArg Prod.snd (Option.some.inj hv)
          rw [decide_eq_false_iff_not, not_not]
        . intro v hv
          rw [h.runIdsByJobId, hlookup] at hv
          cases hv
          exact hremoved

theorem plans_purge_iff (h : Restores records snapshot)
    (hnodup : (records.tasks.map TaskRecord.taskId).Nodup) (runIds : List String)
    : (∀ planId, (Rows.groups TaskRecord.planEntry
            (records.tasks.filter (fun task => decide (task.runId ∉ runIds)))).lookup planId
          = snapshot.index.taskIdsByPlanId.lookup planId)
        ↔ ∀ id task, snapshot.tasks.lookup id = some task → task.runId ∈ runIds →
            task.planId = none := by
  constructor
  . intro hafter id task htask hremoved
    rw [← h.tasks] at htask
    obtain ⟨hmem, rfl⟩ := Rows.last_rowEntry_key htask
    cases hplan : task.planId with
    | none => rfl
    | some planId =>
      exfalso
      have hentry : task.planEntry = some (planId, task.taskId) := by
        rw [TaskRecord.planEntry, hplan]
        rfl
      have hin : task.taskId ∈ Rows.group TaskRecord.planEntry records.tasks planId :=
        Rows.mem_group_iff.mpr ⟨task, hmem, hentry⟩
      have hnonempty : (Rows.group TaskRecord.planEntry records.tasks planId).isEmpty = false := by
        rw [List.isEmpty_eq_false_iff]
        exact List.ne_nil_of_mem hin
      have hsame := (hafter planId).trans (h.taskIdsByPlanId planId).symm
      rw [Rows.lookup_groups, Rows.lookup_groups, hnonempty, if_neg Bool.false_ne_true] at hsame
      split at hsame
      . cases hsame
      . rw [← Option.some.inj hsame] at hin
        obtain ⟨task', hmem', hentry'⟩ := Rows.mem_group_iff.mp hin
        obtain ⟨hmem', hkept⟩ := List.mem_filter.mp hmem'
        obtain ⟨planId', _, heq⟩ := Option.map_eq_some_iff.mp hentry'
        have hid : task'.taskId = task.taskId := congrArg Prod.snd heq
        rw [List.inj_on_of_nodup_map hnodup hmem' hmem hid] at hkept
        exact of_decide_eq_true hkept hremoved
  . intro hdetached planId
    rw [← h.taskIdsByPlanId, Rows.lookup_groups, Rows.lookup_groups]
    have hgroup : Rows.group TaskRecord.planEntry
          (records.tasks.filter (fun task => decide (task.runId ∉ runIds))) planId
        = Rows.group TaskRecord.planEntry records.tasks planId := by
      rw [Rows.group_filter (fun _ => true), List.filter_true]
      intro task hmem v hv
      apply decide_eq_true
      intro hremoved
      have htask := Rows.last_rowEntry_of_mem hnodup hmem
      rw [h.tasks] at htask
      rw [TaskRecord.planEntry, hdetached task.taskId task htask hremoved] at hv
      cases hv
    rw [hgroup]

theorem questions_purge_iff (h : Restores records snapshot)
    (hnodup : (records.suspensions.map SuspensionRecord.suspensionId).Nodup)
    (runIds : List String)
    : (∀ questionId, Rows.last SuspensionRecord.questionEntry
            (records.suspensions.filter (fun suspension => decide (suspension.runId ∉ runIds)))
            questionId
          = snapshot.index.suspensionIdsByQuestionId.lookup questionId)
        ↔ ∀ questionId id suspension,
            snapshot.index.suspensionIdsByQuestionId.lookup questionId = some id →
              snapshot.suspensions.lookup id = some suspension → suspension.runId ∉ runIds := by
  apply forall_congr'
  intro questionId
  rw [← h.suspensionIdsByQuestionId]
  refine (Rows.last_filter_iff
    (fun id => ∃ suspension, snapshot.suspensions.lookup id = some suspension
      ∧ suspension.runId ∈ runIds) ?_).trans ?_
  . intro suspension hmem v hv
    obtain ⟨questionId', _, heq⟩ := Option.map_eq_some_iff.mp hv
    cases heq
    have hlookup := Rows.last_rowEntry_of_mem hnodup hmem
    rw [h.suspensions] at hlookup
    rw [decide_eq_false_iff_not, not_not]
    constructor
    . exact fun hremoved => ⟨suspension, hlookup, hremoved⟩
    . rintro ⟨suspension', hlookup', hremoved⟩
      rw [hlookup] at hlookup'
      cases hlookup'
      exact hremoved
  . constructor
    . intro hkept id suspension hid hsuspension hremoved
      exact hkept id hid ⟨suspension, hsuspension, hremoved⟩
    . rintro hkept id hid ⟨suspension, hsuspension, hremoved⟩
      exact hkept id suspension hid hsuspension hremoved

end Restores

namespace SqliteStateStore

variable {state state' : SqliteStateStore} {serde : SerdeJson} {records : StoredRecords}

theorem purgeSession_restores_iff (hholds : state.store.Holds serde records)
    (h : Restores records state.snapshot) (chatId : String)
    : Restores
          (records.without (state.snapshot.sessionRunIds chatId)
            (state.snapshot.runTurnIds (state.snapshot.sessionRunIds chatId)))
          (state.snapshot.purgeSession chatId)
        ↔ state.Detached serde chatId := by
  have hstored := hholds.storedSuspensions_eq
  have hjobs := h.jobs_purge_iff hholds.runs.nodup (state.snapshot.sessionRunIds chatId)
  have hplans := h.plans_purge_iff hholds.tasks.nodup (state.snapshot.sessionRunIds chatId)
  have hquestions :=
    h.questions_purge_iff hholds.suspensions.nodup (state.snapshot.sessionRunIds chatId)
  constructor
  . intro hafter
    refine ⟨hjobs.mp hafter.runIdsByJobId, hplans.mp hafter.taskIdsByPlanId,
      hquestions.mp hafter.suspensionIdsByQuestionId, ?_⟩
    rw [hstored]
    exact hafter.invocationIdsByQuestionId
  . intro hdetached
    have hinvocations := hdetached.invocations
    rw [hstored] at hinvocations
    exact {
      runs := Restores.filter_eq_keep hholds.runs.nodup h.runs (fun _ => rfl)
      turns := Restores.filter_eq_keep hholds.turns.nodup h.turns (fun _ => rfl)
      tasks := Restores.filter_eq_keep hholds.tasks.nodup h.tasks (fun _ => rfl)
      suspensions :=
        Restores.filter_eq_keep hholds.suspensions.nodup h.suspensions (fun _ => rfl)
      toolInvocations :=
        Restores.filter_eq_keep hholds.toolInvocations.nodup h.toolInvocations (fun _ => rfl)
      requirements :=
        Restores.filter_eq_keep hholds.requirements.nodup h.requirements (fun _ => rfl)
      transcript := congrArg (List.filter _) h.transcript
      hints := h.hints
      runIdsByJobId := hjobs.mpr hdetached.jobs
      taskIdsByPlanId := hplans.mpr hdetached.plans
      suspensionIdsByQuestionId := hquestions.mpr hdetached.questions
      invocationIdsByQuestionId := hinvocations }

theorem holds_deleteSession (hholds : state.store.Holds serde records) (chatId : String)
    : (state.deleteSession serde chatId).store.Holds serde
        (records.without (state.snapshot.sessionRunIds chatId)
          (state.snapshot.runTurnIds (state.snapshot.sessionRunIds chatId))) where
  runs := hholds.runs.deleteAll _
  turns := hholds.turns.deleteAll _
  tasks := hholds.tasks.deleteRunRows TaskRecord.runId (fun _ => rfl) _
  suspensions := hholds.suspensions.deleteRunRows SuspensionRecord.runId (fun _ => rfl) _
  toolInvocations :=
    hholds.toolInvocations.deleteRunRows ToolInvocationRuntimeRecord.runId (fun _ => rfl) _
  requirements := hholds.requirements.deleteRunRows RequirementRecord.runId (fun _ => rfl) _
  transcript := hholds.transcript.deleteRunRows MessageRecord.runId (fun _ => rfl) _

def ActionReadsBack (serde : SerdeJson) : StoreAction → Prop
  | .append event => EventReadsBack serde event
  | _ => True

/-- An operation changes the state in memory and in the database in the same way. -/
def KeepsInStep (state : SqliteStateStore) (serde : SerdeJson) : StoreAction → Prop
  | .append event => state.Durable serde event
  | .deleteSession chatId => state.Detached serde chatId
  | _ => True

theorem append_restores_iff (hholds : state.store.Holds serde records)
    (h : Restores records state.snapshot) {event : RuntimeDomainEvent}
    (hread : EventReadsBack serde event) (hstep : state.append serde event = some state')
    : ∃ records', state'.store.Holds serde records'
        ∧ (Restores records' state'.snapshot ↔ state.Durable serde event) := by
  obtain ⟨store, hpersist, rfl⟩ := Option.map_eq_some_iff.mp hstep
  cases event with
  | runUpserted run =>
    cases hpersist
    exact ⟨{ records with runs := Rows.upsert RunRecord.runId run records.runs },
      { hholds with runs := hholds.runs.upsert ⟨hread, run.fromValue_toValue⟩ },
      h.runUpserted_iff run⟩
  | turnUpserted turn =>
    cases hpersist
    exact ⟨{ records with turns := Rows.upsert TurnRecord.turnId turn records.turns },
      { hholds with turns := hholds.turns.upsert ⟨hread.1, TurnRecord.fromValue_toValue hread.2⟩ },
      h.turnUpserted_iff turn⟩
  | taskUpserted task =>
    cases hpersist
    exact ⟨{ records with tasks := Rows.upsert TaskRecord.taskId task records.tasks },
      { hholds with tasks := hholds.tasks.upsert ⟨hread, task.fromValue_toValue⟩ },
      h.taskUpserted_iff hholds.tasks.nodup task⟩
  | suspensionUpserted suspension =>
    cases hpersist
    refine ⟨{ records with
        suspensions := Rows.upsert SuspensionRecord.suspensionId suspension records.suspensions },
      { hholds with
        suspensions := hholds.suspensions.upsert ⟨hread, suspension.fromValue_toValue⟩ },
      (h.suspensionUpserted_iff suspension).trans ?_⟩
    unfold Durable
    rw [hholds.storedSuspensions_eq]
  | toolInvocationUpserted invocation =>
    cases hpersist
    refine ⟨{ records with
        toolInvocations := Rows.upsert ToolInvocationRuntimeRecord.invocationId invocation
          records.toolInvocations },
      { hholds with
        toolInvocations :=
          hholds.toolInvocations.upsert ⟨hread, invocation.fromValue_toValue⟩ },
      iff_of_true ?_ trivial⟩
    exact { h with
      toolInvocations := Rows.last_rowEntry_upsert h.toolInvocations invocation }
  | requirementUpserted requirement =>
    cases hpersist
    refine ⟨{ records with
        requirements := Rows.upsert RequirementRecord.requirementId requirement
          records.requirements },
      { hholds with
        requirements := hholds.requirements.upsert
          ⟨hread.1, RequirementRecord.fromValue_toValue hread.2.1 hread.2.2⟩ },
      iff_of_true ?_ trivial⟩
    exact { h with requirements := Rows.last_rowEntry_upsert h.requirements requirement }
  | messageAppended message =>
    obtain ⟨transcript, happend, rfl⟩ := Option.map_eq_some_iff.mp hpersist
    refine ⟨{ records with transcript := records.transcript ++ [message] },
      { hholds with
        transcript := hholds.transcript.append ⟨hread, message.fromValue_toValue⟩ happend },
      iff_of_true ?_ trivial⟩
    exact { h with
      transcript := congrArg (fun transcript => transcript ++ [message]) h.transcript }
  | projectionHintRecorded runId scope key value =>
    cases hpersist
    exact ⟨records, { hholds with },
      iff_of_false (Restores.not_projectionHintRecorded runId scope key value) id⟩

theorem step_restarts_iff (hholds : state.store.Holds serde records) (h : state.Restarts serde)
    {action : StoreAction} (hread : ActionReadsBack serde action)
    (hstep : state.step serde action = some state')
    : ∃ records', state'.store.Holds serde records'
        ∧ (state'.Restarts serde ↔ state.KeepsInStep serde action) := by
  have hrestores := (hholds.sameState_iff state.snapshot).mp h
  cases action with
  | append event =>
    obtain ⟨records', hholds', hiff⟩ := append_restores_iff hholds hrestores hread hstep
    exact ⟨records', hholds', (hholds'.sameState_iff _).trans hiff⟩
  | deleteSession chatId =>
    cases hstep
    have hholds' := holds_deleteSession hholds chatId
    exact ⟨_, hholds', (hholds'.sameState_iff _).trans
      (purgeSession_restores_iff hholds hrestores chatId)⟩
  | setSessionTitle chatId title =>
    cases hstep
    have hholds' : (state.setSessionTitle chatId title).store.Holds serde records :=
      { hholds with }
    exact ⟨records, hholds', (hholds'.sameState_iff _).trans
      (iff_of_true { hrestores with } trivial)⟩
  | deleteSessionTitle chatId =>
    cases hstep
    have hholds' : (state.deleteSessionTitle chatId).store.Holds serde records := { hholds with }
    exact ⟨records, hholds', (hholds'.sameState_iff _).trans
      (iff_of_true { hrestores with } trivial)⟩

theorem restarts_empty (serde : SerdeJson) : Restarts {} serde := by
  refine (SqliteStore.holds_empty.sameState_iff _).mpr ?_
  constructor <;> intros <;> rfl

/--
A new store on the same database starts with the state in memory, all along a run of operations whose
records are read back, exactly if every operation keeps the memory and the database in step.
-/
theorem always_restarts_iff (serde : SerdeJson) (actions : List StoreAction)
    (hread : ∀ action ∈ actions, ActionReadsBack serde action)
    : Runs.Always (fun state => step state serde) (fun state => state.Restarts serde) {} actions
        ↔ Runs.Guarded (fun state => step state serde)
            (fun state => state.KeepsInStep serde) {} actions := by
  refine Runs.always_iff_guarded (fun state => ∃ records, state.store.Holds serde records)
    (ActionReadsBack serde) ?_ ⟨{}, SqliteStore.holds_empty⟩ (restarts_empty serde) hread
  rintro state action state' ⟨records, hholds⟩ hread h hstep
  obtain ⟨records', hholds', hiff⟩ := step_restarts_iff hholds h hread hstep
  exact ⟨⟨records', hholds'⟩, hiff⟩

def firstRun : RunRecord where
  runId := "run_1"
  traceId := "job_1"
  jobId := "job_1"
  chatId := some "chat_1"
  channel := "cli"
  status := .running
  currentTurnId := none
  latestError := none
  createdAtMs := 1
  updatedAtMs := 1
  completedAtMs := none

def firstTurn : TurnRecord where
  turnId := "turn_1"
  runId := "run_1"
  source := "initial"
  status := .running
  transcriptCheckpoint := 0
  requirementId := none
  suspensionId := none
  startedAtMs := 2
  updatedAtMs := 2
  completedAtMs := none

def completedRun : RunRecord :=
  { firstRun with status := .completed, updatedAtMs := 3, completedAtMs := some 3 }

def otherRun : RunRecord :=
  { firstRun with runId := "run_2", traceId := "job_2", jobId := "job_2", chatId := some "chat_2" }

def firstFormat : SerdeJson :=
  .ofValues [firstRun.toValue, completedRun.toValue, otherRun.toValue, firstTurn.toValue]

theorem readsBack_firstRun : ActionReadsBack firstFormat (.append (.runUpserted firstRun)) := by
  change SerdeJson.fromStr _ _ = _
  decide +kernel

theorem readsBack_firstTurn : ActionReadsBack firstFormat (.append (.turnUpserted firstTurn)) := by
  refine ⟨?_, by decide⟩
  change SerdeJson.fromStr _ _ = _
  decide +kernel

def firstSession : List StoreAction :=
  [.append (.runUpserted firstRun), .append (.runUpserted otherRun),
    .append (.runUpserted completedRun), .deleteSession "chat_1"]

theorem always_restarts_iff_firstSession
    : Runs.Always (fun state => step state firstFormat) (fun state => state.Restarts firstFormat) {}
          firstSession
        ↔ Runs.Guarded (fun state => step state firstFormat)
            (fun state => state.KeepsInStep firstFormat) {} firstSession := by
  apply always_restarts_iff
  unfold firstSession
  simp only [List.forall_mem_cons, List.not_mem_nil, false_implies, implies_true, and_true]
  refine ⟨readsBack_firstRun, ?_, ?_, trivial⟩
  . change SerdeJson.fromStr _ _ = _
    decide +kernel
  . change SerdeJson.fromStr _ _ = _
    decide +kernel

theorem firstTurn_not_restarts
    : (∀ action ∈ [StoreAction.append (.runUpserted firstRun), .append (.turnUpserted firstTurn)],
          ActionReadsBack firstFormat action)
        ∧ ¬Runs.Always (fun state => step state firstFormat)
            (fun state => state.Restarts firstFormat) {}
            [.append (.runUpserted firstRun), .append (.turnUpserted firstTurn)] := by
  constructor
  . intro action hmem
    obtain rfl | hmem := List.mem_cons.mp hmem
    . exact readsBack_firstRun
    . rw [List.mem_singleton.mp hmem]
      exact readsBack_firstTurn
  . intro halways
    have hturns : (Runs.run (fun state => step state firstFormat) {}
        [.append (.runUpserted firstRun), .append (.turnUpserted firstTurn)]).map (fun state =>
          (((state.store.loadSnapshot firstFormat).runs.lookup "run_1").map RunRecord.currentTurnId,
            (state.snapshot.runs.lookup "run_1").map RunRecord.currentTurnId))
        = some (some none, some (some "turn_1")) := by
      decide +kernel
    obtain ⟨state, hrun, hturns⟩ := Option.map_eq_some_iff.mp hturns
    have hsame := (halways.run_eq_some hrun).runs "run_1"
    rw [hsame] at hturns
    obtain ⟨hloaded, hlive⟩ := Prod.mk.inj hturns
    rw [hloaded] at hlive
    cases hlive

end SqliteStateStore

end AnimaAgent
