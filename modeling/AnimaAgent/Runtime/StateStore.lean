import AnimaAgent.Library.Rows
import AnimaAgent.Runtime.RecordFormat
import AnimaAgent.Support.Text

namespace AnimaAgent

inductive RuntimeDomainEvent where
  | runUpserted (run : RunRecord)
  | turnUpserted (turn : TurnRecord)
  | taskUpserted (task : TaskRecord)
  | suspensionUpserted (suspension : SuspensionRecord)
  | toolInvocationUpserted (invocation : ToolInvocationRuntimeRecord)
  | requirementUpserted (requirement : RequirementRecord)
  | messageAppended (message : MessageRecord)
  | projectionHintRecorded (runId scope key : String) (value : Value)

namespace RuntimeTaskIndex

def addTask (index : RuntimeTaskIndex) (task : TaskRecord) : RuntimeTaskIndex :=
  match task.planId with
  | none => index
  | some planId =>
    let taskIds := (index.taskIdsByPlanId.lookup planId).getD []
    let taskIds := if taskIds.contains task.taskId then taskIds else taskIds ++ [task.taskId]
    { index with taskIdsByPlanId := index.taskIdsByPlanId.insert planId taskIds }

def addSuspension (index : RuntimeTaskIndex) (suspension : SuspensionRecord) : RuntimeTaskIndex :=
  match suspension.questionId with
  | none => index
  | some questionId =>
    let index :=
      { index with
        suspensionIdsByQuestionId :=
          index.suspensionIdsByQuestionId.insert questionId suspension.suspensionId }
    match suspension.invocationId with
    | none => index
    | some invocationId =>
      { index with
        invocationIdsByQuestionId :=
          index.invocationIdsByQuestionId.insert questionId invocationId }

end RuntimeTaskIndex

def RuntimeStateSnapshot.enterTurn (state : RuntimeStateSnapshot) (turn : TurnRecord)
    : AList (fun _ : String => RunRecord) :=
  match state.runs.lookup turn.runId with
  | none => state.runs
  | some run =>
    state.runs.insert turn.runId
      { run with currentTurnId := some turn.turnId, updatedAtMs := turn.updatedAtMs }

def reduceEvent (state : RuntimeStateSnapshot) : RuntimeDomainEvent → RuntimeStateSnapshot
  | .runUpserted run =>
    { state with
      index :=
        { state.index with runIdsByJobId := state.index.runIdsByJobId.insert run.jobId run.runId }
      runs := state.runs.insert run.runId run }
  | .turnUpserted turn =>
    { state with runs := state.enterTurn turn, turns := state.turns.insert turn.turnId turn }
  | .taskUpserted task =>
    { state with
      index := state.index.addTask task
      tasks := state.tasks.insert task.taskId task }
  | .suspensionUpserted suspension =>
    { state with
      index := state.index.addSuspension suspension
      suspensions := state.suspensions.insert suspension.suspensionId suspension }
  | .toolInvocationUpserted invocation =>
    { state with
      toolInvocations := state.toolInvocations.insert invocation.invocationId invocation }
  | .requirementUpserted requirement =>
    { state with
      requirements := state.requirements.insert requirement.requirementId requirement }
  | .messageAppended message => { state with transcript := state.transcript ++ [message] }
  | .projectionHintRecorded runId scope key value =>
    let hints := (state.projectionHints.lookup runId).getD ∅
    { state with
      projectionHints :=
        state.projectionHints.insert runId (hints.insert (scope ++ "." ++ key) value) }

namespace RuntimeTaskIndex

@[simp]
theorem suspensionIdsByQuestionId_addTask (index : RuntimeTaskIndex) (task : TaskRecord)
    : (index.addTask task).suspensionIdsByQuestionId = index.suspensionIdsByQuestionId := by
  unfold addTask
  split
  . rfl
  . rfl

@[simp]
theorem runIdsByJobId_addTask (index : RuntimeTaskIndex) (task : TaskRecord)
    : (index.addTask task).runIdsByJobId = index.runIdsByJobId := by
  unfold addTask
  split
  . rfl
  . rfl

@[simp]
theorem runIdsByJobId_addSuspension (index : RuntimeTaskIndex) (suspension : SuspensionRecord)
    : (index.addSuspension suspension).runIdsByJobId = index.runIdsByJobId := by
  unfold addSuspension
  split
  . rfl
  . split
    . rfl
    . rfl

@[simp]
theorem invocationIdsByQuestionId_addTask (index : RuntimeTaskIndex) (task : TaskRecord)
    : (index.addTask task).invocationIdsByQuestionId = index.invocationIdsByQuestionId := by
  unfold addTask
  split
  . rfl
  . rfl

@[simp]
theorem taskIdsByPlanId_addSuspension (index : RuntimeTaskIndex) (suspension : SuspensionRecord)
    : (index.addSuspension suspension).taskIdsByPlanId = index.taskIdsByPlanId := by
  unfold addSuspension
  split
  . rfl
  . split
    . rfl
    . rfl

theorem suspensionIdsByQuestionId_addSuspension (index : RuntimeTaskIndex)
    {suspension : SuspensionRecord} {questionId : String}
    (h : suspension.questionId = some questionId)
    : (index.addSuspension suspension).suspensionIdsByQuestionId
        = index.suspensionIdsByQuestionId.insert questionId suspension.suspensionId := by
  unfold addSuspension
  rw [h]
  dsimp only
  split
  . rfl
  . rfl

end RuntimeTaskIndex

namespace RuntimeStateSnapshot

def sessionRunIds (snapshot : RuntimeStateSnapshot) (chatId : String) : List String :=
  (snapshot.runs.entries.filter (fun entry => decide (entry.2.chatId = some chatId))).map Sigma.fst

def runTurnIds (snapshot : RuntimeStateSnapshot) (runIds : List String) : List String :=
  (snapshot.turns.entries.filter (fun entry => decide (entry.2.runId ∈ runIds))).map Sigma.fst

def purgeSession (snapshot : RuntimeStateSnapshot) (chatId : String) : RuntimeStateSnapshot :=
  let runIds := snapshot.sessionRunIds chatId
  let turnIds := snapshot.runTurnIds runIds
  { snapshot with
    runs := Rows.keep (fun id _ => decide (id ∉ runIds)) snapshot.runs
    turns := Rows.keep (fun id _ => decide (id ∉ turnIds)) snapshot.turns
    tasks := Rows.keep (fun _ task => decide (task.runId ∉ runIds)) snapshot.tasks
    suspensions :=
      Rows.keep (fun _ suspension => decide (suspension.runId ∉ runIds)) snapshot.suspensions
    toolInvocations :=
      Rows.keep (fun _ invocation => decide (invocation.runId ∉ runIds)) snapshot.toolInvocations
    requirements :=
      Rows.keep (fun _ requirement => decide (requirement.runId ∉ runIds)) snapshot.requirements
    transcript := snapshot.transcript.filter (fun message => decide (message.runId ∉ runIds))
    index :=
      { snapshot.index with
        runIdsByJobId :=
          Rows.keep (fun _ runId => decide (runId ∉ runIds)) snapshot.index.runIdsByJobId }
    sessionTitles := snapshot.sessionTitles.erase chatId }

end RuntimeStateSnapshot

abbrev Row := String × String

/--
The tables of the store, each with its rows in the order of their row numbers: a row that is
replaced gets a new number. The table of events and the row with the sequence number are left out.
-/
structure SqliteStore where
  runs : List Row := []
  turns : List Row := []
  tasks : List Row := []
  suspensions : List Row := []
  toolInvocations : List Row := []
  requirements : List Row := []
  transcript : List Row := []
  metaRows : List Row := []

section Format

variable (serde : SerdeJson)

def encodeRow {ρ : Type} (id : ρ → String) (toValue : ρ → Value) (record : ρ) : Row :=
  (id record, serde.toString (toValue record))

def parseData (data : String) : Option Value :=
  match serde.fromStr data with
  | .ok value => some value
  | .error _ => none

def decodeRow {ρ : Type} (fromValue : Value → Option ρ) (row : Row) : Option ρ :=
  (parseData serde row.2).bind fromValue

def rowRunId (row : Row) : Option String :=
  ((parseData serde row.2).bind (fun value => value.get "run_id")).bind Value.asStr

end Format

namespace SqliteStore

variable (store : SqliteStore) (serde : SerdeJson)

def persistEvent : RuntimeDomainEvent → Option SqliteStore
  | .runUpserted run =>
    some { store with
      runs := Rows.upsert Prod.fst (encodeRow serde RunRecord.runId RunRecord.toValue run)
        store.runs }
  | .turnUpserted turn =>
    some { store with
      turns := Rows.upsert Prod.fst (encodeRow serde TurnRecord.turnId TurnRecord.toValue turn)
        store.turns }
  | .taskUpserted task =>
    some { store with
      tasks := Rows.upsert Prod.fst (encodeRow serde TaskRecord.taskId TaskRecord.toValue task)
        store.tasks }
  | .suspensionUpserted suspension =>
    some { store with
      suspensions := Rows.upsert Prod.fst
        (encodeRow serde SuspensionRecord.suspensionId SuspensionRecord.toValue suspension)
        store.suspensions }
  | .toolInvocationUpserted invocation =>
    some { store with
      toolInvocations := Rows.upsert Prod.fst
        (encodeRow serde ToolInvocationRuntimeRecord.invocationId
          ToolInvocationRuntimeRecord.toValue invocation)
        store.toolInvocations }
  | .requirementUpserted requirement =>
    some { store with
      requirements := Rows.upsert Prod.fst
        (encodeRow serde RequirementRecord.requirementId RequirementRecord.toValue requirement)
        store.requirements }
  | .messageAppended message =>
    (Rows.append Prod.fst (encodeRow serde MessageRecord.messageId MessageRecord.toValue message)
        store.transcript).map
      fun transcript => { store with transcript }
  | .projectionHintRecorded runId scope key value =>
    some { store with
      metaRows := Rows.upsert Prod.fst
        ("hint:" ++ runId ++ "." ++ scope ++ "." ++ key, serde.toString value) store.metaRows }

def deleteRunRows (runIds : List String) (rows : List Row) : List Row :=
  Rows.deleteAll Prod.fst
    ((rows.filter (fun row => (rowRunId serde row).any (fun runId => decide (runId ∈ runIds)))).map
      Prod.fst)
    rows

def deleteSession (chatId : String) (runIds turnIds : List String) : SqliteStore where
  runs := Rows.deleteAll Prod.fst runIds store.runs
  turns := Rows.deleteAll Prod.fst turnIds store.turns
  tasks := deleteRunRows serde runIds store.tasks
  suspensions := deleteRunRows serde runIds store.suspensions
  toolInvocations := deleteRunRows serde runIds store.toolInvocations
  requirements := deleteRunRows serde runIds store.requirements
  transcript := deleteRunRows serde runIds store.transcript
  metaRows := Rows.delete Prod.fst ("session_title:" ++ chatId) store.metaRows

def loadSnapshot : RuntimeStateSnapshot :=
  let run := decodeRow serde RunRecord.fromValue
  let turn := decodeRow serde TurnRecord.fromValue
  let task := decodeRow serde TaskRecord.fromValue
  let suspension := decodeRow serde SuspensionRecord.fromValue
  let invocation := decodeRow serde ToolInvocationRuntimeRecord.fromValue
  let requirement := decodeRow serde RequirementRecord.fromValue
  { runs := Rows.index (fun row => (run row).bind (fun r => some (row.1, r))) store.runs
    turns := Rows.index (fun row => (turn row).bind (fun r => some (row.1, r))) store.turns
    tasks := Rows.index (fun row => (task row).bind (fun r => some (row.1, r))) store.tasks
    suspensions := Rows.index (fun row => (suspension row).bind (fun r => some (row.1, r)))
      store.suspensions
    toolInvocations := Rows.index (fun row => (invocation row).bind (fun r => some (row.1, r)))
      store.toolInvocations
    requirements := Rows.index (fun row => (requirement row).bind (fun r => some (row.1, r)))
      store.requirements
    transcript := store.transcript.filterMap (decodeRow serde MessageRecord.fromValue)
    index :=
      { runIdsByJobId := Rows.index (fun row => (run row).bind (fun r => some (r.jobId, row.1)))
          store.runs
        taskIdsByPlanId := Rows.groups
          (fun row => (task row).bind fun r => r.planId.map (fun planId => (planId, row.1)))
          store.tasks
        suspensionIdsByQuestionId := Rows.index
          (fun row => (suspension row).bind fun r =>
            r.questionId.map (fun questionId => (questionId, row.1)))
          store.suspensions
        invocationIdsByQuestionId := Rows.index
          (fun row => (suspension row).bind fun r => r.questionId.bind fun questionId =>
            r.invocationId.map (fun invocationId => (questionId, invocationId)))
          store.suspensions }
    sessionTitles := Rows.index
      (fun row => (Text.stripPrefix "session_title:" row.1).map (fun chatId => (chatId, row.2)))
      store.metaRows }

end SqliteStore

structure SqliteStateStore where
  store : SqliteStore := {}
  snapshot : RuntimeStateSnapshot := {}

inductive StoreAction where
  | append (event : RuntimeDomainEvent)
  | deleteSession (chatId : String)
  | setSessionTitle (chatId title : String)
  | deleteSessionTitle (chatId : String)

def RuntimeStateSnapshot.perform (snapshot : RuntimeStateSnapshot)
    : StoreAction → RuntimeStateSnapshot
  | .append event => reduceEvent snapshot event
  | .deleteSession chatId => snapshot.purgeSession chatId
  | .setSessionTitle chatId title =>
    { snapshot with sessionTitles := snapshot.sessionTitles.insert chatId title }
  | .deleteSessionTitle chatId =>
    { snapshot with sessionTitles := snapshot.sessionTitles.erase chatId }

namespace SqliteStateStore

variable (state : SqliteStateStore) (serde : SerdeJson)

def append (event : RuntimeDomainEvent) : Option SqliteStateStore :=
  (state.store.persistEvent serde event).map
    fun store => { store, snapshot := reduceEvent state.snapshot event }

def deleteSession (chatId : String) : SqliteStateStore :=
  let runIds := state.snapshot.sessionRunIds chatId
  let turnIds := state.snapshot.runTurnIds runIds
  { store := state.store.deleteSession serde chatId runIds turnIds
    snapshot := state.snapshot.purgeSession chatId }

def setSessionTitle (chatId title : String) : SqliteStateStore where
  store :=
    { state.store with
      metaRows :=
        Rows.upsert Prod.fst ("session_title:" ++ chatId, title) state.store.metaRows }
  snapshot :=
    { state.snapshot with sessionTitles := state.snapshot.sessionTitles.insert chatId title }

def deleteSessionTitle (chatId : String) : SqliteStateStore where
  store :=
    { state.store with
      metaRows := Rows.delete Prod.fst ("session_title:" ++ chatId) state.store.metaRows }
  snapshot := { state.snapshot with sessionTitles := state.snapshot.sessionTitles.erase chatId }

def step : StoreAction → Option SqliteStateStore
  | .append event => state.append serde event
  | .deleteSession chatId => some (state.deleteSession serde chatId)
  | .setSessionTitle chatId title => some (state.setSessionTitle chatId title)
  | .deleteSessionTitle chatId => some (state.deleteSessionTitle chatId)

end SqliteStateStore

end AnimaAgent
