import AnimaAgent.Runtime.RestartFidelity

namespace AnimaAgent

namespace Value

variable {ρ : Type}

def mapFields (toValue : ρ → Value) (entries : List (Sigma (fun _ : String => ρ)))
    : List (String × Value) :=
  entries.foldr (fun entry fields => insertField entry.1 (toValue entry.2) fields) []

def ofMap (toValue : ρ → Value) (map : AList (fun _ : String => ρ)) : Value :=
  .object (mapFields toValue map.entries)

def readFields (fromValue : Value → Option ρ)
    : List (String × Value) → Option (AList (fun _ : String => ρ))
  | [] => some ∅
  | (key, value) :: fields => do
    let record ← fromValue value
    let map ← readFields fromValue fields
    some (map.insert key record)

def asMap (fromValue : Value → Option ρ) : Value → Option (AList (fun _ : String => ρ))
  | .object fields => readFields fromValue fields
  | _ => none

@[simp]
def mapAt (fromValue : Value → Option ρ) (value : Value) (key : String)
    : Option (AList (fun _ : String => ρ)) :=
  (value.get key).bind (asMap fromValue)

def ofStrings (items : List String) : Value :=
  .array (items.map Value.string)

def asStrings (value : Value) : Option (List String) :=
  value.asArray.bind (fun items => items.mapM asStr)

end Value

structure RuntimeDomainEventEnvelope where
  sequence : UInt64
  recordedAtMs : UInt64
  eventType : String
  deriving DecidableEq

namespace RuntimeDomainEventEnvelope

def toValue (envelope : RuntimeDomainEventEnvelope) : Value :=
  .object [
    ("event_type", .string envelope.eventType),
    ("recorded_at_ms", .ofU64 envelope.recordedAtMs),
    ("sequence", .ofU64 envelope.sequence)]

def fromValue (value : Value) : Option RuntimeDomainEventEnvelope := do
  some {
    sequence := ← value.u64At "sequence"
    recordedAtMs := ← value.u64At "recorded_at_ms"
    eventType := ← value.stringAt "event_type" }

@[simp]
theorem fromValue_toValue (envelope : RuntimeDomainEventEnvelope)
    : fromValue envelope.toValue = some envelope := by
  simp [fromValue, toValue]

end RuntimeDomainEventEnvelope

namespace RuntimeTaskIndex

def toValue (index : RuntimeTaskIndex) : Value :=
  .object [
    ("invocation_ids_by_question_id", .ofMap .string index.invocationIdsByQuestionId),
    ("run_ids_by_job_id", .ofMap .string index.runIdsByJobId),
    ("suspension_ids_by_question_id", .ofMap .string index.suspensionIdsByQuestionId),
    ("task_ids_by_plan_id", .ofMap .ofStrings index.taskIdsByPlanId)]

def fromValue (value : Value) : Option RuntimeTaskIndex := do
  some {
    runIdsByJobId := ← value.mapAt Value.asStr "run_ids_by_job_id"
    taskIdsByPlanId := ← value.mapAt Value.asStrings "task_ids_by_plan_id"
    suspensionIdsByQuestionId := ← value.mapAt Value.asStr "suspension_ids_by_question_id"
    invocationIdsByQuestionId := ← value.mapAt Value.asStr "invocation_ids_by_question_id" }

end RuntimeTaskIndex

def RUNTIME_STATE_PERSISTENCE_VERSION : UInt32 :=
  1

structure PersistedRuntimeState where
  version : UInt32
  nextSequence : UInt64
  snapshot : RuntimeStateSnapshot
  recentEvents : List RuntimeDomainEventEnvelope

namespace PersistedRuntimeState

def toValue (persisted : PersistedRuntimeState) : Value :=
  let snapshot := persisted.snapshot
  .object [
    ("next_sequence", .ofU64 persisted.nextSequence),
    ("snapshot", .object [
      ("index", snapshot.index.toValue),
      ("projection_hints", .ofMap (.ofMap id) snapshot.projectionHints),
      ("recent_events", .array (persisted.recentEvents.map RuntimeDomainEventEnvelope.toValue)),
      ("requirements", .ofMap RequirementRecord.toValue snapshot.requirements),
      ("runs", .ofMap RunRecord.toValue snapshot.runs),
      ("session_titles", .ofMap .string snapshot.sessionTitles),
      ("suspensions", .ofMap SuspensionRecord.toValue snapshot.suspensions),
      ("tasks", .ofMap TaskRecord.toValue snapshot.tasks),
      ("tool_invocations", .ofMap ToolInvocationRuntimeRecord.toValue snapshot.toolInvocations),
      ("transcript", .array (snapshot.transcript.map MessageRecord.toValue)),
      ("turns", .ofMap TurnRecord.toValue snapshot.turns)]),
    ("version", .ofU64 persisted.version.toUInt64)]

def readVersion (version : UInt64) : Option UInt32 :=
  if version.toNat < UInt32.size then some version.toUInt32 else none

def readTitles (snapshot : Value) : Option (AList (fun _ : String => String)) :=
  match snapshot.get "session_titles" with
  | none => some ∅
  | some titles => titles.asMap Value.asStr

def readSnapshot (snapshot : Value) : Option RuntimeStateSnapshot := do
  some {
    runs := ← snapshot.mapAt RunRecord.fromValue "runs"
    turns := ← snapshot.mapAt TurnRecord.fromValue "turns"
    tasks := ← snapshot.mapAt TaskRecord.fromValue "tasks"
    suspensions := ← snapshot.mapAt SuspensionRecord.fromValue "suspensions"
    toolInvocations := ← snapshot.mapAt ToolInvocationRuntimeRecord.fromValue "tool_invocations"
    requirements := ← snapshot.mapAt RequirementRecord.fromValue "requirements"
    transcript := ← ((snapshot.get "transcript").bind Value.asArray).bind
      (fun items => items.mapM MessageRecord.fromValue)
    projectionHints := ← snapshot.mapAt (Value.asMap some) "projection_hints"
    index := ← (snapshot.get "index").bind RuntimeTaskIndex.fromValue
    sessionTitles := ← readTitles snapshot }

def fromValue (value : Value) : Option PersistedRuntimeState := do
  let snapshot ← value.get "snapshot"
  some {
    version := ← (value.u64At "version").bind readVersion
    nextSequence := ← value.u64At "next_sequence"
    snapshot := ← readSnapshot snapshot
    recentEvents := ← ((snapshot.get "recent_events").bind Value.asArray).bind
      (fun items => items.mapM RuntimeDomainEventEnvelope.fromValue) }

end PersistedRuntimeState

namespace Value

variable {ρ : Type} {toValue : ρ → Value} {fromValue : Value → Option ρ}

theorem mapFields_cons (key : String) (record : ρ) (entries : List (Sigma (fun _ : String => ρ)))
    : mapFields toValue (⟨key, record⟩ :: entries)
        = insertField key (toValue record) (mapFields toValue entries) := by
  rfl

theorem mem_mapFields {entries : List (Sigma (fun _ : String => ρ))} {field : String × Value}
    (h : field ∈ mapFields toValue entries)
    : ∃ entry ∈ entries, field = (entry.1, toValue entry.2) := by
  induction entries with
  | nil => cases h
  | cons entry entries ih =>
    obtain rfl | h := mem_insertField h
    . exact ⟨entry, List.mem_cons_self .., rfl⟩
    . obtain ⟨entry', hmem, rfl⟩ := ih h
      exact ⟨entry', List.mem_cons_of_mem _ hmem, rfl⟩

theorem pairwise_mapFields (entries : List (Sigma (fun _ : String => ρ)))
    : (mapFields toValue entries).Pairwise (fun a b => a.1 < b.1) := by
  induction entries with
  | nil => exact List.Pairwise.nil
  | cons entry entries ih => exact pairwise_insertField _ _ ih

theorem find?_mapFields {entries : List (Sigma (fun _ : String => ρ))} (h : entries.NodupKeys)
    (key : String)
    : ((mapFields toValue entries).find? (fun field => field.1 == key)).map Prod.snd
        = (entries.dlookup key).map toValue := by
  induction entries with
  | nil => rfl
  | cons entry entries ih =>
    obtain ⟨name, record⟩ := entry
    obtain ⟨hnew, hentries⟩ := List.nodupKeys_cons.mp h
    by_cases hkey : name = key
    . subst hkey
      have hnone : entries.dlookup name = none := List.dlookup_eq_none.mpr hnew
      rw [mapFields_cons, find?_insertField_self _ _ (pairwise_mapFields entries), ih hentries,
        hnone, List.dlookup_cons_eq]
      rfl
    . rw [mapFields_cons, find?_insertField_ne _ _ hkey, ih hentries,
        List.dlookup_cons_ne _ _ (Ne.symm hkey)]

theorem lookup_readFields {fields : List (String × Value)} {map : AList (fun _ : String => ρ)}
    (h : readFields fromValue fields = some map) (key : String)
    : map.lookup key
        = ((fields.find? (fun field => field.1 == key)).map Prod.snd).bind fromValue := by
  induction fields generalizing map with
  | nil =>
    cases h
    rfl
  | cons field fields ih =>
    obtain ⟨name, value⟩ := field
    obtain ⟨record, hrecord, h⟩ := Option.bind_eq_some_iff.mp h
    obtain ⟨rest, hrest, h⟩ := Option.bind_eq_some_iff.mp h
    cases h
    by_cases hkey : name = key
    . subst hkey
      rw [AList.lookup_insert]
      simp [hrecord]
    . rw [AList.lookup_insert_ne (Ne.symm hkey), ih hrest]
      simp [hkey]

theorem exists_readFields {fields : List (String × Value)}
    (h : ∀ field ∈ fields, ∃ record, fromValue field.2 = some record)
    : ∃ map, readFields fromValue fields = some map := by
  induction fields with
  | nil => exact ⟨∅, rfl⟩
  | cons field fields ih =>
    obtain ⟨record, hrecord⟩ := h field (List.mem_cons_self ..)
    obtain ⟨map, hmap⟩ := ih (fun field hmem => h field (List.mem_cons_of_mem _ hmem))
    refine ⟨map.insert field.1 record, ?_⟩
    unfold readFields
    rw [hrecord, hmap]
    rfl

theorem asMap_ofMap (toValue : ρ → Value) (fromValue : Value → Option ρ) {R : ρ → ρ → Prop}
    (map : AList (fun _ : String => ρ))
    (h : ∀ key record, map.lookup key = some record
      → ∃ record', fromValue (toValue record) = some record' ∧ R record' record)
    : ∃ map', (ofMap toValue map).asMap fromValue = some map'
        ∧ ∀ key, Option.Rel R (map'.lookup key) (map.lookup key) := by
  have hread : ∀ field ∈ mapFields toValue map.entries,
      ∃ record, fromValue field.2 = some record := by
    intro field hmem
    obtain ⟨entry, hentry, rfl⟩ := mem_mapFields hmem
    obtain ⟨record', hrecord', _⟩ := h entry.1 entry.2 (AList.mem_lookup_iff.mpr hentry)
    exact ⟨record', hrecord'⟩
  obtain ⟨map', hmap'⟩ := exists_readFields hread
  refine ⟨map', hmap', ?_⟩
  intro key
  rw [lookup_readFields hmap' key, find?_mapFields map.nodupKeys]
  change Option.Rel R (((map.lookup key).map toValue).bind fromValue) (map.lookup key)
  cases hlookup : map.lookup key with
  | none => exact Option.Rel.none
  | some record =>
    obtain ⟨record', hrecord', hR⟩ := h key record hlookup
    rw [Option.map_some, Option.bind_some, hrecord']
    exact Option.Rel.some hR

theorem asMap_ofMap_eq (toValue : ρ → Value) (fromValue : Value → Option ρ)
    (map : AList (fun _ : String => ρ))
    (h : ∀ key record, map.lookup key = some record → fromValue (toValue record) = some record)
    : ∃ map', (ofMap toValue map).asMap fromValue = some map'
        ∧ ∀ key, map'.lookup key = map.lookup key := by
  obtain ⟨map', hmap', hsame⟩ := asMap_ofMap toValue fromValue (R := Eq) map
    (fun key record hlookup => ⟨record, h key record hlookup, rfl⟩)
  refine ⟨map', hmap', ?_⟩
  intro key
  have hkey := hsame key
  generalize map'.lookup key = record', map.lookup key = record at hkey
  cases hkey with
  | none => rfl
  | some heq => rw [heq]

theorem asStrings_ofStrings (items : List String) : (ofStrings items).asStrings = some items := by
  unfold asStrings ofStrings
  simp

end Value

structure RuntimeTaskIndex.Same (a b : RuntimeTaskIndex) : Prop where
  runIdsByJobId : ∀ jobId, a.runIdsByJobId.lookup jobId = b.runIdsByJobId.lookup jobId
  taskIdsByPlanId : ∀ planId, a.taskIdsByPlanId.lookup planId = b.taskIdsByPlanId.lookup planId
  suspensionIdsByQuestionId : ∀ questionId,
    a.suspensionIdsByQuestionId.lookup questionId = b.suspensionIdsByQuestionId.lookup questionId
  invocationIdsByQuestionId : ∀ questionId,
    a.invocationIdsByQuestionId.lookup questionId = b.invocationIdsByQuestionId.lookup questionId

theorem RuntimeTaskIndex.fromValue_toValue (index : RuntimeTaskIndex)
    : ∃ index', fromValue index.toValue = some index' ∧ index'.Same index := by
  obtain ⟨jobs, hjobs, hsameJobs⟩ := Value.asMap_ofMap_eq .string
    Value.asStr index.runIdsByJobId (fun _ _ _ => rfl)
  obtain ⟨plans, hplans, hsamePlans⟩ := Value.asMap_ofMap_eq .ofStrings Value.asStrings
    index.taskIdsByPlanId
    (fun _ items _ => Value.asStrings_ofStrings items)
  obtain ⟨suspensions, hsuspensions, hsameSuspensions⟩ := Value.asMap_ofMap_eq .string
    Value.asStr index.suspensionIdsByQuestionId (fun _ _ _ => rfl)
  obtain ⟨invocations, hinvocations, hsameInvocations⟩ := Value.asMap_ofMap_eq .string
    Value.asStr index.invocationIdsByQuestionId (fun _ _ _ => rfl)
  refine ⟨⟨jobs, plans, suspensions, invocations⟩, ?_, hsameJobs, hsamePlans, hsameSuspensions,
    hsameInvocations⟩
  simp [fromValue, toValue, hjobs, hplans, hsuspensions, hinvocations]

namespace PersistedRuntimeState

structure Same (a b : PersistedRuntimeState) : Prop where
  version : a.version = b.version
  nextSequence : a.nextSequence = b.nextSequence
  records : SameState a.snapshot b.snapshot
  titles : ∀ chatId, a.snapshot.sessionTitles.lookup chatId = b.snapshot.sessionTitles.lookup chatId
  recentEvents : a.recentEvents = b.recentEvents

structure Fits (snapshot : RuntimeStateSnapshot) : Prop where
  turns : ∀ id turn, snapshot.turns.lookup id = some turn → turn.transcriptCheckpoint < UInt64.size
  attempted : ∀ id requirement, snapshot.requirements.lookup id = some requirement
    → requirement.attemptedRounds < UInt64.size
  max : ∀ id requirement, snapshot.requirements.lookup id = some requirement
    → requirement.maxRounds < UInt64.size

theorem hint_eq_of_rel {a b : RuntimeStateSnapshot} {runId : String}
    (h : Option.Rel (fun a b : AList (fun _ : String => Value) => ∀ key, a.lookup key = b.lookup key)
      (a.projectionHints.lookup runId) (b.projectionHints.lookup runId))
    (key : String)
    : a.hint runId key = b.hint runId key := by
  unfold RuntimeStateSnapshot.hint
  generalize a.projectionHints.lookup runId = hints, b.projectionHints.lookup runId = hints' at h
  cases h with
  | none => rfl
  | some hsame => exact hsame key

theorem readVersion_toUInt64 (version : UInt32) : readVersion version.toUInt64 = some version := by
  have hlt : version.toUInt64.toNat < UInt32.size := by
    rw [UInt32.toNat_toUInt64]
    exact version.toNat_lt
  unfold readVersion
  rw [if_pos hlt]
  simp

theorem fromValue_toValue (persisted : PersistedRuntimeState) (h : Fits persisted.snapshot)
    : ∃ persisted', fromValue persisted.toValue = some persisted' ∧ persisted'.Same persisted := by
  obtain ⟨version, nextSequence, snapshot, recentEvents⟩ := persisted
  obtain ⟨runs, hruns, hsameRuns⟩ := Value.asMap_ofMap_eq RunRecord.toValue
    RunRecord.fromValue snapshot.runs
    (fun _ run _ => run.fromValue_toValue)
  obtain ⟨turns, hturns, hsameTurns⟩ := Value.asMap_ofMap_eq TurnRecord.toValue
    TurnRecord.fromValue snapshot.turns
    (fun id turn hturn => TurnRecord.fromValue_toValue (h.turns id turn hturn))
  obtain ⟨tasks, htasks, hsameTasks⟩ := Value.asMap_ofMap_eq TaskRecord.toValue
    TaskRecord.fromValue snapshot.tasks
    (fun _ task _ => task.fromValue_toValue)
  obtain ⟨suspensions, hsuspensions, hsameSuspensions⟩ := Value.asMap_ofMap_eq
    SuspensionRecord.toValue SuspensionRecord.fromValue snapshot.suspensions
    (fun _ suspension _ => suspension.fromValue_toValue)
  obtain ⟨invocations, hinvocations, hsameInvocations⟩ :=
    Value.asMap_ofMap_eq ToolInvocationRuntimeRecord.toValue
      ToolInvocationRuntimeRecord.fromValue snapshot.toolInvocations
      (fun _ invocation _ => invocation.fromValue_toValue)
  obtain ⟨requirements, hrequirements, hsameRequirements⟩ :=
    Value.asMap_ofMap_eq RequirementRecord.toValue RequirementRecord.fromValue
      snapshot.requirements
      (fun id requirement hrequirement => RequirementRecord.fromValue_toValue
        (h.attempted id requirement hrequirement) (h.max id requirement hrequirement))
  obtain ⟨titles, htitles, hsameTitles⟩ := Value.asMap_ofMap_eq .string
    Value.asStr snapshot.sessionTitles (fun _ _ _ => rfl)
  obtain ⟨hints, hhints, hsameHints⟩ := Value.asMap_ofMap (.ofMap id)
    (Value.asMap some) snapshot.projectionHints
    (fun _ hints _ => Value.asMap_ofMap_eq id some hints (fun _ _ _ => rfl))
  obtain ⟨index, hindex, hsameIndex⟩ := snapshot.index.fromValue_toValue
  have htranscript :
      snapshot.transcript.mapM (MessageRecord.fromValue ∘ MessageRecord.toValue)
        = some snapshot.transcript :=
    Value.mapM_eq_some_self (fun message _ => message.fromValue_toValue)
  have hevents :
      recentEvents.mapM
          (RuntimeDomainEventEnvelope.fromValue ∘ RuntimeDomainEventEnvelope.toValue)
        = some recentEvents :=
    Value.mapM_eq_some_self (fun envelope _ => envelope.fromValue_toValue)
  refine ⟨⟨version, nextSequence,
    { runs, turns, tasks, suspensions, toolInvocations := invocations, requirements
      transcript := snapshot.transcript, projectionHints := hints, index
      sessionTitles := titles }, recentEvents⟩, ?_, ?_⟩
  . simp [fromValue, toValue, readSnapshot, readTitles, hruns, hturns, htasks, hsuspensions,
      hinvocations, hrequirements, htitles, hhints, hindex, htranscript, hevents,
      readVersion_toUInt64]
  . refine ⟨rfl, rfl, ?_, hsameTitles, rfl⟩
    exact {
      runs := hsameRuns
      turns := hsameTurns
      tasks := hsameTasks
      suspensions := hsameSuspensions
      toolInvocations := hsameInvocations
      requirements := hsameRequirements
      transcript := rfl
      hints := fun runId => hint_eq_of_rel (hsameHints runId)
      runIdsByJobId := hsameIndex.runIdsByJobId
      taskIdsByPlanId := hsameIndex.taskIdsByPlanId
      suspensionIdsByQuestionId := hsameIndex.suspensionIdsByQuestionId
      invocationIdsByQuestionId := hsameIndex.invocationIdsByQuestionId }

end PersistedRuntimeState

end AnimaAgent
