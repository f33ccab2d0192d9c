import AnimaAgent.Agent.Registration

namespace AnimaAgent

namespace RuntimeStateSnapshot

structure Consistent (snapshot : RuntimeStateSnapshot) : Prop where
  run : ∀ jobId, (snapshot.index.runIdsByJobId.lookup jobId).isSome
    → (snapshot.runs.lookup (runtimeRunId jobId)).isSome
  runId : ∀ id run, snapshot.runs.lookup id = some run → run.runId = id
  questionId : ∀ id record, snapshot.suspensions.lookup id = some record
    → ∃ questionId, record.questionId = some questionId ∧ id = runtimeSuspensionId questionId

theorem consistent_empty : Consistent {} := by
  constructor
  . intro jobId h
    cases h
  . intro id run h
    cases h
  . intro id record h
    cases h

section Consistent

variable {snapshot : RuntimeStateSnapshot} (h : Consistent snapshot) (now : UInt64)
  (inbound : InboundMessage)

include h

theorem Consistent.upsertRun (status : RunStatus) (turnId : Option String)
    : Consistent (snapshot.upsertRun now inbound status turnId) := by
  constructor
  . intro jobId hjob
    change ((snapshot.index.runIdsByJobId.insert inbound.id _).lookup jobId).isSome at hjob
    change ((snapshot.runs.insert (runtimeRunId inbound.id) _).lookup (runtimeRunId jobId)).isSome
    by_cases heq : jobId = inbound.id
    . subst heq
      rw [AList.lookup_insert]
      rfl
    . rw [AList.lookup_insert_ne heq] at hjob
      rw [AList.lookup_insert_ne (fun hrun => heq (runtimeRunId_inj.mp hrun))]
      exact h.run jobId hjob
  . intro id run hrun
    change (snapshot.runs.insert (runtimeRunId inbound.id) _).lookup id = some run at hrun
    by_cases heq : id = runtimeRunId inbound.id
    . subst heq
      rw [AList.lookup_insert] at hrun
      cases hrun
      rfl
    . rw [AList.lookup_insert_ne heq] at hrun
      exact h.runId id run hrun
  . exact h.questionId

theorem Consistent.upsertTurn (source : String) (status : TurnStatus)
    : Consistent (snapshot.upsertTurn now inbound source status) := by
  apply Consistent.upsertRun
  have henter : ∀ turn : TurnRecord, ∀ id,
      (snapshot.enterTurn turn).lookup id = snapshot.runs.lookup id
        ∨ ∃ run, snapshot.runs.lookup id = some run
          ∧ (snapshot.enterTurn turn).lookup id
            = some { run with
              currentTurnId := some turn.turnId, updatedAtMs := turn.updatedAtMs } := by
    intro turn id
    unfold RuntimeStateSnapshot.enterTurn
    cases hrun : snapshot.runs.lookup turn.runId with
    | none => exact .inl rfl
    | some run =>
      dsimp only
      by_cases heq : id = turn.runId
      . subst heq
        exact .inr ⟨run, hrun, AList.lookup_insert ..⟩
      . exact .inl (AList.lookup_insert_ne heq)
  constructor
  . intro jobId hjob
    change ((snapshot.enterTurn _).lookup (runtimeRunId jobId)).isSome
    have hrun := h.run jobId hjob
    rcases henter _ (runtimeRunId jobId) with heq | ⟨run, _, heq⟩
    . rw [heq]
      exact hrun
    . rw [heq]
      rfl
  . intro id run hrun
    change (snapshot.enterTurn _).lookup id = some run at hrun
    rcases henter _ id with heq | ⟨run', hrun', heq⟩
    . rw [heq] at hrun
      exact h.runId id run hrun
    . rw [heq] at hrun
      cases hrun
      exact h.runId id run' hrun'
  . exact h.questionId

theorem Consistent.upsertTask (phase : RuntimeTaskPhase) (status : TaskStatus)
    (description : String) (error : Option String)
    : Consistent (snapshot.upsertTask now inbound phase status description error) := by
  constructor
  . intro jobId hjob
    change ((RuntimeTaskIndex.addTask _ _).runIdsByJobId.lookup jobId).isSome at hjob
    rw [RuntimeTaskIndex.runIdsByJobId_addTask] at hjob
    exact h.run jobId hjob
  . exact h.runId
  . exact h.questionId

theorem Consistent.upsertSuspension (question : PendingQuestion)
    (taskId invocationId : Option String) (kind : SuspensionKind) (status : SuspensionStatus)
    : Consistent
      (snapshot.upsertSuspension now inbound question taskId invocationId kind status) := by
  constructor
  . intro jobId hjob
    change ((RuntimeTaskIndex.addSuspension _ _).runIdsByJobId.lookup jobId).isSome at hjob
    rw [RuntimeTaskIndex.runIdsByJobId_addSuspension] at hjob
    exact h.run jobId hjob
  . exact h.runId
  . intro id record hrecord
    change (snapshot.suspensions.insert (runtimeSuspensionId question.questionId) _).lookup id
      = some record at hrecord
    by_cases heq : id = runtimeSuspensionId question.questionId
    . subst heq
      rw [AList.lookup_insert] at hrecord
      cases hrecord
      exact ⟨question.questionId, rfl, rfl⟩
    . rw [AList.lookup_insert_ne heq] at hrecord
      exact h.questionId id record hrecord

theorem Consistent.apply (upsert : RuntimeUpsert) : Consistent (snapshot.apply upsert) := by
  cases upsert with
  | turn now inbound source status => exact h.upsertTurn now inbound source status
  | turnOfRun now inbound source status runStatus =>
    exact (h.upsertTurn now inbound source status).upsertRun now inbound runStatus _
  | task now inbound phase status description error =>
    exact h.upsertTask now inbound phase status description error
  | suspension now inbound question taskId invocationId kind status =>
    exact h.upsertSuspension now inbound question taskId invocationId kind status
  | toolInvocation inbound invocation inputPreview => exact ⟨h.run, h.runId, h.questionId⟩
  | requirement requirement => exact ⟨h.run, h.runId, h.questionId⟩
  | projectionHint runId scope key value => exact ⟨h.run, h.runId, h.questionId⟩
  | message now inbound message => exact ⟨h.run, h.runId, h.questionId⟩

theorem Consistent.applyAll (upserts : List RuntimeUpsert)
    : Consistent (snapshot.applyAll upserts) := by
  induction upserts generalizing snapshot with
  | nil => exact h
  | cons upsert rest ih => exact ih (h.apply upsert)

end Consistent

theorem consistent_reached (history : List RuntimeUpsert) : Consistent (reached history) := by
  exact consistent_empty.applyAll history

end RuntimeStateSnapshot

def RuntimeUpsert.suspensionId? : RuntimeUpsert → Option String
  | suspension _ _ question _ _ _ _ => some (runtimeSuspensionId question.questionId)
  | _ => none

namespace RuntimeStateSnapshot

theorem lookup_suspensions_apply_ne {id : String} {upsert : RuntimeUpsert}
    (h : upsert.suspensionId? ≠ some id) (snapshot : RuntimeStateSnapshot)
    : (snapshot.apply upsert).suspensions.lookup id = snapshot.suspensions.lookup id := by
  cases upsert with
  | suspension now inbound question taskId invocationId kind status =>
    exact AList.lookup_insert_ne (fun heq => h (congrArg some heq.symm))
  | _ => rfl

theorem lookup_suspensions_applyAll {id : String} {upserts : List RuntimeUpsert}
    (h : ∀ upsert ∈ upserts, upsert.suspensionId? ≠ some id) (snapshot : RuntimeStateSnapshot)
    : (snapshot.applyAll upserts).suspensions.lookup id = snapshot.suspensions.lookup id := by
  induction upserts generalizing snapshot with
  | nil => rfl
  | cons upsert rest ih =>
    have hrest := fun upsert' hmem => h upsert' (List.mem_cons_of_mem upsert hmem)
    change ((snapshot.apply upsert).applyAll rest).suspensions.lookup id = _
    rw [ih hrest, lookup_suspensions_apply_ne (h upsert (List.mem_cons_self ..))]

/-- The suspension of a run that is found first, when the suspensions are gone through in `order`. -/
def activeSuspension (order : List String) (snapshot : RuntimeStateSnapshot) (runId : String)
    : Option SuspensionRecord :=
  ((order.filterMap snapshot.suspensions.lookup).filter
    (fun record => record.runId == runId)).find? (fun record => record.status = .active)

def ActiveIn (snapshot : RuntimeStateSnapshot) (runId id : String) (record : SuspensionRecord)
    : Prop :=
  snapshot.suspensions.lookup id = some record ∧ record.runId = runId ∧ record.status = .active

section ActiveSuspension

variable {snapshot : RuntimeStateSnapshot} {runId : String} {record : SuspensionRecord}

theorem activeIn_of_activeSuspension {order : List String}
    (h : activeSuspension order snapshot runId = some record)
    : ∃ id, snapshot.ActiveIn runId id record := by
  have hmem := List.mem_of_find?_eq_some h
  have hactive := List.find?_some h
  obtain ⟨hmem, hrun⟩ := List.mem_filter.mp hmem
  obtain ⟨id, _, hlookup⟩ := List.mem_filterMap.mp hmem
  exact ⟨id, hlookup, by simpa using hrun, by simpa using hactive⟩

theorem exists_order {id : String} (h : snapshot.ActiveIn runId id record)
    : ∃ order, order.Perm snapshot.suspensions.keys
        ∧ activeSuspension order snapshot runId = some record := by
  obtain ⟨hlookup, hrun, hactive⟩ := h
  have hmem : id ∈ snapshot.suspensions.keys := by
    have : (snapshot.suspensions.lookup id).isSome := by
      rw [hlookup]
      rfl
    exact AList.lookup_isSome.mp this
  refine ⟨id :: snapshot.suspensions.keys.erase id, (List.perm_cons_erase hmem).symm, ?_⟩
  unfold activeSuspension
  rw [List.filterMap_cons, hlookup]
  dsimp only
  rw [List.filter_cons_of_pos (by simpa using hrun),
    List.find?_cons_of_pos (by simpa using hactive)]

theorem activeSuspension_of_unique {id : String} (h : snapshot.ActiveIn runId id record)
    (hunique : ∀ id' record', snapshot.ActiveIn runId id' record' → id' = id)
    {order : List String} (horder : order.Perm snapshot.suspensions.keys)
    : activeSuspension order snapshot runId = some record := by
  cases hfind : activeSuspension order snapshot runId with
  | none =>
    have hmem : id ∈ order := by
      apply horder.mem_iff.mpr
      have : (snapshot.suspensions.lookup id).isSome := by
        rw [h.1]
        rfl
      exact AList.lookup_isSome.mp this
    have hnone := List.find?_eq_none.mp hfind record
      (List.mem_filter.mpr ⟨List.mem_filterMap.mpr ⟨id, hmem, h.1⟩, by simpa using h.2.1⟩)
    exact absurd (decide_eq_true h.2.2) hnone
  | some record' =>
    obtain ⟨id', h'⟩ := activeIn_of_activeSuspension hfind
    have heq := hunique id' record' h'
    subst heq
    exact congrArg some (Option.some.inj (h'.1.symm.trans h.1))

end ActiveSuspension

def questionOf (jobId : String) (run : RunRecord) (questionId : String)
    (suspension : SuspensionRecord)
    : PendingQuestion :=
  let sourceKind := rebuiltSourceKind suspension
  let riskLevel :=
    match suspension.rawPayload.strAt "risk_level" "high" with
    | "low" => QuestionRiskLevel.low
    | _ => QuestionRiskLevel.high
  { questionId
    jobId
    opencodeSessionId := opencodeSessionId suspension
    questionKind := if suspension.options.length > 2 then .choice else .confirm
    prompt := suspension.prompt.getD ""
    options := suspension.options
    rawQuestion := suspension.rawPayload
    decisionMode := match riskLevel with
      | .low => .autoAllowed
      | .high => .userRequired
    riskLevel
    requiresUserConfirmation :=
      sourceKind = .toolPermission
        || ((suspension.rawPayload.get "requires_user_confirmation").bind Value.asBool).getD true
    sourceKind
    continuationToken := some suspension.suspensionId
    askedAtMs := suspension.createdAtMs
    answerSubmitted := suspension.status = .resolved
    answerSummary := (suspension.rawPayload.get "answer_summary").bind Value.asStr
    resolutionSource := (suspension.rawPayload.get "resolution_source").bind Value.asStr
    inbound := some (inboundOf suspension jobId run) }

theorem rebuildQuestion_eq {snapshot : RuntimeStateSnapshot} (h : Consistent snapshot)
    (order : List String) (jobId : String) {run : RunRecord}
    (hrun : snapshot.runs.lookup (runtimeRunId jobId) = some run)
    : snapshot.rebuildQuestion order jobId
        = (activeSuspension order snapshot (runtimeRunId jobId)).bind (fun suspension =>
          suspension.questionId.map (fun questionId =>
            questionOf jobId run questionId suspension)) := by
  have hid := h.runId _ run hrun
  unfold rebuildQuestion
  rw [hrun]
  change (activeSuspension order snapshot run.runId >>= _) = _
  rw [hid]
  cases activeSuspension order snapshot (runtimeRunId jobId) with
  | none => rfl
  | some suspension =>
    cases hquestion : suspension.questionId with
    | none =>
      change (suspension.questionId >>= _) = suspension.questionId.map _
      rw [hquestion]
      rfl
    | some questionId =>
      change (suspension.questionId >>= _) = suspension.questionId.map _
      rw [hquestion]
      rfl

end RuntimeStateSnapshot

structure SameQuestion (question rebuilt : PendingQuestion) : Prop where
  questionId : rebuilt.questionId = question.questionId
  sourceKind : rebuilt.sourceKind = question.sourceKind
  questionKind : rebuilt.questionKind = question.questionKind
  decisionMode : rebuilt.decisionMode = question.decisionMode
  riskLevel : rebuilt.riskLevel = question.riskLevel
  opencodeSessionId : rebuilt.opencodeSessionId = question.opencodeSessionId
  inbound : rebuilt.inbound.map (fun msg => (msg.channel, msg.senderId, msg.content))
    = question.inbound.map (fun msg => (msg.channel, msg.senderId, msg.content))

def shown (raw : Value) (key own : String) : Option String :=
  match raw with
  | .object _ => ((raw.get key).getD (.string own)).asStr
  | _ => none

structure Survives (question : PendingQuestion) (inbound : InboundMessage) : Prop where
  sourceKind :
    match question.sourceKind with
    | .toolPermission => True
    | .planApproval => (question.rawQuestion.get "type").bind Value.asStr ≠ some "tool_permission"
    | .upstreamQuestion =>
      (question.rawQuestion.get "type").bind Value.asStr ∉ [some "tool_permission",
        some "plan_approval"]
    | .subtaskBlocked => False
  questionKind : question.questionKind = if question.options.length > 2 then .choice else .confirm
  riskLevel : question.riskLevel
    = if (question.rawQuestion.get "risk_level").bind Value.asStr = some "low" then .low else .high
  decisionMode : question.decisionMode
    = if question.riskLevel = .low then .autoAllowed else .userRequired
  opencodeSessionId :
    ((shown question.rawQuestion "opencode_session_id" question.opencodeSessionId).or
      ((question.rawQuestion.get "session_id").bind Value.asStr)).getD ""
      = question.opencodeSessionId
  channel : (shown question.rawQuestion "channel" inbound.channel).getD "unknown" = inbound.channel
  senderId :
    (shown question.rawQuestion "sender_id" inbound.senderId).getD "unknown" = inbound.senderId
  content :
    (shown question.rawQuestion "original_user_request" inbound.content).getD "" = inbound.content

namespace RuntimeStateSnapshot

section RawPayload

variable (inbound : InboundMessage) {question : PendingQuestion}

def ownFields : List String :=
  ["opencode_session_id", "original_user_request", "sender_id", "chat_id", "channel"]

theorem get_rawPayload_of_notMem (question : PendingQuestion) {key : String} (h : key ∉ ownFields)
    : (rawPayload inbound question).get key = question.rawQuestion.get key := by
  simp only [ownFields, List.mem_cons, List.not_mem_nil, or_false, not_or] at h
  obtain ⟨hsession, hrequest, hsender, hchat, hchannel⟩ := h
  unfold rawPayload
  dsimp only
  rw [Value.get_entryOrInsert_ne _ _ (Ne.symm hchannel)]
  have hstart : (((question.rawQuestion.entryOrInsert "opencode_session_id"
      (.string question.opencodeSessionId)).entryOrInsert "original_user_request"
      (.string inbound.content)).entryOrInsert "sender_id" (.string inbound.senderId)).get key
      = question.rawQuestion.get key := by
    rw [Value.get_entryOrInsert_ne _ _ (Ne.symm hsender),
      Value.get_entryOrInsert_ne _ _ (Ne.symm hrequest),
      Value.get_entryOrInsert_ne _ _ (Ne.symm hsession)]
  split
  . rw [Value.get_entryOrInsert_ne _ _ (Ne.symm hchat)]
    exact hstart
  . exact hstart

theorem asStr_get_entryOrInsert {payload : Value} (h : payload.Ordered) (key own : String)
    : ((payload.entryOrInsert key (.string own)).get key).bind Value.asStr
        = shown payload key own := by
  rw [Value.get_entryOrInsert_self h]
  unfold shown
  cases payload <;> rfl

theorem shown_entryOrInsert_ne (payload : Value) {key key' : String} (value : Value) (own : String)
    (h : key ≠ key')
    : shown (payload.entryOrInsert key value) key' own = shown payload key' own := by
  cases payload with
  | object fields =>
    have hget := Value.get_entryOrInsert_ne (.object fields) value h
    change (((Value.object _).get key').getD (.string own)).asStr = _
    exact congrArg (fun found : Option Value => (found.getD (.string own)).asStr) hget
  | _ => rfl

variable (h : question.rawQuestion.Ordered)

include h

theorem asStr_get_rawPayload
    : ((rawPayload inbound question).get "opencode_session_id").bind Value.asStr
          = shown question.rawQuestion "opencode_session_id" question.opencodeSessionId
        ∧ ((rawPayload inbound question).get "original_user_request").bind Value.asStr
          = shown question.rawQuestion "original_user_request" inbound.content
        ∧ ((rawPayload inbound question).get "sender_id").bind Value.asStr
          = shown question.rawQuestion "sender_id" inbound.senderId
        ∧ ((rawPayload inbound question).get "channel").bind Value.asStr
          = shown question.rawQuestion "channel" inbound.channel := by
  have hsession := Value.ordered_entryOrInsert h "opencode_session_id"
    (.string question.opencodeSessionId)
  have hrequest := Value.ordered_entryOrInsert hsession "original_user_request"
    (.string inbound.content)
  have hsender := Value.ordered_entryOrInsert hrequest "sender_id" (.string inbound.senderId)
  unfold rawPayload
  dsimp only
  refine ⟨?_, ?_, ?_, ?_⟩
  . rw [Value.get_entryOrInsert_ne _ _ (by decide)]
    split
    . rw [Value.get_entryOrInsert_ne _ _ (by decide), Value.get_entryOrInsert_ne _ _ (by decide),
        Value.get_entryOrInsert_ne _ _ (by decide), asStr_get_entryOrInsert h]
    . rw [Value.get_entryOrInsert_ne _ _ (by decide), Value.get_entryOrInsert_ne _ _ (by decide),
        asStr_get_entryOrInsert h]
  . rw [Value.get_entryOrInsert_ne _ _ (by decide)]
    split
    . rw [Value.get_entryOrInsert_ne _ _ (by decide), Value.get_entryOrInsert_ne _ _ (by decide),
        asStr_get_entryOrInsert hsession, shown_entryOrInsert_ne _ _ _ (by decide)]
    . rw [Value.get_entryOrInsert_ne _ _ (by decide),
        asStr_get_entryOrInsert hsession, shown_entryOrInsert_ne _ _ _ (by decide)]
  . rw [Value.get_entryOrInsert_ne _ _ (by decide)]
    split
    . rw [Value.get_entryOrInsert_ne _ _ (by decide), asStr_get_entryOrInsert hrequest,
        shown_entryOrInsert_ne _ _ _ (by decide), shown_entryOrInsert_ne _ _ _ (by decide)]
    . rw [asStr_get_entryOrInsert hrequest, shown_entryOrInsert_ne _ _ _ (by decide),
        shown_entryOrInsert_ne _ _ _ (by decide)]
  . split
    . next chatId _ =>
      rw [asStr_get_entryOrInsert (Value.ordered_entryOrInsert hsender "chat_id" (.string chatId)),
        shown_entryOrInsert_ne _ _ _ (by decide), shown_entryOrInsert_ne _ _ _ (by decide),
        shown_entryOrInsert_ne _ _ _ (by decide), shown_entryOrInsert_ne _ _ _ (by decide)]
    . rw [asStr_get_entryOrInsert hsender, shown_entryOrInsert_ne _ _ _ (by decide),
        shown_entryOrInsert_ne _ _ _ (by decide), shown_entryOrInsert_ne _ _ _ (by decide)]

end RawPayload

theorem riskLevel_match (s : String)
    : (match s with
        | "low" => QuestionRiskLevel.low
        | _ => QuestionRiskLevel.high)
      = if s = "low" then .low else .high := by
  split
  . rfl
  . next h => exact (if_neg h).symm

theorem strAt_eq_low (payload : Value) (key : String)
    : payload.strAt key "high" = "low" ↔ (payload.get key).bind Value.asStr = some "low" := by
  unfold Value.strAt
  cases (payload.get key).bind Value.asStr with
  | none => simp
  | some s => simp

theorem riskLevel_questionOf (question : PendingQuestion) {inbound : InboundMessage} (jobId : String)
    (run : RunRecord) {record : SuspensionRecord}
    (hpayload : record.rawPayload = rawPayload inbound question)
    : (questionOf jobId run question.questionId record).riskLevel
        = if (question.rawQuestion.get "risk_level").bind Value.asStr = some "low" then
            .low
          else
            .high := by
  have hrisk := get_rawPayload_of_notMem inbound question (show "risk_level" ∉ ownFields by decide)
  change (match record.rawPayload.strAt "risk_level" "high" with
    | "low" => QuestionRiskLevel.low
    | _ => QuestionRiskLevel.high) = _
  rw [riskLevel_match, hpayload, ← hrisk]
  simp only [strAt_eq_low]

theorem decisionMode_questionOf (jobId : String) (run : RunRecord) (questionId : String)
    (record : SuspensionRecord)
    : (questionOf jobId run questionId record).decisionMode
        = if (questionOf jobId run questionId record).riskLevel = .low then
            .autoAllowed
          else
            .userRequired := by
  change (match (questionOf jobId run questionId record).riskLevel with
    | .low => QuestionDecisionMode.autoAllowed
    | .high => .userRequired) = _
  cases (questionOf jobId run questionId record).riskLevel with
  | low => rfl
  | high => rfl

theorem rebuiltSourceKind_eq_iff {question : PendingQuestion} {inbound : InboundMessage}
    {record : SuspensionRecord} (hpayload : record.rawPayload = rawPayload inbound question)
    (hkind : record.kind = question.sourceKind.suspensionKind)
    : rebuiltSourceKind record = question.sourceKind
        ↔ match question.sourceKind with
          | .toolPermission => True
          | .planApproval =>
            (question.rawQuestion.get "type").bind Value.asStr ≠ some "tool_permission"
          | .upstreamQuestion =>
            (question.rawQuestion.get "type").bind Value.asStr ∉ [some "tool_permission",
              some "plan_approval"]
          | .subtaskBlocked => False := by
  have htype := get_rawPayload_of_notMem inbound question (show "type" ∉ ownFields by decide)
  unfold rebuiltSourceKind
  dsimp only
  rw [hpayload, htype, hkind]
  cases question.sourceKind with
  | toolPermission => simp [PendingQuestionSourceKind.suspensionKind]
  | planApproval => simp [PendingQuestionSourceKind.suspensionKind]
  | upstreamQuestion =>
    by_cases htool : (question.rawQuestion.get "type").bind Value.asStr = some "tool_permission"
    . simp [PendingQuestionSourceKind.suspensionKind, htool]
    . by_cases hplan : (question.rawQuestion.get "type").bind Value.asStr = some "plan_approval"
      . simp [PendingQuestionSourceKind.suspensionKind, hplan]
      . simp [PendingQuestionSourceKind.suspensionKind, htool, hplan]
  | subtaskBlocked =>
    by_cases htool : (question.rawQuestion.get "type").bind Value.asStr = some "tool_permission"
    . simp [PendingQuestionSourceKind.suspensionKind, htool]
    . by_cases hplan : (question.rawQuestion.get "type").bind Value.asStr = some "plan_approval"
      . simp [PendingQuestionSourceKind.suspensionKind, hplan]
      . simp [PendingQuestionSourceKind.suspensionKind, htool, hplan]

theorem sameQuestion_questionOf_iff {question : PendingQuestion} (h : question.rawQuestion.Ordered)
    {inbound : InboundMessage} (hinbound : question.inbound = some inbound) (jobId : String)
    (run : RunRecord) {record : SuspensionRecord}
    (hpayload : record.rawPayload = rawPayload inbound question)
    (hkind : record.kind = question.sourceKind.suspensionKind)
    (hoptions : record.options = question.options)
    : SameQuestion question (questionOf jobId run question.questionId record)
        ↔ Survives question inbound := by
  obtain ⟨hsession, hrequest, hsender, hchannel⟩ := asStr_get_rawPayload inbound h
  have hother := get_rawPayload_of_notMem inbound question (show "session_id" ∉ ownFields by decide)
  have hrebuilt := riskLevel_questionOf question jobId run hpayload
  have hmode := decisionMode_questionOf jobId run question.questionId record
  have hkept : (questionOf jobId run question.questionId record).opencodeSessionId
      = ((shown question.rawQuestion "opencode_session_id" question.opencodeSessionId).or
        ((question.rawQuestion.get "session_id").bind Value.asStr)).getD "" := by
    change opencodeSessionId record = _
    unfold RuntimeStateSnapshot.opencodeSessionId
    rw [hpayload, hsession, hother]
  have hmessage : (questionOf jobId run question.questionId record).inbound.map
        (fun msg => (msg.channel, msg.senderId, msg.content))
      = some
        ((shown question.rawQuestion "channel" inbound.channel).getD "unknown",
          (shown question.rawQuestion "sender_id" inbound.senderId).getD "unknown",
          (shown question.rawQuestion "original_user_request" inbound.content).getD "") := by
    change some (record.rawPayload.strAt "channel" "unknown",
      record.rawPayload.strAt "sender_id" "unknown",
      record.rawPayload.strAt "original_user_request" "") = _
    unfold Value.strAt
    rw [hpayload, hchannel, hsender, hrequest]
  have hsource := rebuiltSourceKind_eq_iff hpayload hkind
  constructor
  . intro hsame
    have hlevel := hsame.riskLevel
    rw [hrebuilt] at hlevel
    refine ⟨hsource.mp hsame.sourceKind, ?_, hlevel.symm, ?_, ?_, ?_, ?_, ?_⟩
    . rw [← hsame.questionKind, ← hoptions]
      rfl
    . rw [← hsame.decisionMode, hmode, hsame.riskLevel]
    . rw [← hkept, hsame.opencodeSessionId]
    all_goals
      have hsame := hsame.inbound
      rw [hmessage, hinbound] at hsame
      simp only [Option.map_some, Option.some.injEq, Prod.mk.injEq] at hsame
    . exact hsame.1
    . exact hsame.2.1
    . exact hsame.2.2
  . intro hsurvives
    refine ⟨rfl, hsource.mpr hsurvives.sourceKind, ?_, ?_, ?_, ?_, ?_⟩
    . rw [hsurvives.questionKind, ← hoptions]
      rfl
    . rw [hmode, hrebuilt, ← hsurvives.riskLevel, ← hsurvives.decisionMode]
    . rw [hrebuilt, ← hsurvives.riskLevel]
    . rw [hkept, hsurvives.opencodeSessionId]
    . rw [hmessage, hinbound, hsurvives.channel, hsurvives.senderId, hsurvives.content]
      rfl

end RuntimeStateSnapshot

inductive AskedQuestion where
  | stored (jobId : String) (question : PendingQuestion)
  | planApproval (uuid jobId : String) (inbound : InboundMessage) (opencodeSessionId : String)
    (proposal : PlanProposal)
  | subtaskBlocked (uuid jobId : String) (inbound : InboundMessage) (opencodeSessionId : String)
    (reason : SubtaskBlockedReason)

namespace AskedQuestion

variable (now : UInt64) (format : PlanFormat)

def jobId : AskedQuestion → String
  | stored jobId _ => jobId
  | planApproval _ jobId _ _ _ => jobId
  | subtaskBlocked _ jobId _ _ _ => jobId

def pending : AskedQuestion → PendingQuestion
  | stored _ question => question
  | planApproval uuid jobId inbound opencodeSessionId proposal =>
    SuspensionCoordinator.planApprovalQuestion now uuid jobId inbound opencodeSessionId format
      proposal
  | subtaskBlocked uuid jobId inbound opencodeSessionId reason =>
    SuspensionCoordinator.subtaskBlockedQuestion now uuid jobId inbound opencodeSessionId reason

def store (coordinator : SuspensionCoordinator) : AskedQuestion → SuspensionCoordinator
  | stored jobId question => coordinator.storeQuestion now jobId question
  | planApproval uuid jobId inbound opencodeSessionId proposal =>
    coordinator.registerPlanApproval now uuid jobId inbound opencodeSessionId format proposal
  | subtaskBlocked uuid jobId inbound opencodeSessionId reason =>
    coordinator.registerSubtaskBlocked now uuid jobId inbound opencodeSessionId reason

theorem store_eq (coordinator : SuspensionCoordinator) (asked : AskedQuestion)
    : asked.store now format coordinator
        = coordinator.storeQuestion now asked.jobId (asked.pending now format) := by
  cases asked with
  | stored jobId question => rfl
  | planApproval uuid jobId inbound opencodeSessionId proposal =>
    exact coordinator.registerPlanApproval_eq ..
  | subtaskBlocked uuid jobId inbound opencodeSessionId reason =>
    exact coordinator.registerSubtaskBlocked_eq ..

def laterState (asked : AskedQuestion) (coordinator : SuspensionCoordinator)
    (later : List RuntimeUpsert)
    : SuspensionCoordinator :=
  let stored := asked.store now format coordinator
  { stored with runtimeState := stored.runtimeState.applyAll later }

/-- Whatever the order of the suspensions, the question is read back as it was stored. -/
def ReadBack (asked : AskedQuestion) (coordinator : SuspensionCoordinator) : Prop :=
  ∀ order, order.Perm coordinator.runtimeState.suspensions.keys → ∀ hydrateCache,
    ∃ question, (coordinator.questionState order asked.jobId hydrateCache).1 = some question
      ∧ SameQuestion (asked.pending now format) question

/-- The question is the only active one of its job, and nothing of it depends on the memory. -/
def KeptInRecord (asked : AskedQuestion) (coordinator : SuspensionCoordinator) : Prop :=
  ∃ inbound, (asked.pending now format).inbound = some inbound
    ∧ inbound.id = asked.jobId
    ∧ (∀ id record,
      coordinator.runtimeState.ActiveIn (runtimeRunId asked.jobId) id record
        → id = runtimeSuspensionId (asked.pending now format).questionId)
    ∧ Survives (asked.pending now format) inbound

end AskedQuestion

namespace RuntimeStateSnapshot

theorem lookup_storeQuestion (now : UInt64) (coordinator : SuspensionCoordinator) (jobId : String)
    {question : PendingQuestion} {inbound : InboundMessage}
    (h : question.inbound = some inbound)
    : ∃ record, (coordinator.storeQuestion now jobId question).runtimeState.suspensions.lookup
          (runtimeSuspensionId question.questionId) = some record
        ∧ record.runId = runtimeRunId inbound.id
        ∧ record.status = .active
        ∧ record.questionId = some question.questionId
        ∧ record.rawPayload = rawPayload inbound question
        ∧ record.kind = question.sourceKind.suspensionKind
        ∧ record.options = question.options := by
  unfold SuspensionCoordinator.storeQuestion
  dsimp only
  rw [h]
  exact ⟨_, AList.lookup_insert .., rfl, rfl, rfl, rfl, rfl, rfl⟩

theorem consistent_storeQuestion {coordinator : SuspensionCoordinator}
    (h : Consistent coordinator.runtimeState) (now : UInt64) (jobId : String)
    (question : PendingQuestion)
    : Consistent (coordinator.storeQuestion now jobId question).runtimeState := by
  unfold SuspensionCoordinator.storeQuestion
  dsimp only
  split
  . next inbound _ =>
    exact (h.upsertTask now inbound _ _ _ _).upsertSuspension now inbound question _ _ _ _
  . exact h

end RuntimeStateSnapshot

namespace AskedQuestion

open RuntimeStateSnapshot

variable (now : UInt64) (format : PlanFormat) (history later : List RuntimeUpsert)
  (pendingQuestions : AList (fun _ : String => PendingQuestion))
  (suspendedToolInvocations : AList (fun _ : String => SuspendedToolInvocationState))
  (asked : AskedQuestion)

def readState : SuspensionCoordinator :=
  asked.laterState now format
    { runtimeState := reached history, pendingQuestions, suspendedToolInvocations } later

theorem consistent_readState
    : Consistent (readState now format history later pendingQuestions suspendedToolInvocations
      asked).runtimeState := by
  unfold readState laterState
  rw [store_eq]
  exact (consistent_storeQuestion (consistent_reached history) now _ _).applyAll later

theorem sameQuestion_refl (question : PendingQuestion) : SameQuestion question question := by
  exact ⟨rfl, rfl, rfl, rfl, rfl, rfl, rfl⟩

theorem questionState_of_known {coordinator : SuspensionCoordinator} {jobId : String}
    (h : (coordinator.runtimeState.index.runIdsByJobId.lookup jobId).isSome = true)
    (order : List String) (hydrateCache : Bool)
    : (coordinator.questionState order jobId hydrateCache).1
        = coordinator.runtimeState.rebuildQuestion order jobId := by
  unfold SuspensionCoordinator.questionState
  rw [if_pos h]
  cases coordinator.runtimeState.rebuildQuestion order jobId with
  | none => rfl
  | some question => cases hydrateCache <;> rfl

variable {now format history later pendingQuestions suspendedToolInvocations asked}

theorem readBack_of_unknown
    (h : ((readState now format history later pendingQuestions suspendedToolInvocations
      asked).runtimeState.index.runIdsByJobId.lookup asked.jobId).isSome = false)
    : asked.ReadBack now format
      (readState now format history later pendingQuestions suspendedToolInvocations asked) := by
  intro order _ hydrateCache
  refine ⟨asked.pending now format, ?_, sameQuestion_refl _⟩
  unfold SuspensionCoordinator.questionState
  rw [if_neg (by rw [h]; exact Bool.false_ne_true)]
  unfold readState laterState
  rw [store_eq]
  exact AList.lookup_insert ..

theorem lookup_readState {inbound : InboundMessage}
    (hinbound : (asked.pending now format).inbound = some inbound)
    (hlater : ∀ upsert ∈ later,
      upsert.suspensionId? ≠ some (runtimeSuspensionId (asked.pending now format).questionId))
    : ∃ record, (readState now format history later pendingQuestions suspendedToolInvocations
          asked).runtimeState.suspensions.lookup
            (runtimeSuspensionId (asked.pending now format).questionId) = some record
        ∧ record.runId = runtimeRunId inbound.id
        ∧ record.status = .active
        ∧ record.questionId = some (asked.pending now format).questionId
        ∧ record.rawPayload = rawPayload inbound (asked.pending now format)
        ∧ record.kind = (asked.pending now format).sourceKind.suspensionKind
        ∧ record.options = (asked.pending now format).options := by
  unfold readState laterState
  dsimp only
  rw [lookup_suspensions_applyAll hlater, store_eq]
  exact lookup_storeQuestion now _ _ hinbound

theorem exists_activeIn_of_readBack
    (hknown : ((readState now format history later pendingQuestions suspendedToolInvocations
      asked).runtimeState.index.runIdsByJobId.lookup asked.jobId).isSome = true)
    {order : List String} {hydrateCache : Bool} {question : PendingQuestion}
    (h : ((readState now format history later pendingQuestions suspendedToolInvocations
      asked).questionState order asked.jobId hydrateCache).1 = some question)
    : ∃ run id record, activeSuspension order
          (readState now format history later pendingQuestions suspendedToolInvocations
            asked).runtimeState (runtimeRunId asked.jobId) = some record
        ∧ (readState now format history later pendingQuestions suspendedToolInvocations
          asked).runtimeState.ActiveIn (runtimeRunId asked.jobId) id record
        ∧ id = runtimeSuspensionId question.questionId
        ∧ question = questionOf asked.jobId run question.questionId record := by
  have hconsistent := consistent_readState now format history later pendingQuestions
    suspendedToolInvocations asked
  obtain ⟨run, hrun⟩ := Option.isSome_iff_exists.mp (hconsistent.run asked.jobId hknown)
  rw [questionState_of_known hknown, rebuildQuestion_eq hconsistent order asked.jobId hrun] at h
  obtain ⟨record, hfind, hquestion⟩ := Option.bind_eq_some_iff.mp h
  obtain ⟨id, hactive⟩ := activeIn_of_activeSuspension hfind
  obtain ⟨questionId, hid, hkey⟩ := hconsistent.questionId id record hactive.1
  rw [hid] at hquestion
  cases hquestion
  exact ⟨run, id, record, hfind, hactive, hkey, rfl⟩

theorem readBack_of_known_iff
    (hordered : (asked.pending now format).rawQuestion.Ordered)
    (hlater : ∀ upsert ∈ later,
      upsert.suspensionId? ≠ some (runtimeSuspensionId (asked.pending now format).questionId))
    (hknown : ((readState now format history later pendingQuestions suspendedToolInvocations
      asked).runtimeState.index.runIdsByJobId.lookup asked.jobId).isSome = true)
    : asked.ReadBack now format
          (readState now format history later pendingQuestions suspendedToolInvocations asked)
        ↔ asked.KeptInRecord now format
          (readState now format history later pendingQuestions suspendedToolInvocations
            asked) := by
  have hconsistent := consistent_readState now format history later pendingQuestions
    suspendedToolInvocations asked
  constructor
  . intro h
    have hunique : ∀ id record, (readState now format history later pendingQuestions
        suspendedToolInvocations asked).runtimeState.ActiveIn (runtimeRunId asked.jobId) id record
          → id = runtimeSuspensionId (asked.pending now format).questionId := by
      intro id record hactive
      obtain ⟨order, horder, hfind⟩ := exists_order hactive
      obtain ⟨question, hquestion, hsame⟩ := h order horder false
      obtain ⟨run, id', record', hfind', hactive', hkey, _⟩ :=
        exists_activeIn_of_readBack hknown hquestion
      rw [hfind] at hfind'
      cases hfind'
      obtain ⟨questionId, hid, hidkey⟩ := hconsistent.questionId id record hactive.1
      obtain ⟨questionId', hid', hidkey'⟩ := hconsistent.questionId id' record hactive'.1
      rw [hid] at hid'
      cases hid'
      rw [hidkey, ← hidkey', hkey, hsame.questionId]
    obtain ⟨question, hquestion, hsame⟩ := h _ (List.Perm.refl _) false
    obtain ⟨run, id, record, _, hactive, _, hrebuilt⟩ :=
      exists_activeIn_of_readBack hknown hquestion
    have hid := hunique id record hactive
    subst hid
    obtain ⟨inbound, hinbound⟩ : ∃ inbound, (asked.pending now format).inbound = some inbound := by
      cases hinbound : (asked.pending now format).inbound with
      | some inbound => exact ⟨inbound, rfl⟩
      | none =>
        have hinboundOf := hsame.inbound
        rw [hrebuilt, hinbound] at hinboundOf
        cases hinboundOf
    obtain ⟨record', hlookup, hrun, hstatus, hquestionId, hpayload, hkind, hoptions⟩ :=
      lookup_readState hinbound hlater
    have heq := hlookup.symm.trans hactive.1
    cases heq
    refine ⟨inbound, hinbound, runtimeRunId_inj.mp (hrun.symm.trans hactive.2.1), hunique, ?_⟩
    have hid := hsame.questionId
    rw [hid] at hrebuilt
    rw [hrebuilt] at hsame
    exact (sameQuestion_questionOf_iff hordered hinbound asked.jobId run hpayload hkind
      hoptions).mp hsame
  . rintro ⟨inbound, hinbound, hjob, hunique, hsurvives⟩ order horder hydrateCache
    obtain ⟨record, hlookup, hrun, hstatus, hquestionId, hpayload, hkind, hoptions⟩ :=
      lookup_readState hinbound hlater
    obtain ⟨run, hrunOf⟩ := Option.isSome_iff_exists.mp (hconsistent.run asked.jobId hknown)
    have hactive : (readState now format history later pendingQuestions suspendedToolInvocations
        asked).runtimeState.ActiveIn (runtimeRunId asked.jobId) _ record :=
      ⟨hlookup, by rw [hrun, hjob], hstatus⟩
    refine ⟨questionOf asked.jobId run (asked.pending now format).questionId record, ?_, ?_⟩
    . rw [questionState_of_known hknown, rebuildQuestion_eq hconsistent order asked.jobId hrunOf,
        activeSuspension_of_unique hactive (fun id' record' h => hunique id' record' h) horder,
        Option.bind_some, hquestionId]
      rfl
    . exact (sameQuestion_questionOf_iff hordered hinbound asked.jobId run hpayload hkind
        hoptions).mpr hsurvives

theorem readBack_iff
    (hordered : (asked.pending now format).rawQuestion.Ordered)
    (hlater : ∀ upsert ∈ later,
      upsert.suspensionId? ≠ some (runtimeSuspensionId (asked.pending now format).questionId))
    : asked.ReadBack now format
          (readState now format history later pendingQuestions suspendedToolInvocations asked)
        ↔ ((readState now format history later pendingQuestions suspendedToolInvocations
            asked).runtimeState.index.runIdsByJobId.lookup asked.jobId).isSome = false
          ∨ asked.KeptInRecord now format
            (readState now format history later pendingQuestions suspendedToolInvocations
              asked) := by
  cases hknown : ((readState now format history later pendingQuestions suspendedToolInvocations
      asked).runtimeState.index.runIdsByJobId.lookup asked.jobId).isSome with
  | false => exact iff_of_true (readBack_of_unknown hknown) (.inl rfl)
  | true =>
    rw [readBack_of_known_iff hordered hlater hknown, or_iff_right (by simp)]

theorem survives_planApproval (uuid jobId : String) (inbound : InboundMessage)
    (opencodeSessionId : String) (proposal : PlanProposal)
    : Survives ((planApproval uuid jobId inbound opencodeSessionId proposal).pending now format)
        inbound := by
  constructor
  . exact fun htype => absurd (Option.some.inj htype) (by decide)
  . rfl
  . exact (if_neg nofun).symm
  . rfl
  . rfl
  . rfl
  . rfl
  . rfl

theorem not_survives_subtaskBlocked (uuid jobId : String) (inbound message : InboundMessage)
    (opencodeSessionId : String) (reason : SubtaskBlockedReason)
    : ¬Survives ((subtaskBlocked uuid jobId inbound opencodeSessionId reason).pending now format)
        message := by
  exact fun hsurvives => hsurvives.sourceKind

def askingMessage : InboundMessage where
  id := "job_1"
  channel := "web"
  senderId := "user"
  chatId := some "chat_1"
  content := "read the file"

def inputQuestion : PendingQuestion where
  questionId := "question_1"
  jobId := "job_1"
  opencodeSessionId := "session_1"
  questionKind := .input
  prompt := "Which file?"
  options := []
  rawQuestion := .object [
    ("kind", .string "input"),
    ("prompt", .string "Which file?"),
    ("question_id", .string "question_1")]
  decisionMode := .autoAllowed
  riskLevel := .low
  requiresUserConfirmation := false
  sourceKind := .upstreamQuestion
  continuationToken := none
  askedAtMs := 0
  answerSubmitted := false
  answerSummary := none
  resolutionSource := none
  inbound := some askingMessage

def noPlans : PlanFormat where
  toValue _ := .null
  fromValue _ := .error "no plan"

theorem ordered_inputQuestion : inputQuestion.rawQuestion.Ordered := by
  unfold inputQuestion Value.Ordered
  decide

theorem readBack_iff_inputQuestion
    : ReadBack 0 noPlans (.stored "job_1" inputQuestion)
          (readState 0 noPlans [.turn 0 askingMessage "initial" .running] [] ∅ ∅
            (.stored "job_1" inputQuestion))
        ↔ ((readState 0 noPlans [.turn 0 askingMessage "initial" .running] [] ∅ ∅
            (.stored "job_1" inputQuestion)).runtimeState.index.runIdsByJobId.lookup
              "job_1").isSome = false
          ∨ KeptInRecord 0 noPlans (.stored "job_1" inputQuestion)
            (readState 0 noPlans [.turn 0 askingMessage "initial" .running] [] ∅ ∅
              (.stored "job_1" inputQuestion)) := by
  exact readBack_iff ordered_inputQuestion (by simp)

/-- The question for an input is read back as a question to confirm. -/
theorem inputQuestion_not_readBack
    : ¬ReadBack 0 noPlans (.stored "job_1" inputQuestion)
      (readState 0 noPlans [.turn 0 askingMessage "initial" .running] [] ∅ ∅
        (.stored "job_1" inputQuestion)) := by
  intro h
  obtain ⟨question, hquestion, hsame⟩ := h _ (List.Perm.refl _) false
  have hkind : ((readState 0 noPlans [.turn 0 askingMessage "initial" .running] [] ∅ ∅
      (.stored "job_1" inputQuestion)).questionState
        (readState 0 noPlans [.turn 0 askingMessage "initial" .running] [] ∅ ∅
          (.stored "job_1" inputQuestion)).runtimeState.suspensions.keys "job_1" false).1.map
            PendingQuestion.questionKind = some .confirm := by
    decide +kernel
  change (SuspensionCoordinator.questionState _ _ "job_1" _).1 = _ at hquestion
  rw [hquestion] at hkind
  have := hsame.questionKind.symm.trans (Option.some.inj hkind)
  cases this

end AskedQuestion

end AnimaAgent
