import AnimaAgent.Agent.SuspensionLife

namespace AnimaAgent

open RuntimeStateSnapshot

namespace RuntimeStateSnapshot

def clearedWith (now : UInt64) (jobId : String) (question : PendingQuestion)
    (inbound : InboundMessage) (state : RuntimeStateSnapshot)
    : RuntimeStateSnapshot :=
  (state.upsertTask now inbound .question .completed question.prompt none).upsertSuspension now
    inbound question (some (runtimeTaskId jobId .question)) none question.sourceKind.clearedKind
      .cleared

def clearedOf (now : UInt64) (jobId : String) (found : Option PendingQuestion)
    (state : RuntimeStateSnapshot)
    : RuntimeStateSnapshot :=
  match found with
  | none => state
  | some question =>
    match question.inbound with
    | none => state
    | some inbound => state.clearedWith now jobId question inbound

theorem clearedOf_of_inbound {question : PendingQuestion} {inbound : InboundMessage}
    (h : question.inbound = some inbound) (now : UInt64) (jobId : String)
    (state : RuntimeStateSnapshot)
    : state.clearedOf now jobId (some question) = state.clearedWith now jobId question inbound := by
  unfold clearedOf
  dsimp only
  rw [h]

theorem clearedOf_of_silent {question : PendingQuestion} (h : question.inbound = none)
    (now : UInt64) (jobId : String) (state : RuntimeStateSnapshot)
    : state.clearedOf now jobId (some question) = state := by
  unfold clearedOf
  dsimp only
  rw [h]

structure Grows (a b : RuntimeStateSnapshot) : Prop where
  known : ∀ jobId, a.Known jobId → b.Known jobId
  suspensions : ∀ id, (a.suspensions.lookup id).isSome → (b.suspensions.lookup id).isSome

theorem Grows.refl (state : RuntimeStateSnapshot) : Grows state state := by
  exact ⟨fun _ h => h, fun _ h => h⟩

theorem Grows.trans {a b c : RuntimeStateSnapshot} (hab : Grows a b) (hbc : Grows b c)
    : Grows a c := by
  exact ⟨fun job h => hbc.known job (hab.known job h),
    fun id h => hbc.suspensions id (hab.suspensions id h)⟩

theorem grows_apply (state : RuntimeStateSnapshot) (upsert : RuntimeUpsert)
    : Grows state (state.apply upsert) := by
  refine ⟨fun jobId h => h.apply upsert, ?_⟩
  intro id h
  cases upsert with
  | suspension now inbound question taskId invocationId kind status =>
    change ((state.suspensions.insert (runtimeSuspensionId question.questionId) _).lookup id).isSome
    by_cases heq : id = runtimeSuspensionId question.questionId
    . subst heq
      rw [AList.lookup_insert]
      rfl
    . rw [AList.lookup_insert_ne heq]
      exact h
  | _ => exact h

theorem clearQuestion_eq (coordinator : SuspensionCoordinator) (now : UInt64) (order : List String)
    (jobId : String)
    : coordinator.clearQuestion now order jobId
        = { coordinator with
          pendingQuestions := coordinator.pendingQuestions.erase jobId
          runtimeState := coordinator.runtimeState.clearedOf now jobId
            ((coordinator.pendingQuestions.lookup jobId).or
              (coordinator.runtimeState.rebuildQuestion order jobId)) } := by
  unfold SuspensionCoordinator.clearQuestion clearedOf
  dsimp only
  cases (coordinator.pendingQuestions.lookup jobId).or
      (coordinator.runtimeState.rebuildQuestion order jobId) with
  | none => rfl
  | some question =>
    dsimp only
    cases question.inbound with
    | none => rfl
    | some inbound => rfl

theorem grows_clearedOf (now : UInt64) (jobId : String) (found : Option PendingQuestion)
    (state : RuntimeStateSnapshot)
    : Grows state (state.clearedOf now jobId found) := by
  cases found with
  | none => exact Grows.refl state
  | some question =>
    cases hinbound : question.inbound with
    | none =>
      rw [clearedOf_of_silent hinbound]
      exact Grows.refl state
    | some inbound =>
      rw [clearedOf_of_inbound hinbound]
      have htask := grows_apply state (.task now inbound .question .completed question.prompt none)
      exact htask.trans (grows_apply _ (.suspension now inbound question
        (some (runtimeTaskId jobId .question)) none question.sourceKind.clearedKind .cleared))

end RuntimeStateSnapshot

structure ClearedAlike (state : RuntimeStateSnapshot) (a : PendingQuestion) (i : InboundMessage)
    (b : PendingQuestion) (j : InboundMessage)
    : Prop where
  job : i.id = j.id
  channel : i.channel = j.channel
  chatId : i.chatId = j.chatId
  questionId : a.questionId = b.questionId
  prompt : a.prompt = b.prompt
  options : a.options = b.options
  payload : rawPayload i a = rawPayload j b
  kind : a.sourceKind.clearedKind = b.sourceKind.clearedKind
  answerSubmitted : a.answerSubmitted = b.answerSubmitted
  answerSummary : a.answerSummary = b.answerSummary
  resolutionSource : a.resolutionSource = b.resolutionSource
  askedAt : (state.suspensions.lookup (runtimeSuspensionId b.questionId)).isSome
    ∨ a.askedAtMs = b.askedAtMs

section ClearedWith

variable {state : RuntimeStateSnapshot} {now : UInt64} {jobId : String}
variable {a b : PendingQuestion} {i j : InboundMessage}

theorem ClearedAlike.grows {later : RuntimeStateSnapshot} (h : ClearedAlike state a i b j)
    (hgrows : Grows state later)
    : ClearedAlike later a i b j := by
  exact { h with askedAt := h.askedAt.imp_left (hgrows.suspensions _) }

theorem ClearedAlike.clearedWith_eq (h : ClearedAlike state a i b j) (now : UInt64) (jobId : String)
    : state.clearedWith now jobId a i = state.clearedWith now jobId b j := by
  have htask : state.upsertTask now i .question .completed a.prompt none
      = state.upsertTask now j .question .completed b.prompt none := by
    unfold upsertTask currentTurnId
    rw [h.job, h.channel, h.chatId, h.prompt]
  have hcreated : (((state.upsertTask now j .question .completed b.prompt none).suspensions.lookup
        (runtimeSuspensionId b.questionId)).map SuspensionRecord.createdAtMs).getD a.askedAtMs
      = (((state.upsertTask now j .question .completed b.prompt none).suspensions.lookup
        (runtimeSuspensionId b.questionId)).map SuspensionRecord.createdAtMs).getD b.askedAtMs := by
    rcases h.askedAt with hsome | hasked
    . obtain ⟨record, hrecord⟩ := Option.isSome_iff_exists.mp hsome
      rw [show (state.upsertTask now j .question .completed b.prompt none).suspensions.lookup
        (runtimeSuspensionId b.questionId) = some record from hrecord]
      rfl
    . rw [hasked]
  unfold clearedWith
  rw [htask]
  unfold upsertSuspension suspensionRecord currentTurnId
  dsimp only
  rw [h.questionId, h.job, h.prompt, h.options, h.payload, h.kind, h.answerSubmitted,
    h.answerSummary, h.resolutionSource, hcreated]

theorem lookup_clearedWith (now : UInt64) (jobId : String) (question : PendingQuestion)
    (inbound : InboundMessage) (state : RuntimeStateSnapshot)
    : (state.clearedWith now jobId question inbound).suspensions.lookup
          (runtimeSuspensionId question.questionId)
        = some ((state.upsertTask now inbound .question .completed question.prompt
          none).suspensionRecord now inbound question (some (runtimeTaskId jobId .question)) none
            question.sourceKind.clearedKind .cleared) := by
  exact AList.lookup_insert ..

theorem lookup_clearedWith_ne {id : String} (h : id ≠ runtimeSuspensionId a.questionId)
    : (state.clearedWith now jobId a i).suspensions.lookup id = state.suspensions.lookup id := by
  exact AList.lookup_insert_ne h

theorem lookup_tasks_clearedWith (now : UInt64) (jobId : String) (question : PendingQuestion)
    (inbound : InboundMessage) (state : RuntimeStateSnapshot)
    : ((state.clearedWith now jobId question inbound).tasks.lookup
          (runtimeTaskId inbound.id .question)).map TaskRecord.metadata
        = some (.object [("channel", .string inbound.channel),
          ("chat_id", ToolInvocationRecord.optString inbound.chatId)]) := by
  exact congrArg (Option.map TaskRecord.metadata)
    (AList.lookup_insert (a := runtimeTaskId inbound.id .question) state.tasks)

theorem clearedWith_time {record : Option SuspensionRecord}
    (h : ∀ now, (state.clearedWith now jobId a i).suspensions.lookup
      (runtimeSuspensionId a.questionId) = record)
    : False := by
  have hzero := (lookup_clearedWith 0 jobId a i state).symm.trans (h 0)
  have hone := (lookup_clearedWith 1 jobId a i state).symm.trans (h 1)
  have htimes := congrArg SuspensionRecord.updatedAtMs (Option.some.inj (hzero.trans hone.symm))
  change (0 : UInt64) = 1 at htimes
  exact absurd htimes (by decide)

theorem clearedAlike_of_eq
    (h : ∀ now, state.clearedWith now jobId a i = state.clearedWith now jobId b j)
    : ClearedAlike state a i b j := by
  have hquestion : a.questionId = b.questionId := by
    by_contra hne
    refine @clearedWith_time state jobId a i
      (state.suspensions.lookup (runtimeSuspensionId a.questionId)) fun now => ?_
    rw [h now]
    exact lookup_clearedWith_ne (mt runtimeSuspensionId_inj.mp hne)
  have hlookup := congrArg (fun s : RuntimeStateSnapshot =>
    s.suspensions.lookup (runtimeSuspensionId b.questionId)) (h 0)
  have ha := lookup_clearedWith 0 jobId a i state
  rw [hquestion] at ha
  have hrecord := Option.some.inj
    (ha.symm.trans (hlookup.trans (lookup_clearedWith 0 jobId b j state)))
  have hjob : i.id = j.id := runtimeRunId_inj.mp (congrArg SuspensionRecord.runId hrecord)
  have hmetadata := congrArg (fun s : RuntimeStateSnapshot =>
    (s.tasks.lookup (runtimeTaskId j.id .question)).map TaskRecord.metadata) (h 0)
  have hi := lookup_tasks_clearedWith 0 jobId a i state
  rw [hjob] at hi
  rw [hi, lookup_tasks_clearedWith 0 jobId b j state, Option.some_inj, Value.object.injEq,
    List.cons_eq_cons, List.cons_eq_cons, Prod.mk.injEq, Prod.mk.injEq, Value.string.injEq]
    at hmetadata
  obtain ⟨⟨_, hchannel⟩, ⟨_, hchat⟩, _⟩ := hmetadata
  have hanswered : a.answerSubmitted = b.answerSubmitted := by
    have hresolved := congrArg SuspensionRecord.resolvedAtMs hrecord
    unfold suspensionRecord at hresolved
    dsimp only at hresolved
    cases ha : a.answerSubmitted <;> cases hb : b.answerSubmitted <;> simp_all
  have hasked : (state.suspensions.lookup (runtimeSuspensionId b.questionId)).isSome
      ∨ a.askedAtMs = b.askedAtMs := by
    have hcreated := congrArg SuspensionRecord.createdAtMs hrecord
    change ((state.suspensions.lookup (runtimeSuspensionId a.questionId)).map _).getD _
      = ((state.suspensions.lookup (runtimeSuspensionId b.questionId)).map _).getD _ at hcreated
    rw [hquestion] at hcreated
    cases hfound : state.suspensions.lookup (runtimeSuspensionId b.questionId) with
    | some record => exact .inl rfl
    | none =>
      rw [hfound] at hcreated
      exact .inr hcreated
  exact
    { job := hjob
      channel := hchannel
      chatId := ToolInvocationRecord.optString_inj hchat
      questionId := hquestion
      prompt := Option.some.inj (congrArg SuspensionRecord.prompt hrecord)
      options := congrArg SuspensionRecord.options hrecord
      payload := congrArg SuspensionRecord.rawPayload hrecord
      kind := congrArg SuspensionRecord.kind hrecord
      answerSubmitted := hanswered
      answerSummary := congrArg SuspensionRecord.answerSummary hrecord
      resolutionSource := congrArg SuspensionRecord.resolutionSource hrecord
      askedAt := hasked }

end ClearedWith

end AnimaAgent
