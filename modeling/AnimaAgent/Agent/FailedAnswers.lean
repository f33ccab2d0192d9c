import AnimaAgent.Agent.AnswerSubmission
import AnimaAgent.Agent.QuestionClearing

/-!
This module contains what an answer that is not accepted leaves behind. The runtime state stays as it
is, but the job's question is remembered anew from it, which shows when the question is cleared.
-/

namespace AnimaAgent

namespace PendingQuestion

def unmarked (question : PendingQuestion) : PendingQuestion :=
  { question with
    answerSubmitted := false
    answerSummary := none
    resolutionSource := none }

end PendingQuestion

inductive SameMemory (marks : Prop) : Option PendingQuestion → Option PendingQuestion → Prop
  | same (question : Option PendingQuestion) : SameMemory marks question question
  | marked {a b : PendingQuestion} (hmarks : marks) (hinbound : b.inbound = none)
    (h : a.unmarked = b.unmarked)
    : SameMemory marks (some a) (some b)

theorem SameMemory.eq {a b : Option PendingQuestion} (h : SameMemory False a b) : a = b := by
  cases h with
  | same _ => rfl
  | marked hmarks _ _ => exact hmarks.elim

theorem SameMemory.clearedOf_eq {marks : Prop} {a b : Option PendingQuestion}
    (h : SameMemory marks a b) (state : RuntimeStateSnapshot) (now : UInt64) (jobId : String)
    (rebuilt : Option PendingQuestion)
    : state.clearedOf now jobId (a.or rebuilt) = state.clearedOf now jobId (b.or rebuilt) := by
  cases h with
  | same _ => rfl
  | @marked a b _ hinbound h =>
    have hinbound' : a.inbound = none := (congrArg PendingQuestion.inbound h).trans hinbound
    rw [Option.some_or, Option.some_or, RuntimeStateSnapshot.clearedOf_of_silent hinbound',
      RuntimeStateSnapshot.clearedOf_of_silent hinbound]

inductive SameClearing (state : RuntimeStateSnapshot)
    : Option PendingQuestion → Option PendingQuestion → Prop
  | nothing : SameClearing state none none
  | silent {a b : PendingQuestion} (ha : a.inbound = none) (hb : b.inbound = none)
    : SameClearing state (some a) (some b)
  | alike {a b : PendingQuestion} {i j : InboundMessage} (ha : a.inbound = some i)
    (hb : b.inbound = some j) (h : ClearedAlike state a i b j)
    : SameClearing state (some a) (some b)

theorem SameClearing.grows {state later : RuntimeStateSnapshot} {a b : Option PendingQuestion}
    (h : SameClearing state a b) (hgrows : state.Grows later)
    : SameClearing later a b := by
  cases h with
  | nothing => exact .nothing
  | silent ha hb => exact .silent ha hb
  | alike ha hb h => exact .alike ha hb (h.grows hgrows)

theorem SameClearing.clearedOf_eq {state : RuntimeStateSnapshot} {a b : Option PendingQuestion}
    (h : SameClearing state a b) (now : UInt64) (jobId : String) (rebuilt : Option PendingQuestion)
    : state.clearedOf now jobId (a.or rebuilt) = state.clearedOf now jobId (b.or rebuilt) := by
  cases h with
  | nothing => rfl
  | silent ha hb =>
    rw [Option.some_or, Option.some_or, RuntimeStateSnapshot.clearedOf_of_silent ha,
      RuntimeStateSnapshot.clearedOf_of_silent hb]
  | alike ha hb h =>
    rw [Option.some_or, Option.some_or, RuntimeStateSnapshot.clearedOf_of_inbound ha,
      RuntimeStateSnapshot.clearedOf_of_inbound hb]
    exact h.clearedWith_eq now jobId

def Remembered (marks : Prop)
    (M : RuntimeStateSnapshot → Option PendingQuestion → Option PendingQuestion → Prop)
    (state : RuntimeStateSnapshot) (jobId : String) (a b : Option PendingQuestion)
    : Prop :=
  SameMemory marks a b ∨ (state.Known jobId ∧ M state a b)

namespace SuspensionCoordinator

open RuntimeStateSnapshot

structure Alike (marks : Prop)
    (M : RuntimeStateSnapshot → Option PendingQuestion → Option PendingQuestion → Prop)
    (jobId : String) (a b : SuspensionCoordinator)
    : Prop where
  runtimeState : a.runtimeState = b.runtimeState
  suspended : a.suspendedToolInvocations = b.suspendedToolInvocations
  others : ∀ other, other ≠ jobId → a.pendingQuestions.lookup other = b.pendingQuestions.lookup other
  remembered : Remembered marks M b.runtimeState jobId (a.pendingQuestions.lookup jobId)
    (b.pendingQuestions.lookup jobId)

def performAll (format : PlanFormat) (coordinator : SuspensionCoordinator)
    (actions : List (UInt64 × SuspensionAction))
    : SuspensionCoordinator :=
  actions.foldl (fun coordinator action => coordinator.perform action.1 format action.2) coordinator

structure SameAnswer (jobId : String) (a b : Except AgentError PendingQuestion × SuspensionCoordinator)
    : Prop where
  result : a.1 = b.1
  runtimeState : a.2.runtimeState = b.2.runtimeState
  suspended : a.2.suspendedToolInvocations = b.2.suspendedToolInvocations
  remembered : ∀ pending, b.1 = .ok pending
    → a.2.pendingQuestions.lookup jobId = b.2.pendingQuestions.lookup jobId

section Failing

variable {marks : Prop}
variable {M : RuntimeStateSnapshot → Option PendingQuestion → Option PendingQuestion → Prop}
variable {coordinator : SuspensionCoordinator} {jobId : String}

theorem alike_refl : Alike marks M jobId coordinator coordinator := by
  exact ⟨rfl, rfl, fun _ _ => rfl, .inl (.same _)⟩

theorem lookup_questionState (hknown : coordinator.runtimeState.Known jobId) (order : List String)
    : (coordinator.questionState order jobId true).2.pendingQuestions.lookup jobId
        = coordinator.runtimeState.rebuildQuestion order jobId := by
  unfold questionState
  unfold Known at hknown
  rw [if_pos hknown]
  cases coordinator.runtimeState.rebuildQuestion order jobId with
  | none => exact AList.lookup_erase _ _
  | some question => exact AList.lookup_insert _

theorem alike_questionState {order : List String}
    (hmemory : coordinator.runtimeState.Known jobId
      → M coordinator.runtimeState (coordinator.runtimeState.rebuildQuestion order jobId)
        (coordinator.pendingQuestions.lookup jobId))
    : Alike marks M jobId (coordinator.questionState order jobId true).2 coordinator := by
  by_cases hknown : coordinator.runtimeState.Known jobId
  . have hlookup := lookup_questionState hknown order
    refine ⟨runtimeState_questionState .., ?_, ?_, .inr ⟨hknown, ?_⟩⟩
    . unfold questionState
      split
      . split
        . rfl
        . rfl
      . rfl
    . intro other hother
      unfold questionState
      split
      . split
        . exact AList.lookup_insert_ne hother
        . exact AList.lookup_erase_ne hother
      . rfl
    . rw [hlookup]
      exact hmemory hknown
  . rw [questionState_of_unknown hknown]
    exact alike_refl

theorem inbound_rebuildQuestion {state : RuntimeStateSnapshot} {order : List String}
    {question : PendingQuestion} (h : state.rebuildQuestion order jobId = some question)
    : ∃ inbound, question.inbound = some inbound := by
  unfold rebuildQuestion at h
  simp only [Option.bind_eq_bind, Option.bind_eq_some_iff] at h
  obtain ⟨run, _, record, _, questionId, _, h⟩ := h
  cases h
  exact ⟨_, rfl⟩

/-- The answer leaves no mark on a question that came without a message. -/
def Unmarked (coordinator : SuspensionCoordinator) (jobId : String) (answer : QuestionAnswerInput)
    (answerSummary : String)
    : Prop :=
  ∀ question, coordinator.pendingQuestions.lookup jobId = some question
    → question.questionId = answer.questionId → question.inbound = none
    → question.answered answer answerSummary = question

theorem submitAnswer_of_known {now : UInt64} {order : List String} {answer : QuestionAnswerInput}
    {answerSummary : String} {error : AgentError} (hknown : coordinator.runtimeState.Known jobId)
    (h : (coordinator.submitAnswer now order jobId answer answerSummary).1 = .error error)
    : (coordinator.submitAnswer now order jobId answer answerSummary).2
        = (coordinator.questionState order jobId true).2 := by
  have hfound : (coordinator.questionState order jobId true).1
      = coordinator.runtimeState.rebuildQuestion order jobId := by
    unfold questionState
    unfold Known at hknown
    rw [if_pos hknown]
    cases coordinator.runtimeState.rebuildQuestion order jobId with
    | none => rfl
    | some question => rfl
  unfold submitAnswer at h ⊢
  cases hquestion : coordinator.questionState order jobId true with
  | mk found read =>
    rw [hquestion] at h hfound
    cases found with
    | none => rfl
    | some question =>
      obtain ⟨inbound, hinbound⟩ := inbound_rebuildQuestion hfound.symm
      dsimp only at h ⊢
      unfold acceptAnswer at h ⊢
      split
      . rfl
      . next hid =>
        rw [if_neg hid] at h
        dsimp only at h
        rw [hinbound] at h
        dsimp only at h
        split at h <;> cases h

theorem alike_submitAnswer {now : UInt64} {order : List String} {answer : QuestionAnswerInput}
    {answerSummary : String} {error : AgentError}
    (hmemory : coordinator.runtimeState.Known jobId
      → M coordinator.runtimeState (coordinator.runtimeState.rebuildQuestion order jobId)
        (coordinator.pendingQuestions.lookup jobId))
    (hmarks : marks ∨ (¬coordinator.runtimeState.Known jobId
      → coordinator.Unmarked jobId answer answerSummary))
    (h : (coordinator.submitAnswer now order jobId answer answerSummary).1 = .error error)
    : Alike marks M jobId (coordinator.submitAnswer now order jobId answer answerSummary).2
        coordinator := by
  by_cases hknown : coordinator.runtimeState.Known jobId
  . rw [submitAnswer_of_known hknown h]
    exact alike_questionState hmemory
  . unfold submitAnswer at h ⊢
    rw [questionState_of_unknown hknown] at h ⊢
    cases hfound : coordinator.pendingQuestions.lookup jobId with
    | none => exact alike_refl
    | some question =>
      rw [hfound] at h
      dsimp only at h ⊢
      unfold acceptAnswer at h ⊢
      split
      . exact alike_refl
      . next hid =>
        rw [if_neg hid] at h
        dsimp only at h ⊢
        cases hinbound : question.inbound with
        | some inbound =>
          rw [hinbound] at h
          dsimp only at h
          split at h <;> cases h
        | none =>
          dsimp only
          refine ⟨rfl, rfl, fun other hother => AList.lookup_insert_ne hother, .inl ?_⟩
          rw [hfound, AList.lookup_insert]
          rcases hmarks with hmarks | hunmarked
          . refine .marked hmarks hinbound ?_
            unfold PendingQuestion.unmarked
            rw [hinbound]
          . have hsame := hunmarked hknown question hfound (not_not.mp hid) hinbound
            unfold PendingQuestion.answered at hsame
            rw [hinbound] at hsame
            rw [hsame]
            exact .same _

end Failing

theorem acceptAnswer_congr (now : UInt64) (coordinator : SuspensionCoordinator) (jobId : String)
    (answer : QuestionAnswerInput) (answerSummary : String) {p q : PendingQuestion}
    (h : p.unmarked = q.unmarked)
    : coordinator.acceptAnswer now jobId answer answerSummary p
        = coordinator.acceptAnswer now jobId answer answerSummary q := by
  cases p
  cases q
  unfold PendingQuestion.unmarked at h
  cases h
  rfl

section Later

variable {marks : Prop}
variable {M : RuntimeStateSnapshot → Option PendingQuestion → Option PendingQuestion → Prop}
variable (hM : ∀ state later a b, state.Grows later → M state a b → M later a b)
variable {a b : SuspensionCoordinator} {jobId : String} (h : Alike marks M jobId a b)

include h

theorem Alike.eq_with : a = { b with pendingQuestions := a.pendingQuestions } := by
  have hstate := h.runtimeState
  have hsuspended := h.suspended
  cases a
  cases b
  dsimp only at hstate hsuspended ⊢
  rw [hstate, hsuspended]

include hM

theorem Alike.of_frame {act : SuspensionCoordinator → SuspensionCoordinator}
    (hframe : ∀ coordinator pendingQuestions, act { coordinator with pendingQuestions }
      = { act coordinator with pendingQuestions })
    (hgrows : ∀ coordinator : SuspensionCoordinator,
      coordinator.runtimeState.Grows (act coordinator).runtimeState)
    : Alike marks M jobId (act a) (act b) := by
  have ha : act a = { act b with pendingQuestions := a.pendingQuestions } := by
    rw [h.eq_with]
    exact hframe b a.pendingQuestions
  have hb : act b = { act b with pendingQuestions := b.pendingQuestions } :=
    hframe b b.pendingQuestions
  rw [ha, hb]
  refine ⟨rfl, rfl, h.others, ?_⟩
  rcases h.remembered with hsame | ⟨hknown, hmemory⟩
  . exact .inl hsame
  . exact .inr ⟨(hgrows b).known jobId hknown, hM _ _ _ _ (hgrows b) hmemory⟩

omit hM

theorem Alike.setQuestions (other : String) {p q : AList fun _ : String => PendingQuestion}
    (hsame : p.lookup other = q.lookup other)
    (hp : ∀ job, job ≠ other → p.lookup job = a.pendingQuestions.lookup job)
    (hq : ∀ job, job ≠ other → q.lookup job = b.pendingQuestions.lookup job)
    : Alike marks M jobId { a with pendingQuestions := p } { b with pendingQuestions := q } := by
  refine ⟨h.runtimeState, h.suspended, ?_, ?_⟩
  . intro job hjob
    by_cases heq : job = other
    . rw [heq, hsame]
    . rw [hp job heq, hq job heq, h.others job hjob]
  . by_cases heq : jobId = other
    . subst heq
      rw [hsame]
      exact .inl (.same _)
    . rw [hp jobId heq, hq jobId heq]
      exact h.remembered

theorem Alike.insert (other : String) (question : PendingQuestion)
    : Alike marks M jobId { a with pendingQuestions := a.pendingQuestions.insert other question }
        { b with pendingQuestions := b.pendingQuestions.insert other question } := by
  apply h.setQuestions other
  . rw [AList.lookup_insert, AList.lookup_insert]
  . exact fun _ hjob => AList.lookup_insert_ne hjob
  . exact fun _ hjob => AList.lookup_insert_ne hjob

theorem Alike.erase (other : String)
    : Alike marks M jobId { a with pendingQuestions := a.pendingQuestions.erase other }
        { b with pendingQuestions := b.pendingQuestions.erase other } := by
  apply h.setQuestions other
  . rw [AList.lookup_erase, AList.lookup_erase]
  . exact fun _ hjob => AList.lookup_erase_ne hjob
  . exact fun _ hjob => AList.lookup_erase_ne hjob

include hM

theorem Alike.write (upsert : RuntimeUpsert)
    : Alike marks M jobId { a with runtimeState := a.runtimeState.apply upsert }
        { b with runtimeState := b.runtimeState.apply upsert } := by
  refine @Alike.of_frame marks M hM a b jobId h
    (fun c => { c with runtimeState := c.runtimeState.apply upsert }) ?_ ?_
  . intro coordinator pendingQuestions
    rfl
  . intro coordinator
    exact grows_apply coordinator.runtimeState upsert

theorem Alike.storeQuestion (now : UInt64) (other : String) (question : PendingQuestion)
    : Alike marks M jobId (a.storeQuestion now other question) (b.storeQuestion now other question) := by
  unfold SuspensionCoordinator.storeQuestion
  dsimp only
  cases question.inbound with
  | none => exact h.insert other question
  | some inbound =>
    exact ((h.write hM (.task now inbound _ .suspended question.prompt none)).write hM
      (.suspension now inbound question _ _ _ .active)).insert other question

theorem Alike.storeToolInvocation (now : UInt64) (questionId : String)
    (state : SuspendedToolInvocationState)
    : Alike marks M jobId (a.storeToolInvocation now questionId state)
        (b.storeToolInvocation now questionId state) := by
  refine @Alike.of_frame marks M hM a b jobId h
    (fun c => c.storeToolInvocation now questionId state) ?_ ?_
  . intro coordinator pendingQuestions
    rfl
  . intro coordinator
    have htask := grows_apply coordinator.runtimeState (.task now state.inbound .toolPermission
      .suspended ("awaiting permission for tool " ++ state.toolName) none)
    have hsuspension := grows_apply (coordinator.runtimeState.upsertTask now state.inbound
      .toolPermission .suspended ("awaiting permission for tool " ++ state.toolName) none)
      (.suspension now state.inbound
        (toolPermissionQuestion now questionId (runtimeMessageId state.inbound) state
          (toolPermissionPayload state))
      (some (runtimeTaskId (runtimeMessageId state.inbound) .toolPermission))
      (some state.invocationId) .toolPermission .active)
    exact (htask.trans hsuspension).trans (grows_apply _ (.toolInvocation state.inbound
      state.suspension.suspendedTool.invocation state.inputPreview))

theorem Alike.toolInvocationState (questionId : String)
    : Alike marks M jobId (a.toolInvocationState questionId).2 (b.toolInvocationState questionId).2 := by
  refine @Alike.of_frame marks M hM a b jobId h (fun c => (c.toolInvocationState questionId).2) ?_ ?_
  . intro coordinator pendingQuestions
    unfold SuspensionCoordinator.toolInvocationState
    dsimp only
    split
    . split
      . rfl
      . rfl
    . rfl
  . intro coordinator
    rw [runtimeState_toolInvocationState]
    exact Grows.refl _

theorem Alike.clearToolInvocation (now : UInt64) (questionId : String)
    : Alike marks M jobId (a.clearToolInvocation now questionId)
        (b.clearToolInvocation now questionId) := by
  refine @Alike.of_frame marks M hM a b jobId h (fun c => c.clearToolInvocation now questionId) ?_ ?_
  . intro coordinator pendingQuestions
    dsimp only
    unfold SuspensionCoordinator.clearToolInvocation
    dsimp only
    split
    . rfl
    . rfl
  . intro coordinator
    unfold SuspensionCoordinator.clearToolInvocation
    dsimp only
    split
    . exact Grows.refl _
    . next state _ => exact grows_apply _ (.suspension now state.inbound _ _ _ _ _)

theorem Alike.clearedOf (now : UInt64) (other : String) (found : Option PendingQuestion)
    : Alike marks M jobId
        { a with
          pendingQuestions := a.pendingQuestions.erase other
          runtimeState := a.runtimeState.clearedOf now other found }
        { b with
          pendingQuestions := b.pendingQuestions.erase other
          runtimeState := b.runtimeState.clearedOf now other found } := by
  refine @Alike.of_frame marks M hM _ _ jobId (h.erase other)
    (fun c => { c with runtimeState := c.runtimeState.clearedOf now other found }) ?_ ?_
  . intro coordinator pendingQuestions
    rfl
  . intro coordinator
    exact grows_clearedOf now other found coordinator.runtimeState

theorem Alike.clearQuestion (now : UInt64) (order : List String) {other : String}
    (hother : other ≠ jobId)
    : Alike marks M jobId (a.clearQuestion now order other) (b.clearQuestion now order other) := by
  rw [clearQuestion_eq, clearQuestion_eq, h.others other hother]
  have hrebuilt : a.runtimeState.rebuildQuestion order other
      = b.runtimeState.rebuildQuestion order other := by
    rw [h.runtimeState]
  rw [hrebuilt]
  exact h.clearedOf hM now other _

omit hM

theorem Alike.questionState (order : List String) (other : String) (hydrateCache : Bool)
    : SameMemory marks (a.questionState order other hydrateCache).1
          (b.questionState order other hydrateCache).1
        ∧ Alike marks M jobId (a.questionState order other hydrateCache).2
          (b.questionState order other hydrateCache).2 := by
  by_cases hknown : b.runtimeState.Known other
  . have hknown' : a.runtimeState.Known other := by
      rw [h.runtimeState]
      exact hknown
    have hrebuilt : a.runtimeState.rebuildQuestion order other
        = b.runtimeState.rebuildQuestion order other := by
      rw [h.runtimeState]
    unfold Known at hknown hknown'
    unfold SuspensionCoordinator.questionState
    rw [if_pos hknown, if_pos hknown', hrebuilt]
    cases b.runtimeState.rebuildQuestion order other with
    | none => exact ⟨.same _, h.erase other⟩
    | some question =>
      cases hydrateCache with
      | false => exact ⟨.same _, h⟩
      | true => exact ⟨.same _, h.insert other question⟩
  . have hknown' : ¬a.runtimeState.Known other := by
      rw [h.runtimeState]
      exact hknown
    rw [questionState_of_unknown hknown, questionState_of_unknown hknown']
    refine ⟨?_, h⟩
    by_cases heq : other = jobId
    . subst heq
      exact h.remembered.resolve_right (fun hjob => hknown hjob.1)
    . rw [h.others other heq]
      exact .same _

include hM

theorem Alike.acceptAnswer (now : UInt64) (other : String) (answer : QuestionAnswerInput)
    (answerSummary : String) (question : PendingQuestion)
    : (let taken := a.acceptAnswer now other answer answerSummary question
      let taken' := b.acceptAnswer now other answer answerSummary question
      taken.1 = taken'.1 ∧ Alike marks M jobId taken.2 taken'.2
        ∧ ∀ pending, taken'.1 = .ok pending
          → taken.2.pendingQuestions.lookup other = taken'.2.pendingQuestions.lookup other) := by
  have hinsert := h.insert other (question.answered answer answerSummary)
  have hsame : (a.pendingQuestions.insert other (question.answered answer answerSummary)).lookup other
      = (b.pendingQuestions.insert other (question.answered answer answerSummary)).lookup other := by
    rw [AList.lookup_insert, AList.lookup_insert]
  unfold SuspensionCoordinator.acceptAnswer
  dsimp only
  split
  . exact ⟨rfl, h, fun pending hok => by cases hok⟩
  . split
    . exact ⟨rfl, hinsert, fun pending hok => by cases hok⟩
    . next inbound _ =>
      split
      . exact ⟨rfl, hinsert, fun _ _ => hsame⟩
      . refine ⟨rfl, ?_, fun _ _ => hsame⟩
        exact (hinsert.write hM (.suspension now inbound _ _ none _ .resolved)).write hM
          (.task now inbound .question .completed _ none)

theorem Alike.submitAnswer (now : UInt64) (order : List String) (other : String)
    (answer : QuestionAnswerInput) (answerSummary : String)
    : (let taken := a.submitAnswer now order other answer answerSummary
      let taken' := b.submitAnswer now order other answer answerSummary
      taken.1 = taken'.1 ∧ Alike marks M jobId taken.2 taken'.2
        ∧ ∀ pending, taken'.1 = .ok pending
          → taken.2.pendingQuestions.lookup other = taken'.2.pendingQuestions.lookup other) := by
  obtain ⟨hmemory, hread⟩ := h.questionState order other true
  unfold SuspensionCoordinator.submitAnswer
  generalize a.questionState order other true = read at hmemory hread
  generalize b.questionState order other true = read' at hmemory hread
  obtain ⟨found, a'⟩ := read
  obtain ⟨found', b'⟩ := read'
  dsimp only at hmemory hread ⊢
  cases hmemory with
  | same found =>
    cases found with
    | none => exact ⟨rfl, hread, fun pending hok => by cases hok⟩
    | some question => exact hread.acceptAnswer hM now other answer answerSummary question
  | marked _ _ hunmarked =>
    dsimp only
    rw [acceptAnswer_congr now a' other answer answerSummary hunmarked]
    exact hread.acceptAnswer hM now other answer answerSummary _

theorem Alike.perform (format : PlanFormat) (now : UInt64) (action : SuspensionAction)
    (hclear : ∀ order, action = .clearQuestion order jobId
      → Alike marks M jobId (a.clearQuestion now order jobId) (b.clearQuestion now order jobId))
    : Alike marks M jobId (a.perform now format action) (b.perform now format action) := by
  cases action with
  | ask asked =>
    unfold SuspensionCoordinator.perform
    dsimp only
    rw [asked.store_eq, asked.store_eq]
    exact h.storeQuestion hM now _ _
  | storeToolInvocation questionId state => exact h.storeToolInvocation hM now questionId state
  | readQuestion order other hydrateCache => exact (h.questionState order other hydrateCache).2
  | readToolInvocation questionId => exact h.toolInvocationState hM questionId
  | submitAnswer order other answer answerSummary =>
    exact (h.submitAnswer hM now order other answer answerSummary).2.1
  | clearQuestion order other =>
    by_cases heq : other = jobId
    . subst heq
      exact hclear order rfl
    . exact h.clearQuestion hM now order heq
  | clearToolInvocation questionId => exact h.clearToolInvocation hM now questionId
  | write upsert => exact h.write hM upsert

end Later

/-- What is done later leaves the same runtime state, and every answer after it is taken alike. -/
structure AnswersAlike (format : PlanFormat) (a b : SuspensionCoordinator)
    (later : List (UInt64 × SuspensionAction))
    : Prop where
  runtimeState : (a.performAll format later).runtimeState = (b.performAll format later).runtimeState
  answers : ∀ now order jobId answer answerSummary, SameAnswer jobId
    ((a.performAll format later).submitAnswer now order jobId answer answerSummary)
    ((b.performAll format later).submitAnswer now order jobId answer answerSummary)

/-- The coordinators cannot be told apart by what is done later, nor by the question that is read. -/
structure GoesOnAlike (format : PlanFormat) (a b : SuspensionCoordinator)
    (later : List (UInt64 × SuspensionAction))
    : Prop extends AnswersAlike format a b later where
  reads : ∀ order jobId hydrateCache,
    ((a.performAll format later).questionState order jobId hydrateCache).1
      = ((b.performAll format later).questionState order jobId hydrateCache).1

section Later

variable {marks : Prop}
variable {M : RuntimeStateSnapshot → Option PendingQuestion → Option PendingQuestion → Prop}
variable {a b : SuspensionCoordinator} {jobId : String}

theorem Alike.performAll (hM : ∀ state later a b, state.Grows later → M state a b → M later a b)
    (format : PlanFormat) (later : List (UInt64 × SuspensionAction))
    (hclear : ∀ now order, (now, .clearQuestion order jobId) ∈ later
      → ∀ a b, Alike marks M jobId a b
        → Alike marks M jobId (a.clearQuestion now order jobId) (b.clearQuestion now order jobId))
    (h : Alike marks M jobId a b)
    : Alike marks M jobId (a.performAll format later) (b.performAll format later) := by
  induction later generalizing a b with
  | nil => exact h
  | cons action rest ih =>
    refine ih (fun now order hmem => hclear now order (List.mem_cons_of_mem _ hmem))
      (h.perform hM format action.1 action.2 ?_)
    intro order heq
    refine hclear action.1 order ?_ a b h
    rw [← heq]
    exact List.mem_cons_self ..

theorem Alike.answersAlike (hM : ∀ state later a b, state.Grows later → M state a b → M later a b)
    {format : PlanFormat} {later : List (UInt64 × SuspensionAction)}
    (h : Alike marks M jobId (a.performAll format later) (b.performAll format later))
    : AnswersAlike format a b later := by
  refine ⟨h.runtimeState, ?_⟩
  intro now order other answer answerSummary
  obtain ⟨hresult, htaken, hremembered⟩ := h.submitAnswer hM now order other answer answerSummary
  exact ⟨hresult, htaken.runtimeState, htaken.suspended, hremembered⟩

theorem Alike.clear (h : Alike marks SameClearing jobId a b) (now : UInt64) (order : List String)
    : Alike marks SameClearing jobId (a.clearQuestion now order jobId)
      (b.clearQuestion now order jobId) := by
  have hcleared := h.clearedOf (fun _ _ _ _ hgrows h => h.grows hgrows) now jobId
    ((b.pendingQuestions.lookup jobId).or (b.runtimeState.rebuildQuestion order jobId))
  have hsame : b.runtimeState.clearedOf now jobId ((a.pendingQuestions.lookup jobId).or
        (b.runtimeState.rebuildQuestion order jobId))
      = b.runtimeState.clearedOf now jobId ((b.pendingQuestions.lookup jobId).or
        (b.runtimeState.rebuildQuestion order jobId)) := by
    rcases h.remembered with hsame | ⟨_, hsame⟩
    . exact hsame.clearedOf_eq b.runtimeState now jobId _
    . exact hsame.clearedOf_eq now jobId _
  rw [clearQuestion_eq, clearQuestion_eq]
  rw [h.runtimeState] at hcleared ⊢
  rw [hsame]
  exact hcleared

end Later

section Clearing

def suspendedTool (jobId : String) : SuspendedToolInvocationState where
  suspension :=
    { suspendedTool :=
        { toolUseId := "tu_1"
          toolName := "echo"
          toolInput := .object []
          permissionRequest :=
            { toolName := "echo"
              prompt := "run echo?"
              options := ["allow", "deny"]
              riskLevel := .high
              requiresUserConfirmation := true
              rawInput := .object []
              inputPreview := "" }
          invocation := .new 0 "toolinv_1" "echo" (some "tu_1") }
      messages := []
      iterations := 0
      compactCount := 0 }
  inbound := { AskedQuestion.askingMessage with id := jobId }
  opencodeSessionId := "session_1"

def toolAsked (jobId questionId : String) : List (UInt64 × SuspensionAction) :=
  [(0, .write (.turn 0 (suspendedTool jobId).inbound "initial" .running)),
    (0, .storeToolInvocation questionId (suspendedTool jobId))]

variable (format : PlanFormat) (jobId questionId : String) (coordinator : SuspensionCoordinator)

theorem runtimeState_toolAsked {other : SuspensionCoordinator}
    (h : coordinator.runtimeState = other.runtimeState)
    : (coordinator.performAll format (toolAsked jobId questionId)).runtimeState
        = (other.performAll format (toolAsked jobId questionId)).runtimeState := by
  cases coordinator
  cases other
  cases h
  rfl

theorem rebuildQuestion_toolAsked
    : (let state := (coordinator.performAll format (toolAsked jobId questionId)).runtimeState
      ∃ question, state.rebuildQuestion state.suspensions.keys jobId = some question
        ∧ question.questionId = questionId
        ∧ (state.suspensions.lookup (runtimeSuspensionId questionId)).map SuspensionRecord.status
          = some .active) := by
  intro state
  have hrun : ∃ run, state.runs.lookup (runtimeRunId jobId) = some run
      ∧ run.runId = runtimeRunId jobId := by
    exact ⟨_, AList.lookup_insert .., rfl⟩
  have hsuspension : ∃ record,
      state.suspensions.lookup (runtimeSuspensionId questionId) = some record
        ∧ record.runId = runtimeRunId jobId ∧ record.status = .active
        ∧ record.questionId = some questionId := by
    exact ⟨_, AList.lookup_insert .., rfl, rfl, rfl⟩
  have hkeys : ∃ rest, state.suspensions.keys = runtimeSuspensionId questionId :: rest := by
    exact ⟨_, AList.keys_insert ..⟩
  obtain ⟨run, hrun, hrunId⟩ := hrun
  obtain ⟨record, hrecord, hsame, hactive, hquestion⟩ := hsuspension
  obtain ⟨rest, hkeys⟩ := hkeys
  have hfirst : ((state.suspensions.keys.filterMap (state.suspensions.lookup ·)).filter
      (fun record => record.runId == run.runId)).find? (fun record => record.status = .active)
        = some record := by
    rw [hkeys, List.filterMap_cons, hrecord, hrunId]
    dsimp only
    rw [List.filter_cons_of_pos (by simp [hsame]), List.find?_cons_of_pos (by simp [hactive])]
  have hrebuilt : ∃ question, state.rebuildQuestion state.suspensions.keys jobId = some question
      ∧ question.questionId = questionId := by
    unfold rebuildQuestion
    rw [hrun, Option.bind_eq_bind, Option.bind_some, hfirst, Option.bind_eq_bind, Option.bind_some,
      hquestion]
    exact ⟨_, rfl, rfl⟩
  obtain ⟨question, hrebuilt, hid⟩ := hrebuilt
  refine ⟨question, hrebuilt, hid, ?_⟩
  rw [hrecord, Option.map_some, hactive]

theorem clearedWith_toolAsked {question : PendingQuestion} {inbound : InboundMessage}
    {state cleared : RuntimeStateSnapshot} (hid : question.questionId = questionId)
    (hactive : (state.suspensions.lookup (runtimeSuspensionId questionId)).map
      SuspensionRecord.status = some .active)
    (hkept : cleared.suspensions.lookup (runtimeSuspensionId questionId)
      = state.suspensions.lookup (runtimeSuspensionId questionId))
    : cleared ≠ state.clearedWith 0 jobId question inbound := by
  intro heq
  have hcleared := lookup_clearedWith 0 jobId question inbound state
  rw [hid, ← heq, hkept] at hcleared
  rw [hcleared, Option.map_some, Option.some_inj] at hactive
  cases hactive

end Clearing

theorem performAll_append (format : PlanFormat) (coordinator : SuspensionCoordinator)
    (earlier later : List (UInt64 × SuspensionAction))
    : (coordinator.performAll format earlier).performAll format later
        = coordinator.performAll format (earlier ++ later) := by
  exact List.foldl_append.symm

section Exact

variable {format : PlanFormat} {a b : SuspensionCoordinator} (jobId : String)
variable (hstate : a.runtimeState = b.runtimeState) (h : ∀ later, AnswersAlike format a b later)

include hstate h

theorem clearedOf_of_answersAlike (now : UInt64) (order : List String)
    : (let rebuilt := b.runtimeState.rebuildQuestion order jobId
      b.runtimeState.clearedOf now jobId ((a.pendingQuestions.lookup jobId).or rebuilt)
        = b.runtimeState.clearedOf now jobId ((b.pendingQuestions.lookup jobId).or rebuilt)) := by
  have hcleared := (h [(now, .clearQuestion order jobId)]).runtimeState
  change (a.clearQuestion now order jobId).runtimeState
    = (b.clearQuestion now order jobId).runtimeState at hcleared
  rw [clearQuestion_eq, clearQuestion_eq, hstate] at hcleared
  exact hcleared

theorem clearedOf_toolAsked (questionId : String)
    : ∃ (state : RuntimeStateSnapshot) (question : PendingQuestion) (inbound : InboundMessage),
        question.inbound = some inbound
          ∧ state.clearedOf 0 jobId ((a.pendingQuestions.lookup jobId).or (some question))
            = state.clearedOf 0 jobId ((b.pendingQuestions.lookup jobId).or (some question))
          ∧ ∀ cleared : RuntimeStateSnapshot,
            cleared.suspensions.lookup (runtimeSuspensionId questionId)
                = state.suspensions.lookup (runtimeSuspensionId questionId)
              → cleared ≠ state.clearedWith 0 jobId question inbound := by
  obtain ⟨question, hrebuilt, hid, hactive⟩ :=
    rebuildQuestion_toolAsked format jobId questionId b
  obtain ⟨inbound, hinbound⟩ := inbound_rebuildQuestion hrebuilt
  have hasked := runtimeState_toolAsked format jobId questionId a hstate
  have hlater : ∀ later, AnswersAlike format (a.performAll format (toolAsked jobId questionId))
      (b.performAll format (toolAsked jobId questionId)) later := by
    intro later
    refine ⟨?_, fun now order other answer answerSummary => ?_⟩
    . rw [performAll_append, performAll_append]
      exact (h _).runtimeState
    . rw [performAll_append, performAll_append]
      exact (h _).answers now order other answer answerSummary
  have hcleared := clearedOf_of_answersAlike jobId hasked hlater 0
    (b.performAll format (toolAsked jobId questionId)).runtimeState.suspensions.keys
  dsimp only at hcleared
  rw [hrebuilt] at hcleared
  exact ⟨_, question, inbound, hinbound, hcleared,
    fun _ hkept => clearedWith_toolAsked jobId questionId hid hactive hkept⟩

theorem sameClearing_of_answersAlike {order : List String}
    (hmemory : a.pendingQuestions.lookup jobId = b.runtimeState.rebuildQuestion order jobId)
    : SameClearing b.runtimeState (a.pendingQuestions.lookup jobId)
        (b.pendingQuestions.lookup jobId) := by
  have hcleared : ∀ now, b.runtimeState.clearedOf now jobId (a.pendingQuestions.lookup jobId)
      = b.runtimeState.clearedOf now jobId
        ((b.pendingQuestions.lookup jobId).or (a.pendingQuestions.lookup jobId)) := by
    intro now
    have hcleared := clearedOf_of_answersAlike jobId hstate h now order
    dsimp only at hcleared
    rw [← hmemory, Option.or_self] at hcleared
    exact hcleared
  have hasked := clearedOf_toolAsked jobId hstate h
  cases hfailed : a.pendingQuestions.lookup jobId with
  | none =>
    rw [hfailed] at hcleared hasked
    cases hbefore : b.pendingQuestions.lookup jobId with
    | none => exact .nothing
    | some question =>
      rw [hbefore] at hcleared hasked
      cases hinbound : question.inbound with
      | some inbound =>
        -- only the remembered question is cleared
        refine (@clearedWith_time b.runtimeState jobId question inbound
          (b.runtimeState.suspensions.lookup (runtimeSuspensionId question.questionId))
            fun now => ?_).elim
        rw [← clearedOf_of_inbound hinbound now jobId, ← Option.some_or, ← hcleared now]
        rfl
      | none =>
        -- the remembered question hides the one for the tool, and is not recorded
        obtain ⟨state, asked, inbound, hasked, heq, hne⟩ := hasked question.questionId
        rw [Option.none_or, Option.some_or, clearedOf_of_inbound hasked,
          clearedOf_of_silent hinbound] at heq
        exact (hne state rfl heq.symm).elim
  | some rebuilt =>
    obtain ⟨i, hi⟩ := inbound_rebuildQuestion (hmemory.symm.trans hfailed)
    rw [hfailed] at hcleared hasked
    cases hbefore : b.pendingQuestions.lookup jobId with
    | none =>
      -- the question remembered anew hides the one for the tool
      rw [hbefore] at hasked
      obtain ⟨state, asked, inbound, hasked, heq, hne⟩ := hasked (rebuilt.questionId ++ "_tool")
      rw [Option.none_or, Option.some_or, clearedOf_of_inbound hasked,
        clearedOf_of_inbound hi] at heq
      refine (hne _ (lookup_clearedWith_ne ?_) heq).elim
      rw [Ne, runtimeSuspensionId_inj]
      intro hsame
      have hlength := congrArg String.length hsame
      rw [String.length_append] at hlength
      have hpositive : "_tool".length = 5 := rfl
      omega
    | some question =>
      rw [hbefore] at hcleared
      simp only [Option.some_or, clearedOf_of_inbound hi] at hcleared
      cases hinbound : question.inbound with
      | some inbound =>
        refine .alike hi hinbound (@clearedAlike_of_eq b.runtimeState jobId _ _ _ _ fun now => ?_)
        rw [hcleared now, clearedOf_of_inbound hinbound]
      | none =>
        -- only the question remembered anew is cleared
        refine (@clearedWith_time b.runtimeState jobId rebuilt i
          (b.runtimeState.suspensions.lookup (runtimeSuspensionId rebuilt.questionId))
            fun now => ?_).elim
        rw [hcleared now, clearedOf_of_silent hinbound]

end Exact

/-- Clearing the question of a known job writes the same, remembered or read anew. -/
def ClearsAlike (coordinator : SuspensionCoordinator) (order : List String) (jobId : String) : Prop :=
  coordinator.runtimeState.Known jobId
    → SameClearing coordinator.runtimeState
      (coordinator.runtimeState.rebuildQuestion order jobId)
      (coordinator.pendingQuestions.lookup jobId)

section Neutral

variable {coordinator : SuspensionCoordinator} {now : UInt64} {order : List String} {jobId : String}
variable {answer : QuestionAnswerInput} {answerSummary : String}

theorem submitAnswer_of_silent {question : PendingQuestion}
    (hunknown : ¬coordinator.runtimeState.Known jobId)
    (hfound : coordinator.pendingQuestions.lookup jobId = some question)
    (hid : question.questionId = answer.questionId) (hinbound : question.inbound = none)
    : (coordinator.submitAnswer now order jobId answer answerSummary).2
        = { coordinator with
          pendingQuestions := coordinator.pendingQuestions.insert jobId
            (question.answered answer answerSummary) } := by
  unfold submitAnswer
  rw [questionState_of_unknown hunknown, hfound]
  dsimp only
  unfold acceptAnswer
  rw [if_neg (not_not.mpr hid)]
  dsimp only
  rw [hinbound]
  unfold PendingQuestion.answered
  rw [hinbound]

end Neutral

def missedAnswer : QuestionAnswerInput where
  questionId := "question_2"
  source := "user"
  answerType := "text"
  answer := "a.txt"

/-- The question has been answered, and is answered once more before it is cleared. -/
def repeatedAnswer : QuestionAnswerInput where
  questionId := "question_1"
  source := "user"
  answerType := "text"
  answer := "b.txt"

end SuspensionCoordinator

end AnimaAgent
