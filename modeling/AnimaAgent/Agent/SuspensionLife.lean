import AnimaAgent.Agent.QuestionRoundTrip
import AnimaAgent.Library.Runs

namespace AnimaAgent

structure SameSuspension (earlier later : SuspensionRecord) : Prop where
  kind : later.kind = earlier.kind
  questionId : later.questionId = earlier.questionId
  invocationId : later.invocationId = earlier.invocationId

namespace RuntimeStateSnapshot

def KeepsSuspensions (a b : RuntimeStateSnapshot) : Prop :=
  ∀ id record, a.suspensions.lookup id = some record
    → ∃ record', b.suspensions.lookup id = some record' ∧ SameSuspension record record'

theorem KeepsSuspensions.refl (snapshot : RuntimeStateSnapshot) : KeepsSuspensions snapshot snapshot := by
  intro id record h
  exact ⟨record, h, rfl, rfl, rfl⟩

theorem KeepsSuspensions.trans {a b c : RuntimeStateSnapshot} (hab : KeepsSuspensions a b)
    (hbc : KeepsSuspensions b c)
    : KeepsSuspensions a c := by
  intro id record h
  obtain ⟨record', h', hsame⟩ := hab id record h
  obtain ⟨record'', h'', hsame'⟩ := hbc id record' h'
  refine ⟨record'', h'', ?_, ?_, ?_⟩
  . rw [hsame'.kind, hsame.kind]
  . rw [hsame'.questionId, hsame.questionId]
  . rw [hsame'.invocationId, hsame.invocationId]

def Known (snapshot : RuntimeStateSnapshot) (jobId : String) : Prop :=
  (snapshot.index.runIdsByJobId.lookup jobId).isSome

instance (snapshot : RuntimeStateSnapshot) (jobId : String) : Decidable (snapshot.Known jobId) :=
  inferInstanceAs (Decidable ((snapshot.index.runIdsByJobId.lookup jobId).isSome = true))

structure OneActive (snapshot : RuntimeStateSnapshot) : Prop where
  unique : ∀ runId id record id' record', snapshot.ActiveIn runId id record
    → snapshot.ActiveIn runId id' record' → id' = id
  known : ∀ runId id record, snapshot.ActiveIn runId id record
    → ∃ jobId, runId = runtimeRunId jobId ∧ snapshot.Known jobId

def Fits (snapshot : RuntimeStateSnapshot) (questionId : String) (invocationId : Option String)
    (kind : SuspensionKind)
    : Prop :=
  ∀ record, snapshot.suspensions.lookup (runtimeSuspensionId questionId) = some record
    → record.kind = kind ∧ record.invocationId = invocationId

def MayAsk (snapshot : RuntimeStateSnapshot) (inbound : InboundMessage) (questionId : String)
    : Prop :=
  snapshot.Known inbound.id
    ∧ ∀ id record, snapshot.ActiveIn (runtimeRunId inbound.id) id record
      → id = runtimeSuspensionId questionId

def Sound (snapshot : RuntimeStateSnapshot) : RuntimeUpsert → Prop
  | .suspension _ inbound question _ invocationId kind status =>
    snapshot.Fits question.questionId invocationId kind
      ∧ (status = .active → snapshot.MayAsk inbound question.questionId)
  | _ => True

section Frame

variable {a b : RuntimeStateSnapshot} (hsame : b.suspensions = a.suspensions)

include hsame

theorem activeIn_congr (runId id : String) (record : SuspensionRecord)
    : b.ActiveIn runId id record ↔ a.ActiveIn runId id record := by
  unfold ActiveIn
  rw [hsame]

theorem keepsSuspensions_of_eq : KeepsSuspensions a b := by
  unfold KeepsSuspensions
  rw [hsame]
  exact KeepsSuspensions.refl a

theorem OneActive.congr (h : OneActive a) (hknown : ∀ jobId, a.Known jobId → b.Known jobId)
    : OneActive b := by
  constructor
  . intro runId id record id' record' hactive hactive'
    rw [activeIn_congr hsame] at hactive hactive'
    exact h.unique runId id record id' record' hactive hactive'
  . intro runId id record hactive
    rw [activeIn_congr hsame] at hactive
    obtain ⟨jobId, hrun, hjob⟩ := h.known runId id record hactive
    exact ⟨jobId, hrun, hknown jobId hjob⟩

end Frame

section Writes

variable (now : UInt64) (inbound : InboundMessage) {snapshot : RuntimeStateSnapshot}

theorem known_upsertRun {jobId : String} (h : snapshot.Known jobId) (status : RunStatus)
    (turnId : Option String)
    : (snapshot.upsertRun now inbound status turnId).Known jobId := by
  change ((snapshot.index.runIdsByJobId.insert inbound.id _).lookup jobId).isSome
  by_cases heq : jobId = inbound.id
  . subst heq
    rw [AList.lookup_insert]
    rfl
  . rw [AList.lookup_insert_ne heq]
    exact h

theorem known_upsertTurn {jobId : String} (h : snapshot.Known jobId) (source : String)
    (status : TurnStatus)
    : (snapshot.upsertTurn now inbound source status).Known jobId := by
  unfold upsertTurn
  apply known_upsertRun
  exact h

theorem Known.apply {jobId : String} (h : snapshot.Known jobId) (upsert : RuntimeUpsert)
    : (snapshot.apply upsert).Known jobId := by
  cases upsert with
  | turn now inbound source status => exact known_upsertTurn now inbound h source status
  | turnOfRun now inbound source status runStatus =>
    exact known_upsertRun now inbound (known_upsertTurn now inbound h source status) _ _
  | task now inbound phase status description error =>
    change ((RuntimeTaskIndex.addTask _ _).runIdsByJobId.lookup jobId).isSome
    rw [RuntimeTaskIndex.runIdsByJobId_addTask]
    exact h
  | suspension now inbound question taskId invocationId kind status =>
    change ((RuntimeTaskIndex.addSuspension _ _).runIdsByJobId.lookup jobId).isSome
    rw [RuntimeTaskIndex.runIdsByJobId_addSuspension]
    exact h
  | toolInvocation inbound invocation inputPreview => exact h
  | requirement requirement => exact h
  | projectionHint runId scope key value => exact h
  | message now inbound message => exact h

theorem keepsSuspensions_upsertSuspension (hconsistent : snapshot.Consistent)
    (question : PendingQuestion) (taskId : Option String) {invocationId : Option String}
    {kind : SuspensionKind} (status : SuspensionStatus)
    (hfits : snapshot.Fits question.questionId invocationId kind)
    : KeepsSuspensions snapshot
      (snapshot.upsertSuspension now inbound question taskId invocationId kind status) := by
  intro id record hlookup
  by_cases heq : id = runtimeSuspensionId question.questionId
  . subst heq
    obtain ⟨hkind, hinvocation⟩ := hfits record hlookup
    obtain ⟨questionId, hquestion, hid⟩ := hconsistent.questionId _ record hlookup
    refine ⟨_, AList.lookup_insert .., hkind.symm, ?_, hinvocation.symm⟩
    rw [hquestion, ← runtimeSuspensionId_inj.mp hid]
    rfl
  . exact ⟨record, (AList.lookup_insert_ne heq).trans hlookup, rfl, rfl, rfl⟩

theorem OneActive.upsertSuspension (h : OneActive snapshot) (question : PendingQuestion)
    (taskId invocationId : Option String) (kind : SuspensionKind) {status : SuspensionStatus}
    (hactive : status = .active → snapshot.MayAsk inbound question.questionId)
    : OneActive
      (snapshot.upsertSuspension now inbound question taskId invocationId kind status) := by
  -- an active suspension is the written one, or it was active before
  have hcases : ∀ runId id record, (snapshot.upsertSuspension now inbound question taskId
      invocationId kind status).ActiveIn runId id record
        → (id = runtimeSuspensionId question.questionId ∧ runId = runtimeRunId inbound.id
            ∧ snapshot.MayAsk inbound question.questionId)
          ∨ (id ≠ runtimeSuspensionId question.questionId
            ∧ snapshot.ActiveIn runId id record) := by
    rintro runId id record ⟨hlookup, hrun, hstatus⟩
    by_cases heq : id = runtimeSuspensionId question.questionId
    . subst heq
      rw [show (snapshot.upsertSuspension now inbound question taskId invocationId kind
        status).suspensions.lookup (runtimeSuspensionId question.questionId) = some _ from
          AList.lookup_insert ..] at hlookup
      cases hlookup
      exact .inl ⟨rfl, hrun.symm, hactive hstatus⟩
    . exact .inr ⟨heq, (AList.lookup_insert_ne heq).symm.trans hlookup, hrun, hstatus⟩
  constructor
  . intro runId id record id' record' hid hid'
    rcases hcases _ _ _ hid with ⟨rfl, rfl, hmay⟩ | ⟨hne, hold⟩
    . rcases hcases _ _ _ hid' with ⟨rfl, _⟩ | ⟨_, hold'⟩
      . rfl
      . exact hmay.2 id' record' hold'
    . rcases hcases _ _ _ hid' with ⟨rfl, rfl, hmay⟩ | ⟨_, hold'⟩
      . exact (hmay.2 id record hold).symm
      . exact h.unique runId id record id' record' hold hold'
  . intro runId id record hid
    have hknown : ∃ jobId, runId = runtimeRunId jobId ∧ snapshot.Known jobId := by
      rcases hcases _ _ _ hid with ⟨_, hrun, hmay⟩ | ⟨_, hold⟩
      . exact ⟨inbound.id, hrun, hmay.1⟩
      . exact h.known runId id record hold
    obtain ⟨jobId, hrun, hjob⟩ := hknown
    exact ⟨jobId, hrun, hjob.apply (.suspension now inbound question taskId invocationId kind
      status)⟩

theorem OneActive.apply (h : OneActive snapshot) {upsert : RuntimeUpsert}
    (hsound : snapshot.Sound upsert)
    : OneActive (snapshot.apply upsert) := by
  cases upsert with
  | suspension now inbound question taskId invocationId kind status =>
    exact h.upsertSuspension now inbound question taskId invocationId kind hsound.2
  | _ =>
    refine OneActive.congr ?_ h (fun jobId hjob => hjob.apply _)
    rfl

theorem keepsSuspensions_apply (hconsistent : snapshot.Consistent) {upsert : RuntimeUpsert}
    (hsound : snapshot.Sound upsert)
    : KeepsSuspensions snapshot (snapshot.apply upsert) := by
  cases upsert with
  | suspension now inbound question taskId invocationId kind status =>
    exact keepsSuspensions_upsertSuspension now inbound hconsistent question taskId status hsound.1
  | _ => exact keepsSuspensions_of_eq rfl

structure Follows (a b : RuntimeStateSnapshot) : Prop where
  consistent : b.Consistent
  oneActive : b.OneActive
  keeps : KeepsSuspensions a b
  known : ∀ jobId, a.Known jobId → b.Known jobId

theorem follows_refl (hconsistent : snapshot.Consistent) (hactive : snapshot.OneActive)
    : Follows snapshot snapshot := by
  exact ⟨hconsistent, hactive, KeepsSuspensions.refl snapshot, fun _ h => h⟩

theorem Follows.apply {a : RuntimeStateSnapshot} (h : Follows a snapshot) {upsert : RuntimeUpsert}
    (hsound : snapshot.Sound upsert)
    : Follows a (snapshot.apply upsert) := by
  constructor
  . exact h.consistent.apply upsert
  . exact h.oneActive.apply hsound
  . exact h.keeps.trans (keepsSuspensions_apply h.consistent hsound)
  . exact fun jobId hjob => (h.known jobId hjob).apply upsert

theorem Follows.task {a : RuntimeStateSnapshot} (h : Follows a snapshot) (phase : RuntimeTaskPhase)
    (status : TaskStatus) (description : String) (error : Option String)
    : Follows a (snapshot.upsertTask now inbound phase status description error) := by
  have hsound : snapshot.Sound (.task now inbound phase status description error) := trivial
  exact h.apply hsound

theorem Follows.toolInvocation {a : RuntimeStateSnapshot} (h : Follows a snapshot)
    (invocation : ToolInvocationRecord) (inputPreview : Option String)
    : Follows a (snapshot.upsertToolInvocation inbound invocation inputPreview) := by
  have hsound : snapshot.Sound (.toolInvocation inbound invocation inputPreview) := trivial
  exact h.apply hsound

theorem Follows.suspension {a : RuntimeStateSnapshot} (h : Follows a snapshot)
    (question : PendingQuestion) (taskId : Option String) (status : SuspensionStatus)
    {invocationId : Option String} {kind : SuspensionKind}
    (hfits : snapshot.Fits question.questionId invocationId kind)
    (hactive : status = .active → snapshot.MayAsk inbound question.questionId)
    : Follows a
      (snapshot.upsertSuspension now inbound question taskId invocationId kind status) := by
  have hsound : snapshot.Sound
      (.suspension now inbound question taskId invocationId kind status) := ⟨hfits, hactive⟩
  exact h.apply hsound

theorem MayAsk.upsertTask {questionId : String} {asking : InboundMessage}
    (h : snapshot.MayAsk asking questionId) (phase : RuntimeTaskPhase) (status : TaskStatus)
    (description : String) (error : Option String)
    : (snapshot.upsertTask now inbound phase status description error).MayAsk asking
      questionId := by
  exact ⟨h.1.apply (.task now inbound phase status description error), h.2⟩

end Writes

theorem Consistent.activeIn_of_questionState {coordinator : SuspensionCoordinator}
    (h : Consistent coordinator.runtimeState) {order : List String} {jobId : String}
    {hydrateCache : Bool} {question : PendingQuestion}
    (hknown : coordinator.runtimeState.Known jobId)
    (hread : (coordinator.questionState order jobId hydrateCache).1 = some question)
    : ∃ run record, coordinator.runtimeState.ActiveIn (runtimeRunId jobId)
          (runtimeSuspensionId question.questionId) record
        ∧ question = questionOf jobId run question.questionId record := by
  obtain ⟨run, hrun⟩ := Option.isSome_iff_exists.mp (h.run jobId hknown)
  rw [AskedQuestion.questionState_of_known hknown, rebuildQuestion_eq h order jobId hrun] at hread
  obtain ⟨record, hfind, hquestion⟩ := Option.bind_eq_some_iff.mp hread
  obtain ⟨questionId, hid, rfl⟩ := Option.map_eq_some_iff.mp hquestion
  obtain ⟨id, hactive⟩ := activeIn_of_activeSuspension hfind
  obtain ⟨questionId', hid', rfl⟩ := h.questionId id record hactive.1
  rw [hid] at hid'
  cases hid'
  exact ⟨run, record, hactive, rfl⟩

end RuntimeStateSnapshot

inductive SuspensionAction where
  | ask (asked : AskedQuestion)
  | storeToolInvocation (questionId : String) (state : SuspendedToolInvocationState)
  | readQuestion (order : List String) (jobId : String) (hydrateCache : Bool)
  | readToolInvocation (questionId : String)
  | submitAnswer (order : List String) (jobId : String) (answer : QuestionAnswerInput)
    (answerSummary : String)
  | clearQuestion (order : List String) (jobId : String)
  | clearToolInvocation (questionId : String)
  | write (upsert : RuntimeUpsert)

def PendingQuestionSourceKind.answeredKind : PendingQuestionSourceKind → SuspensionKind
  | subtaskBlocked => .subtaskBlocked
  | planApproval => .humanApproval
  | _ => .question

def PendingQuestionSourceKind.clearedKind (sourceKind : PendingQuestionSourceKind)
    : SuspensionKind :=
  if sourceKind = .subtaskBlocked then .subtaskBlocked else .question

namespace SuspensionCoordinator

open RuntimeStateSnapshot

variable (now : UInt64) (format : PlanFormat)

def perform (coordinator : SuspensionCoordinator) : SuspensionAction → SuspensionCoordinator
  | .ask asked => asked.store now format coordinator
  | .storeToolInvocation questionId state => coordinator.storeToolInvocation now questionId state
  | .readQuestion order jobId hydrateCache => (coordinator.questionState order jobId hydrateCache).2
  | .readToolInvocation questionId => (coordinator.toolInvocationState questionId).2
  | .submitAnswer order jobId answer answerSummary =>
    (coordinator.submitAnswer now order jobId answer answerSummary).2
  | .clearQuestion order jobId => coordinator.clearQuestion now order jobId
  | .clearToolInvocation questionId => coordinator.clearToolInvocation now questionId
  | .write upsert => { coordinator with runtimeState := coordinator.runtimeState.apply upsert }

def suspensionStep (coordinator : SuspensionCoordinator) (action : UInt64 × SuspensionAction)
    : Option SuspensionCoordinator :=
  some (coordinator.perform action.1 format action.2)

/--
A run has at most one active suspension, and its question is the one that `question_state` returns,
whatever the order of the suspensions.
-/
structure OneQuestion (coordinator : SuspensionCoordinator) : Prop where
  unique : ∀ jobId id record id' record',
    coordinator.runtimeState.ActiveIn (runtimeRunId jobId) id record
      → coordinator.runtimeState.ActiveIn (runtimeRunId jobId) id' record' → id' = id
  read : ∀ jobId order, order.Perm coordinator.runtimeState.suspensions.keys
    → ∀ hydrateCache questionId,
      (coordinator.questionState order jobId hydrateCache).1.map PendingQuestion.questionId
          = some questionId
        ↔ ∃ record, coordinator.runtimeState.ActiveIn (runtimeRunId jobId)
          (runtimeSuspensionId questionId) record

/-- What is asked, answered or cleared is a question of the kind that it is recorded as. -/
def Careful (coordinator : SuspensionCoordinator) : SuspensionAction → Prop
  | .ask asked =>
    let question := asked.pending now format
    coordinator.runtimeState.Known asked.jobId
      ∧ ∀ inbound, question.inbound = some inbound
        → coordinator.runtimeState.MayAsk inbound question.questionId
          ∧ coordinator.runtimeState.Fits question.questionId
            ((question.rawQuestion.get "invocation_id").bind Value.asStr)
            question.sourceKind.suspensionKind
  | .storeToolInvocation questionId state =>
    coordinator.runtimeState.MayAsk state.inbound questionId
      ∧ coordinator.runtimeState.Fits questionId (some state.invocationId) .toolPermission
  | .readQuestion .. => True
  | .readToolInvocation .. => True
  | .submitAnswer _ jobId answer _ =>
    ∀ record, coordinator.runtimeState.ActiveIn (runtimeRunId jobId)
        (runtimeSuspensionId answer.questionId) record
      → rebuiltSourceKind record ≠ .toolPermission
      → record.kind = (rebuiltSourceKind record).answeredKind ∧ record.invocationId = none
  | .clearQuestion order jobId =>
    ∀ question, (coordinator.pendingQuestions.lookup jobId).or
        (coordinator.runtimeState.rebuildQuestion order jobId) = some question
      → coordinator.runtimeState.Fits question.questionId none question.sourceKind.clearedKind
  | .clearToolInvocation questionId =>
    ∀ state, (coordinator.suspendedToolInvocations.lookup questionId).or
        (coordinator.runtimeState.rebuildToolInvocation questionId) = some state
      → coordinator.runtimeState.Fits questionId (some state.invocationId) .toolPermission
  | .write upsert => coordinator.runtimeState.Sound upsert

structure Settled (coordinator : SuspensionCoordinator) : Prop where
  consistent : coordinator.runtimeState.Consistent
  oneActive : coordinator.runtimeState.OneActive
  cached : ∀ jobId, (coordinator.pendingQuestions.lookup jobId).isSome
    → coordinator.runtimeState.Known jobId

theorem settled_empty : Settled {} := by
  refine ⟨consistent_empty, ⟨?_, ?_⟩, ?_⟩
  . rintro runId id record id' record' ⟨h, _⟩
    cases h
  . rintro runId id record ⟨h, _⟩
    cases h
  . intro jobId h
    cases h

theorem questionState_of_unknown {coordinator : SuspensionCoordinator} {jobId : String}
    (h : ¬coordinator.runtimeState.Known jobId) (order : List String) (hydrateCache : Bool)
    : coordinator.questionState order jobId hydrateCache
        = (coordinator.pendingQuestions.lookup jobId, coordinator) := by
  unfold Known at h
  unfold questionState
  rw [if_neg h]

section Read

variable {coordinator : SuspensionCoordinator} (h : Settled coordinator)

include h

theorem Settled.questionState_eq_some_iff {jobId questionId : String} {order : List String}
    (horder : order.Perm coordinator.runtimeState.suspensions.keys) (hydrateCache : Bool)
    : (coordinator.questionState order jobId hydrateCache).1.map PendingQuestion.questionId
          = some questionId
        ↔ ∃ record, coordinator.runtimeState.ActiveIn (runtimeRunId jobId)
          (runtimeSuspensionId questionId) record := by
  by_cases hknown : coordinator.runtimeState.Known jobId
  . obtain ⟨run, hrun⟩ := Option.isSome_iff_exists.mp (h.consistent.run jobId hknown)
    rw [AskedQuestion.questionState_of_known hknown, rebuildQuestion_eq h.consistent order jobId hrun]
    constructor
    . intro hread
      obtain ⟨question, hquestion, rfl⟩ := Option.map_eq_some_iff.mp hread
      obtain ⟨record, hfind, hquestion⟩ := Option.bind_eq_some_iff.mp hquestion
      obtain ⟨questionId, hid, rfl⟩ := Option.map_eq_some_iff.mp hquestion
      obtain ⟨id, hactive⟩ := activeIn_of_activeSuspension hfind
      obtain ⟨questionId', hid', rfl⟩ := h.consistent.questionId id record hactive.1
      rw [hid] at hid'
      cases hid'
      exact ⟨record, hactive⟩
    . rintro ⟨record, hactive⟩
      have hunique := fun id' record' =>
        h.oneActive.unique (runtimeRunId jobId) _ record id' record' hactive
      obtain ⟨questionId', hid', hkey⟩ := h.consistent.questionId _ record hactive.1
      rw [activeSuspension_of_unique hactive hunique horder, Option.bind_some, hid',
        runtimeSuspensionId_inj.mp hkey]
      rfl
  . have hnone : coordinator.pendingQuestions.lookup jobId = none := by
      have := mt (h.cached jobId) hknown
      rwa [Bool.not_eq_true, Option.isSome_eq_false_iff, Option.isNone_iff_eq_none] at this
    rw [questionState_of_unknown hknown, hnone]
    constructor
    . intro hread
      cases hread
    . rintro ⟨record, hactive⟩
      obtain ⟨jobId', hrun, hjob⟩ := h.oneActive.known _ _ _ hactive
      rw [runtimeRunId_inj] at hrun
      subst hrun
      exact absurd hjob hknown

theorem Settled.oneQuestion : OneQuestion coordinator := by
  constructor
  . intro jobId id record id' record' hactive hactive'
    exact h.oneActive.unique _ _ _ _ _ hactive hactive'
  . intro jobId order horder hydrateCache questionId
    exact h.questionState_eq_some_iff horder hydrateCache

end Read

theorem settled_of_follows {coordinator coordinator' : SuspensionCoordinator}
    (hfollows : Follows coordinator.runtimeState coordinator'.runtimeState)
    (hcached : ∀ jobId, (coordinator'.pendingQuestions.lookup jobId).isSome
      → coordinator.runtimeState.Known jobId)
    : Settled coordinator' := by
  exact ⟨hfollows.consistent, hfollows.oneActive,
    fun jobId hjob => hfollows.known jobId (hcached jobId hjob)⟩

section Perform

variable {coordinator : SuspensionCoordinator} (h : Settled coordinator)

include h

theorem Settled.follows_refl
    : Follows coordinator.runtimeState coordinator.runtimeState := by
  exact RuntimeStateSnapshot.follows_refl h.consistent h.oneActive

theorem Settled.cached_insert {jobId : String} (hknown : coordinator.runtimeState.Known jobId)
    (question : PendingQuestion)
    : ∀ other, ((coordinator.pendingQuestions.insert jobId question).lookup other).isSome
      → coordinator.runtimeState.Known other := by
  intro other hother
  by_cases heq : other = jobId
  . rw [heq]
    exact hknown
  . rw [AList.lookup_insert_ne heq] at hother
    exact h.cached other hother

theorem Settled.remember {jobId : String} (hknown : coordinator.runtimeState.Known jobId)
    (question : PendingQuestion)
    : Settled { coordinator with
        pendingQuestions := coordinator.pendingQuestions.insert jobId question } := by
  exact settled_of_follows h.follows_refl (h.cached_insert hknown question)

theorem Settled.cached_erase (jobId : String)
    : ∀ other, ((coordinator.pendingQuestions.erase jobId).lookup other).isSome
      → coordinator.runtimeState.Known other := by
  intro other hother
  by_cases heq : other = jobId
  . rw [heq, AList.lookup_erase] at hother
    cases hother
  . rw [AList.lookup_erase_ne heq] at hother
    exact h.cached other hother

theorem Settled.storeQuestion {jobId : String} (hknown : coordinator.runtimeState.Known jobId)
    {question : PendingQuestion}
    (hask : ∀ inbound, question.inbound = some inbound
      → coordinator.runtimeState.MayAsk inbound question.questionId
        ∧ coordinator.runtimeState.Fits question.questionId
          ((question.rawQuestion.get "invocation_id").bind Value.asStr)
          question.sourceKind.suspensionKind)
    : Settled (coordinator.storeQuestion now jobId question)
      ∧ Follows coordinator.runtimeState
        (coordinator.storeQuestion now jobId question).runtimeState := by
  have hfollows : Follows coordinator.runtimeState
      (coordinator.storeQuestion now jobId question).runtimeState := by
    unfold SuspensionCoordinator.storeQuestion
    dsimp only
    split
    . next inbound hinbound =>
      obtain ⟨hmay, hfits⟩ := hask inbound hinbound
      exact (h.follows_refl.task now inbound ..).suspension now inbound question _ _ hfits
        (fun _ => hmay.upsertTask now inbound ..)
    . exact h.follows_refl
  exact ⟨settled_of_follows hfollows (h.cached_insert hknown question), hfollows⟩

theorem Settled.storeToolInvocation {questionId : String} {state : SuspendedToolInvocationState}
    (hmay : coordinator.runtimeState.MayAsk state.inbound questionId)
    (hfits : coordinator.runtimeState.Fits questionId (some state.invocationId) .toolPermission)
    : Settled (coordinator.storeToolInvocation now questionId state)
      ∧ Follows coordinator.runtimeState
        (coordinator.storeToolInvocation now questionId state).runtimeState := by
  have hfollows : Follows coordinator.runtimeState
      (coordinator.storeToolInvocation now questionId state).runtimeState := by
    have htask := h.follows_refl.task now state.inbound .toolPermission .suspended
      ("awaiting permission for tool " ++ state.toolName) none
    have hsuspension := htask.suspension now state.inbound
      (toolPermissionQuestion now questionId (runtimeMessageId state.inbound) state
        (toolPermissionPayload state))
      (some (runtimeTaskId (runtimeMessageId state.inbound) .toolPermission)) .active hfits
      (fun _ => hmay.upsertTask now state.inbound ..)
    exact hsuspension.toolInvocation state.inbound _ _
  exact ⟨settled_of_follows hfollows h.cached, hfollows⟩

theorem Settled.questionState (order : List String) (jobId : String) (hydrateCache : Bool)
    : (coordinator.questionState order jobId hydrateCache).2.runtimeState
          = coordinator.runtimeState
        ∧ Settled (coordinator.questionState order jobId hydrateCache).2 := by
  by_cases hknown : coordinator.runtimeState.Known jobId
  . have hknown' := hknown
    unfold Known at hknown'
    unfold SuspensionCoordinator.questionState
    rw [if_pos hknown']
    split
    . split
      . exact ⟨rfl, settled_of_follows h.follows_refl (h.cached_insert hknown _)⟩
      . exact ⟨rfl, h⟩
    . exact ⟨rfl, settled_of_follows h.follows_refl (h.cached_erase jobId)⟩
  . rw [questionState_of_unknown hknown]
    exact ⟨rfl, h⟩

theorem Settled.toolInvocationState (questionId : String)
    : (coordinator.toolInvocationState questionId).2.runtimeState = coordinator.runtimeState
        ∧ Settled (coordinator.toolInvocationState questionId).2 := by
  unfold SuspensionCoordinator.toolInvocationState
  split
  . split
    . exact ⟨rfl, settled_of_follows h.follows_refl h.cached⟩
    . exact ⟨rfl, settled_of_follows h.follows_refl h.cached⟩
  . exact ⟨rfl, h⟩

theorem Settled.activeIn_of_questionState {order : List String} {jobId : String}
    {hydrateCache : Bool} {question : PendingQuestion}
    (hread : (coordinator.questionState order jobId hydrateCache).1 = some question)
    : coordinator.runtimeState.Known jobId
        ∧ ∃ run record, coordinator.runtimeState.ActiveIn (runtimeRunId jobId)
            (runtimeSuspensionId question.questionId) record
          ∧ question = questionOf jobId run question.questionId record := by
  by_cases hknown : coordinator.runtimeState.Known jobId
  . exact ⟨hknown, h.consistent.activeIn_of_questionState hknown hread⟩
  . rw [questionState_of_unknown hknown] at hread
    change coordinator.pendingQuestions.lookup jobId = some question at hread
    refine absurd (h.cached jobId ?_) hknown
    rw [hread]
    rfl

theorem Settled.resolveQuestion (jobId : String) (inbound : InboundMessage)
    {pending : PendingQuestion}
    (hfits : coordinator.runtimeState.Fits pending.questionId none
      pending.sourceKind.answeredKind)
    : Settled (coordinator.resolveQuestion now jobId pending inbound)
      ∧ Follows coordinator.runtimeState
        (coordinator.resolveQuestion now jobId pending inbound).runtimeState := by
  have hsuspension := h.follows_refl.suspension now inbound pending
    (some (runtimeTaskId jobId .question)) .resolved hfits (by simp)
  have htask := hsuspension.task now inbound .question .completed
    ("question answered: " ++ pending.prompt) none
  have hfollows : Follows coordinator.runtimeState
      (coordinator.resolveQuestion now jobId pending inbound).runtimeState := by
    unfold SuspensionCoordinator.resolveQuestion
    cases hkind : pending.sourceKind with
    | _ =>
      rw [hkind] at htask
      exact htask
  exact ⟨settled_of_follows hfollows h.cached, hfollows⟩

theorem Settled.acceptAnswer {jobId : String} (hknown : coordinator.runtimeState.Known jobId)
    {answer : QuestionAnswerInput} (answerSummary : String) {pending : PendingQuestion}
    (hfits : pending.questionId = answer.questionId → pending.sourceKind ≠ .toolPermission
      → coordinator.runtimeState.Fits pending.questionId none pending.sourceKind.answeredKind)
    : Settled (coordinator.acceptAnswer now jobId answer answerSummary pending).2
      ∧ Follows coordinator.runtimeState
        (coordinator.acceptAnswer now jobId answer answerSummary pending).2.runtimeState := by
  unfold SuspensionCoordinator.acceptAnswer
  split
  . exact ⟨h, h.follows_refl⟩
  . next hid =>
    have hinserted := h.remember hknown
      { pending with
        answerSubmitted := true
        answerSummary := some answerSummary
        resolutionSource := some answer.source }
    dsimp only
    split
    . exact ⟨hinserted, h.follows_refl⟩
    . next inbound _ =>
      split
      . exact ⟨hinserted, h.follows_refl⟩
      . next hkind =>
        have hid : pending.questionId = answer.questionId := by simpa using hid
        exact hinserted.resolveQuestion now jobId inbound (hfits hid hkind)

theorem Settled.submitAnswer {order : List String} {jobId : String}
    {answer : QuestionAnswerInput} (answerSummary : String)
    (hcareful : ∀ record, coordinator.runtimeState.ActiveIn (runtimeRunId jobId)
        (runtimeSuspensionId answer.questionId) record
      → rebuiltSourceKind record ≠ .toolPermission
      → record.kind = (rebuiltSourceKind record).answeredKind ∧ record.invocationId = none)
    : Settled (coordinator.submitAnswer now order jobId answer answerSummary).2
      ∧ Follows coordinator.runtimeState
        (coordinator.submitAnswer now order jobId answer answerSummary).2.runtimeState := by
  obtain ⟨hstate, hsettled⟩ := h.questionState order jobId true
  unfold SuspensionCoordinator.submitAnswer
  cases hread : coordinator.questionState order jobId true with
  | mk found hydrated =>
    rw [hread] at hstate hsettled
    dsimp only at hstate hsettled
    rw [← hstate] at hcareful ⊢
    cases found with
    | none => exact ⟨hsettled, hsettled.follows_refl⟩
    | some pending =>
      obtain ⟨hknown, run, record, hactive, hpending⟩ :=
        h.activeIn_of_questionState (congrArg Prod.fst hread)
      rw [← hstate] at hknown hactive
      refine hsettled.acceptAnswer now hknown answerSummary ?_
      intro hid hkind record' hlookup
      have heq := Option.some.inj (hlookup.symm.trans hactive.1)
      subst heq
      -- the kind of the question is the one that is rebuilt from its record
      rw [hpending] at hkind ⊢
      rw [hid] at hactive
      exact hcareful record' hactive hkind

theorem Settled.clearQuestion {order : List String} {jobId : String}
    (hfits : ∀ question, (coordinator.pendingQuestions.lookup jobId).or
        (coordinator.runtimeState.rebuildQuestion order jobId) = some question
      → coordinator.runtimeState.Fits question.questionId none question.sourceKind.clearedKind)
    : Settled (coordinator.clearQuestion now order jobId)
      ∧ Follows coordinator.runtimeState
        (coordinator.clearQuestion now order jobId).runtimeState := by
  unfold SuspensionCoordinator.clearQuestion
  dsimp only
  split
  . exact ⟨settled_of_follows h.follows_refl (h.cached_erase jobId), h.follows_refl⟩
  . next question hquestion =>
    split
    . exact ⟨settled_of_follows h.follows_refl (h.cached_erase jobId), h.follows_refl⟩
    . next inbound _ =>
      have htask := h.follows_refl.task now inbound .question .completed question.prompt none
      have hsuspension := htask.suspension now inbound question
        (some (runtimeTaskId jobId .question)) .cleared (hfits question hquestion) (by simp)
      exact ⟨settled_of_follows hsuspension (h.cached_erase jobId), hsuspension⟩

theorem Settled.clearToolInvocation {questionId : String}
    (hfits : ∀ state, (coordinator.suspendedToolInvocations.lookup questionId).or
        (coordinator.runtimeState.rebuildToolInvocation questionId) = some state
      → coordinator.runtimeState.Fits questionId (some state.invocationId) .toolPermission)
    : Settled (coordinator.clearToolInvocation now questionId)
      ∧ Follows coordinator.runtimeState
        (coordinator.clearToolInvocation now questionId).runtimeState := by
  unfold SuspensionCoordinator.clearToolInvocation
  dsimp only
  split
  . exact ⟨settled_of_follows h.follows_refl h.cached, h.follows_refl⟩
  . next state hstate =>
    have hsuspension := h.follows_refl.suspension now state.inbound
      { toolPermissionQuestion now questionId (runtimeMessageId state.inbound) state
          (.object [("tool_name", .string state.toolName),
            ("tool_use_id", .string state.suspension.suspendedTool.toolUseId),
            ("type", .string "tool_permission")]) with
        riskLevel := .high
        answerSubmitted := ((coordinator.runtimeState.suspensionOf questionId).bind
          SuspensionRecord.answerSummary).isSome
        answerSummary := (coordinator.runtimeState.suspensionOf questionId).bind
          SuspensionRecord.answerSummary
        resolutionSource := (coordinator.runtimeState.suspensionOf questionId).bind
          SuspensionRecord.resolutionSource }
      (some (runtimeTaskId (runtimeMessageId state.inbound) .toolPermission)) .cleared
      (hfits state hstate) (by simp)
    exact ⟨settled_of_follows hsuspension h.cached, hsuspension⟩

theorem Settled.perform {action : SuspensionAction} (hcareful : coordinator.Careful now format action)
    : Settled (coordinator.perform now format action)
      ∧ Follows coordinator.runtimeState
        (coordinator.perform now format action).runtimeState := by
  cases action with
  | ask asked =>
    have hstored := h.storeQuestion now hcareful.1 hcareful.2
    rw [← AskedQuestion.store_eq] at hstored
    exact hstored
  | storeToolInvocation questionId state => exact h.storeToolInvocation now hcareful.1 hcareful.2
  | readQuestion order jobId hydrateCache =>
    obtain ⟨hstate, hsettled⟩ := h.questionState order jobId hydrateCache
    refine ⟨hsettled, ?_⟩
    change Follows _ (coordinator.questionState order jobId hydrateCache).2.runtimeState
    rw [hstate]
    exact h.follows_refl
  | readToolInvocation questionId =>
    obtain ⟨hstate, hsettled⟩ := h.toolInvocationState questionId
    refine ⟨hsettled, ?_⟩
    change Follows _ (coordinator.toolInvocationState questionId).2.runtimeState
    rw [hstate]
    exact h.follows_refl
  | submitAnswer order jobId answer answerSummary =>
    exact h.submitAnswer now answerSummary hcareful
  | clearQuestion order jobId => exact h.clearQuestion now hcareful
  | clearToolInvocation questionId => exact h.clearToolInvocation now hcareful
  | write upsert =>
    have hfollows := h.follows_refl.apply hcareful
    exact ⟨settled_of_follows hfollows h.cached, hfollows⟩

end Perform

variable {format}

/--
A run of careful actions keeps every suspension what it is, and leaves each run at most one active
suspension, which is the one that is read.
-/
theorem oneQuestion_and_keeps {earlier later : List (UInt64 × SuspensionAction)}
    {s t : SuspensionCoordinator} (hs : Runs.run (suspensionStep format) {} earlier = some s)
    (ht : Runs.run (suspensionStep format) s later = some t)
    (hcareful : Runs.Guarded (suspensionStep format)
      (fun coordinator action => coordinator.Careful action.1 format action.2) {}
      (earlier ++ later))
    : OneQuestion t ∧ KeepsSuspensions s.runtimeState t.runtimeState := by
  obtain ⟨hearlier, hlater⟩ := hcareful.append hs
  have hstep : ∀ c action c', Settled c → Careful action.1 format c action.2
      → suspensionStep format c action = some c'
      → Settled c' ∧ Follows c.runtimeState c'.runtimeState := by
    intro c action c' hc hguard hstep
    cases hstep
    exact hc.perform action.1 format hguard
  have hsettled : Settled s := by
    apply (Runs.always_of_guarded _ settled_empty hearlier).run_eq_some hs
    exact fun c action c' hc hguard ha => (hstep c action c' hc hguard ha).1
  have hend : Settled t ∧ KeepsSuspensions s.runtimeState t.runtimeState := by
    refine (Runs.always_of_guarded (P := fun c => Settled c
      ∧ KeepsSuspensions s.runtimeState c.runtimeState) ?_
      ⟨hsettled, KeepsSuspensions.refl s.runtimeState⟩ hlater).run_eq_some ht
    intro c action c' hc hguard ha
    obtain ⟨hsettled, hfollows⟩ := hstep c action c' hc.1 hguard ha
    exact ⟨hsettled, hc.2.trans hfollows.keeps⟩
  exact ⟨hend.1.oneQuestion, hend.2⟩

def askedActions : List (UInt64 × SuspensionAction) :=
  [(0, .write (.turn 0 AskedQuestion.askingMessage "initial" .running)),
    (1, .ask (.stored "job_1" AskedQuestion.inputQuestion))]

def answeredActions : List (UInt64 × SuspensionAction) :=
  [(2, .submitAnswer ["suspension_question_1"] "job_1"
    { questionId := "question_1", source := "user", answerType := "text", answer := "a.txt" }
    "a.txt")]

def performed (format : PlanFormat) (actions : List (UInt64 × SuspensionAction))
    : SuspensionCoordinator :=
  actions.foldl (fun coordinator action => coordinator.perform action.1 format action.2) {}

theorem oneQuestion_and_keeps_answeredActions
    : OneQuestion (performed AskedQuestion.noPlans (askedActions ++ answeredActions))
        ∧ KeepsSuspensions (performed AskedQuestion.noPlans askedActions).runtimeState
          (performed AskedQuestion.noPlans (askedActions ++ answeredActions)).runtimeState := by
  refine @oneQuestion_and_keeps AskedQuestion.noPlans askedActions answeredActions _ _ rfl rfl ?_
  intro s₁ hstep
  cases hstep
  refine ⟨trivial, ?_⟩
  intro s₂ hstep
  cases hstep
  refine ⟨⟨by decide +kernel, ?_⟩, ?_⟩
  . rintro inbound hinbound
    cases hinbound
    refine ⟨⟨by decide +kernel, ?_⟩, ?_⟩
    . rintro id record ⟨h, _⟩
      cases h
    . intro record h
      cases h
  intro s₃ hstep
  cases hstep
  refine ⟨?_, trivial⟩
  rintro record ⟨hlookup, _⟩ _
  change some _ = some record at hlookup
  cases hlookup
  exact ⟨rfl, rfl⟩

def approvedActions : List (UInt64 × SuspensionAction) :=
  [(2, .submitAnswer ["suspension_approval_1"] "job_1"
    { questionId := "approval_1", source := "user", answerType := "choice", answer := "approved" }
    "approved"),
    (3, .clearQuestion ["suspension_approval_1"] "job_1")]

def approvalActions : List (UInt64 × SuspensionAction) :=
  [(0, .write (.turn 0 AskedQuestion.askingMessage "initial" .running)),
    (1, .ask (.planApproval "approval_1" "job_1" AskedQuestion.askingMessage "session_1"
      { proposalId := "proposal_1", jobId := "job_1"
        plan := { kind := .sequential, planType := "sequential", tasks := [], specialist := none }
        summary := "sequential", proposedAtMs := 0 }))]

/-- The suspension of an approval that is cleared is no longer the one of an approval. -/
theorem clearedApproval_not_kept
    : ¬(OneQuestion (performed AskedQuestion.noPlans (approvalActions ++ approvedActions))
        ∧ KeepsSuspensions (performed AskedQuestion.noPlans approvalActions).runtimeState
          (performed AskedQuestion.noPlans (approvalActions ++ approvedActions)).runtimeState) := by
  rintro ⟨_, hkeeps⟩
  have hasked : ((performed AskedQuestion.noPlans approvalActions).runtimeState.suspensions.lookup
      "suspension_approval_1").map SuspensionRecord.kind = some .humanApproval := by
    decide +kernel
  have hcleared : ((performed AskedQuestion.noPlans
      (approvalActions ++ approvedActions)).runtimeState.suspensions.lookup
        "suspension_approval_1").map SuspensionRecord.kind = some .question := by
    decide +kernel
  obtain ⟨record, hrecord, hkind⟩ := Option.map_eq_some_iff.mp hasked
  obtain ⟨record', hrecord', hsame⟩ := hkeeps _ record hrecord
  rw [hrecord', Option.map_some, hsame.kind, hkind] at hcleared
  cases hcleared

end SuspensionCoordinator

end AnimaAgent
