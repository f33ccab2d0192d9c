import AnimaAgent.Agent.AnsweredPrompt
import AnimaAgent.Agent.PermissionAnswers
import AnimaAgent.Execution.Lemmas.Resume

namespace AnimaAgent

def RuntimeUpsert.Activates (questionId : String) : RuntimeUpsert → Prop
  | .suspension _ _ question _ _ _ status => question.questionId = questionId ∧ status = .active
  | _ => False

instance (questionId : String) (upsert : RuntimeUpsert)
    : Decidable (upsert.Activates questionId) := by
  unfold RuntimeUpsert.Activates
  split <;> infer_instance

namespace RuntimeStateSnapshot

variable {snapshot : RuntimeStateSnapshot} {questionId : String}

def Closed (snapshot : RuntimeStateSnapshot) (questionId : String) : Prop :=
  ∀ record, snapshot.suspensions.lookup (runtimeSuspensionId questionId) = some record
    → record.status ≠ .active

def Indexed (snapshot : RuntimeStateSnapshot) (questionId : String) : Prop :=
  snapshot.index.suspensionIdsByQuestionId.lookup questionId = some (runtimeSuspensionId questionId)

theorem suspensions_lookup_apply (upsert : RuntimeUpsert)
    : (snapshot.apply upsert).suspensions.lookup (runtimeSuspensionId questionId)
          = snapshot.suspensions.lookup (runtimeSuspensionId questionId)
        ∨ ∃ record, (snapshot.apply upsert).suspensions.lookup (runtimeSuspensionId questionId)
            = some record
          ∧ (record.status = .active → upsert.Activates questionId) := by
  cases upsert with
  | suspension now inbound question taskId invocationId kind status =>
    by_cases heq : questionId = question.questionId
    . subst heq
      exact .inr ⟨_, AList.lookup_insert .., fun hactive => ⟨rfl, hactive⟩⟩
    . exact .inl (AList.lookup_insert_ne (mt runtimeSuspensionId_inj.mp heq))
  | _ => exact .inl rfl

theorem Closed.apply (h : snapshot.Closed questionId) {upsert : RuntimeUpsert}
    (hquiet : ¬upsert.Activates questionId)
    : (snapshot.apply upsert).Closed questionId := by
  intro record hlookup hactive
  obtain hsame | ⟨record', hwritten, hactivates⟩ :=
    @suspensions_lookup_apply snapshot questionId upsert
  . exact h record (hsame.symm.trans hlookup) hactive
  . cases hwritten.symm.trans hlookup
    exact hquiet (hactivates hactive)

theorem Indexed.apply (h : snapshot.Indexed questionId) (upsert : RuntimeUpsert)
    : (snapshot.apply upsert).Indexed questionId := by
  unfold Indexed at *
  cases upsert with
  | task now inbound phase status description error =>
    change (RuntimeTaskIndex.addTask _ _).suspensionIdsByQuestionId.lookup questionId = _
    rw [RuntimeTaskIndex.suspensionIdsByQuestionId_addTask]
    exact h
  | suspension now inbound question taskId invocationId kind status =>
    change (RuntimeTaskIndex.addSuspension _ _).suspensionIdsByQuestionId.lookup questionId = _
    rw [RuntimeTaskIndex.suspensionIdsByQuestionId_addSuspension _ rfl]
    by_cases heq : questionId = question.questionId
    . subst heq
      exact AList.lookup_insert ..
    . rw [AList.lookup_insert_ne heq]
      exact h
  | _ => exact h

theorem closed_upsertSuspension (now : UInt64) (inbound : InboundMessage) (question : PendingQuestion)
    (taskId invocationId : Option String) (kind : SuspensionKind) {status : SuspensionStatus}
    (h : status ≠ .active)
    : (snapshot.apply (.suspension now inbound question taskId invocationId kind status)).Closed
        question.questionId := by
  intro record hlookup
  cases (AList.lookup_insert ..).symm.trans hlookup
  exact h

end RuntimeStateSnapshot

namespace SuspensionCoordinator

variable {coordinator : SuspensionCoordinator}

theorem not_closed_of_suspendedFor {pending : PendingQuestion}
    {suspended : SuspendedToolInvocationState} {coordinator' : SuspensionCoordinator}
    (hindexed : coordinator.runtimeState.Indexed pending.questionId)
    (h : coordinator.suspendedFor pending = (.ok suspended, coordinator'))
    : ¬coordinator.runtimeState.Closed pending.questionId := by
  intro hclosed
  have hnone : coordinator.runtimeState.rebuildToolInvocation pending.questionId = none := by
    unfold RuntimeStateSnapshot.rebuildToolInvocation RuntimeStateSnapshot.suspensionOf
    rw [hindexed, Option.bind_some]
    cases hlookup : coordinator.runtimeState.suspensions.lookup
        (runtimeSuspensionId pending.questionId) with
    | none => rfl
    | some record =>
      rw [Option.filter_some_neg (by simpa using hclosed record hlookup)]
      rfl
  unfold suspendedFor toolInvocationState at h
  rw [hindexed, Option.isSome_some, if_pos rfl, hnone] at h
  cases h

theorem acceptAnswer_spec (now : UInt64) (jobId : String) (answer : QuestionAnswerInput)
    (answerSummary : String) (pending : PendingQuestion)
    : (∃ error coordinator',
          coordinator.acceptAnswer now jobId answer answerSummary pending
            = (.error error, coordinator')
          ∧ coordinator'.runtimeState = coordinator.runtimeState)
        ∨ ∃ coordinator',
          coordinator.acceptAnswer now jobId answer answerSummary pending
            = (.ok (pending.answered answer answerSummary), coordinator')
          ∧ pending.questionId = answer.questionId
          ∧ (pending.sourceKind = .toolPermission
            → coordinator'.runtimeState = coordinator.runtimeState)
          ∧ (pending.sourceKind ≠ .toolPermission
            → ∃ inbound taskId kind description, coordinator'.runtimeState
              = (coordinator.runtimeState.apply (.suspension now inbound
                  (pending.answered answer answerSummary) taskId none kind .resolved)).apply
                (.task now inbound .question .completed description none)) := by
  unfold acceptAnswer
  split
  . exact .inl ⟨_, _, rfl, rfl⟩
  . next hid =>
    dsimp only
    split
    . exact .inl ⟨_, _, rfl, rfl⟩
    . next inbound _ =>
      have hid : pending.questionId = answer.questionId := by simpa using hid
      split
      . next hkind => exact .inr ⟨_, rfl, hid, fun _ => rfl, fun hne => absurd hkind hne⟩
      . next hkind =>
        refine .inr ⟨_, rfl, hid, fun heq => absurd heq hkind, ?_⟩
        exact fun _ => ⟨inbound, _, _, _, rfl⟩

end SuspensionCoordinator

namespace CoreAgent

variable (agent : CoreAgent) (suspended : SuspendedToolInvocationState) (uuid : String)

theorem loopToolCalls_resumeAnswered_of_not_allow {answer : String} (h : isAllow answer = false)
    : loopToolCalls (agent.resumeAnswered suspended uuid answer).events = [] := by
  unfold resumeAnswered
  rw [h]
  rfl

theorem length_loopToolCalls_resumeAnswered (answer : String)
    : (loopToolCalls (agent.resumeAnswered suspended uuid answer).events).length ≤ 1 := by
  cases hallow : isAllow answer with
  | false =>
    rw [agent.loopToolCalls_resumeAnswered_of_not_allow suspended uuid hallow]
    exact Nat.zero_le _
  | true =>
    unfold resumeAnswered
    rw [hallow]
    generalize agent.loopEnv (agent.resumeConfig suspended) = env
    cases htool : env.toolRegistry.get suspended.suspension.suspendedTool.toolName with
    | none =>
      unfold LoopEnv.resumeSuspendedToolInvocation LoopEnv.resumedResult
      dsimp only
      rw [if_pos rfl, htool]
      exact Nat.zero_le _
    | some tool =>
      rw [env.loopToolCalls_resume uuid htool]
      unfold LoopEnv.approvedRun
      generalize ({ toolName := _, input := _, context := _, invocationId := _ } : RunToolOptions)
        = options
      cases hinput : checkedInput tool env.hookRegistry options.toolName options.input with
      | error err =>
        rw [(executeToolAfterPermission_of_error env.serde env.now tool options env.hookRegistry
          hinput _).2]
        exact Nat.zero_le _
      | ok input =>
        rw [(executeToolAfterPermission_of_ok env.serde env.now tool options env.hookRegistry
          hinput _).2]
        exact Nat.le_refl _

end CoreAgent

namespace AnswerThread

theorem resume_cases (thread : AnswerThread) (board : AnswerBoard) (agent : CoreAgent)
    (uuid : String) (suspended : SuspendedToolInvocationState)
    : ∃ phase, (phase = .resumed suspended ∨ phase = .failed)
        ∧ (thread.resume board agent uuid suspended = (board, { thread with phase })
          ∨ (thread.allow = true
            ∧ thread.resume board agent uuid suspended
              = ({ board with log := board.log ++ [.called thread.pending.questionId] },
                { thread with phase, called := true }))) := by
  have hlength := agent.length_loopToolCalls_resumeAnswered suspended uuid thread.text
  have hdenied : isAllow thread.text = false
      → loopToolCalls (agent.resumeAnswered suspended uuid thread.text).events = [] :=
    agent.loopToolCalls_resumeAnswered_of_not_allow suspended uuid
  refine ⟨.ofResumed suspended (agent.resumeAnswered suspended uuid thread.text).outcome, ?_, ?_⟩
  . cases (agent.resumeAnswered suspended uuid thread.text).outcome with
    | ok _ => exact .inl rfl
    | error _ => exact .inr rfl
  . unfold resume
    dsimp only
    cases hcalls : loopToolCalls (agent.resumeAnswered suspended uuid thread.text).events with
    | nil =>
      left
      simp
    | cons call rest =>
      right
      rw [hcalls, List.length_cons] at hlength
      have hrest : rest = [] := List.length_eq_zero_iff.mp (by omega)
      subst hrest
      refine ⟨?_, by simp⟩
      unfold allow
      cases hallow : isAllow thread.text with
      | true => rfl
      | false =>
        rw [hdenied hallow] at hcalls
        cases hcalls

theorem accept_cases (thread : AnswerThread) (board : AnswerBoard) (jobId : String) (now : UInt64)
    : (∃ coordinator, coordinator.runtimeState = board.coordinator.runtimeState
          ∧ thread.accept jobId board now
            = ({ board with coordinator }, { thread with phase := .rejected }))
        ∨ ∃ coordinator pending phase,
          thread.accept jobId board now
              = ({ coordinator
                   log := board.log ++ [.accepted thread.pending.questionId thread.allow] },
                { thread with pending, phase })
            ∧ pending.questionId = thread.pending.questionId
            ∧ thread.pending.questionId = thread.answer.questionId
            ∧ (phase = .accepted ∨ (phase = .resolved
              ∧ coordinator.runtimeState.Closed thread.pending.questionId))
            ∧ (∀ questionId, board.coordinator.runtimeState.Closed questionId
              → coordinator.runtimeState.Closed questionId)
            ∧ ∀ questionId, board.coordinator.runtimeState.Indexed questionId
              → coordinator.runtimeState.Indexed questionId := by
  unfold accept
  obtain ⟨error, coordinator, haccept, hstate⟩ | ⟨coordinator, haccept, hid, hsame, hwritten⟩ :=
    board.coordinator.acceptAnswer_spec now jobId thread.answer
      (truncatePreview thread.answer.answer 120) thread.pending
  . left
    rw [haccept]
    exact ⟨coordinator, hstate, rfl⟩
  . right
    rw [haccept]
    refine ⟨coordinator, _, _, rfl, rfl, hid, ?_⟩
    by_cases hkind : thread.pending.sourceKind = .toolPermission
    . rw [hsame hkind]
      refine ⟨.inl (if_pos hkind), fun _ hclosed => hclosed, fun _ hindexed => hindexed⟩
    . obtain ⟨inbound, taskId, kind, description, heq⟩ := hwritten hkind
      rw [heq]
      have htask : ∀ questionId, ¬(RuntimeUpsert.task now inbound .question .completed description
          none).Activates questionId := fun _ hactive => hactive
      refine ⟨.inr ⟨if_neg hkind, ?_⟩, ?_, ?_⟩
      . refine RuntimeStateSnapshot.Closed.apply ?_ (htask _)
        exact RuntimeStateSnapshot.closed_upsertSuspension now inbound
          (thread.pending.answered thread.answer (truncatePreview thread.answer.answer 120))
          taskId none kind (by decide)
      . intro questionId hclosed
        refine (hclosed.apply ?_).apply (htask questionId)
        rintro ⟨_, hactive⟩
        cases hactive
      . exact fun questionId hindexed => (hindexed.apply _).apply _

theorem act_cases {jobId : String} {step : AnswerStep} {board : AnswerBoard} {thread : AnswerThread}
    {result : AnswerBoard × AnswerThread} (h : act jobId step board thread = some result)
    : (∃ now, step = .accept now ∧ thread.phase = .read
          ∧ thread.accept jobId board now = result)
        ∨ (step = .fetch ∧ thread.phase = .accepted ∧ thread.fetch board = result)
        ∨ (∃ agent uuid suspended, step = .resume agent uuid
          ∧ thread.phase = .fetched suspended
          ∧ thread.resume board agent uuid suspended = result)
        ∨ ∃ now suspended, step = .resolve now ∧ thread.phase = .resumed suspended
          ∧ thread.resolve jobId board now suspended = result := by
  unfold act at h
  split at h
  . next now hphase => exact .inl ⟨now, rfl, hphase, Option.some.inj h⟩
  . next hphase => exact .inr (.inl ⟨rfl, hphase, Option.some.inj h⟩)
  . next agent uuid suspended hphase =>
    exact .inr (.inr (.inl ⟨agent, uuid, suspended, rfl, hphase, Option.some.inj h⟩))
  . next now suspended hphase =>
    exact .inr (.inr (.inr ⟨now, suspended, rfl, hphase, Option.some.inj h⟩))
  . cases h

def isAccepted (thread : AnswerThread) : Bool :=
  match thread.phase with
  | .read | .rejected => false
  | _ => true

def mayCall (thread : AnswerThread) : Bool :=
  match thread.phase with
  | .accepted | .fetched _ => thread.allow
  | _ => false

/--
The earlier answer does not stand in the way of the later one: it will not call the tool any more, and
an approval comes only after the call or the denial of the earlier one is recorded.
-/
def GivesWayTo (earlier later : AnswerThread) : Prop :=
  earlier.mayCall = false
    ∧ (later.allow = true
      → earlier.phase = .resolved ∨ (earlier.allow = true ∧ earlier.called = false))

instance (earlier later : AnswerThread) : Decidable (earlier.GivesWayTo later) := by
  unfold GivesWayTo
  infer_instance

end AnswerThread

/--
An answer is accepted only when the earlier answers to its question give way to it, and no question is
stored again under the identifier of one that has been answered.
-/
def InTurn (job : AnsweredJob) : PermissionAction → Prop
  | .answer i (.accept _) =>
    ∀ later ∈ job.threads[i]?, later.pending.questionId = later.answer.questionId
      → ∀ earlier ∈ job.threads, earlier.isAccepted
        → earlier.pending.questionId = later.pending.questionId → earlier.GivesWayTo later
  | .write upsert =>
    ∀ earlier ∈ job.threads, earlier.isAccepted → ¬upsert.Activates earlier.pending.questionId
  | _ => True

instance (job : AnsweredJob) (action : PermissionAction) : Decidable (InTurn job action) := by
  unfold InTurn
  split <;> infer_instance

structure Unspent (questionId : String) (log : List PermissionEvent) : Prop where
  notCalled : .called questionId ∉ log
  notDenied : .accepted questionId false ∉ log

namespace AnswerThread

structure Alone (questionId : String) (board : AnswerBoard) (thread : AnswerThread) : Prop where
  resolved : thread.phase = .resolved → board.coordinator.runtimeState.Closed questionId
  accepted : thread.phase = .accepted → thread.allow = true
    → Unspent questionId board.log ∨ board.coordinator.runtimeState.Closed questionId
  fetched : ∀ suspended, thread.phase = .fetched suspended → thread.allow = true
    → Unspent questionId board.log

variable {questionId : String} {board board' : AnswerBoard} {thread : AnswerThread}

theorem mayCall_of_accepted (h : thread.phase = .accepted) : thread.mayCall = thread.allow := by
  unfold mayCall
  rw [h]

theorem mayCall_of_fetched {suspended : SuspendedToolInvocationState}
    (h : thread.phase = .fetched suspended)
    : thread.mayCall = thread.allow := by
  unfold mayCall
  rw [h]

theorem isAccepted_of_mayCall (h : thread.mayCall = true) : thread.isAccepted = true := by
  unfold mayCall at h
  unfold isAccepted
  cases hphase : thread.phase <;> simp_all

theorem alone_of_ne (hresolved : thread.phase ≠ .resolved) (haccepted : thread.phase ≠ .accepted)
    (hfetched : ∀ suspended, thread.phase ≠ .fetched suspended)
    : thread.Alone questionId board := by
  constructor
  . exact fun hphase => absurd hphase hresolved
  . exact fun hphase => absurd hphase haccepted
  . exact fun suspended hphase => absurd hphase (hfetched suspended)

theorem done (thread : AnswerThread) (questionId : String) (called : Bool)
    {suspended : SuspendedToolInvocationState} {phase : AnswerPhase}
    (hdone : phase = .resumed suspended ∨ phase = .failed)
    : ({ thread with phase, called } : AnswerThread).isAccepted = true
        ∧ ({ thread with phase, called } : AnswerThread).mayCall = false
        ∧ ∀ board, ({ thread with phase, called } : AnswerThread).Alone questionId board := by
  obtain rfl | rfl := hdone
  . refine ⟨rfl, rfl, ?_⟩
    intro board
    exact alone_of_ne (by simp) (by simp) (by simp)
  . refine ⟨rfl, rfl, ?_⟩
    intro board
    exact alone_of_ne (by simp) (by simp) (by simp)

theorem Alone.keep (h : thread.Alone questionId board)
    (hclosed : thread.isAccepted = true → board.coordinator.runtimeState.Closed questionId
      → board'.coordinator.runtimeState.Closed questionId)
    (hlog : thread.mayCall = true → Unspent questionId board.log → Unspent questionId board'.log)
    : thread.Alone questionId board' := by
  constructor
  . intro hphase
    apply hclosed
    . unfold isAccepted
      rw [hphase]
    . exact h.resolved hphase
  . intro hphase hallow
    have hmay : thread.mayCall = true := (mayCall_of_accepted hphase).trans hallow
    obtain hunspent | hclosed' := h.accepted hphase hallow
    . exact .inl (hlog hmay hunspent)
    . exact .inr (hclosed (isAccepted_of_mayCall hmay) hclosed')
  . intro suspended hphase hallow
    have hmay : thread.mayCall = true := (mayCall_of_fetched hphase).trans hallow
    exact hlog hmay (h.fetched suspended hphase hallow)

end AnswerThread

def Apart (questionId : String) (a b : AnswerThread) : Prop :=
  a.pending.questionId = questionId → b.pending.questionId = questionId
    → a.mayCall = true → b.mayCall = true → False

theorem Apart.symm {questionId : String} (a b : AnswerThread) (h : Apart questionId a b)
    : Apart questionId b a := by
  exact fun hb ha hmayB hmayA => h ha hb hmayA hmayB

theorem CalledOnce.append_other {questionId : String} {log : List PermissionEvent}
    (h : CalledOnce questionId log) {event : PermissionEvent} (hne : event ≠ .called questionId)
    : CalledOnce questionId (log ++ [event]) := by
  constructor
  . rw [List.count_append, List.count_singleton, if_neg (by simpa using hne)]
    exact h.once
  . rw [List.pairwise_append]
    refine ⟨h.notDenied, List.pairwise_singleton _ _, ?_⟩
    intro earlier _ later hlater _
    rw [List.mem_singleton.mp hlater]
    exact hne

theorem CalledOnce.append_called {questionId : String} {log : List PermissionEvent}
    (h : CalledOnce questionId log) (hunspent : Unspent questionId log)
    : CalledOnce questionId (log ++ [.called questionId]) := by
  constructor
  . rw [List.count_append, List.count_eq_zero.mpr hunspent.notCalled]
    simp
  . rw [List.pairwise_append]
    refine ⟨h.notDenied, List.pairwise_singleton _ _, ?_⟩
    intro earlier hearlier _ _ hdenied
    exact absurd (hdenied ▸ hearlier) hunspent.notDenied

theorem Unspent.append_accepted {questionId other : String} {log : List PermissionEvent}
    (h : Unspent questionId log) {allow : Bool} (hallow : other = questionId → allow = true)
    : Unspent questionId (log ++ [.accepted other allow]) := by
  constructor
  . intro hmem
    obtain hmem | hmem := List.mem_append.mp hmem
    . exact h.notCalled hmem
    . cases List.mem_singleton.mp hmem
  . intro hmem
    obtain hmem | hmem := List.mem_append.mp hmem
    . exact h.notDenied hmem
    . cases List.mem_singleton.mp hmem
      cases hallow rfl

structure InOrder (questionId : String) (job : AnsweredJob) : Prop where
  indexed : job.shared.coordinator.runtimeState.Indexed questionId
  holds : job.Holds
    (fun board thread => thread.pending.questionId = questionId → thread.Alone questionId board)
    (Apart questionId)
  called : .called questionId ∈ job.shared.log
    → ∃ thread ∈ job.threads, thread.isAccepted = true
      ∧ thread.pending.questionId = questionId ∧ thread.called = true
  denied : .accepted questionId false ∈ job.shared.log
    → ∃ thread ∈ job.threads, thread.isAccepted = true
      ∧ thread.pending.questionId = questionId ∧ thread.allow = false
  calledOnce : CalledOnce questionId job.shared.log

section Steps

variable {questionId jobId : String} {job : AnsweredJob} (h : InOrder questionId job)

include h

theorem InOrder.remember {coordinator : SuspensionCoordinator}
    (hstate : coordinator.runtimeState = job.shared.coordinator.runtimeState)
    : InOrder questionId { job with shared := { job.shared with coordinator } } := by
  constructor
  . change coordinator.runtimeState.Indexed questionId
    rw [hstate]
    exact h.indexed
  . apply h.holds.share
    intro thread hthread hid
    refine (h.holds.alone thread hthread hid).keep ?_ (fun _ hunspent => hunspent)
    intro _ hclosed
    change coordinator.runtimeState.Closed questionId
    rw [hstate]
    exact hclosed
  . exact h.called
  . exact h.denied
  . exact h.calledOnce

theorem InOrder.start {answer : QuestionAnswerInput} {pending : PendingQuestion}
    : InOrder questionId (job.start { answer, pending, phase := .read, called := false }) := by
  constructor
  . exact h.indexed
  . apply h.holds.start
    . intro _
      apply AnswerThread.alone_of_ne
      . simp
      . simp
      . simp
    . intro b _
      constructor
      . intro _ _ hmay
        cases hmay
      . intro _ _ _ hmay
        cases hmay
  . intro hmem
    obtain ⟨thread, hthread, hwitness⟩ := h.called hmem
    exact ⟨thread, List.mem_append_left _ hthread, hwitness⟩
  . intro hmem
    obtain ⟨thread, hthread, hwitness⟩ := h.denied hmem
    exact ⟨thread, List.mem_append_left _ hthread, hwitness⟩
  . exact h.calledOnce

theorem InOrder.write {upsert : RuntimeUpsert}
    (hquiet : ∀ earlier ∈ job.threads, earlier.isAccepted
      → ¬upsert.Activates earlier.pending.questionId)
    : InOrder questionId
      { job with
        shared := { job.shared with coordinator := job.shared.coordinator.upsert upsert } } := by
  constructor
  . exact h.indexed.apply upsert
  . apply h.holds.share
    intro thread hthread hid
    refine (h.holds.alone thread hthread hid).keep ?_ (fun _ hunspent => hunspent)
    intro haccepted hclosed
    apply hclosed.apply
    rw [← hid]
    exact hquiet thread hthread haccepted
  . exact h.called
  . exact h.denied
  . exact h.calledOnce

section Thread

variable {i : Nat} {thread : AnswerThread} (hi : job.threads[i]? = some thread)

include hi

theorem InOrder.fetch (hphase : thread.phase = .accepted)
    : InOrder questionId
      { shared := (thread.fetch job.shared).1
        threads := job.threads.set i (thread.fetch job.shared).2 } := by
  have hstate := job.shared.coordinator.runtimeState_suspendedFor thread.pending
  have hmay : thread.mayCall = thread.allow := AnswerThread.mayCall_of_accepted hphase
  have haccepted : thread.isAccepted = true := by
    unfold AnswerThread.isAccepted
    rw [hphase]
  -- the thread that has read the invocation, or has found none, is still accepted
  have hkept : ∀ coordinator phase,
      coordinator.runtimeState = job.shared.coordinator.runtimeState
      → ({ thread with phase } : AnswerThread).isAccepted = true
      → (({ thread with phase } : AnswerThread).mayCall = true → thread.mayCall = true)
      → (thread.pending.questionId = questionId
        → ({ thread with phase } : AnswerThread).Alone questionId job.shared)
      → InOrder questionId
          { shared := { job.shared with coordinator }
            threads := job.threads.set i { thread with phase } } := by
    intro coordinator phase hcoordinator haccepted' hmay' hself
    refine @InOrder.remember questionId { job with threads := job.threads.set i _ } ?_ coordinator
      hcoordinator
    constructor
    . exact h.indexed
    . refine h.holds.advance Apart.symm hself ?_
      intro j b hne hj
      refine ⟨h.holds.alone b (List.mem_of_getElem? hj), ?_⟩
      intro hid hidB hmayA hmayB
      exact h.holds.apart i j thread b hne.symm hi hj hid hidB (hmay' hmayA) hmayB
    . exact fun hmem => Threads.exists_mem_set hi (fun hw => ⟨haccepted', hw.2⟩) (h.called hmem)
    . exact fun hmem => Threads.exists_mem_set hi (fun hw => ⟨haccepted', hw.2⟩) (h.denied hmem)
    . exact h.calledOnce
  unfold AnswerThread.fetch
  cases hread : job.shared.coordinator.suspendedFor thread.pending with
  | mk found coordinator =>
    rw [hread] at hstate
    cases found with
    | error error =>
      refine hkept coordinator .failed hstate rfl (fun hmay => nomatch hmay) ?_
      intro _
      apply AnswerThread.alone_of_ne
      . simp
      . simp
      . simp
    | ok suspended =>
      refine hkept coordinator (.fetched suspended) hstate rfl (fun hallow => hmay.trans hallow) ?_
      intro hid
      constructor
      . intro hphase
        cases hphase
      . intro hphase
        cases hphase
      . intro _ _ hallow
        obtain hunspent | hclosed :=
          (h.holds.alone thread (List.mem_of_getElem? hi) hid).accepted hphase hallow
        . exact hunspent
        . subst hid
          exact absurd hclosed (SuspensionCoordinator.not_closed_of_suspendedFor h.indexed hread)

theorem InOrder.resolve (now : UInt64) (suspended : SuspendedToolInvocationState)
    : InOrder questionId
      { shared := (thread.resolve jobId job.shared now suspended).1
        threads := job.threads.set i (thread.resolve jobId job.shared now suspended).2 } := by
  constructor
  . exact h.indexed.apply _
  . refine h.holds.advance Apart.symm ?_ ?_
    . intro hid
      constructor
      . intro _
        subst hid
        exact RuntimeStateSnapshot.closed_upsertSuspension _ _ _ _ _ _ (by decide)
      . intro hphase'
        cases hphase'
      . intro _ hphase'
        cases hphase'
    . intro j b hne hj
      refine ⟨?_, ?_⟩
      . intro hid
        refine (h.holds.alone b (List.mem_of_getElem? hj) hid).keep ?_ (fun _ hunspent => hunspent)
        intro _ hclosed
        apply hclosed.apply
        rintro ⟨_, hactive⟩
        cases hactive
      . intro _ _ hmay
        cases hmay
  . exact fun hmem => Threads.exists_mem_set hi (fun hw => ⟨rfl, hw.2⟩) (h.called hmem)
  . exact fun hmem => Threads.exists_mem_set hi (fun hw => ⟨rfl, hw.2⟩) (h.denied hmem)
  . exact h.calledOnce

omit hi in
theorem InOrder.holds_of_done {thread' : AnswerThread} {shared' : AnswerBoard}
    (hmay : thread'.mayCall = false) (halone : ∀ board, thread'.Alone questionId board)
    (hothers : ∀ (j : Nat) b, j ≠ i → job.threads[j]? = some b
      → b.pending.questionId = questionId → b.Alone questionId shared')
    : Threads.Holds
        (fun board thread => thread.pending.questionId = questionId → thread.Alone questionId board)
        (Apart questionId) { shared := shared', threads := job.threads.set i thread' } := by
  refine h.holds.advance Apart.symm (fun _ => halone _) ?_
  intro j b hne hj
  refine ⟨hothers j b hne hj, ?_⟩
  intro _ _ hmay'
  rw [hmay] at hmay'
  cases hmay'

theorem InOrder.resume (agent : CoreAgent) (uuid : String)
    {suspended : SuspendedToolInvocationState} (hphase : thread.phase = .fetched suspended)
    : InOrder questionId
      { shared := (thread.resume job.shared agent uuid suspended).1
        threads := job.threads.set i (thread.resume job.shared agent uuid suspended).2 } := by
  have hmay : thread.mayCall = thread.allow := AnswerThread.mayCall_of_fetched hphase
  obtain ⟨phase, hdone, hresume | ⟨hallow, hresume⟩⟩ :=
    thread.resume_cases job.shared agent uuid suspended
  . rw [hresume]
    obtain ⟨haccepted', hmay', halone⟩ := thread.done questionId thread.called hdone
    constructor
    . exact h.indexed
    . apply h.holds_of_done hmay' halone
      intro j b hne hj
      exact h.holds.alone b (List.mem_of_getElem? hj)
    . exact fun hmem => Threads.exists_mem_set hi (fun hw => ⟨haccepted', hw.2⟩) (h.called hmem)
    . exact fun hmem => Threads.exists_mem_set hi (fun hw => ⟨haccepted', hw.2⟩) (h.denied hmem)
    . exact h.calledOnce
  . rw [hresume]
    obtain ⟨haccepted', hmay', halone⟩ := thread.done questionId true hdone
    by_cases hid : thread.pending.questionId = questionId
    . have hunspent : Unspent questionId job.shared.log :=
        (h.holds.alone thread (List.mem_of_getElem? hi) hid).fetched suspended hphase hallow
      subst hid
      constructor
      . exact h.indexed
      . apply h.holds_of_done hmay' halone
        intro j b hne hj hidB
        refine (h.holds.alone b (List.mem_of_getElem? hj) hidB).keep (fun _ hclosed => hclosed) ?_
        -- the other answers cannot call the tool while this one can
        intro hmayB
        exact absurd hmayB
          (h.holds.apart i j thread b hne.symm hi hj rfl hidB (hmay.trans hallow))
      . intro _
        exact ⟨_, Threads.mem_set_self _ hi, haccepted', rfl, rfl⟩
      . intro hmem
        obtain hmem | hmem := List.mem_append.mp hmem
        . exact absurd hmem hunspent.notDenied
        . cases List.mem_singleton.mp hmem
      . exact h.calledOnce.append_called hunspent
    . have hother : ∀ event, event = .called questionId ∨ event = .accepted questionId false
          → event ∈ job.shared.log ++ [.called thread.pending.questionId]
          → event ∈ job.shared.log := by
        intro event hevent hmem
        obtain hmem | hmem := List.mem_append.mp hmem
        . exact hmem
        . cases List.mem_singleton.mp hmem
          obtain heq | heq := hevent
          . cases heq
            exact absurd rfl hid
          . cases heq
      constructor
      . exact h.indexed
      . apply h.holds_of_done hmay' halone
        intro j b hne hj hidB
        refine (h.holds.alone b (List.mem_of_getElem? hj) hidB).keep (fun _ hclosed => hclosed) ?_
        intro _ hunspent
        exact ⟨fun hmem => hunspent.notCalled (hother _ (.inl rfl) hmem),
          fun hmem => hunspent.notDenied (hother _ (.inr rfl) hmem)⟩
      . intro hmem
        refine Threads.exists_mem_set hi ?_ (h.called (hother _ (.inl rfl) hmem))
        exact fun hw => absurd hw.2.1 hid
      . intro hmem
        refine Threads.exists_mem_set hi ?_ (h.denied (hother _ (.inr rfl) hmem))
        exact fun hw => absurd hw.2.1 hid
      . exact h.calledOnce.append_other (fun heq => hid (by cases heq; rfl))

omit h in
theorem InTurn.not_mayCall {now : UInt64}
    (hid : thread.pending.questionId = thread.answer.questionId)
    (hturn : InTurn job (.answer i (.accept now))) {b : AnswerThread} (hb : b ∈ job.threads)
    (hsame : b.pending.questionId = thread.pending.questionId)
    : b.mayCall = false := by
  cases hmay : b.mayCall with
  | false => rfl
  | true =>
    have hgives := hturn thread hi hid b hb (AnswerThread.isAccepted_of_mayCall hmay) hsame
    exact hmay.symm.trans hgives.1

theorem InOrder.unspent_or_closed {now : UInt64}
    (hid : thread.pending.questionId = thread.answer.questionId)
    (hturn : InTurn job (.answer i (.accept now))) (hallow : thread.allow = true)
    (hsame : thread.pending.questionId = questionId)
    : Unspent questionId job.shared.log
        ∨ job.shared.coordinator.runtimeState.Closed questionId := by
  have hearlier : ∀ earlier ∈ job.threads, earlier.isAccepted = true
      → earlier.pending.questionId = questionId
      → ¬(earlier.allow = true ∧ earlier.called = false)
      → job.shared.coordinator.runtimeState.Closed questionId := by
    intro earlier hmem haccepted hidE hspent
    have hgives := hturn thread hi hid earlier hmem haccepted (hidE.trans hsame.symm)
    exact (h.holds.alone earlier hmem hidE).resolved ((hgives.2 hallow).resolve_right hspent)
  by_cases hcalled : .called questionId ∈ job.shared.log
  . obtain ⟨earlier, hmem, haccepted, hidE, hcalledE⟩ := h.called hcalled
    exact .inr (hearlier earlier hmem haccepted hidE (by simp [hcalledE]))
  . by_cases hdenied : .accepted questionId false ∈ job.shared.log
    . obtain ⟨earlier, hmem, haccepted, hidE, hallowE⟩ := h.denied hdenied
      exact .inr (hearlier earlier hmem haccepted hidE (by simp [hallowE]))
    . exact .inl ⟨hcalled, hdenied⟩

theorem InOrder.accept (now : UInt64) (hphase : thread.phase = .read)
    (hturn : InTurn job (.answer i (.accept now)))
    : InOrder questionId
      { shared := (thread.accept jobId job.shared now).1
        threads := job.threads.set i (thread.accept jobId job.shared now).2 } := by
  have hnew : thread.isAccepted = false := by
    unfold AnswerThread.isAccepted
    rw [hphase]
  have hwitness : ∀ P : AnswerThread → Prop, ∀ thread',
      (∃ b ∈ job.threads, b.isAccepted = true ∧ P b)
      → ∃ b ∈ job.threads.set i thread', b.isAccepted = true ∧ P b := by
    intro P thread' hexists
    refine Threads.exists_mem_set hi ?_ hexists
    intro hw
    cases hnew.symm.trans hw.1
  obtain ⟨coordinator, hstate, haccept⟩
      | ⟨coordinator, pending, phase, haccept, hpending, hid, hphase', hclosed, hindexed⟩ :=
    thread.accept_cases job.shared jobId now
  . rw [haccept]
    refine @InOrder.remember questionId { job with threads := job.threads.set i _ } ?_ coordinator
      hstate
    constructor
    . exact h.indexed
    . refine h.holds_of_done rfl ?_ ?_
      . intro board
        apply AnswerThread.alone_of_ne
        . simp
        . simp
        . simp
      . intro j b hne hj
        exact h.holds.alone b (List.mem_of_getElem? hj)
    . exact fun hmem => hwitness _ _ (h.called hmem)
    . exact fun hmem => hwitness _ _ (h.denied hmem)
    . exact h.calledOnce
  . rw [haccept]
    constructor
    . exact hindexed _ h.indexed
    . refine h.holds.advance Apart.symm ?_ ?_
      . intro hsame
        have hq : thread.pending.questionId = questionId := hpending.symm.trans hsame
        constructor
        . intro hresolved
          obtain rfl | ⟨rfl, hclosed'⟩ := hphase'
          . cases hresolved
          . have hclosed' : coordinator.runtimeState.Closed questionId := by
              rw [← hq]
              exact hclosed'
            exact hclosed'
        . intro _ hallow
          have hallow : thread.allow = true := hallow
          obtain hunspent | hclosed' := h.unspent_or_closed hi hid hturn hallow hq
          . exact .inl (hunspent.append_accepted (fun _ => hallow))
          . exact .inr (hclosed _ hclosed')
        . intro suspended hfetched
          obtain rfl | ⟨rfl, _⟩ := hphase'
          . cases hfetched
          . cases hfetched
      . intro j b hne hj
        have hb := List.mem_of_getElem? hj
        refine ⟨?_, ?_⟩
        . intro hidB
          refine (h.holds.alone b hb hidB).keep (fun _ hother => hclosed _ hother) ?_
          intro hmay hunspent
          apply hunspent.append_accepted
          intro hq
          cases hmay.symm.trans (InTurn.not_mayCall hi hid hturn hb (hidB.trans hq.symm))
        . intro hq hidB _ hmay
          cases hmay.symm.trans (InTurn.not_mayCall hi hid hturn hb
            (hidB.trans (hpending.symm.trans hq).symm))
    . intro hmem
      obtain hmem | hmem := List.mem_append.mp hmem
      . exact hwitness _ _ (h.called hmem)
      . cases List.mem_singleton.mp hmem
    . intro hmem
      obtain hmem | hmem := List.mem_append.mp hmem
      . exact hwitness _ _ (h.denied hmem)
      . injection List.mem_singleton.mp hmem with hq hallow
        refine ⟨_, Threads.mem_set_self _ hi, ?_, hpending.trans hq.symm, hallow.symm⟩
        obtain rfl | ⟨rfl, _⟩ := hphase'
        . rfl
        . rfl
    . exact h.calledOnce.append_other nofun

end Thread

theorem InOrder.answer {i : Nat} {step : AnswerStep} {job' : AnsweredJob}
    (hstep : job.advance (AnswerThread.act jobId step) i = some job')
    (hturn : InTurn job (.answer i step))
    : InOrder questionId job' := by
  obtain ⟨thread, thread', board', hi, hact, rfl⟩ := Threads.advance_eq_some hstep
  obtain ⟨now, rfl, hphase, heq⟩ | ⟨rfl, hphase, heq⟩ | ⟨agent, uuid, suspended, rfl, hphase, heq⟩
      | ⟨now, suspended, rfl, _, heq⟩ := AnswerThread.act_cases hact
  . have haccept := @InOrder.accept questionId jobId job h i thread hi now hphase hturn
    rw [heq] at haccept
    exact haccept
  . have hfetch := h.fetch hi hphase
    rw [heq] at hfetch
    exact hfetch
  . have hresume := h.resume hi agent uuid hphase
    rw [heq] at hresume
    exact hresume
  . have hresolve := @InOrder.resolve questionId jobId job h i thread hi now suspended
    rw [heq] at hresolve
    exact hresolve

end Steps

variable {questionId jobId : String}

theorem InOrder.step {job job' : AnsweredJob} (h : InOrder questionId job)
    {action : PermissionAction} (hturn : InTurn job action)
    (hstep : answerStep jobId job action = some job')
    : InOrder questionId job' := by
  cases action with
  | submit order answer =>
    have hstate := job.shared.coordinator.runtimeState_questionState order jobId true
    unfold answerStep at hstep
    dsimp only at hstep
    cases hread : job.shared.coordinator.questionState order jobId true with
    | mk found coordinator =>
      rw [hread] at hstate hstep
      cases found with
      | none =>
        cases hstep
        exact h.remember hstate
      | some pending =>
        cases hstep
        exact (h.remember hstate).start
  | answer i step => exact h.answer hstep hturn
  | write upsert =>
    cases hstep
    exact h.write hturn
  | remember pendingQuestions suspendedToolInvocations =>
    cases hstep
    exact h.remember rfl

theorem inOrder_askedJob (now : UInt64) (source jobId questionId : String)
    (suspended : SuspendedToolInvocationState) (coordinator : SuspensionCoordinator)
    : InOrder questionId (askedJob now source jobId questionId suspended coordinator) := by
  constructor
  . unfold askedJob SuspensionCoordinator.askToolPermission
      SuspensionCoordinator.storeToolInvocation RuntimeStateSnapshot.Indexed
    dsimp only
    change (RuntimeTaskIndex.addSuspension _ _).suspensionIdsByQuestionId.lookup questionId = _
    rw [RuntimeTaskIndex.suspensionIdsByQuestionId_addSuspension _ rfl]
    exact AList.lookup_insert ..
  . constructor
    . intro thread hmem
      cases hmem
    . intro i j a b _ hi
      cases hi
  . intro hmem
    cases hmem
  . intro hmem
    cases hmem
  . exact ⟨Nat.zero_le 1, List.Pairwise.nil⟩

/--
While each answer is in turn, the suspended tool is called at most once, and never after it was denied,
whatever else is written meanwhile.
-/
theorem always_calledOnce (now : UInt64) (source : String)
    (suspended : SuspendedToolInvocationState) (coordinator : SuspensionCoordinator)
    {actions : List PermissionAction}
    (hturn : Runs.Guarded (answerStep jobId) InTurn
      (askedJob now source jobId questionId suspended coordinator) actions)
    : Runs.Always (answerStep jobId) (fun job => CalledOnce questionId job.shared.log)
        (askedJob now source jobId questionId suspended coordinator) actions := by
  have hinitial := inOrder_askedJob now source jobId questionId suspended coordinator
  have hstep : ∀ job action job', InOrder questionId job → InTurn job action
      → answerStep jobId job action = some job' → InOrder questionId job' :=
    fun _ _ _ h hturn hstep => h.step hturn hstep
  exact (Runs.always_of_guarded hstep hinitial hturn).mono (fun _ h => h.calledOnce)

def echoSuspended : SuspendedToolInvocationState where
  suspension :=
    { suspendedTool :=
        { toolUseId := "tu_1"
          toolName := "echo"
          toolInput := .object []
          permissionRequest :=
            { toolName := "echo"
              prompt := "run echo?"
              options := ["allow", "deny"]
              riskLevel := .high
              requiresUserConfirmation := true
              rawInput := .object []
              inputPreview := "" }
          invocation := .new 0 "toolinv_1" "echo" (some "tu_1") }
      messages := []
      iterations := 0
      compactCount := 0 }
  inbound := AskedQuestion.askingMessage
  opencodeSessionId := "session_1"

def echoAsked : AnsweredJob :=
  askedJob 1 "suspend" "job_1" "question_1" echoSuspended
    (({} : SuspensionCoordinator).upsert (.turn 0 AskedQuestion.askingMessage "initial" .running))

def CoreAgent.withEcho (answer : Except ToolError ToolResult) : CoreAgent :=
  { CoreAgent.idle with toolRegistry := (∅ : ToolRegistry).register (constTool "echo" answer) }

def submitEcho (text : String) : PermissionAction :=
  .submit ["suspension_question_1"]
    { questionId := "question_1", source := "user", answerType := "choice", answer := text }

def approvedThenDenied : List PermissionAction :=
  [submitEcho "allow", submitEcho "deny", .answer 0 (.accept 2), .answer 0 .fetch,
    .answer 0 (.resume (.withEcho (.ok (.text "ok"))) "r_1"), .answer 1 (.accept 3),
    .answer 0 (.resolve 4), .answer 1 .fetch]

theorem always_calledOnce_approvedThenDenied
    : Runs.Guarded (answerStep "job_1") InTurn echoAsked approvedThenDenied
        ∧ Runs.Always (answerStep "job_1") (fun job => CalledOnce "question_1" job.shared.log)
          echoAsked approvedThenDenied := by
  have hturn : Runs.Guarded (answerStep "job_1") InTurn echoAsked approvedThenDenied := by
    decide +kernel
  exact ⟨hturn, always_calledOnce 1 "suspend" echoSuspended _ hturn⟩

def deniedMeanwhile : List PermissionAction :=
  [submitEcho "allow", submitEcho "deny", .answer 0 (.accept 2), .answer 1 (.accept 3),
    .answer 0 .fetch, .answer 0 (.resume (.withEcho (.ok (.text "ok"))) "r_1")]

def approvedAgain : List PermissionAction :=
  [submitEcho "allow", .answer 0 (.accept 2), .answer 0 .fetch,
    .answer 0 (.resume (.withEcho (.error (.internal "boom"))) "r_1"), submitEcho "allow",
    .answer 1 (.accept 3), .answer 1 .fetch,
    .answer 1 (.resume (.withEcho (.error (.internal "boom"))) "r_2")]

/-- The tool is called after its denial, and a tool that has failed is called twice. -/
theorem deniedMeanwhile_and_approvedAgain_not_calledOnce
    : ¬Runs.Always (answerStep "job_1") (fun job => CalledOnce "question_1" job.shared.log)
          echoAsked deniedMeanwhile
        ∧ ¬Runs.Always (answerStep "job_1") (fun job => CalledOnce "question_1" job.shared.log)
          echoAsked approvedAgain := by
  have hdenied : (Runs.run (answerStep "job_1") echoAsked deniedMeanwhile).map
      (fun job => job.shared.log) = some [.accepted "question_1" true,
        .accepted "question_1" false, .called "question_1"] := by
    decide +kernel
  have hagain : (Runs.run (answerStep "job_1") echoAsked approvedAgain).map
      (fun job => job.shared.log) = some [.accepted "question_1" true, .called "question_1",
        .accepted "question_1" true, .called "question_1"] := by
    decide +kernel
  constructor
  . intro h
    obtain ⟨job, hrun, hlog⟩ := Option.map_eq_some_iff.mp hdenied
    have honce := h.run_eq_some hrun
    rw [hlog] at honce
    have hpair := (List.pairwise_cons.mp (List.pairwise_cons.mp honce.notDenied).2).1
    exact hpair (.called "question_1") (List.mem_singleton_self _) rfl rfl
  . intro h
    obtain ⟨job, hrun, hlog⟩ := Option.map_eq_some_iff.mp hagain
    have honce := (h.run_eq_some hrun).once
    rw [hlog] at honce
    exact absurd honce (by decide)

end AnimaAgent
