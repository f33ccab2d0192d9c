import AnimaAgent.Agent.AnswerSubmission
import AnimaAgent.Execution.Lemmas.Segments
import AnimaAgent.Library.Runs
import AnimaAgent.Library.Threads

/-!
This module contains the answers to the questions of a job as threads that go through
`submit_question_answer` in steps. The steps of several answers may be interleaved with each other and
with everything else that is written to the runtime state and to the memory of the coordinator.
-/

namespace AnimaAgent

inductive PermissionEvent where
  | accepted (questionId : String) (allow : Bool)
  | called (questionId : String)
  deriving DecidableEq

inductive AnswerPhase where
  | read
  | rejected
  | accepted
  | fetched (suspended : SuspendedToolInvocationState)
  | resumed (suspended : SuspendedToolInvocationState)
  | resolved
  | failed
  deriving DecidableEq

def AnswerPhase.ofResumed (suspended : SuspendedToolInvocationState)
    : Except AgenticLoopError (List InternalMsg) → AnswerPhase
  | .ok _ => .resumed suspended
  | .error _ => .failed

structure AnswerThread where
  answer : QuestionAnswerInput
  pending : PendingQuestion
  phase : AnswerPhase
  called : Bool
  deriving DecidableEq

structure AnswerBoard where
  coordinator : SuspensionCoordinator
  log : List PermissionEvent

inductive AnswerStep where
  | accept (now : UInt64)
  | fetch
  | resume (agent : CoreAgent) (uuid : String)
  | resolve (now : UInt64)

namespace AnswerThread

variable (jobId : String) (thread : AnswerThread) (board : AnswerBoard)

def text : String :=
  Text.trim thread.answer.answer

def allow : Bool :=
  isAllow thread.text

def accept (now : UInt64) : AnswerBoard × AnswerThread :=
  match board.coordinator.acceptAnswer now jobId thread.answer
      (truncatePreview thread.answer.answer 120) thread.pending with
  | (.error _, coordinator) => ({ board with coordinator }, { thread with phase := .rejected })
  | (.ok pending, coordinator) =>
    ({ coordinator, log := board.log ++ [.accepted pending.questionId thread.allow] },
      { thread with
        pending
        -- the other questions are recorded as resolved when the answer is accepted
        phase := if pending.sourceKind = .toolPermission then .accepted else .resolved })

def fetch : AnswerBoard × AnswerThread :=
  match board.coordinator.suspendedFor thread.pending with
  | (.error _, coordinator) => ({ board with coordinator }, { thread with phase := .failed })
  | (.ok suspended, coordinator) =>
    ({ board with coordinator }, { thread with phase := .fetched suspended })

def resume (agent : CoreAgent) (uuid : String) (suspended : SuspendedToolInvocationState)
    : AnswerBoard × AnswerThread :=
  let run := agent.resumeAnswered suspended uuid thread.text
  let calls := loopToolCalls run.events
  ({ board with log := board.log ++ calls.map (fun _ => .called thread.pending.questionId) },
    { thread with
      phase := .ofResumed suspended run.outcome
      called := thread.called || !calls.isEmpty })

def resolve (now : UInt64) (suspended : SuspendedToolInvocationState)
    : AnswerBoard × AnswerThread :=
  ({ board with
      coordinator := board.coordinator.upsert
        (.suspension now suspended.inbound thread.pending
          (some (runtimeTaskId jobId .toolPermission)) (some suspended.invocationId) .toolPermission
          .resolved) },
    { thread with phase := .resolved })

def act (step : AnswerStep) (board : AnswerBoard) (thread : AnswerThread)
    : Option (AnswerBoard × AnswerThread) :=
  match step, thread.phase with
  | .accept now, .read => some (thread.accept jobId board now)
  | .fetch, .accepted => some (thread.fetch board)
  | .resume agent uuid, .fetched suspended => some (thread.resume board agent uuid suspended)
  | .resolve now, .resumed suspended => some (thread.resolve jobId board now suspended)
  | _, _ => none

section Act

variable {jobId : String} {coordinator coordinator' : SuspensionCoordinator}
variable {log : List PermissionEvent} {answer : QuestionAnswerInput} {pending : PendingQuestion}
variable {called : Bool} {suspended : SuspendedToolInvocationState}

theorem act_fetch_of_error {error : AgentError}
    (h : coordinator.suspendedFor pending = (.error error, coordinator'))
    : act jobId .fetch { coordinator, log } { answer, pending, phase := .accepted, called }
        = some ({ coordinator := coordinator', log },
          { answer, pending, phase := .failed, called }) := by
  unfold act fetch
  dsimp only
  rw [h]

theorem act_fetch_of_ok (h : coordinator.suspendedFor pending = (.ok suspended, coordinator'))
    : act jobId .fetch { coordinator, log } { answer, pending, phase := .accepted, called }
        = some ({ coordinator := coordinator', log },
          { answer, pending, phase := .fetched suspended, called }) := by
  unfold act fetch
  dsimp only
  rw [h]

variable {agent : CoreAgent} {uuid : String}

theorem act_resume_of_error {error : AgenticLoopError}
    (h : (agent.resumeAnswered suspended uuid (Text.trim answer.answer)).outcome = .error error)
    : act jobId (.resume agent uuid) { coordinator, log }
          { answer, pending, phase := .fetched suspended, called }
        = (let calls := loopToolCalls
              (agent.resumeAnswered suspended uuid (Text.trim answer.answer)).events
          some (
            { coordinator
              log := log ++ calls.map (fun _ => .called pending.questionId) },
            { answer, pending, phase := .failed, called := called || !calls.isEmpty })) := by
  unfold act resume text
  dsimp only
  rw [h]
  rfl

theorem act_resume_of_ok {resumedMessages : List InternalMsg}
    (h : (agent.resumeAnswered suspended uuid (Text.trim answer.answer)).outcome
      = .ok resumedMessages)
    : act jobId (.resume agent uuid) { coordinator, log }
          { answer, pending, phase := .fetched suspended, called }
        = (let calls := loopToolCalls
              (agent.resumeAnswered suspended uuid (Text.trim answer.answer)).events
          some (
            { coordinator
              log := log ++ calls.map (fun _ => .called pending.questionId) },
            { answer, pending, phase := .resumed suspended
              called := called || !calls.isEmpty })) := by
  unfold act resume text
  dsimp only
  rw [h]
  rfl

theorem act_resolve (now : UInt64)
    : act jobId (.resolve now) { coordinator, log }
          { answer, pending, phase := .resumed suspended, called }
        = some (
          { coordinator := coordinator.upsert
              (.suspension now suspended.inbound pending
                (some (runtimeTaskId jobId .toolPermission)) (some suspended.invocationId)
                .toolPermission .resolved)
            log },
          { answer, pending, phase := .resolved, called }) := by
  rfl

end Act

end AnswerThread

inductive PermissionAction where
  | submit (order : List String) (answer : QuestionAnswerInput)
  | answer (i : Nat) (step : AnswerStep)
  | write (upsert : RuntimeUpsert)
  | remember (pendingQuestions : AList (fun _ : String => PendingQuestion))
    (suspendedToolInvocations : AList (fun _ : String => SuspendedToolInvocationState))

abbrev AnsweredJob := Threads AnswerBoard AnswerThread

def answerStep (jobId : String) (job : AnsweredJob) : PermissionAction → Option AnsweredJob
  | .submit order answer =>
    let (found, coordinator) := job.shared.coordinator.questionState order jobId true
    let job : AnsweredJob := { job with shared := { job.shared with coordinator } }
    match found with
    | none => some job
    | some pending => some (job.start { answer, pending, phase := .read, called := false })
  | .answer i step => job.advance (AnswerThread.act jobId step) i
  | .write upsert =>
    some { job with
      shared := { job.shared with coordinator := job.shared.coordinator.upsert upsert } }
  | .remember pendingQuestions suspendedToolInvocations =>
    some { job with
      shared :=
        { job.shared with
          coordinator :=
            { job.shared.coordinator with pendingQuestions, suspendedToolInvocations } } }

theorem CoreAgent.acceptQuestionAnswer_coordinator {agent : CoreAgent} {state accepted : AgentState}
    {order : List String} {jobId : String} {answer : QuestionAnswerInput}
    {pending : PendingQuestion} {inbound : InboundMessage}
    (h : agent.acceptQuestionAnswer state order jobId answer = (.ok (pending, inbound), accepted))
    : ∃ question coordinator,
        state.toSuspensionCoordinator.questionState order jobId true = (some question, coordinator)
          ∧ coordinator.acceptAnswer agent.now jobId answer (truncatePreview answer.answer 120)
              question
            = (.ok pending, accepted.toSuspensionCoordinator) := by
  unfold acceptQuestionAnswer SuspensionCoordinator.submitAnswer at h
  cases hread : state.toSuspensionCoordinator.questionState order jobId true with
  | mk found coordinator =>
    rw [hread] at h
    cases found with
    | none => cases h
    | some question =>
      refine ⟨question, coordinator, rfl, ?_⟩
      cases haccept : coordinator.acceptAnswer agent.now jobId answer
          (truncatePreview answer.answer 120) question with
      | mk result after =>
        dsimp only at h
        rw [haccept] at h
        cases result with
        | error error => cases h
        | ok pending' =>
          dsimp only at h
          split at h
          . cases h
          . cases h
            rfl

theorem answerStep_alone {jobId : String} {step : AnswerStep} {board board' : AnswerBoard}
    {thread thread' : AnswerThread}
    (h : AnswerThread.act jobId step board thread = some (board', thread'))
    : answerStep jobId { shared := board, threads := [thread] } (.answer 0 step)
        = some { shared := board', threads := [thread'] } := by
  unfold answerStep Threads.advance
  dsimp only
  rw [List.getElem?_cons_zero, Option.bind_some, h]
  rfl

theorem CoreAgent.prepareToolPermissionResume_alone (agent : CoreAgent)
    {state accepted : AgentState} {order : List String} (uuid : String) {jobId : String}
    {answer : QuestionAnswerInput} {pending : PendingQuestion} {inbound : InboundMessage}
    (h : agent.acceptQuestionAnswer state order jobId answer = (.ok (pending, inbound), accepted))
    (hkind : pending.sourceKind = .toolPermission)
    : let prepared := agent.prepareToolPermissionResume accepted.toSuspensionCoordinator jobId
          pending uuid (Text.trim answer.answer)
      ∃ steps thread,
        Runs.run (answerStep jobId)
            { shared := { coordinator := state.toSuspensionCoordinator, log := [] }, threads := [] }
            (.submit order answer :: .answer 0 (.accept agent.now) :: steps)
          = some
            { shared :=
                { coordinator := prepared.coordinator
                  log := .accepted pending.questionId (isAllow (Text.trim answer.answer))
                    :: (loopToolCalls prepared.events).map (fun _ => .called pending.questionId) }
              threads := [thread] } := by
  obtain ⟨question, coordinator, hread, haccept⟩ := acceptQuestionAnswer_coordinator h
  have hsubmit : answerStep jobId
      { shared := { coordinator := state.toSuspensionCoordinator, log := [] }, threads := [] }
      (.submit order answer)
        = some
          { shared := { coordinator, log := [] }
            threads := [{ answer, pending := question, phase := .read, called := false }] } := by
    unfold answerStep
    dsimp only
    rw [hread]
    rfl
  have haccepted : AnswerThread.act jobId (.accept agent.now) { coordinator, log := [] }
      { answer, pending := question, phase := .read, called := false }
        = some (
          { coordinator := accepted.toSuspensionCoordinator
            log := [.accepted pending.questionId (isAllow (Text.trim answer.answer))] },
          { answer, pending, phase := .accepted, called := false }) := by
    unfold AnswerThread.act AnswerThread.accept
    dsimp only
    rw [haccept]
    dsimp only
    rw [if_pos hkind]
    rfl
  simp only [Runs.run_cons_of_some _ hsubmit, Runs.run_cons_of_some _ (answerStep_alone haccepted)]
  unfold prepareToolPermissionResume
  cases hfound : accepted.toSuspensionCoordinator.suspendedFor pending with
  | mk found fetched =>
    cases found with
    | error error =>
      refine ⟨[.answer 0 .fetch], { answer, pending, phase := .failed, called := false }, ?_⟩
      rw [Runs.run_cons_of_some _ (answerStep_alone (AnswerThread.act_fetch_of_error hfound))]
      rfl
    | ok suspended =>
      dsimp only
      let called :=
        !(loopToolCalls (agent.resumeAnswered suspended uuid (Text.trim answer.answer)).events).isEmpty
      cases houtcome : (agent.resumeAnswered suspended uuid (Text.trim answer.answer)).outcome with
      | error error =>
        refine ⟨[.answer 0 .fetch, .answer 0 (.resume agent uuid)],
          { answer, pending, phase := .failed, called }, ?_⟩
        rw [Runs.run_cons_of_some _ (answerStep_alone (AnswerThread.act_fetch_of_ok hfound)),
          Runs.run_cons_of_some _ (answerStep_alone (AnswerThread.act_resume_of_error houtcome))]
        dsimp only
        rw [List.singleton_append, Runs.run_nil, Bool.false_or]
      | ok resumedMessages =>
        refine ⟨[.answer 0 .fetch, .answer 0 (.resume agent uuid), .answer 0 (.resolve agent.now),
          .write (.task agent.now suspended.inbound .toolPermission .running
            ("tool permission resolved for " ++ suspended.toolName) none)],
          { answer, pending, phase := .resolved, called }, ?_⟩
        rw [Runs.run_cons_of_some _ (answerStep_alone (AnswerThread.act_fetch_of_ok hfound)),
          Runs.run_cons_of_some _ (answerStep_alone (AnswerThread.act_resume_of_ok houtcome)),
          Runs.run_cons_of_some _ (answerStep_alone (AnswerThread.act_resolve agent.now))]
        unfold SuspensionCoordinator.resolveToolPermission Runs.run answerStep
        rw [List.singleton_append, Option.bind_some, Runs.run_nil, Bool.false_or]

def askedJob (now : UInt64) (source jobId questionId : String)
    (suspended : SuspendedToolInvocationState) (coordinator : SuspensionCoordinator)
    : AnsweredJob where
  shared :=
    { coordinator := coordinator.askToolPermission now source jobId questionId suspended
      log := [] }
  threads := []

/-- The tool is called at most once, and not after an answer that denied it was accepted. -/
structure CalledOnce (questionId : String) (log : List PermissionEvent) : Prop where
  once : log.count (.called questionId) ≤ 1
  notDenied : log.Pairwise (fun earlier later =>
    earlier = .accepted questionId false → later ≠ .called questionId)

end AnimaAgent
