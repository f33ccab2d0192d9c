import AnimaAgent.Dispatcher.Core
import AnimaAgent.Dispatcher.QueueOrder

namespace AnimaAgent

structure SendAttempt where
  envelope : DispatchEnvelope
  failureStage : Option DispatchFailureStage
  deriving DecidableEq

def SendAttempt.retryable (attempt : SendAttempt) : Bool :=
  attempt.envelope.shouldRetryForStage attempt.failureStage

structure SendRecord where
  enqueued : DispatchEnvelope
  envelope : DispatchEnvelope
  attempts : List SendAttempt := []
  deriving DecidableEq

namespace SendRecord

def new (envelope : DispatchEnvelope) : SendRecord where
  enqueued := envelope
  envelope

def place (record : SendRecord) : String × UInt8 :=
  record.envelope.place

def attempt (record : SendRecord) (envelope : DispatchEnvelope)
    (failureStage : Option DispatchFailureStage) : SendRecord :=
  { record with attempts := record.attempts ++ [{ envelope, failureStage }] }

end SendRecord

def Dispatcher.lastFailureStage (dispatcher : Dispatcher) : Option DispatchFailureStage :=
  dispatcher.lastDispatchDiagnostic.bind DispatchDiagnosticSnapshot.failureStage

/-- A board with the records of the envelopes that wait, and of those that are done with. -/
structure RecordedBoard where
  board : DispatcherBoard := {}
  queued : List SendRecord := []
  done : List SendRecord := []
  enqueued : List DispatchEnvelope := []

structure RecordedThread where
  phase : DispatchPhase := .idle
  held : Option SendRecord := none

namespace RecordedBoard

variable (shared : RecordedBoard)

def finish (held : Option SendRecord) : RecordedBoard :=
  { shared with done := shared.done ++ held.toList }

def noteCall (held : Option SendRecord) : DispatcherCall → RecordedBoard × Option SendRecord
  | .enqueue envelope =>
    ({ shared with
        queued := shared.queued ++ [.new envelope]
        enqueued := shared.enqueued ++ [envelope] }, held)
  | _ => (shared, held)

def noteAdvance (answers : DispatchAnswers) (held : Option SendRecord)
    : DispatchPhase → RecordedBoard × Option SendRecord
  | .dequeue _ =>
    match (shared.board.dispatcher.queue.dequeue answers.now).1 with
    | none => (shared, held)
    | some envelope =>
      ({ shared with queued := Fifo.leave SendRecord.place envelope.place shared.queued },
        (Fifo.under SendRecord.place envelope.place shared.queued).head?)
  | .send message (some (_, envelope)) selection =>
    -- the stage that the dispatch itself has recorded
    let dispatcher' := (shared.board.dispatcher.send answers.now message selection
      answers.findChannel).2
    let held' := held.map (fun record => record.attempt envelope dispatcher'.lastFailureStage)
    if dispatcher'.lastFailureStage.isNone then (shared.finish held', none) else (shared, held')
  | .failed _ envelope =>
    if envelope.shouldRetryForStage shared.board.dispatcher.lastFailureStage then (shared, held)
    else (shared.finish held, none)
  | .retry _ envelope =>
    match envelope.nextRetry answers.now with
    | some next =>
      ({ shared with
          queued := shared.queued ++ held.toList.map (fun record => { record with envelope := next }) },
        none)
    | none => (shared.finish held, none)
  | _ => (shared, held)

def note (input : DispatcherInput) (thread : RecordedThread) : RecordedBoard × Option SendRecord :=
  match input with
  | .call made => shared.noteCall thread.held made
  | .advance answers => shared.noteAdvance answers thread.held thread.phase

end RecordedBoard

def recordedAct (input : DispatcherInput) (shared : RecordedBoard) (thread : RecordedThread)
    : Option (RecordedBoard × RecordedThread) :=
  (input.act shared.board thread.phase).map (fun result =>
    let noted := shared.note input thread
    ({ noted.1 with board := result.1 }, { phase := result.2, held := noted.2 }))

def recordedStep (s : Threads RecordedBoard RecordedThread)
    : DispatcherAction → Option (Threads RecordedBoard RecordedThread)
  | .startThread => some (s.start {})
  | .startScheduler =>
    some (Threads.start { phase := .loop }
      { s with shared := { s.shared with board := s.shared.board.command .running } })
  | .step i input => s.advance (recordedAct input) i

def newRecordedDispatcher : Threads RecordedBoard RecordedThread where
  shared := {}
  threads := []

def withoutRecords (s : Threads RecordedBoard RecordedThread)
    : Threads DispatcherBoard DispatchPhase where
  shared := s.shared.board
  threads := s.threads.map RecordedThread.phase

theorem withoutRecords_recordedStep (s : Threads RecordedBoard RecordedThread)
    (action : DispatcherAction)
    : (recordedStep s action).map withoutRecords = dispatcherStep (withoutRecords s) action := by
  cases action with
  | startThread =>
    unfold recordedStep dispatcherStep withoutRecords Threads.start
    simp
  | startScheduler =>
    unfold recordedStep dispatcherStep withoutRecords Threads.start
    simp
  | step i input =>
    unfold recordedStep dispatcherStep withoutRecords Threads.advance
    simp only [List.getElem?_map]
    cases s.threads[i]? with
    | none => rfl
    | some thread =>
      simp only [Option.bind_some, Option.map_some, recordedAct, Option.map_map]
      cases input.act s.shared.board thread.phase with
      | none => rfl
      | some result => simp

inductive SendProgress where
  | queued
  | held
  | failed
  | retrying
  | done
  deriving DecidableEq

def DispatchPhase.handles : DispatchPhase → Option (SendProgress × DispatchEnvelope)
  | .dispatch _ origin | .select _ origin | .send _ origin _ =>
    origin.map (fun taken => (.held, taken.2))
  | .failed _ envelope => some (.failed, envelope)
  | .retry _ envelope => some (.retrying, envelope)
  | _ => none

@[simp]
theorem DrainCaller.handles_afterNone (caller : DrainCaller) : caller.afterNone.handles = none := by
  cases caller with
  | control => rfl
  | drain => rfl
  | scheduler => rfl

@[simp]
theorem DrainCaller.handles_afterSome (caller : DrainCaller) : caller.afterSome.handles = none := by
  cases caller with
  | control => rfl
  | drain => rfl
  | scheduler => rfl

structure FollowsCourse (Q : SendProgress → SendRecord → Prop)
    (Reads : SendRecord → Option DispatchFailureStage → Prop) : Prop where
  new : ∀ envelope, Q .queued (.new envelope)
  taken : ∀ record, Q .queued record → Q .held record
  sent : ∀ record : SendRecord, Q .held record → Q .done (record.attempt record.envelope none)
  failed : ∀ (record : SendRecord) stage, Q .held record
    → Q .failed (record.attempt record.envelope (some stage))
  readsOwn : ∀ (record : SendRecord) stage,
    Reads (record.attempt record.envelope (some stage)) (some stage)
  retries : ∀ record stage, Q .failed record → Reads record stage
    → record.envelope.shouldRetryForStage stage = true → Q .retrying record
  givesUp : ∀ record stage, Q .failed record → Reads record stage
    → record.envelope.shouldRetryForStage stage = false → Q .done record
  again : ∀ record now next, Q .retrying record → record.envelope.nextRetry now = some next
    → Q .queued { record with envelope := next }
  expires : ∀ record now, Q .retrying record → record.envelope.nextRetry now = none → Q .done record

section Course

variable {Q : SendProgress → SendRecord → Prop}
  {Reads : SendRecord → Option DispatchFailureStage → Prop}

def RecordedThread.Follows (Q : SendProgress → SendRecord → Prop)
    (Reads : SendRecord → Option DispatchFailureStage → Prop) (dispatcher : Dispatcher)
    (thread : RecordedThread) : Prop :=
  match thread.phase.handles with
  | none => thread.held = none
  | some (progress, envelope) => ∃ record, thread.held = some record ∧ record.envelope = envelope
    ∧ Q progress record ∧ (progress = .failed → Reads record dispatcher.lastFailureStage)

structure RecordedBoard.Follows (Q : SendProgress → SendRecord → Prop) (shared : RecordedBoard)
    : Prop where
  placed : shared.board.dispatcher.queue.Placed
  waiting : ∀ place, (Fifo.under SendRecord.place place shared.queued).map SendRecord.envelope
    = shared.board.dispatcher.queue.waiting place
  queued : ∀ record ∈ shared.queued, Q .queued record
  done : ∀ record ∈ shared.done, Q .done record

def RecordedBoard.records (shared : RecordedBoard) (held : Option SendRecord) : List SendRecord :=
  shared.queued ++ shared.done ++ held.toList

variable {shared shared' : RecordedBoard} {thread thread' : RecordedThread}

structure KeepsCourse (Q : SendProgress → SendRecord → Prop)
    (Reads : SendRecord → Option DispatchFailureStage → Prop) (shared : RecordedBoard)
    (held : Option SendRecord) (shared' : RecordedBoard) (thread' : RecordedThread) : Prop where
  board : shared'.Follows Q
  thread : thread'.Follows Q Reads shared'.board.dispatcher
  conserved : (shared'.enqueued ++ (shared.records held).map SendRecord.enqueued).Perm
    (shared.enqueued ++ (shared'.records thread'.held).map SendRecord.enqueued)

variable {board' : DispatcherBoard} {record : SendRecord} {held : Option SendRecord}

theorem RecordedBoard.Follows.of_queue (h : shared.Follows Q)
    (hqueue : board'.dispatcher.queue = shared.board.dispatcher.queue)
    : RecordedBoard.Follows Q { shared with board := board' } where
  placed := hqueue ▸ h.placed
  waiting := hqueue ▸ h.waiting
  queued := h.queued
  done := h.done

theorem RecordedBoard.Follows.finish (h : shared.Follows Q) (hdone : ∀ record ∈ held, Q .done record)
    : (shared.finish held).Follows Q where
  placed := h.placed
  waiting := h.waiting
  queued := h.queued
  done := by
    intro record hmem
    obtain hold | hnew := List.mem_append.mp hmem
    . exact h.done record hold
    . exact hdone record (Option.mem_toList.mp hnew)

theorem RecordedBoard.Follows.enqueue (h : shared.Follows Q) (hrecord : Q .queued record)
    : RecordedBoard.Follows Q { shared with
        board := shared.board.enqueue record.envelope
        queued := shared.queued ++ [record] } where
  placed := h.placed.enqueue record.envelope
  waiting := by
    intro place
    change _ = (shared.board.dispatcher.queue.enqueue record.envelope).waiting place
    rw [DispatchQueue.waiting_enqueue, Fifo.under_append, Fifo.under_singleton, List.map_append,
      h.waiting]
    unfold Fifo.put
    by_cases hplace : place = record.envelope.place
    . rw [if_pos hplace, if_pos (show place = record.place from hplace)]
      rfl
    . rw [if_neg hplace, if_neg (show ¬ place = record.place from hplace)]
      exact List.append_nil _
  queued := by
    intro other hmem
    obtain hold | hnew := List.mem_append.mp hmem
    . exact h.queued other hold
    . rw [List.mem_singleton.mp hnew]
      exact hrecord
  done := h.done

theorem RecordedBoard.Follows.exists_first (h : shared.Follows Q) {now : UInt64}
    {envelope : DispatchEnvelope}
    (hdequeue : (shared.board.dispatcher.queue.dequeue now).1 = some envelope)
    : ∃ record, (Fifo.under SendRecord.place envelope.place shared.queued).head? = some record
        ∧ record.envelope = envelope ∧ Q .queued record := by
  obtain ⟨⟨hhead, _⟩, _⟩ := DispatchQueue.dequeue_urgent h.placed hdequeue
  rw [← h.waiting, List.head?_map] at hhead
  obtain ⟨record, hfirst, henvelope⟩ := Option.map_eq_some_iff.mp hhead
  have hmem := (List.mem_filter.mp (List.mem_of_mem_head? hfirst)).1
  exact ⟨record, hfirst, henvelope, h.queued record hmem⟩

theorem RecordedBoard.Follows.dequeue (h : shared.Follows Q) {now : UInt64}
    {envelope : DispatchEnvelope}
    (hdequeue : (shared.board.dispatcher.queue.dequeue now).1 = some envelope)
    (hqueue : board'.dispatcher.queue = (shared.board.dispatcher.queue.dequeue now).2)
    : RecordedBoard.Follows Q { shared with
        board := board'
        queued := Fifo.leave SendRecord.place envelope.place shared.queued } where
  placed := by
    dsimp only
    rw [hqueue]
    exact h.placed.dequeue now
  waiting := by
    intro place
    dsimp only
    have hleave := congrFun (@Fifo.under_leave _ _ _ SendRecord.place envelope.place shared.queued) place
    rw [hqueue, DispatchQueue.waiting_dequeue h.placed hdequeue]
    rw [hleave]
    unfold Fifo.take
    split
    . rw [List.map_tail, h.waiting]
    . exact h.waiting place
  queued := fun record hmem => h.queued record (List.mem_of_mem_eraseP hmem)
  done := h.done

variable {phase phase' : DispatchPhase}

theorem RecordedThread.Follows.held_eq_none {dispatcher : Dispatcher}
    (h : RecordedThread.Follows Q Reads dispatcher { phase, held }) (hhandles : phase.handles = none)
    : held = none := by
  unfold RecordedThread.Follows at h
  rw [hhandles] at h
  exact h

theorem RecordedThread.Follows.of_handles_eq_none {dispatcher : Dispatcher}
    (hhandles : phase.handles = none)
    : RecordedThread.Follows Q Reads dispatcher { phase, held := none } := by
  unfold RecordedThread.Follows
  rw [hhandles]

theorem KeepsCourse.of_same (h : shared.Follows Q)
    (hqueue : board'.dispatcher.queue = shared.board.dispatcher.queue)
    (hthread : RecordedThread.Follows Q Reads board'.dispatcher { phase := phase', held })
    : KeepsCourse Q Reads shared held { shared with board := board' } { phase := phase', held } :=
  ⟨h.of_queue hqueue, hthread, .refl _⟩

theorem KeepsCourse.of_finish {record' : SendRecord} (h : shared.Follows Q)
    (hqueue : board'.dispatcher.queue = shared.board.dispatcher.queue) (hdone : Q .done record')
    (henqueued : record'.enqueued = record.enqueued) (hhandles : phase'.handles = none)
    : KeepsCourse Q Reads shared (some record) { shared.finish (some record') with board := board' }
        { phase := phase', held := none } where
  board := (h.finish (fun _ hmem => Option.some.inj hmem ▸ hdone)).of_queue hqueue
  thread := .of_handles_eq_none hhandles
  conserved := by
    rw [List.perm_iff_count]
    intro envelope
    simp only [RecordedBoard.records, RecordedBoard.finish, List.map_append, List.count_append,
      Option.toList_some, Option.toList_none, List.map_cons, List.map_nil, henqueued,
      List.count_nil]
    omega

end Course

namespace Dispatcher

variable (now : UInt64) (message : DispatchMessage) (selection : Selection) (dispatcher : Dispatcher)

theorem queue_recordBalancerMiss
    : (dispatcher.recordBalancerMiss now message selection).queue = dispatcher.queue := by
  unfold recordBalancerMiss
  split
  . rfl
  . rfl

theorem send_cases (findChannel : String → String → ChannelLookup)
    : let result := dispatcher.send now message selection findChannel
      result.2.queue = dispatcher.queue
      ∧ (result.1.success = true ∧ result.2.lastFailureStage = none
        ∨ result.1.success = false ∧ ∃ stage, result.2.lastFailureStage = some stage) := by
  unfold send
  dsimp only
  split
  . exact ⟨rfl, .inr ⟨rfl, .channelLookup, rfl⟩⟩
  . split
    . next hsuccess => exact ⟨rfl, .inl ⟨hsuccess, rfl⟩⟩
    . next hfailure => exact ⟨rfl, .inr ⟨eq_false_of_ne_true hfailure, .send, rfl⟩⟩

end Dispatcher

section Steps

variable {Q : SendProgress → SendRecord → Prop}
  {Reads : SendRecord → Option DispatchFailureStage → Prop}
  {shared shared' : RecordedBoard} {thread thread' : RecordedThread}

theorem KeepsCourse.of_handles_eq_none {board' : DispatcherBoard} {phase' : DispatchPhase}
    (h : shared.Follows Q) (hqueue : board'.dispatcher.queue = shared.board.dispatcher.queue)
    (hhandles : phase'.handles = none)
    : KeepsCourse Q Reads shared none { shared with board := board' } { phase := phase', held := none } :=
  .of_same h hqueue (.of_handles_eq_none hhandles)

theorem FollowsCourse.take (hQ : FollowsCourse Q Reads) (hshared : shared.Follows Q) (now : UInt64)
    (caller : DrainCaller)
    : let result := shared.board.take now caller
      let noted := shared.noteAdvance { now } none (.dequeue caller)
      KeepsCourse Q Reads shared none { noted.1 with board := result.1 }
        { phase := result.2, held := noted.2 } := by
  unfold DispatcherBoard.take RecordedBoard.noteAdvance
  dsimp only
  cases hdequeue : (shared.board.dispatcher.queue.dequeue now).1 with
  | none =>
    refine .of_handles_eq_none hshared ?_ caller.handles_afterNone
    exact (DispatchQueue.dequeue_eq_none hdequeue).1
  | some envelope =>
    obtain ⟨record, hfirst, henvelope, hrecord⟩ := hshared.exists_first hdequeue
    dsimp only
    rw [hfirst]
    refine ⟨hshared.dequeue hdequeue rfl, ?_, ?_⟩
    . exact ⟨record, rfl, henvelope, hQ.taken record hrecord, nofun⟩
    . have hperm := (Fifo.perm_leave hfirst).map SendRecord.enqueued
      rw [List.perm_iff_count] at hperm ⊢
      intro other
      have hcount := hperm other
      simp only [RecordedBoard.records, List.map_append, List.count_append, Option.toList_some,
        Option.toList_none, List.map_cons, List.map_nil, List.count_nil, List.count_cons] at hcount ⊢
      omega

theorem FollowsCourse.sends (hQ : FollowsCourse Q Reads) (hshared : shared.Follows Q)
    {record : SendRecord} (hrecord : Q .held record) (answers : DispatchAnswers)
    (message : DispatchMessage) (caller : DrainCaller) (selection : Selection)
    : let result := shared.board.dispatcher.send answers.now message selection answers.findChannel
      let taken := some (caller, record.envelope)
      let noted := shared.noteAdvance answers (some record) (.send message taken selection)
      KeepsCourse Q Reads shared (some record) { noted.1 with board := shared.board.update result.2 }
        { phase := .afterDispatch result.1.success taken, held := noted.2 } := by
  unfold RecordedBoard.noteAdvance DispatchPhase.afterDispatch
  dsimp only
  obtain ⟨hqueue, ⟨hsuccess, hstage⟩ | ⟨hfailure, stage, hstage⟩⟩ :=
    Dispatcher.send_cases answers.now message selection shared.board.dispatcher answers.findChannel
  . rw [hsuccess, hstage]
    exact .of_finish hshared hqueue (hQ.sent record hrecord) rfl caller.handles_afterSome
  . simp only [hfailure, hstage, Option.isNone_some, Bool.false_eq_true, if_false]
    refine ⟨hshared.of_queue hqueue, ?_, by simp [RecordedBoard.records, SendRecord.attempt]⟩
    refine ⟨_, rfl, rfl, hQ.failed record stage hrecord, fun _ => ?_⟩
    change Reads _ (shared.board.dispatcher.send _ message selection _).2.lastFailureStage
    rw [hstage]
    exact hQ.readsOwn record stage

theorem FollowsCourse.retries_or_givesUp (hQ : FollowsCourse Q Reads) (hshared : shared.Follows Q)
    {record : SendRecord} (hrecord : Q .failed record)
    (hreads : Reads record shared.board.dispatcher.lastFailureStage) (answers : DispatchAnswers)
    (caller : DrainCaller)
    : let noted := shared.noteAdvance answers (some record) (.failed caller record.envelope)
      KeepsCourse Q Reads shared (some record) { noted.1 with board := shared.board }
        { phase :=
            if record.envelope.shouldRetryForStage shared.board.dispatcher.lastFailureStage then
              .retry caller record.envelope
            else caller.afterSome
          held := noted.2 } := by
  unfold RecordedBoard.noteAdvance
  dsimp only
  split
  . next hretry =>
    exact .of_same hshared rfl ⟨record, rfl, rfl, hQ.retries record _ hrecord hreads hretry, nofun⟩
  . next hretry =>
    refine .of_finish hshared rfl ?_ rfl caller.handles_afterSome
    exact hQ.givesUp record _ hrecord hreads (eq_false_of_ne_true hretry)

theorem FollowsCourse.retry (hQ : FollowsCourse Q Reads) (hshared : shared.Follows Q)
    {record : SendRecord} (hrecord : Q .retrying record) {answers : DispatchAnswers}
    {caller : DrainCaller} {result : DispatcherBoard × DispatchPhase}
    (hact : shared.board.advance answers (.retry caller record.envelope) = some result)
    : let noted := shared.noteAdvance answers (some record) (.retry caller record.envelope)
      KeepsCourse Q Reads shared (some record) { noted.1 with board := result.1 }
        { phase := result.2, held := noted.2 } := by
  unfold RecordedBoard.noteAdvance
  dsimp only [DispatcherBoard.advance] at hact ⊢
  cases hnext : record.envelope.nextRetry answers.now with
  | none =>
    rw [hnext] at hact
    cases hact
    exact .of_finish hshared rfl (hQ.expires record _ hrecord hnext) rfl caller.handles_afterSome
  | some next =>
    rw [hnext] at hact
    cases hact
    refine ⟨hshared.enqueue (hQ.again record _ next hrecord hnext),
      .of_handles_eq_none caller.handles_afterSome, ?_⟩
    rw [List.perm_iff_count]
    intro other
    simp only [RecordedBoard.records, List.map_append, List.count_append, Option.toList_some,
      Option.toList_none, List.map_cons, List.map_nil, List.count_nil]
    omega

theorem FollowsCourse.call (hQ : FollowsCourse Q Reads) (hshared : shared.Follows Q)
    (hthread : thread.Follows Q Reads shared.board.dispatcher) {made : DispatcherCall}
    (h : recordedAct (.call made) shared thread = some (shared', thread'))
    : KeepsCourse Q Reads shared thread.held shared' thread' := by
  obtain ⟨phase, held⟩ := thread
  obtain ⟨⟨board', phase'⟩, hact, heq⟩ := Option.map_eq_some_iff.mp h
  cases phase with
  | idle =>
    cases hthread.held_eq_none rfl
    dsimp only [DispatcherInput.act] at hact
    cases heq
    cases made with
    | enqueue envelope =>
      cases hact
      have hafter := hshared.enqueue (hQ.new envelope)
      refine ⟨⟨hafter.placed, hafter.waiting, hafter.queued, hafter.done⟩, .of_handles_eq_none rfl, ?_⟩
      . rw [List.perm_iff_count]
        intro other
        simp only [RecordedBoard.note, RecordedBoard.noteCall, RecordedBoard.records, SendRecord.new,
          List.map_append, List.count_append, Option.toList_none, List.map_cons, List.map_nil,
          List.count_nil]
        omega
    | drainOne =>
      cases hact
      exact .of_handles_eq_none hshared rfl rfl
    | dispatch message =>
      cases hact
      exact .of_handles_eq_none hshared rfl rfl
    | control command =>
      cases command with
      | _ =>
        cases hact
        exact .of_handles_eq_none hshared rfl rfl
  | _ => cases hact

theorem DispatcherBoard.advance_unhandled {board board' : DispatcherBoard} {phase phase' : DispatchPhase}
    {answers : DispatchAnswers} (hhandles : phase.handles = none)
    (hphase : ∀ caller, phase ≠ .dequeue caller)
    (h : board.advance answers phase = some (board', phase'))
    : board'.dispatcher.queue = board.dispatcher.queue ∧ phase'.handles = none := by
  cases phase with
  | idle => cases h
  | finished => cases h
  | dequeue caller => exact absurd rfl (hphase caller)
  | drainOne caller =>
    dsimp only [advance] at h
    split at h
    . cases h
      exact ⟨rfl, caller.handles_afterNone⟩
    . cases h
      exact ⟨rfl, caller.handles_afterNone⟩
    . cases h
      exact ⟨rfl, rfl⟩
    . cases h
      exact ⟨rfl, rfl⟩
  | dispatch message origin =>
    cases h
    exact ⟨rfl, hhandles⟩
  | select message origin =>
    cases h
    exact ⟨Dispatcher.queue_recordBalancerMiss .., hhandles⟩
  | send message origin selection =>
    cases h
    rw [Option.map_eq_none_iff.mp hhandles]
    exact ⟨(Dispatcher.send_cases ..).1, rfl⟩
  | failed caller envelope => cases hhandles
  | retry caller envelope => cases hhandles
  | drained =>
    cases h
    exact ⟨rfl, rfl⟩
  | loop =>
    dsimp only [advance] at h
    split at h
    . cases h
      exact ⟨rfl, rfl⟩
    . cases h
      exact ⟨rfl, rfl⟩
    . cases h
      exact ⟨rfl, rfl⟩
    . cases h
      exact ⟨rfl, rfl⟩
  | loopEmpty =>
    cases h
    refine ⟨rfl, ?_⟩
    split
    . rfl
    . rfl
  | loopDraining =>
    cases h
    refine ⟨rfl, ?_⟩
    split
    . rfl
    . rfl
  | loopStop =>
    cases h
    exact ⟨rfl, rfl⟩

theorem KeepsCourse.of_unhandled {phase phase' : DispatchPhase} {held : Option SendRecord}
    {board' : DispatcherBoard} {answers : DispatchAnswers} (hshared : shared.Follows Q)
    (hthread : RecordedThread.Follows Q Reads shared.board.dispatcher { phase, held })
    (hhandles : phase.handles = none) (hphase : ∀ caller, phase ≠ .dequeue caller)
    (hact : shared.board.advance answers phase = some (board', phase'))
    : KeepsCourse Q Reads shared held { shared with board := board' } { phase := phase', held } := by
  cases hthread.held_eq_none hhandles
  obtain ⟨hqueue, hhandles'⟩ := DispatcherBoard.advance_unhandled hhandles hphase hact
  exact .of_handles_eq_none hshared hqueue hhandles'

theorem FollowsCourse.advance (hQ : FollowsCourse Q Reads) (hshared : shared.Follows Q)
    (hthread : thread.Follows Q Reads shared.board.dispatcher) {answers : DispatchAnswers}
    (h : recordedAct (.advance answers) shared thread = some (shared', thread'))
    : KeepsCourse Q Reads shared thread.held shared' thread' := by
  obtain ⟨phase, held⟩ := thread
  obtain ⟨⟨board', phase'⟩, hact, heq⟩ := Option.map_eq_some_iff.mp h
  dsimp only [DispatcherInput.act, RecordedBoard.note] at hact heq ⊢
  cases phase with
  | dequeue caller =>
    cases heq
    cases hthread.held_eq_none rfl
    have hresult := hQ.take hshared answers.now caller
    rw [show shared.board.take answers.now caller = (board', phase') from Option.some.inj hact] at hresult
    exact hresult
  | dispatch message origin =>
    cases heq
    cases hact
    exact .of_same hshared rfl hthread
  | select message origin =>
    cases heq
    cases hact
    refine .of_same hshared (Dispatcher.queue_recordBalancerMiss ..) ?_
    cases origin with
    | none => exact hthread
    | some taken =>
      obtain ⟨record, hheld, henvelope, hrecord, _⟩ := hthread
      exact ⟨record, hheld, henvelope, hrecord, nofun⟩
  | send message origin selection =>
    cases origin with
    | none =>
      cases heq
      exact .of_unhandled hshared hthread rfl nofun hact
    | some taken =>
      obtain ⟨caller, envelope⟩ := taken
      obtain ⟨record, hheld, henvelope, hrecord, _⟩ := hthread
      cases hact
      cases hheld
      cases henvelope
      cases heq
      exact hQ.sends hshared hrecord answers message caller selection
  | failed caller envelope =>
    obtain ⟨record, hheld, henvelope, hrecord, hreads⟩ := hthread
    cases hheld
    cases henvelope
    cases hact
    cases heq
    exact hQ.retries_or_givesUp hshared hrecord (hreads rfl) answers caller
  | retry caller envelope =>
    obtain ⟨record, hheld, henvelope, hrecord, _⟩ := hthread
    cases hheld
    cases henvelope
    cases heq
    exact hQ.retry hshared hrecord hact
  | _ =>
    cases heq
    exact .of_unhandled hshared hthread rfl nofun hact

end Steps

def DispatchEnvelope.RetryOf (envelope enqueued : DispatchEnvelope) : Prop :=
  envelope = { enqueued with
    retryCount := envelope.retryCount
    nextAttemptAtMs := envelope.nextAttemptAtMs }

def SendRecord.Course (P Last : SendAttempt → Prop) (record : SendRecord) : SendProgress → Prop
  | .queued | .held =>
    (∀ attempt ∈ record.attempts, P attempt)
      ∧ record.attempts.length ≤ record.envelope.retryCount.toNat
      ∧ (record.attempts = [] ∨ record.envelope.retryCount ≤ record.envelope.maxRetries)
  | .failed => ∃ earlier last, record.attempts = earlier ++ [last] ∧ (∀ attempt ∈ earlier, P attempt)
      ∧ last.envelope = record.envelope ∧ last.failureStage.isSome
      ∧ record.attempts.length ≤ record.envelope.retryCount.toNat + 1
  | .retrying =>
    (∀ attempt ∈ record.attempts, P attempt)
      ∧ record.attempts.length ≤ record.envelope.retryCount.toNat + 1
      ∧ record.envelope.canRetry = true
  | .done => ∃ earlier last, record.attempts = earlier ++ [last] ∧ (∀ attempt ∈ earlier, P attempt)
      ∧ Last last

structure SendRecord.Sound (P Last : SendAttempt → Prop) (progress : SendProgress)
    (record : SendRecord) : Prop where
  retryOf : record.envelope.RetryOf record.enqueued
  attempts : ∀ attempt ∈ record.attempts, attempt.envelope.RetryOf record.enqueued
  bounded : record.attempts.length ≤ record.enqueued.maxRetries.toNat + 1
  course : record.Course P Last progress

structure DecidesAttempts (P Last : SendAttempt → Prop)
    (Reads : SendRecord → Option DispatchFailureStage → Prop) : Prop where
  sent : ∀ envelope, Last { envelope, failureStage := none }
  readsOwn : ∀ (record : SendRecord) stage,
    Reads (record.attempt record.envelope (some stage)) (some stage)
  retries : ∀ record earlier last stage, record.attempts = earlier ++ [last]
    → last.envelope = record.envelope → last.failureStage.isSome → Reads record stage
    → last.envelope.shouldRetryForStage stage = true → P last
  givesUp : ∀ record earlier last stage, record.attempts = earlier ++ [last]
    → last.envelope = record.envelope → last.failureStage.isSome → Reads record stage
    → last.envelope.shouldRetryForStage stage = false → Last last

section Sound

variable {P Last : SendAttempt → Prop} {Reads : SendRecord → Option DispatchFailureStage → Prop}

theorem DispatchEnvelope.RetryOf.maxRetries_eq {envelope enqueued : DispatchEnvelope}
    (h : envelope.RetryOf enqueued)
    : envelope.maxRetries = enqueued.maxRetries := by
  rw [h]

theorem DispatchEnvelope.RetryOf.trans {first second third : DispatchEnvelope}
    (h : first.RetryOf second) (h' : second.RetryOf third)
    : first.RetryOf third := by
  unfold RetryOf at *
  rw [h'] at h
  exact h

theorem DispatchEnvelope.canRetry_of_shouldRetryForStage {envelope : DispatchEnvelope}
    {stage : Option DispatchFailureStage} (h : envelope.shouldRetryForStage stage = true)
    : envelope.canRetry = true := by
  cases stage with
  | none => cases h
  | some stage => exact (Bool.and_eq_true_iff.mp h).2

theorem DispatchEnvelope.nextRetry_eq_some {envelope next : DispatchEnvelope} {now : UInt64}
    (h : envelope.nextRetry now = some next)
    : next.RetryOf envelope ∧ next.retryCount.toNat = envelope.retryCount.toNat + 1
      ∧ next.retryCount ≤ next.maxRetries := by
  obtain ⟨hcan, heq⟩ := Option.ite_none_right_eq_some.mp h
  cases heq
  have hlt : envelope.retryCount < envelope.maxRetries := of_decide_eq_true hcan
  have hmax := envelope.maxRetries.toNat_lt
  have hcount : (envelope.retryCount + 1).toNat = envelope.retryCount.toNat + 1 := by
    rw [UInt32.toNat_add]
    rw [UInt32.lt_iff_toNat_lt] at hlt
    exact Nat.mod_eq_of_lt (by simp; omega)
  refine ⟨rfl, hcount, ?_⟩
  rw [UInt32.le_iff_toNat_le]
  rw [UInt32.lt_iff_toNat_lt] at hlt
  dsimp only
  omega

theorem SendRecord.Sound.attempt {record : SendRecord} (h : record.Sound P Last .held)
    (stage : Option DispatchFailureStage)
    : let record' := record.attempt record.envelope stage
      record'.envelope.RetryOf record'.enqueued
      ∧ (∀ attempt ∈ record'.attempts, attempt.envelope.RetryOf record'.enqueued)
      ∧ record'.attempts.length ≤ record'.enqueued.maxRetries.toNat + 1
      ∧ record'.attempts.length ≤ record'.envelope.retryCount.toNat + 1 := by
  obtain ⟨_, hcount, hretried⟩ := h.course
  have hlength : (record.attempt record.envelope stage).attempts.length = record.attempts.length + 1 :=
    List.length_append
  dsimp only
  refine ⟨h.retryOf, ?_, ?_, by rw [hlength]; exact Nat.succ_le_succ hcount⟩
  . intro attempt hmem
    obtain hold | hnew := List.mem_append.mp hmem
    . exact h.attempts attempt hold
    . rw [List.mem_singleton.mp hnew]
      exact h.retryOf
  . rw [hlength]
    apply Nat.succ_le_succ
    obtain hnil | hretried := hretried
    . rw [hnil]
      exact Nat.zero_le _
    . change _ ≤ record.enqueued.maxRetries.toNat
      rw [← h.retryOf.maxRetries_eq]
      exact Nat.le_trans hcount (UInt32.le_iff_toNat_le.mp hretried)

theorem DecidesAttempts.followsCourse (h : DecidesAttempts P Last Reads)
    : FollowsCourse (SendRecord.Sound P Last) Reads where
  new := by
    intro envelope
    refine ⟨rfl, List.forall_mem_nil _, Nat.zero_le _, List.forall_mem_nil _, Nat.zero_le _, .inl rfl⟩
  taken := by
    intro record hrecord
    exact ⟨hrecord.retryOf, hrecord.attempts, hrecord.bounded, hrecord.course⟩
  sent := by
    intro record hrecord
    obtain ⟨hretryOf, hattempts, hbounded, _⟩ := hrecord.attempt none
    exact ⟨hretryOf, hattempts, hbounded, record.attempts, _, rfl, hrecord.course.1,
      h.sent record.envelope⟩
  failed := by
    intro record stage hrecord
    obtain ⟨hretryOf, hattempts, hbounded, hcount⟩ := hrecord.attempt (some stage)
    exact ⟨hretryOf, hattempts, hbounded, record.attempts, _, rfl, hrecord.course.1, rfl, rfl, hcount⟩
  readsOwn := h.readsOwn
  retries := by
    intro record stage hrecord hreads hretry
    obtain ⟨earlier, last, heq, hearlier, henvelope, hfailed, hcount⟩ := hrecord.course
    refine ⟨hrecord.retryOf, hrecord.attempts, hrecord.bounded, ?_, hcount,
      DispatchEnvelope.canRetry_of_shouldRetryForStage hretry⟩
    intro attempt hmem
    rw [heq] at hmem
    obtain hmem | hmem := List.mem_append.mp hmem
    . exact hearlier attempt hmem
    . rw [List.mem_singleton.mp hmem]
      exact h.retries record earlier last stage heq henvelope hfailed hreads (henvelope ▸ hretry)
  givesUp := by
    intro record stage hrecord hreads hretry
    obtain ⟨earlier, last, heq, hearlier, henvelope, hfailed, _⟩ := hrecord.course
    exact ⟨hrecord.retryOf, hrecord.attempts, hrecord.bounded, earlier, last, heq, hearlier,
      h.givesUp record earlier last stage heq henvelope hfailed hreads (henvelope ▸ hretry)⟩
  again := by
    intro record now next hrecord hnext
    obtain ⟨hretried, hcount, _⟩ := hrecord.course
    obtain ⟨hretryOf, hnextCount, hle⟩ := DispatchEnvelope.nextRetry_eq_some hnext
    refine ⟨hretryOf.trans hrecord.retryOf, hrecord.attempts, hrecord.bounded, hretried, ?_, .inr hle⟩
    dsimp only
    rw [hnextCount]
    exact hcount
  expires := by
    intro record now hrecord hnext
    obtain ⟨_, _, hcan⟩ := hrecord.course
    unfold DispatchEnvelope.nextRetry at hnext
    rw [if_pos hcan] at hnext
    cases hnext

theorem SendRecord.Sound.earlier {record : SendRecord} {progress : SendProgress}
    (h : record.Sound P Last progress)
    : ∀ attempt ∈ record.attempts.dropLast, P attempt := by
  have hcourse := h.course
  intro attempt hmem
  cases progress with
  | queued => exact hcourse.1 attempt (List.mem_of_mem_dropLast hmem)
  | held => exact hcourse.1 attempt (List.mem_of_mem_dropLast hmem)
  | retrying => exact hcourse.1 attempt (List.mem_of_mem_dropLast hmem)
  | failed =>
    obtain ⟨earlier, last, heq, hearlier, _⟩ := hcourse
    rw [heq, List.dropLast_concat] at hmem
    exact hearlier attempt hmem
  | done =>
    obtain ⟨earlier, last, heq, hearlier, _⟩ := hcourse
    rw [heq, List.dropLast_concat] at hmem
    exact hearlier attempt hmem

theorem SendRecord.Sound.failed_of_ne_done {record : SendRecord} {progress : SendProgress}
    (h : record.Sound (fun attempt => attempt.failureStage.isSome) Last progress)
    (hdone : progress ≠ .done)
    : ∀ attempt ∈ record.attempts, attempt.failureStage.isSome := by
  have hcourse := h.course
  cases progress with
  | queued => exact hcourse.1
  | held => exact hcourse.1
  | retrying => exact hcourse.1
  | failed =>
    obtain ⟨earlier, last, heq, hearlier, _, hlast, _⟩ := hcourse
    rw [heq]
    intro attempt hmem
    obtain hmem | hmem := List.mem_append.mp hmem
    . exact hearlier attempt hmem
    . rw [List.mem_singleton.mp hmem]
      exact hlast
  | done => exact absurd rfl hdone

end Sound

def sendRecords (s : Threads RecordedBoard RecordedThread) : List SendRecord :=
  s.shared.queued ++ s.shared.done ++ s.threads.flatMap (fun thread => thread.held.toList)

/-- An envelope is never attempted too often, nor after it was sent, whatever the threads do. -/
structure AttemptsBounded (s : Threads RecordedBoard RecordedThread) : Prop where
  conserved : s.shared.enqueued.Perm ((sendRecords s).map SendRecord.enqueued)
  retryOf : ∀ record ∈ sendRecords s, ∀ attempt ∈ record.attempts,
    attempt.envelope.RetryOf record.enqueued
  bounded : ∀ record ∈ sendRecords s,
    record.attempts.length ≤ record.enqueued.maxRetries.toNat + 1
  sentOnce : ∀ record ∈ sendRecords s, ∀ earlier attempt later,
    record.attempts = earlier ++ attempt :: later → attempt.failureStage = none
    → later = [] ∧ record ∈ s.shared.done

/-- An envelope is enqueued again exactly if its own attempt failed at a stage at which it is retried. -/
structure RetriedExactly (s : Threads RecordedBoard RecordedThread) : Prop where
  queued : ∀ record ∈ s.shared.queued, ∀ attempt ∈ record.attempts, attempt.retryable = true
  earlier : ∀ record ∈ sendRecords s, ∀ attempt ∈ record.attempts.dropLast, attempt.retryable = true
  done : ∀ record ∈ s.shared.done, ∃ last, record.attempts.getLast? = some last
    ∧ last.retryable = false

def RecordedThread.decision (thread : RecordedThread) (stage : Option DispatchFailureStage)
    : Option Bool :=
  match thread.phase with
  | .failed _ envelope => some (envelope.shouldRetryForStage stage)
  | _ => none

/--
No diagnostic that another thread records in between changes what a thread decides on the retry of the
envelope whose dispatch has just failed.
-/
def LeavesDecisions (s : Threads RecordedBoard RecordedThread) (action : DispatcherAction) : Prop :=
  match action with
  | .step i _ => ∀ s' ∈ recordedStep s action, ∀ other ∈ s.threads.eraseIdx i,
    other.decision s'.shared.board.dispatcher.lastFailureStage
      = other.decision s.shared.board.dispatcher.lastFailureStage
  | _ => True

instance (s : Threads RecordedBoard RecordedThread)
    : ∀ action, Decidable (LeavesDecisions s action)
  | .startThread => inferInstanceAs (Decidable True)
  | .startScheduler => inferInstanceAs (Decidable True)
  | .step i input => inferInstanceAs (Decidable (∀ s' ∈ recordedStep s (.step i input),
      ∀ other ∈ s.threads.eraseIdx i, other.decision s'.shared.board.dispatcher.lastFailureStage
        = other.decision s.shared.board.dispatcher.lastFailureStage))

structure RecordsInvariant (Q : SendProgress → SendRecord → Prop)
    (Reads : SendRecord → Option DispatchFailureStage → Prop)
    (s : Threads RecordedBoard RecordedThread) : Prop where
  shared : s.shared.Follows Q
  threads : ∀ thread ∈ s.threads, thread.Follows Q Reads s.shared.board.dispatcher
  conserved : s.shared.enqueued.Perm ((sendRecords s).map SendRecord.enqueued)

section Runs

variable {P Last : SendAttempt → Prop} {Q : SendProgress → SendRecord → Prop}
  {Reads : SendRecord → Option DispatchFailureStage → Prop}
  {s s' : Threads RecordedBoard RecordedThread} {action : DispatcherAction}

theorem recordsInvariant_new : RecordsInvariant Q Reads newRecordedDispatcher := by
  refine ⟨⟨fun _ => List.forall_mem_nil _, fun _ => rfl, List.forall_mem_nil _, List.forall_mem_nil _⟩,
    List.forall_mem_nil _, .refl _⟩

theorem RecordedThread.Follows.of_reads {thread : RecordedThread} {dispatcher dispatcher' : Dispatcher}
    (h : thread.Follows Q Reads dispatcher)
    (hreads : ∀ record, thread.phase.handles = some (.failed, record.envelope) → Q .failed record
      → Reads record dispatcher.lastFailureStage → Reads record dispatcher'.lastFailureStage)
    : thread.Follows Q Reads dispatcher' := by
  unfold RecordedThread.Follows at *
  cases hhandles : thread.phase.handles with
  | none =>
    rw [hhandles] at h
    exact h
  | some handled =>
    obtain ⟨progress, envelope⟩ := handled
    rw [hhandles] at h hreads
    obtain ⟨record, hheld, rfl, hrecord, hbefore⟩ := h
    refine ⟨record, hheld, rfl, hrecord, ?_⟩
    rintro rfl
    exact hreads record rfl hrecord (hbefore rfl)

theorem RecordedThread.decision_of_handles {thread : RecordedThread} {envelope : DispatchEnvelope}
    (h : thread.phase.handles = some (.failed, envelope)) (stage : Option DispatchFailureStage)
    : thread.decision stage = some (envelope.shouldRetryForStage stage) := by
  obtain ⟨phase, held⟩ := thread
  cases phase with
  | failed caller other =>
    cases h
    rfl
  | dispatch message origin => cases origin <;> cases h
  | select message origin => cases origin <;> cases h
  | send message origin selection => cases origin <;> cases h
  | _ => cases h

theorem FollowsCourse.act (hQ : FollowsCourse Q Reads) {shared shared' : RecordedBoard}
    {thread thread' : RecordedThread} (hshared : shared.Follows Q)
    (hthread : thread.Follows Q Reads shared.board.dispatcher) {input : DispatcherInput}
    (h : recordedAct input shared thread = some (shared', thread'))
    : KeepsCourse Q Reads shared thread.held shared' thread' := by
  cases input with
  | call made => exact hQ.call hshared hthread h
  | advance answers => exact hQ.advance hshared hthread h

theorem RecordsInvariant.start (hs : RecordsInvariant Q Reads s) {board' : DispatcherBoard}
    {phase : DispatchPhase} (hdispatcher : board'.dispatcher.queue = s.shared.board.dispatcher.queue
      ∧ board'.dispatcher.lastFailureStage = s.shared.board.dispatcher.lastFailureStage)
    (hhandles : phase.handles = none)
    : RecordsInvariant Q Reads
        (Threads.start { phase } { s with shared := { s.shared with board := board' } }) := by
  refine ⟨hs.shared.of_queue hdispatcher.1, ?_, ?_⟩
  . intro thread hmem
    obtain hold | hnew := List.mem_append.mp hmem
    . refine (hs.threads thread hold).of_reads (fun record _ _ hreads => ?_)
      dsimp only [Threads.start]
      rw [hdispatcher.2]
      exact hreads
    . rw [List.mem_singleton.mp hnew]
      exact .of_handles_eq_none hhandles
  . have hrecords : sendRecords
          (Threads.start { phase } { s with shared := { s.shared with board := board' } })
        = sendRecords s := by
      simp [sendRecords, Threads.start]
    rw [hrecords]
    exact hs.conserved

theorem RecordsInvariant.step (hs : RecordsInvariant Q Reads s) (hQ : FollowsCourse Q Reads)
    (hreads : ∀ i input, action = .step i input → ∀ other ∈ s.threads.eraseIdx i, ∀ record,
      other.phase.handles = some (.failed, record.envelope) → Q .failed record
      → Reads record s.shared.board.dispatcher.lastFailureStage
      → Reads record s'.shared.board.dispatcher.lastFailureStage)
    (h : recordedStep s action = some s')
    : RecordsInvariant Q Reads s' := by
  cases action with
  | startThread =>
    cases h
    exact @RecordsInvariant.start Q Reads s hs s.shared.board .idle ⟨rfl, rfl⟩ rfl
  | startScheduler =>
    cases h
    exact hs.start ⟨rfl, rfl⟩ rfl
  | step i input =>
    obtain ⟨thread, thread', shared', hi, hact, rfl⟩ := Threads.advance_eq_some h
    have hkeeps := hQ.act hs.shared (hs.threads thread (List.mem_of_getElem? hi)) hact
    refine ⟨hkeeps.board, ?_, ?_⟩
    . intro other hmem
      obtain rfl | ⟨j, hne, hj⟩ := Threads.mem_set hmem
      . exact hkeeps.thread
      . refine (hs.threads other (List.mem_of_getElem? hj)).of_reads (hreads i input rfl other ?_)
        exact List.mem_eraseIdx_iff_getElem?.mpr ⟨j, hne, hj⟩
    . have hheld := (Threads.perm_flatMap_set (fun thread => thread.held.toList) thread' hi).map
        SendRecord.enqueued
      rw [List.perm_iff_count]
      intro envelope
      have hbefore := hs.conserved.count_eq envelope
      have hother := hheld.count_eq envelope
      have hstep := hkeeps.conserved.count_eq envelope
      simp only [sendRecords, RecordedBoard.records, List.map_append, List.count_append]
        at hbefore hother hstep ⊢
      omega

theorem decidesAttempts_failed
    : DecidesAttempts (fun attempt => attempt.failureStage.isSome) (fun _ => True) (fun _ _ => True) where
  sent := fun _ => trivial
  readsOwn := fun _ _ => trivial
  retries := fun _ _ _ _ _ _ hfailed _ _ => hfailed
  givesUp := fun _ _ _ _ _ _ _ _ _ => trivial

def ReadsOwnDecision (record : SendRecord) (stage : Option DispatchFailureStage) : Prop :=
  ∀ last ∈ record.attempts.getLast?, last.envelope.shouldRetryForStage stage = last.retryable

theorem decidesAttempts_retryable
    : DecidesAttempts (fun attempt => attempt.retryable = true) (fun attempt => attempt.retryable = false)
        ReadsOwnDecision where
  sent := fun _ => rfl
  readsOwn := by
    intro record stage last hlast
    rw [SendRecord.attempt, List.getLast?_concat] at hlast
    cases hlast
    rfl
  retries := by
    intro record earlier last stage heq _ _ hreads hretry
    rw [← hreads last (by rw [heq, List.getLast?_concat]; rfl)]
    exact hretry
  givesUp := by
    intro record earlier last stage heq _ _ hreads hretry
    rw [← hreads last (by rw [heq, List.getLast?_concat]; rfl)]
    exact hretry

theorem DispatchPhase.handles_ne_done {phase : DispatchPhase} {progress : SendProgress}
    {envelope : DispatchEnvelope} (h : phase.handles = some (progress, envelope))
    : progress ≠ .done := by
  rintro rfl
  cases phase with
  | dispatch message origin => cases origin <;> cases h
  | select message origin => cases origin <;> cases h
  | send message origin selection => cases origin <;> cases h
  | _ => cases h

theorem RecordsInvariant.exists_progress (h : RecordsInvariant Q Reads s) {record : SendRecord}
    (hmem : record ∈ sendRecords s)
    : ∃ progress, Q progress record ∧ (progress = .done → record ∈ s.shared.done) := by
  obtain hmem | hmem := List.mem_append.mp hmem
  . obtain hmem | hmem := List.mem_append.mp hmem
    . exact ⟨.queued, h.shared.queued record hmem, nofun⟩
    . exact ⟨.done, h.shared.done record hmem, fun _ => hmem⟩
  . obtain ⟨thread, hthread, hmem⟩ := List.mem_flatMap.mp hmem
    have hfollows := h.threads thread hthread
    unfold RecordedThread.Follows at hfollows
    rw [Option.mem_toList] at hmem
    cases hhandles : thread.phase.handles with
    | none =>
      rw [hhandles] at hfollows
      cases hfollows.symm.trans hmem
    | some handled =>
      rw [hhandles] at hfollows
      obtain ⟨held, hheld, _, hQ, _⟩ := hfollows
      cases hheld.symm.trans hmem
      exact ⟨handled.1, hQ, fun hdone => absurd hdone (DispatchPhase.handles_ne_done hhandles)⟩

theorem RecordsInvariant.attemptsBounded
    (h : RecordsInvariant (SendRecord.Sound (fun attempt => attempt.failureStage.isSome) (fun _ => True))
      Reads s)
    : AttemptsBounded s where
  conserved := h.conserved
  retryOf := by
    intro record hmem
    obtain ⟨_, hsound, _⟩ := h.exists_progress hmem
    exact hsound.attempts
  bounded := by
    intro record hmem
    obtain ⟨_, hsound, _⟩ := h.exists_progress hmem
    exact hsound.bounded
  sentOnce := by
    intro record hmem earlier attempt later heq hsent
    obtain ⟨progress, hsound, hdone⟩ := h.exists_progress hmem
    constructor
    . by_contra hne
      have hfailed := hsound.earlier attempt (by
        rw [heq, List.dropLast_append_of_ne_nil (List.cons_ne_nil _ _), List.dropLast_cons_of_ne_nil hne]
        exact List.mem_append_right _ (List.mem_cons_self ..))
      rw [hsent] at hfailed
      cases hfailed
    . apply hdone
      by_contra hne
      have hfailed := hsound.failed_of_ne_done hne attempt (by rw [heq]; simp)
      rw [hsent] at hfailed
      cases hfailed

theorem RecordsInvariant.retriedExactly
    (h : RecordsInvariant (SendRecord.Sound (fun attempt => attempt.retryable = true)
      (fun attempt => attempt.retryable = false)) Reads s)
    : RetriedExactly s where
  queued := fun record hmem => (h.shared.queued record hmem).course.1
  earlier := by
    intro record hmem
    obtain ⟨_, hsound, _⟩ := h.exists_progress hmem
    exact hsound.earlier
  done := by
    intro record hmem
    obtain ⟨earlier, last, heq, _, hlast⟩ := (h.shared.done record hmem).course
    exact ⟨last, by rw [heq, List.getLast?_concat], hlast⟩

theorem LeavesDecisions.readsOwnDecision {i : Nat} {input : DispatcherInput}
    (hguard : LeavesDecisions s (.step i input)) (hstep : recordedStep s (.step i input) = some s')
    {other : RecordedThread} (hother : other ∈ s.threads.eraseIdx i) {record : SendRecord}
    (hhandles : other.phase.handles = some (.failed, record.envelope))
    (hrecord : record.Sound P Last .failed)
    (hreads : ReadsOwnDecision record s.shared.board.dispatcher.lastFailureStage)
    : ReadsOwnDecision record s'.shared.board.dispatcher.lastFailureStage := by
  have hdecision := hguard s' hstep other hother
  rw [RecordedThread.decision_of_handles hhandles, RecordedThread.decision_of_handles hhandles]
    at hdecision
  obtain ⟨earlier, last, heq, _, henvelope, _⟩ := hrecord.course
  intro last' hlast
  rw [← hreads last' hlast]
  rw [heq, List.getLast?_concat] at hlast
  cases hlast
  rw [henvelope]
  exact Option.some.inj hdecision

end Runs

theorem always_attemptsBounded (actions : List DispatcherAction)
    : Runs.Always recordedStep AttemptsBounded newRecordedDispatcher actions := by
  apply Runs.Always.mono (fun _ h => RecordsInvariant.attemptsBounded h)
  apply Runs.always_of_forall_step
  . intro s action s' hs hstep
    exact hs.step decidesAttempts_failed.followsCourse (fun _ _ _ _ _ _ _ _ _ => trivial) hstep
  . exact recordsInvariant_new

/--
Envelopes are retried according to their own attempts along every run in which no thread changes what
another one is about to decide.
-/
theorem always_retriedExactly (actions : List DispatcherAction)
    (hguarded : Runs.Guarded recordedStep LeavesDecisions newRecordedDispatcher actions)
    : Runs.Always recordedStep (fun s => AttemptsBounded s ∧ RetriedExactly s) newRecordedDispatcher
        actions := by
  have hrecords := Runs.always_of_guarded (P := fun s =>
      RecordsInvariant (SendRecord.Sound (fun attempt => attempt.retryable = true)
        (fun attempt => attempt.retryable = false)) ReadsOwnDecision s)
    (fun s action s' hs hguard hstep => hs.step decidesAttempts_retryable.followsCourse
      (fun i input heq other hother record hhandles hrecord => by
        subst heq
        exact LeavesDecisions.readsOwnDecision hguard hstep hother hhandles hrecord) hstep)
    recordsInvariant_new hguarded
  exact (always_attemptsBounded actions).and (hrecords.mono (fun _ h => h.retriedExactly))

def retriedMessage : DispatchEnvelope :=
  (DispatchEnvelope.fromMessage 0
    { id := "m1", channel := "cli", accountId := "default", content := "first" }).withRetryPolicy 1 0

def directMessage : DispatchMessage where
  id := "m2"
  channel := "cli"
  accountId := "default"
  content := "second"

def answersFrom (success : Bool) : DispatchAnswers where
  findChannel := fun _ _ =>
    { reason := .exactMatch
      channel := some (fun _ _ _ => { success, error := none }) }

def aboutToSend : List DispatcherAction :=
  [.startThread, .startThread, .step 0 (.call (.control .start)),
    .step 0 (.call (.enqueue retriedMessage)), .step 0 (.call .drainOne), .step 0 (.advance {}),
    .step 0 (.advance {}), .step 0 (.advance {}), .step 0 (.advance {}),
    .step 1 (.call (.dispatch directMessage)), .step 1 (.advance {}), .step 1 (.advance {})]

theorem always_retriedExactly_oneAfterTheOther
    : Runs.Always recordedStep (fun s => AttemptsBounded s ∧ RetriedExactly s) newRecordedDispatcher
        (aboutToSend ++ [.step 1 (.advance (answersFrom true)), .step 0 (.advance (answersFrom false)),
          .step 0 (.advance {}), .step 0 (.advance {})]) := by
  exact always_retriedExactly _ (by decide +kernel)

/-- The second message is sent before the first thread looks at why its own message was not. -/
theorem not_always_retriedExactly
    : ¬ Runs.Always recordedStep (fun s => AttemptsBounded s ∧ RetriedExactly s) newRecordedDispatcher
        (aboutToSend ++ [.step 0 (.advance (answersFrom false)), .step 1 (.advance (answersFrom true)),
          .step 0 (.advance {})]) := by
  intro h
  have hrun : (Runs.run recordedStep newRecordedDispatcher
        (aboutToSend ++ [.step 0 (.advance (answersFrom false)), .step 1 (.advance (answersFrom true)),
          .step 0 (.advance {})])).map (fun s => s.shared.done)
      = some [{ enqueued := retriedMessage, envelope := retriedMessage
                attempts := [{ envelope := retriedMessage, failureStage := some .send }] }] := by
    decide +kernel
  obtain ⟨s, hs, hdone⟩ := Option.map_eq_some_iff.mp hrun
  obtain ⟨last, hlast, hgivenUp⟩ :=
    (h.run_eq_some hs).2.done _ (by rw [hdone]; exact List.mem_singleton_self _)
  cases hlast
  exact absurd hgivenUp (by decide)

end AnimaAgent
