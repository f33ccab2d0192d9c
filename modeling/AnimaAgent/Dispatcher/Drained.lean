import Mathlib.Algebra.GroupWithZero.Nat
import AnimaAgent.Dispatcher.Attempts
import AnimaAgent.Dispatcher.ControlStates

namespace AnimaAgent

def DispatchQueue.after (calls : List QueueCall) : DispatchQueue :=
  calls.foldl (fun queue call =>
    match call with
    | .enqueue envelope => queue.enqueue envelope
    | .dequeue now => (queue.dequeue now).2) {}

def DispatchQueue.someDue (queue : DispatchQueue) (now : UInt64) : Bool :=
  queue.routes.values.any (fun priorities => priorities.values.any (fun waiting =>
    waiting.head?.any (fun envelope => envelope.ready now)))

def startDrain (dispatcher : Dispatcher) : RecordedBoard × RecordedThread :=
  let called := DispatcherBoard.call { dispatcher } (.control .drain)
  ({ board := called.1
     queued := dispatcher.queue.envelopes.map .new
     enqueued := dispatcher.queue.envelopes }, { phase := called.2 })

def startDrainAfter (calls : List QueueCall) (state : DispatcherState)
    (diagnostic : Option DispatchDiagnosticSnapshot) : RecordedBoard × RecordedThread :=
  startDrain { state, queue := .after calls, lastDispatchDiagnostic := diagnostic }

def drainStep (s : RecordedBoard × RecordedThread) (answers : DispatchAnswers)
    : Option (RecordedBoard × RecordedThread) :=
  recordedAct (.advance answers) s.1 s.2

def SendAttempt.Final (attempt : SendAttempt) : Prop :=
  attempt.failureStage = none ∨ attempt.envelope.canRetry = false
    ∨ ∃ stage, attempt.failureStage = some stage ∧ stage ∉ attempt.envelope.retryableStages

/-- The queue is empty, and the last attempt of each of the envelopes was final. -/
structure Drained (envelopes : List DispatchEnvelope) (s : RecordedBoard × RecordedThread) : Prop where
  empty : s.1.board.dispatcher.queue.isEmpty = true
  done : envelopes.Perm (s.1.done.map SendRecord.enqueued)
  settled : ∀ record ∈ s.1.done, ∃ last, record.attempts.getLast? = some last ∧ last.Final

def DispatchPhase.LooksInTime (board : DispatcherBoard) (answers : DispatchAnswers)
    : DispatchPhase → Prop
  | .dequeue _ => board.dispatcher.queue.isEmpty = true
    ∨ board.dispatcher.queue.someDue answers.now = true
  | _ => True

def LooksInTime (s : RecordedBoard × RecordedThread) (answers : DispatchAnswers) : Prop :=
  s.2.phase.LooksInTime s.1.board answers

instance (board : DispatcherBoard) (answers : DispatchAnswers)
    : ∀ phase : DispatchPhase, Decidable (phase.LooksInTime board answers)
  | .dequeue _ => inferInstanceAs (Decidable (_ ∨ _))
  | .idle => inferInstanceAs (Decidable True)
  | .drainOne _ => inferInstanceAs (Decidable True)
  | .dispatch _ _ => inferInstanceAs (Decidable True)
  | .select _ _ => inferInstanceAs (Decidable True)
  | .send _ _ _ => inferInstanceAs (Decidable True)
  | .failed _ _ => inferInstanceAs (Decidable True)
  | .retry _ _ => inferInstanceAs (Decidable True)
  | .drained => inferInstanceAs (Decidable True)
  | .loop => inferInstanceAs (Decidable True)
  | .loopEmpty => inferInstanceAs (Decidable True)
  | .loopDraining => inferInstanceAs (Decidable True)
  | .loopStop => inferInstanceAs (Decidable True)
  | .finished => inferInstanceAs (Decidable True)

instance (s : RecordedBoard × RecordedThread) (answers : DispatchAnswers)
    : Decidable (LooksInTime s answers) :=
  inferInstanceAs (Decidable (s.2.phase.LooksInTime s.1.board answers))

section Queue

variable {queue : DispatchQueue} {now : UInt64}

theorem DispatchQueue.placed_after (calls : List QueueCall) : (DispatchQueue.after calls).Placed := by
  unfold after
  induction calls using List.reverseRecOn with
  | nil =>
    intro place
    exact List.forall_mem_nil _
  | append_singleton calls call ih =>
    rw [List.foldl_concat]
    cases call with
    | enqueue envelope => exact ih.enqueue envelope
    | dequeue now => exact ih.dequeue now

theorem DispatchQueue.exists_of_head? {envelope : DispatchEnvelope} {place : String × UInt8}
    (h : (queue.waiting place).head? = some envelope)
    : ∃ priorities waiting, queue.routes.get place.1 = some priorities
        ∧ priorities.get place.2 = some waiting ∧ waiting.head? = some envelope := by
  unfold waiting at h
  cases hroute : queue.routes.get place.1 with
  | none => simp [hroute] at h
  | some priorities =>
    cases hpriority : priorities.get place.2 with
    | none => simp [hroute, hpriority] at h
    | some waiting =>
      rw [hroute, Option.bind_some, hpriority, Option.getD_some] at h
      exact ⟨priorities, waiting, rfl, hpriority, h⟩

theorem DispatchQueue.someDue_eq_true_iff (h : queue.Placed)
    : queue.someDue now = true ↔ ∃ envelope, queue.ReadyHead now envelope := by
  unfold someDue
  simp only [List.any_eq_true, IndexMap.mem_values_iff]
  constructor
  . rintro ⟨priorities, ⟨route, hroute⟩, waiting, ⟨priority, hpriority⟩, hany⟩
    cases hhead : waiting.head? with
    | none =>
      rw [hhead] at hany
      cases hany
    | some envelope =>
      have hwaiting : queue.waiting (route, priority) = waiting := by
        rw [waiting_eq hroute, hpriority, Option.getD_some]
      have hplace := h (route, priority) envelope (hwaiting ▸ List.mem_of_mem_head? hhead)
      rw [hhead] at hany
      exact ⟨envelope, by rw [hplace, hwaiting, hhead], hany⟩
  . rintro ⟨envelope, hhead, hready⟩
    obtain ⟨priorities, waiting, hroute, hpriority, hfirst⟩ := exists_of_head? hhead
    refine ⟨priorities, ⟨_, hroute⟩, waiting, ⟨_, hpriority⟩, ?_⟩
    rw [hfirst]
    exact hready

theorem DispatchQueue.isEmpty_iff : queue.isEmpty = true ↔ queue.envelopes = [] := by
  unfold isEmpty
  rw [len_eq, beq_iff_eq, List.length_eq_zero_iff]

theorem DispatchQueue.dequeue_isSome_iff (h : queue.Placed)
    : (queue.dequeue now).1.isSome = true ↔ queue.someDue now = true := by
  rw [someDue_eq_true_iff h]
  constructor
  . intro hsome
    obtain ⟨envelope, hdequeue⟩ := Option.isSome_iff_exists.mp hsome
    exact ⟨envelope, (dequeue_urgent h hdequeue).1⟩
  . rintro ⟨envelope, hhead⟩
    by_contra hnone
    exact (dequeue_eq_none (Option.not_isSome_iff_eq_none.mp hnone)).2 envelope hhead

end Queue

def DispatchPhase.OfDrain : DispatchPhase → Prop
  | .idle | .drained => True
  | .drainOne caller | .dequeue caller | .failed caller _ | .retry caller _ => caller = .drain
  | .dispatch _ origin | .select _ origin | .send _ origin _ =>
    ∃ envelope, origin = some (.drain, envelope)
  | _ => False

structure DispatcherBoard.InDrain (board : DispatcherBoard) (phase : DispatchPhase) : Prop where
  placed : board.dispatcher.queue.Placed
  ofDrain : phase.OfDrain
  goesOn : phase ≠ .idle → board.dispatcher.state = .running ∨ board.dispatcher.state = .draining

def DispatchEnvelope.stepsLeft (envelope : DispatchEnvelope) : Nat :=
  7 * (envelope.maxRetries.toNat - envelope.retryCount.toNat)

def DispatchQueue.stepsLeft (queue : DispatchQueue) : Nat :=
  (queue.envelopes.map (fun envelope => envelope.stepsLeft + 7)).sum

def DispatchPhase.stepsLeft : DispatchPhase → Nat
  | .drained => 1
  | .dequeue _ => 2
  | .drainOne _ => 3
  | .retry _ envelope => envelope.stepsLeft + 4
  | .failed _ envelope => envelope.stepsLeft + 5
  | .send _ (some (_, envelope)) _ => envelope.stepsLeft + 6
  | .select _ (some (_, envelope)) => envelope.stepsLeft + 7
  | .dispatch _ (some (_, envelope)) => envelope.stepsLeft + 8
  | _ => 0

def EmptyAtEnd (board : DispatcherBoard) (phase : DispatchPhase) : Prop :=
  phase = .drained ∨ phase = .idle → board.dispatcher.queue.isEmpty = true

structure DrainMoves (board : DispatcherBoard) (answers : DispatchAnswers) (phase : DispatchPhase)
    (board' : DispatcherBoard) (phase' : DispatchPhase) : Prop where
  inDrain : board'.InDrain phase'
  shorter : board'.dispatcher.queue.stepsLeft + phase'.stepsLeft
    < board.dispatcher.queue.stepsLeft + phase.stepsLeft
  inTime : EmptyAtEnd board phase → (EmptyAtEnd board' phase' ↔ phase.LooksInTime board answers)

section Moves

variable {board board' : DispatcherBoard} {phase phase' : DispatchPhase} {answers : DispatchAnswers}

theorem DispatchQueue.stepsLeft_enqueue {queue : DispatchQueue} (h : queue.Placed)
    (envelope : DispatchEnvelope)
    : (queue.enqueue envelope).stepsLeft = queue.stepsLeft + (envelope.stepsLeft + 7) := by
  unfold stepsLeft
  rw [((envelopes_enqueue h envelope).map _).sum_nat, List.map_cons, List.sum_cons, Nat.add_comm]

theorem DispatchQueue.stepsLeft_dequeue {queue : DispatchQueue} (h : queue.Placed) {now : UInt64}
    {envelope : DispatchEnvelope} (hdequeue : (queue.dequeue now).1 = some envelope)
    : queue.stepsLeft = (queue.dequeue now).2.stepsLeft + (envelope.stepsLeft + 7) := by
  unfold stepsLeft
  rw [((envelopes_dequeue h hdequeue).map _).sum_nat, List.map_cons, List.sum_cons, Nat.add_comm]

theorem DrainMoves.of_same (h : board.InDrain phase)
    (hqueue : board'.dispatcher.queue = board.dispatcher.queue) (hofDrain : phase'.OfDrain)
    (hgoesOn : board'.dispatcher.state = .running ∨ board'.dispatcher.state = .draining)
    (hshorter : phase'.stepsLeft < phase.stepsLeft) (hlooks : phase.LooksInTime board answers)
    (hend : ¬ (phase' = .drained ∨ phase' = .idle))
    : DrainMoves board answers phase board' phase' where
  inDrain := ⟨hqueue ▸ h.placed, hofDrain, fun _ => hgoesOn⟩
  shorter := by
    rw [hqueue]
    exact Nat.add_lt_add_left hshorter _
  inTime := fun _ => iff_of_true (fun hends => absurd hends hend) hlooks

theorem drainMoves_take (h : board.InDrain (.dequeue .drain))
    : DrainMoves board answers (.dequeue .drain) (board.take answers.now .drain).1
        (board.take answers.now .drain).2 := by
  have hgoesOn := h.goesOn nofun
  have hsome := @DispatchQueue.dequeue_isSome_iff _ answers.now h.placed
  unfold DispatcherBoard.take
  dsimp only
  cases hdequeue : (board.dispatcher.queue.dequeue answers.now).1 with
  | none =>
    have hqueue := (DispatchQueue.dequeue_eq_none hdequeue).1
    rw [hdequeue] at hsome
    have hdue : ¬ board.dispatcher.queue.someDue answers.now = true := fun h => nomatch hsome.mpr h
    constructor
    . exact ⟨h.placed.dequeue answers.now, trivial, fun _ => hgoesOn⟩
    . change (board.dispatcher.queue.dequeue answers.now).2.stepsLeft + 1 < _ + 2
      rw [hqueue]
      exact Nat.lt_succ_self _
    . intro _
      unfold EmptyAtEnd
      change (_ → (board.dispatcher.queue.dequeue answers.now).2.isEmpty = true) ↔ _
      rw [hqueue]
      constructor
      . intro hempty
        exact .inl (hempty (.inl rfl))
      . intro hlooks _
        exact hlooks.resolve_right hdue
  | some envelope =>
    rw [hdequeue] at hsome
    constructor
    . exact ⟨h.placed.dequeue answers.now, ⟨envelope, rfl⟩, fun _ => hgoesOn⟩
    . change (board.dispatcher.queue.dequeue answers.now).2.stepsLeft + (envelope.stepsLeft + 8) < _ + 2
      rw [DispatchQueue.stepsLeft_dequeue h.placed hdequeue]
      omega
    . intro _
      refine iff_of_true ?_ (.inr (hsome.mp rfl))
      rintro (hphase | hphase)
      . cases hphase
      . cases hphase

theorem drainMoves_retry {envelope : DispatchEnvelope} (h : board.InDrain (.retry .drain envelope))
    (hact : board.advance answers (.retry .drain envelope) = some (board', phase'))
    : DrainMoves board answers (.retry .drain envelope) board' phase' := by
  have hgoesOn := h.goesOn nofun
  dsimp only [DispatcherBoard.advance] at hact
  cases hnext : envelope.nextRetry answers.now with
  | none =>
    rw [hnext] at hact
    cases hact
    refine .of_same h rfl rfl hgoesOn ?_ trivial nofun
    change 3 < _ + 4
    omega
  | some next =>
    rw [hnext] at hact
    cases hact
    constructor
    . exact ⟨h.placed.enqueue next, rfl, fun _ => hgoesOn⟩
    . change (board.dispatcher.queue.enqueue next).stepsLeft + 3 < _ + (envelope.stepsLeft + 4)
      obtain ⟨hretryOf, hcount, hle⟩ := DispatchEnvelope.nextRetry_eq_some hnext
      rw [DispatchQueue.stepsLeft_enqueue h.placed]
      unfold DispatchEnvelope.stepsLeft
      rw [UInt32.le_iff_toNat_le, hretryOf.maxRetries_eq] at hle
      rw [hretryOf.maxRetries_eq]
      omega
    . intro _
      refine iff_of_true ?_ trivial
      rintro (hphase | hphase)
      . cases hphase
      . cases hphase

theorem drainMoves (h : board.InDrain phase)
    (hact : board.advance answers phase = some (board', phase'))
    : DrainMoves board answers phase board' phase' := by
  have hofDrain := h.ofDrain
  cases phase with
  | idle => cases hact
  | drainOne caller =>
    cases hofDrain
    have hgoesOn := h.goesOn nofun
    dsimp only [DispatcherBoard.advance] at hact
    split at hact
    . next hpaused => simp [hpaused] at hgoesOn
    . next hstopped => simp [hstopped] at hgoesOn
    all_goals
      cases hact
      exact .of_same h rfl rfl hgoesOn (Nat.lt_succ_self _) trivial nofun
  | dequeue caller =>
    cases hofDrain
    have hmoves := @drainMoves_take board answers h
    rw [show board.take answers.now .drain = (board', phase') from Option.some.inj hact] at hmoves
    exact hmoves
  | dispatch message origin =>
    obtain ⟨envelope, rfl⟩ := hofDrain
    cases hact
    exact .of_same h rfl ⟨envelope, rfl⟩ (.inl rfl) (Nat.lt_succ_self _) trivial nofun
  | select message origin =>
    obtain ⟨envelope, rfl⟩ := hofDrain
    cases hact
    refine .of_same h (Dispatcher.queue_recordBalancerMiss ..) ⟨envelope, rfl⟩ ?_ (Nat.lt_succ_self _)
      trivial nofun
    dsimp only [DispatcherBoard.update]
    rw [DispatcherBoard.state_recordBalancerMiss]
    exact h.goesOn nofun
  | send message origin selection =>
    obtain ⟨envelope, rfl⟩ := hofDrain
    cases hact
    have hgoesOn : (board.dispatcher.send answers.now message selection answers.findChannel).2.state
        = .running ∨ (board.dispatcher.send answers.now message selection answers.findChannel).2.state
        = .draining := by
      rw [DispatcherBoard.state_send]
      exact h.goesOn nofun
    have hqueue := (Dispatcher.send_cases answers.now message selection board.dispatcher
      answers.findChannel).1
    unfold DispatchPhase.afterDispatch
    dsimp only
    split
    . refine .of_same h hqueue rfl hgoesOn ?_ trivial nofun
      change 3 < _ + 6
      omega
    . exact .of_same h hqueue rfl hgoesOn (Nat.lt_succ_self _) trivial nofun
  | failed caller envelope =>
    cases hofDrain
    cases hact
    split
    . exact .of_same h rfl rfl (h.goesOn nofun) (Nat.lt_succ_self _) trivial nofun
    . refine .of_same h rfl rfl (h.goesOn nofun) ?_ trivial nofun
      change 3 < _ + 5
      omega
  | retry caller envelope =>
    cases hofDrain
    exact drainMoves_retry h hact
  | drained =>
    cases hact
    refine ⟨⟨h.placed, trivial, fun hne => absurd rfl hne⟩, Nat.lt_succ_self _, ?_⟩
    intro hempty
    exact iff_of_true (fun _ => hempty (.inl rfl)) trivial
  | loop => cases hofDrain
  | loopEmpty => cases hofDrain
  | loopDraining => cases hofDrain
  | loopStop => cases hofDrain
  | finished => cases hofDrain

end Moves

structure DrainInvariant (envelopes : List DispatchEnvelope) (s : RecordedBoard × RecordedThread)
    : Prop where
  inDrain : s.1.board.InDrain s.2.phase
  shared : s.1.Follows (SendRecord.Sound (fun attempt => attempt.retryable = true)
    (fun attempt => attempt.retryable = false))
  thread : s.2.Follows (SendRecord.Sound (fun attempt => attempt.retryable = true)
    (fun attempt => attempt.retryable = false)) ReadsOwnDecision s.1.board.dispatcher
  conserved : envelopes.Perm ((s.1.records s.2.held).map SendRecord.enqueued)

section Runs

variable {envelopes : List DispatchEnvelope} {s s' : RecordedBoard × RecordedThread}
  {answers : DispatchAnswers}

theorem enqueued_noteAdvance (shared : RecordedBoard) (answers : DispatchAnswers)
    (held : Option SendRecord) (phase : DispatchPhase)
    : (shared.noteAdvance answers held phase).1.enqueued = shared.enqueued := by
  unfold RecordedBoard.noteAdvance
  split
  . split
    . rfl
    . rfl
  . dsimp only
    split
    . rfl
    . rfl
  . split
    . rfl
    . rfl
  . split
    . rfl
    . rfl
  . rfl

theorem advance_of_drainStep (h : drainStep s answers = some s')
    : s.1.board.advance answers s.2.phase = some (s'.1.board, s'.2.phase) := by
  obtain ⟨result, hact, rfl⟩ := Option.map_eq_some_iff.mp h
  exact hact

theorem drainInvariant_start {dispatcher : Dispatcher} (h : dispatcher.queue.Placed)
    : DrainInvariant dispatcher.queue.envelopes (startDrain dispatcher) where
  inDrain := ⟨h, rfl, fun _ => .inr rfl⟩
  shared := by
    refine ⟨h, ?_, ?_, List.forall_mem_nil _⟩
    . intro place
      change (Fifo.under SendRecord.place place (dispatcher.queue.envelopes.map .new)).map _
        = dispatcher.queue.waiting place
      rw [← DispatchQueue.under_envelopes h]
      unfold Fifo.under
      rw [List.filter_map, List.map_map]
      exact List.map_id _
    . intro record hmem
      obtain ⟨envelope, _, rfl⟩ := List.mem_map.mp hmem
      exact decidesAttempts_retryable.followsCourse.new envelope
  thread := .of_handles_eq_none rfl
  conserved := by
    unfold startDrain RecordedBoard.records
    simp only [List.append_nil, Option.toList_none, List.map_map]
    rw [show SendRecord.enqueued ∘ SendRecord.new = id from rfl, List.map_id]

theorem drainInvariant_after (calls : List QueueCall) (state : DispatcherState)
    (diagnostic : Option DispatchDiagnosticSnapshot)
    : DrainInvariant (DispatchQueue.after calls).envelopes (startDrainAfter calls state diagnostic) := by
  exact @drainInvariant_start { state, queue := .after calls, lastDispatchDiagnostic := diagnostic }
    (DispatchQueue.placed_after calls)

theorem DrainInvariant.step (hs : DrainInvariant envelopes s) (h : drainStep s answers = some s')
    : DrainInvariant envelopes s' := by
  have hmoves := drainMoves hs.inDrain (advance_of_drainStep h)
  have hkeeps := decidesAttempts_retryable.followsCourse.act hs.shared hs.thread h
  refine ⟨hmoves.inDrain, hkeeps.board, hkeeps.thread, hs.conserved.trans ?_⟩
  have henqueued : s'.1.enqueued = s.1.enqueued := by
    obtain ⟨result, _, rfl⟩ := Option.map_eq_some_iff.mp h
    exact enqueued_noteAdvance s.1 answers s.2.held s.2.phase
  have hconserved := hkeeps.conserved
  rw [henqueued] at hconserved
  exact (List.perm_append_left_iff _).mp hconserved

theorem drainStep_eq_none_iff (hs : DrainInvariant envelopes s)
    : drainStep s answers = none ↔ s.2.phase = .idle := by
  have hofDrain := hs.inDrain.ofDrain
  obtain ⟨shared, phase, held⟩ := s
  unfold drainStep recordedAct
  rw [Option.map_eq_none_iff]
  dsimp only [DispatcherInput.act] at hofDrain ⊢
  constructor
  . intro hnone
    cases phase with
    | idle => rfl
    | drainOne caller =>
      dsimp only [DispatcherBoard.advance] at hnone
      split at hnone
      all_goals cases hnone
    | retry caller envelope =>
      dsimp only [DispatcherBoard.advance] at hnone
      split at hnone
      . cases hnone
      . cases hnone
    | dequeue caller => cases hnone
    | dispatch message origin => cases hnone
    | select message origin => cases hnone
    | send message origin selection => cases hnone
    | failed caller envelope => cases hnone
    | drained => cases hnone
    | _ => cases hofDrain
  . rintro rfl
    rfl

theorem always_emptyAtEnd {rest : List DispatchAnswers} (hs : DrainInvariant envelopes s)
    (hrun : Runs.run drainStep s rest = some s') (hempty : EmptyAtEnd s'.1.board s'.2.phase)
    : Runs.Always drainStep (fun s => EmptyAtEnd s.1.board s.2.phase) s rest := by
  induction rest generalizing s with
  | nil =>
    cases hrun
    exact hempty
  | cons answers rest ih =>
    cases hstep : drainStep s answers with
    | none =>
      rw [Runs.run_cons_of_none _ hstep] at hrun
      cases hrun
    | some next =>
      rw [Runs.run_cons_of_some _ hstep] at hrun
      have hrest := ih (hs.step hstep) hrun
      refine ⟨?_, fun other hother => ?_⟩
      . have hadvance := advance_of_drainStep hstep
        rintro (hphase | hphase)
        . rw [hphase] at hadvance
          obtain ⟨hboard, hnext⟩ := Prod.mk.inj (Option.some.inj hadvance)
          have hafter := hrest.head (.inr hnext.symm)
          rw [← hboard] at hafter
          exact hafter
        . rw [(drainStep_eq_none_iff hs).mpr hphase] at hstep
          cases hstep
      . cases hstep.symm.trans hother
        exact hrest

theorem SendAttempt.final_of_not_retryable {attempt : SendAttempt} (h : attempt.retryable = false)
    : attempt.Final := by
  unfold retryable DispatchEnvelope.shouldRetryForStage at h
  unfold Final
  cases hstage : attempt.failureStage with
  | none => exact .inl rfl
  | some stage =>
    rw [hstage] at h
    obtain hstages | hcan := Bool.and_eq_false_iff.mp h
    . refine .inr (.inr ⟨stage, rfl, fun hmem => ?_⟩)
      rw [List.contains_iff_mem.mpr hmem] at hstages
      cases hstages
    . exact .inr (.inl hcan)

theorem DrainInvariant.drained_iff (hs : DrainInvariant envelopes s) (hidle : s.2.phase = .idle)
    : Drained envelopes s ↔ EmptyAtEnd s.1.board s.2.phase := by
  constructor
  . intro hdrained _
    exact hdrained.empty
  . intro hempty
    have hqueue := hempty (.inr hidle)
    have hqueued : s.1.queued = [] := by
      refine List.eq_nil_iff_forall_not_mem.mpr (fun record hmem => ?_)
      have hwaiting := hs.shared.waiting record.place
      rw [← DispatchQueue.under_envelopes hs.shared.placed, DispatchQueue.isEmpty_iff.mp hqueue]
        at hwaiting
      have hunder : record ∈ Fifo.under SendRecord.place record.place s.1.queued :=
        List.mem_filter.mpr ⟨hmem, decide_eq_true rfl⟩
      rw [List.map_eq_nil_iff.mp hwaiting] at hunder
      cases hunder
    have hheld : s.2.held = none := by
      have hthread := hs.thread
      unfold RecordedThread.Follows at hthread
      rw [hidle] at hthread
      exact hthread
    refine ⟨hqueue, ?_, ?_⟩
    . have hconserved := hs.conserved
      unfold RecordedBoard.records at hconserved
      rw [hqueued, hheld, List.nil_append, Option.toList_none, List.append_nil] at hconserved
      exact hconserved
    . intro record hmem
      obtain ⟨earlier, last, heq, _, hlast⟩ := (hs.shared.done record hmem).course
      exact ⟨last, by rw [heq, List.getLast?_concat], SendAttempt.final_of_not_retryable hlast⟩

theorem DrainInvariant.emptyAtEnd_iff {rest : List DispatchAnswers} (hs : DrainInvariant envelopes s)
    (hbefore : EmptyAtEnd s.1.board s.2.phase) (hrun : Runs.run drainStep s rest = some s')
    : EmptyAtEnd s'.1.board s'.2.phase ↔ Runs.Guarded drainStep LooksInTime s rest := by
  rw [← Runs.always_iff_guarded (P := fun s => EmptyAtEnd s.1.board s.2.phase)
    (DrainInvariant envelopes) (fun _ => True) ?_ hs hbefore (fun _ _ => trivial)]
  . exact ⟨always_emptyAtEnd hs hrun, fun halways => halways.run_eq_some hrun⟩
  . intro s answers s' hs _ hP hstep
    exact ⟨hs.step hstep, (drainMoves hs.inDrain (advance_of_drainStep hstep)).inTime hP⟩

theorem DrainInvariant.returns (hs : DrainInvariant envelopes s) (answers : Nat → DispatchAnswers)
    : ∃ n s', Runs.run drainStep s ((List.range n).map answers) = some s' ∧ s'.2.phase = .idle := by
  induction hsteps : s.1.board.dispatcher.queue.stepsLeft + s.2.phase.stepsLeft
    using Nat.strong_induction_on generalizing s answers with
  | _ steps ih =>
    cases hstep : drainStep s (answers 0) with
    | none => exact ⟨0, s, rfl, (drainStep_eq_none_iff hs).mp hstep⟩
    | some next =>
      have hshorter := (drainMoves hs.inDrain (advance_of_drainStep hstep)).shorter
      rw [hsteps] at hshorter
      obtain ⟨n, s', hrun, hidle⟩ := ih _ hshorter (hs.step hstep) (fun i => answers (i + 1)) rfl
      refine ⟨n + 1, s', ?_, hidle⟩
      rw [List.range_succ_eq_map, List.map_cons, List.map_map, Runs.run_cons_of_some _ hstep]
      exact hrun

end Runs

theorem drain_returns (calls : List QueueCall) (state : DispatcherState)
    (diagnostic : Option DispatchDiagnosticSnapshot) (answers : Nat → DispatchAnswers)
    : ∃ n s, Runs.run drainStep (startDrainAfter calls state diagnostic) ((List.range n).map answers)
        = some s ∧ s.2.phase = .idle := by
  exact (drainInvariant_after calls state diagnostic).returns answers

/--
`drain` leaves an empty queue and no envelope that could still be retried exactly if, each time that it
looks for an envelope, one is due or there is none left.
-/
theorem drained_iff_looksInTime (calls : List QueueCall) (state : DispatcherState)
    (diagnostic : Option DispatchDiagnosticSnapshot) (answers : List DispatchAnswers)
    (s : RecordedBoard × RecordedThread)
    (hrun : Runs.run drainStep (startDrainAfter calls state diagnostic) answers = some s)
    (hidle : s.2.phase = .idle)
    : Drained (DispatchQueue.after calls).envelopes s
        ↔ Runs.Guarded drainStep LooksInTime (startDrainAfter calls state diagnostic) answers := by
  have hstart := drainInvariant_after calls state diagnostic
  have hend := Runs.Always.run_eq_some (Runs.always_of_forall_step
    (fun s a s' (hs : DrainInvariant (DispatchQueue.after calls).envelopes s) hstep => hs.step hstep)
    answers hstart) hrun
  rw [hend.drained_iff hidle]
  refine hstart.emptyAtEnd_iff ?_ hrun
  rintro (hphase | hphase)
  . cases hphase
  . cases hphase

def twoMessages : List QueueCall :=
  [.enqueue (.fromMessage 0 directMessage), .enqueue retriedMessage]

def twoMessagesAnswers : List DispatchAnswers :=
  List.replicate 5 (answersFrom true) ++ List.replicate 7 (answersFrom false)
    ++ List.replicate 8 (answersFrom true)

theorem drained_iff_looksInTime_twoMessages
    : ∃ s, Runs.run drainStep (startDrainAfter twoMessages .paused none) twoMessagesAnswers = some s
        ∧ s.2.phase = .idle ∧ Drained (DispatchQueue.after twoMessages).envelopes s := by
  refine ⟨_, rfl, rfl, ?_⟩
  exact (drained_iff_looksInTime twoMessages .paused none twoMessagesAnswers _ rfl rfl).mpr
    (by decide +kernel)

def delayedMessage : DispatchEnvelope :=
  retriedMessage.withRetryPolicy 1 50

/-- The retry is due after 50 ms, but the drain has ended before that. -/
theorem delayedRetry_not_drained
    : ∃ s, Runs.run drainStep (startDrainAfter [.enqueue delayedMessage] .paused none)
          (List.replicate 10 (answersFrom false)) = some s
        ∧ s.2.phase = .idle ∧ ¬ Drained (DispatchQueue.after [.enqueue delayedMessage]).envelopes s := by
  refine ⟨_, rfl, rfl, fun hdrained => ?_⟩
  exact absurd hdrained.empty (by decide +kernel)

end AnimaAgent
