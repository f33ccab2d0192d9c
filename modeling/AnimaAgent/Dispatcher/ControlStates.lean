import AnimaAgent.Dispatcher.Core
import AnimaAgent.Library.Runs

namespace AnimaAgent

open Runs

/--
The state is the one that the last command or the last end of a drain has set, and no envelope was taken
from the queue in the states `Paused` and `Stopped`.
-/
structure DispatcherBoard.Controlled (board : DispatcherBoard) : Prop where
  kept : board.dispatcher.state = board.commanded
  taken : ∀ entry ∈ board.taken, entry.2 ≠ .paused ∧ entry.2 ≠ .stopped

/--
A dispatch sets the state while the last command is to run, and an envelope is there to be taken only if
the last command was not to pause or to stop.
-/
def DispatchPhase.Heeds (answers : DispatchAnswers) (board : DispatcherBoard)
    : DispatchPhase → Prop
  | .dispatch _ _ => board.commanded = .running
  | .dequeue _ => (board.dispatcher.queue.dequeue answers.now).1.isSome
      → board.commanded ≠ .paused ∧ board.commanded ≠ .stopped
  | _ => True

def HeedsCommands (s : Threads DispatcherBoard DispatchPhase) : DispatcherAction → Prop
  | .step i (.advance answers) => ∀ phase, s.threads[i]? = some phase → phase.Heeds answers s.shared
  | _ => True

namespace DispatcherBoard

variable {board board' : DispatcherBoard} {phase phase' : DispatchPhase}

theorem controlled_new : newDispatcher.shared.Controlled := by
  refine ⟨rfl, ?_⟩
  intro entry hentry
  exact absurd hentry List.not_mem_nil

theorem Controlled.command (h : board.Controlled) (state : DispatcherState)
    : (board.command state).Controlled := by
  exact ⟨rfl, h.taken⟩

theorem Controlled.update (h : board.Controlled) {dispatcher : Dispatcher}
    (hstate : dispatcher.state = board.dispatcher.state)
    : (board.update dispatcher).Controlled := by
  exact ⟨hstate.trans h.kept, h.taken⟩

theorem Controlled.call (h : board.Controlled) (made : DispatcherCall)
    : (board.call made).1.Controlled := by
  cases made with
  | control command =>
    cases command with
    | drain => exact h.command _
    | start => exact h.command _
    | pause => exact h.command _
    | resume => exact h.command _
    | stop => exact h.command _
  | enqueue envelope => exact h.update rfl
  | drainOne => exact h
  | dispatch message => exact h

theorem state_recordBalancerMiss (now : UInt64) (message : DispatchMessage) (selection : Selection)
    (dispatcher : Dispatcher)
    : (dispatcher.recordBalancerMiss now message selection).state = dispatcher.state := by
  unfold Dispatcher.recordBalancerMiss
  split
  . rfl
  . rfl

theorem state_send (now : UInt64) (message : DispatchMessage) (selection : Selection)
    (dispatcher : Dispatcher) (findChannel : String → String → ChannelLookup)
    : (dispatcher.send now message selection findChannel).2.state = dispatcher.state := by
  unfold Dispatcher.send
  dsimp only
  split
  . rfl
  . split
    . rfl
    . rfl

theorem Controlled.take_iff (h : board.Controlled) (now : UInt64) (caller : DrainCaller)
    : (board.take now caller).1.Controlled
        ↔ ((board.dispatcher.queue.dequeue now).1.isSome
          → board.commanded ≠ .paused ∧ board.commanded ≠ .stopped) := by
  unfold take
  dsimp only
  cases hfirst : (board.dispatcher.queue.dequeue now).1 with
  | none => exact iff_of_true (h.update rfl) nofun
  | some envelope =>
    rw [← h.kept]
    constructor
    . intro hafter _
      exact hafter.taken (envelope, board.dispatcher.state) (by simp)
    . intro hstate
      refine ⟨h.kept, ?_⟩
      intro entry hentry
      obtain hentry | hentry := List.mem_append.mp hentry
      . exact h.taken entry hentry
      . rw [List.mem_singleton.mp hentry]
        exact hstate rfl

theorem Controlled.setRunning_iff (h : board.Controlled)
    : (board.update (board.dispatcher.setState .running)).Controlled
        ↔ board.commanded = .running := by
  constructor
  . intro hafter
    exact hafter.kept.symm
  . intro hrunning
    exact ⟨hrunning.symm, h.taken⟩

theorem Controlled.advance_iff (h : board.Controlled) {answers : DispatchAnswers}
    (hstep : board.advance answers phase = some (board', phase'))
    : board'.Controlled ↔ phase.Heeds answers board := by
  cases phase with
  | idle => cases hstep
  | finished => cases hstep
  | dequeue caller =>
    have hboard : (board.take answers.now caller).1 = board' :=
      congrArg Prod.fst (Option.some.inj hstep)
    rw [← hboard]
    exact h.take_iff answers.now caller
  | dispatch message origin =>
    cases hstep
    exact h.setRunning_iff
  | drainOne caller =>
    dsimp only [DispatcherBoard.advance] at hstep
    refine iff_of_true ?_ trivial
    split at hstep
    all_goals
      cases hstep
      exact h
  | select message origin =>
    cases hstep
    exact iff_of_true (h.update (state_recordBalancerMiss ..)) trivial
  | send message origin selection =>
    cases hstep
    exact iff_of_true (h.update (state_send ..)) trivial
  | failed caller envelope =>
    cases hstep
    exact iff_of_true h trivial
  | retry caller envelope =>
    dsimp only [DispatcherBoard.advance] at hstep
    refine iff_of_true ?_ trivial
    split at hstep
    . cases hstep
      exact h.update rfl
    . cases hstep
      exact h
  | drained =>
    cases hstep
    exact iff_of_true (h.command _) trivial
  | loop =>
    dsimp only [DispatcherBoard.advance] at hstep
    refine iff_of_true ?_ trivial
    split at hstep
    all_goals
      cases hstep
      exact h
  | loopEmpty =>
    cases hstep
    exact iff_of_true h trivial
  | loopDraining =>
    cases hstep
    exact iff_of_true h trivial
  | loopStop =>
    cases hstep
    exact iff_of_true (h.command _) trivial

end DispatcherBoard

theorem dispatcherStep_controlled_iff {s s' : Threads DispatcherBoard DispatchPhase}
    {action : DispatcherAction} (h : s.shared.Controlled) (hstep : dispatcherStep s action = some s')
    : s'.shared.Controlled ↔ HeedsCommands s action := by
  cases action with
  | startThread =>
    cases hstep
    exact iff_of_true h trivial
  | startScheduler =>
    cases hstep
    exact iff_of_true (h.command _) trivial
  | step i input =>
    obtain ⟨phase, phase', board', hi, hact, rfl⟩ := Threads.advance_eq_some hstep
    cases input with
    | call made =>
      refine iff_of_true ?_ trivial
      cases phase with
      | idle =>
        have hboard : (s.shared.call made).1 = board' := congrArg Prod.fst (Option.some.inj hact)
        rw [← hboard]
        exact h.call made
      | _ => cases hact
    | advance answers =>
      rw [h.advance_iff hact]
      constructor
      . intro hheeds phase'' hi'
        cases hi.symm.trans hi'
        exact hheeds
      . intro hheeds
        exact hheeds phase hi

/--
Over every interleaving of the threads that use a dispatcher, the commands stay in force exactly if each
step heeds the last of them.
-/
theorem always_controlled_iff (actions : List DispatcherAction)
    : Always dispatcherStep (fun s => s.shared.Controlled) newDispatcher actions
        ↔ Guarded dispatcherStep HeedsCommands newDispatcher actions := by
  apply always_iff_guarded (fun _ => True) (fun _ => True)
  . intro s action s' _ _ h hstep
    exact ⟨trivial, dispatcherStep_controlled_iff h hstep⟩
  . trivial
  . exact DispatcherBoard.controlled_new
  . exact fun _ _ => trivial

def drainedOneMessage : List DispatcherAction :=
  [.startThread,
    .step 0 (.call (.enqueue (.fromMessage 0
      { id := "m1", channel := "cli", accountId := "default", content := "queued" }))),
    .step 0 (.call (.control .drain)), .step 0 (.advance {}), .step 0 (.advance {}),
    .step 0 (.advance {})]

/-- The first dispatch of a drain turns `Draining` into `Running`. -/
theorem drainedOneMessage_not_controlled
    : ¬Always dispatcherStep (fun s => s.shared.Controlled) newDispatcher drainedOneMessage := by
  intro h
  have hlast : ((run dispatcherStep newDispatcher drainedOneMessage).map (fun s =>
      (s.shared.dispatcher.state, s.shared.commanded))) = some (.running, .draining) := by
    decide +kernel
  obtain ⟨s, hrun, hstates⟩ := Option.map_eq_some_iff.mp hlast
  obtain ⟨hstate, hcommanded⟩ := Prod.mk.inj hstates
  have hkept := (h.run_eq_some hrun).kept
  rw [hstate, hcommanded] at hkept
  cases hkept

end AnimaAgent
