import AnimaAgent.Dispatcher.Queue
import AnimaAgent.Library.Threads

namespace AnimaAgent

inductive DispatcherState where
  | stopped
  | running
  | paused
  | draining
  deriving DecidableEq

inductive DispatchOutcomeReason where
  | selectedAndSent
  | balancerMiss
  | channelNotFound
  | sendFailed
  deriving DecidableEq

inductive BalancerMissReason where
  | noTargetsConfigured
  | noAvailableTargets
  | noHealthyTargets
  | allCircuitsOpen
  | hashingKeyMissing
  | noEligibleTargets
  | strategyReturnedNone
  deriving DecidableEq

inductive ChannelLookupReason where
  | exactMatch
  | defaultFallback
  | firstAvailableFallback
  | channelMissing
  deriving DecidableEq

structure SendOptions where
  media : List String
  stage : Option String

structure SendResult where
  success : Bool
  error : Option String
  deriving DecidableEq

structure Selection where
  hasBalancer : Bool := false
  selectedTargetId : Option String := none
  balancerMissReason : Option BalancerMissReason := none

structure ChannelLookup where
  reason : ChannelLookupReason
  channel : Option (String → String → SendOptions → SendResult)

structure DispatchDiagnosticSnapshot where
  messageId : String
  channel : String
  accountId : String
  selectionKey : Option String
  selectedTargetId : Option String
  balancerMissReason : Option BalancerMissReason
  channelLookupReason : Option ChannelLookupReason
  failureStage : Option DispatchFailureStage
  sendError : Option String
  outcome : DispatchOutcomeReason
  timestampMs : UInt64
  deriving DecidableEq

structure Dispatcher where
  state : DispatcherState := .stopped
  queue : DispatchQueue := {}
  lastDispatchDiagnostic : Option DispatchDiagnosticSnapshot := none

namespace Dispatcher

variable (now : UInt64) (message : DispatchMessage) (selection : Selection) (dispatcher : Dispatcher)

def setState (state : DispatcherState) : Dispatcher :=
  { dispatcher with state }

def recordDispatchDiagnostic (channelLookupReason : Option ChannelLookupReason)
    (failureStage : Option DispatchFailureStage) (sendError : Option String)
    (outcome : DispatchOutcomeReason) : Dispatcher :=
  { dispatcher with
    lastDispatchDiagnostic := some
      { messageId := message.id
        channel := message.channel
        accountId := message.accountId
        selectionKey := message.selectionKey
        selectedTargetId := selection.selectedTargetId
        balancerMissReason := selection.balancerMissReason
        channelLookupReason, failureStage, sendError, outcome, timestampMs := now } }

def recordBalancerMiss : Dispatcher :=
  if selection.selectedTargetId.isNone && selection.hasBalancer then
    dispatcher.recordDispatchDiagnostic now message selection none (some .balancerSelection) none
      .balancerMiss
  else
    dispatcher

def send (findChannel : String → String → ChannelLookup) : SendResult × Dispatcher :=
  let lookup := findChannel message.channel (selection.selectedTargetId.getD message.accountId)
  match lookup.channel with
  | none =>
    ({ success := false, error := some "Channel not found" },
      dispatcher.recordDispatchDiagnostic now message selection (some lookup.reason)
        (some .channelLookup) none .channelNotFound)
  | some channel =>
    let result := channel message.target message.content
      { media := message.media, stage := some message.stage }
    if result.success then
      (result, dispatcher.recordDispatchDiagnostic now message selection (some lookup.reason) none
        none .selectedAndSent)
    else
      (result, dispatcher.recordDispatchDiagnostic now message selection (some lookup.reason)
        (some .send) result.error .sendFailed)

end Dispatcher

inductive DispatcherControlCommand where
  | start
  | pause
  | resume
  | drain
  | stop
  deriving DecidableEq

def DispatcherControlCommand.state : DispatcherControlCommand → DispatcherState
  | start => .running
  | pause => .paused
  | resume => .running
  | drain => .draining
  | stop => .stopped

inductive DispatcherCall where
  | control (command : DispatcherControlCommand)
  | enqueue (envelope : DispatchEnvelope)
  | drainOne
  | dispatch (message : DispatchMessage)

inductive DrainCaller where
  | control
  | drain
  | scheduler
  deriving DecidableEq

inductive DispatchPhase where
  | idle
  | drainOne (caller : DrainCaller)
  | dequeue (caller : DrainCaller)
  | dispatch (message : DispatchMessage) (origin : Option (DrainCaller × DispatchEnvelope))
  | select (message : DispatchMessage) (origin : Option (DrainCaller × DispatchEnvelope))
  | send (message : DispatchMessage) (origin : Option (DrainCaller × DispatchEnvelope))
    (selection : Selection)
  /-- `drain_one` reads the stage at which the dispatch has failed. -/
  | failed (caller : DrainCaller) (envelope : DispatchEnvelope)
  | retry (caller : DrainCaller) (envelope : DispatchEnvelope)
  | drained
  | loop
  | loopEmpty
  | loopDraining
  | loopStop
  | finished

def DrainCaller.afterNone : DrainCaller → DispatchPhase
  | control => .idle
  | drain => .drained
  | scheduler => .loop

def DrainCaller.afterSome : DrainCaller → DispatchPhase
  | control => .idle
  | drain => .drainOne .drain
  | scheduler => .loop

def DispatchPhase.afterDispatch (success : Bool)
    : Option (DrainCaller × DispatchEnvelope) → DispatchPhase
  | none => .idle
  | some (caller, envelope) => if success then caller.afterSome else .failed caller envelope

structure DispatchAnswers where
  now : UInt64 := 0
  selection : Selection := {}
  findChannel : String → String → ChannelLookup := fun _ _ =>
    { reason := .channelMissing, channel := none }

structure DispatcherBoard where
  dispatcher : Dispatcher := {}
  commanded : DispatcherState := .stopped
  taken : List (DispatchEnvelope × DispatcherState) := []

namespace DispatcherBoard

variable (board : DispatcherBoard)

def update (dispatcher : Dispatcher) : DispatcherBoard :=
  { board with dispatcher }

def command (state : DispatcherState) : DispatcherBoard :=
  { board with dispatcher := board.dispatcher.setState state, commanded := state }

def enqueue (envelope : DispatchEnvelope) : DispatcherBoard :=
  board.update { board.dispatcher with queue := board.dispatcher.queue.enqueue envelope }

def take (now : UInt64) (caller : DrainCaller) : DispatcherBoard × DispatchPhase :=
  let result := board.dispatcher.queue.dequeue now
  let board' := board.update { board.dispatcher with queue := result.2 }
  match result.1 with
  | none => (board', caller.afterNone)
  | some envelope =>
    ({ board' with taken := board.taken ++ [(envelope, board.dispatcher.state)] },
      .dispatch envelope.message (some (caller, envelope)))

def call : DispatcherCall → DispatcherBoard × DispatchPhase
  | .control .drain => (board.command .draining, .drainOne .drain)
  | .control command => (board.command command.state, .idle)
  | .enqueue envelope => (board.enqueue envelope, .idle)
  | .drainOne => (board, .drainOne .control)
  | .dispatch message => (board, .dispatch message none)

def advance (answers : DispatchAnswers) : DispatchPhase → Option (DispatcherBoard × DispatchPhase)
  | .idle => none
  | .drainOne caller =>
    match board.dispatcher.state with
    | .paused | .stopped => some (board, caller.afterNone)
    | .running | .draining => some (board, .dequeue caller)
  | .dequeue caller => some (board.take answers.now caller)
  | .dispatch message origin =>
    -- the state is not looked at
    some (board.update (board.dispatcher.setState .running), .select message origin)
  | .select message origin =>
    some (board.update (board.dispatcher.recordBalancerMiss answers.now message answers.selection),
      .send message origin answers.selection)
  | .send message origin selection =>
    let result := board.dispatcher.send answers.now message selection answers.findChannel
    some (board.update result.2, .afterDispatch result.1.success origin)
  | .failed caller envelope =>
    -- the last diagnostic may be that of another thread
    let stage := board.dispatcher.lastDispatchDiagnostic.bind DispatchDiagnosticSnapshot.failureStage
    some (board,
      if envelope.shouldRetryForStage stage then .retry caller envelope else caller.afterSome)
  | .retry caller envelope =>
    match envelope.nextRetry answers.now with
    | some next => some (board.enqueue next, caller.afterSome)
    | none => some (board, caller.afterSome)
  | .drained => some (board.command .stopped, .idle)
  | .loop =>
    match board.dispatcher.state with
    | .stopped => some (board, .finished)
    | .paused => some (board, .loop)
    | .running | .draining => some (board, .loopEmpty)
  | .loopEmpty =>
    some (board, if board.dispatcher.queue.isEmpty then .loopDraining else .drainOne .scheduler)
  | .loopDraining =>
    some (board, if board.dispatcher.state = .draining then .loopStop else .loop)
  | .loopStop => some (board.command .stopped, .finished)
  | .finished => none

end DispatcherBoard

inductive DispatcherInput where
  | call (call : DispatcherCall)
  | advance (answers : DispatchAnswers)

def DispatcherInput.act (input : DispatcherInput) (board : DispatcherBoard) (phase : DispatchPhase)
    : Option (DispatcherBoard × DispatchPhase) :=
  match input, phase with
  | .call made, .idle => some (board.call made)
  | .call _, _ => none
  | .advance answers, phase => board.advance answers phase

/--
The loop of the outbound messages is a thread that enqueues each message and calls `drain_one` after it.
-/
inductive DispatcherAction where
  | startThread
  | startScheduler
  | step (i : Nat) (input : DispatcherInput)

def dispatcherStep (s : Threads DispatcherBoard DispatchPhase)
    : DispatcherAction → Option (Threads DispatcherBoard DispatchPhase)
  | .startThread => some (s.start .idle)
  | .startScheduler => some (Threads.start .loop { s with shared := s.shared.command .running })
  | .step i input => s.advance input.act i

def newDispatcher : Threads DispatcherBoard DispatchPhase where
  shared := {}
  threads := []

end AnimaAgent
