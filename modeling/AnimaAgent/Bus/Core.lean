import AnimaAgent.Library.Threads
import AnimaAgent.Runtime.Types

namespace AnimaAgent

inductive BufferStrategy where
  | dropping (cap : Nat)
  | sliding (cap : Nat)
  deriving DecidableEq

def BufferStrategy.capacity : BufferStrategy → Nat
  | .dropping cap => cap
  | .sliding cap => cap

def BufferStrategy.channelCapacity (strategy : BufferStrategy) : Nat :=
  strategy.capacity + 1

structure Posted (T : Type) where
  call : Nat
  msg : T
  deriving DecidableEq

structure ChannelBoard (T : Type) where
  queue : List (Posted T)
  droppedTotal : Option UInt64
  dropped : List (Posted T)
  delivered : List (Posted T)

inductive SendPhase (T : Type) where
  | testing
  | discarding
  | evicting
  | recording (evicted : Posted T)
  | sending
  | returned
  deriving DecidableEq

structure SendCall (T : Type) where
  posted : Posted T
  phase : SendPhase T

namespace ChannelBoard

variable {T : Type}

def new (counted : Bool) : ChannelBoard T where
  queue := []
  droppedTotal := if counted then some 0 else none
  dropped := []
  delivered := []

def recordDrop (board : ChannelBoard T) (posted : Posted T) : ChannelBoard T :=
  { board with
    droppedTotal := board.droppedTotal.map (fun n => n + 1)
    dropped := board.dropped ++ [posted] }

def receive (board : ChannelBoard T) : Option (Posted T × ChannelBoard T) :=
  match board.queue with
  | [] => none
  | oldest :: rest =>
    some (oldest, { board with queue := rest, delivered := board.delivered ++ [oldest] })

end ChannelBoard

namespace SendCall

variable {T : Type}

def act (strategy : BufferStrategy) (board : ChannelBoard T) (call : SendCall T)
    : Option (ChannelBoard T × SendCall T) :=
  match call.phase with
  | .testing =>
    if strategy.capacity ≤ board.queue.length then
      match strategy with
      | .dropping _ => some (board, { call with phase := .discarding })
      | .sliding _ => some (board, { call with phase := .evicting })
    else
      some (board, { call with phase := .sending })
  | .discarding => some (board.recordDrop call.posted, { call with phase := .returned })
  | .evicting =>
    match board.queue with
    | [] => some (board, { call with phase := .sending })
    | oldest :: rest =>
      some ({ board with queue := rest }, { call with phase := .recording oldest })
  | .recording evicted => some (board.recordDrop evicted, { call with phase := .testing })
  | .sending =>
    if board.queue.length < strategy.channelCapacity then
      some ({ board with queue := board.queue ++ [call.posted] }, { call with phase := .returned })
    else
      none
  | .returned => none

def Drops (call : SendCall T) : Prop :=
  call.phase = .discarding ∨ ∃ evicted, call.phase = .recording evicted

def held (call : SendCall T) : List (Posted T) :=
  match call.phase with
  | .testing | .discarding | .evicting | .sending => [call.posted]
  | .recording evicted => [call.posted, evicted]
  | .returned => []

end SendCall

def ChannelBoard.placed {T : Type} (board : ChannelBoard T) : List (Posted T) :=
  board.delivered ++ board.queue

namespace SendCall

variable {T : Type}

def DropsOwn (call : SendCall T) : Prop :=
  call.phase ≠ .evicting ∧ ∀ evicted, call.phase ≠ .recording evicted

theorem act_dropping {cap : Nat} {board board' : ChannelBoard T} {call call' : SendCall T}
    (hown : call.DropsOwn) (hact : act (.dropping cap) board call = some (board', call'))
    : board.placed ⊆ board'.placed ∧ call'.DropsOwn ∧ call'.posted = call.posted
        ∧ (call'.phase = .discarding → cap ≤ board.queue.length ∧ call.phase = .testing)
        ∧ (call'.phase = .returned → call.phase = .discarding ∨ call.posted ∈ board'.placed) := by
  unfold act at hact
  split at hact
  . next hphase =>
    split at hact
    . next hfull =>
      cases hact
      exact ⟨fun _ h => h, ⟨nofun, nofun⟩, rfl, fun _ => ⟨hfull, hphase⟩, nofun⟩
    . cases hact
      exact ⟨fun _ h => h, ⟨nofun, nofun⟩, rfl, nofun, nofun⟩
  . next hphase =>
    cases hact
    exact ⟨fun _ h => h, ⟨nofun, nofun⟩, rfl, nofun, fun _ => .inl hphase⟩
  . next hphase => exact absurd hphase hown.1
  . next evicted hphase => exact absurd hphase (hown.2 evicted)
  . split at hact
    . cases hact
      have hplaced : ∀ posted, posted ∈ board.placed ∨ posted = call.posted
          → posted ∈ ChannelBoard.placed { board with queue := board.queue ++ [call.posted] } := by
        intro posted h
        unfold ChannelBoard.placed
        rw [← List.append_assoc]
        exact h.elim (List.mem_append_left _) (fun h => by rw [h]; exact List.mem_concat_self ..)
      exact ⟨fun _ h => hplaced _ (.inl h), ⟨nofun, nofun⟩, rfl, nofun,
        fun _ => .inr (hplaced _ (.inr rfl))⟩
    . cases hact
  . cases hact

end SendCall

theorem ChannelBoard.placed_receive {T : Type} {board board' : ChannelBoard T} {oldest : Posted T}
    (h : board.receive = some (oldest, board'))
    : board'.placed = board.placed := by
  unfold ChannelBoard.receive at h
  split at h
  . cases h
  . next first rest hqueue =>
    cases h
    unfold ChannelBoard.placed
    rw [hqueue, List.append_assoc]
    rfl

structure BusConfig where
  inboundCapacity : Nat := 1000
  internalCapacity : Nat := 2000

structure Bus where
  config : BusConfig
  closed : Bool
  inbound : ChannelBoard InboundMessage
  internal : ChannelBoard Value

inductive PublishPhase where
  | checking
  | loading
  | sending (before : UInt64) (phase : SendPhase InboundMessage)
  | comparing (before : UInt64)
  | measuring (after : UInt64)
  | reporting (call : SendCall Value)
  | returned (result : Except String Unit)

namespace Bus

variable (bus : Bus)

def inboundDroppedTotal : UInt64 :=
  bus.inbound.droppedTotal.getD 0

def droppedPayload (after : UInt64) (queueDepth : Nat) : Value :=
  .object [
    ("channel", .string "inbound"),
    ("dropped_total", .number (.posInt after)),
    ("event", .string "bus_message_dropped"),
    ("queue_depth", .number (.posInt (UInt64.ofNat queueDepth)))]

def close : Bus :=
  { bus with closed := true }

def consumeInbound : Option (Posted InboundMessage × Bus) :=
  bus.inbound.receive.map (fun received => (received.1, { bus with inbound := received.2 }))

def publishInbound (posted : Posted InboundMessage) : PublishPhase → Option (Bus × PublishPhase)
  | .checking =>
    some (bus, if bus.closed then .returned (.error "bus closed") else .loading)
  | .loading => some (bus, .sending bus.inboundDroppedTotal .testing)
  | .sending before phase =>
    (SendCall.act (.dropping bus.config.inboundCapacity) bus.inbound { posted, phase }).map
      (fun (inbound, call) =>
        ({ bus with inbound },
          match call.phase with
          | .returned => .comparing before
          | phase => .sending before phase))
  | .comparing before =>
    let after := bus.inboundDroppedTotal
    some (bus, if before < after then .measuring after else .returned (.ok ()))
  | .measuring after =>
    let payload := droppedPayload after bus.inbound.queue.length
    some (bus, .reporting { posted := { call := posted.call, msg := payload }, phase := .testing })
  | .reporting call =>
    (SendCall.act (.sliding bus.config.internalCapacity) bus.internal call).map
      (fun (internal, call) =>
        ({ bus with internal },
          match call.phase with
          | .returned => .returned (.ok ())
          | _ => .reporting call))
  | .returned _ => none

end Bus

end AnimaAgent
