import AnimaAgent.Bus.Conservation
import AnimaAgent.Library.Buffers

namespace AnimaAgent

namespace SendCall

variable {T : Type}

def complete (strategy : BufferStrategy) : Nat → ChannelBoard T → SendCall T → Option (ChannelBoard T)
  | 0, _, _ => none
  | fuel + 1, board, call =>
    match call.phase with
    | .returned => some board
    | _ => (call.act strategy board).bind (fun result => complete strategy fuel result.1 result.2)

end SendCall

structure SequentialChannel (T : Type) where
  board : ChannelBoard T
  sent : List (Posted T)

inductive ChannelUse (T : Type) where
  | send (msg : T)
  | receive

namespace SequentialChannel

variable {T : Type}

def init (counted : Bool) : SequentialChannel T where
  board := .new counted
  sent := []

def send (strategy : BufferStrategy) (board : ChannelBoard T) (posted : Posted T)
    : Option (ChannelBoard T) :=
  SendCall.complete strategy (3 * board.queue.length + 4) board { posted, phase := .testing }

def step (strategy : BufferStrategy) (s : SequentialChannel T)
    : ChannelUse T → Option (SequentialChannel T)
  | .send msg =>
    let posted := { call := s.sent.length, msg }
    (send strategy s.board posted).map (fun board => { board, sent := s.sent ++ [posted] })
  | .receive =>
    some { s with board := (s.board.receive.map Prod.snd).getD s.board }

def buffer (s : SequentialChannel T) : Buffer (Posted T) where
  sent := s.sent
  queue := s.board.queue
  delivered := s.board.delivered
  lost := s.board.dropped

end SequentialChannel

namespace BufferStrategy

variable {T : Type}

def put : BufferStrategy → Buffer (Posted T) → Posted T → Buffer (Posted T)
  | .dropping capacity => Buffer.putEarliest capacity
  | .sliding capacity => Buffer.putLatest capacity

def run (strategy : BufferStrategy) (buffer : Buffer (Posted T)) : List (ChannelUse T) → Buffer (Posted T)
  | [] => buffer
  | .send msg :: rest => run strategy (strategy.put buffer { call := buffer.sent.length, msg }) rest
  | .receive :: rest => run strategy buffer.deliver rest

end BufferStrategy

namespace SequentialChannel

variable {T : Type}

structure Refines (strategy : BufferStrategy) (counted : Bool) (uses : List (ChannelUse T))
    (s : SequentialChannel T) : Prop where
  buffer : s.buffer = strategy.run {} uses
  kept : s.buffer.Kept strategy.capacity
  dropping : ∀ capacity, strategy = .dropping capacity → capacity ≤ s.board.queue.length
    → ∀ posted, send strategy s.board posted = some (s.board.recordDrop posted)
  latest : ∀ capacity, strategy = .sliding capacity → s.buffer.Latest capacity
  counted : s.board.droppedTotal
    = if counted then some (UInt64.ofNat s.board.dropped.length) else none

end SequentialChannel

namespace SendCall

variable {T : Type} {strategy : BufferStrategy} {board board' : ChannelBoard T} {call call' : SendCall T}

theorem complete_of_act (fuel : Nat) (hact : call.act strategy board = some (board', call'))
    : complete strategy (fuel + 1) board call = complete strategy fuel board' call' := by
  rw [complete]
  split
  . next hphase =>
    unfold act at hact
    rw [hphase] at hact
    cases hact
  . rw [hact]
    rfl

theorem complete_of_returned (fuel : Nat) (h : call.phase = .returned)
    : complete strategy (fuel + 1) board call = some board := by
  rw [complete, h]

theorem act_of_room (posted : Posted T) (h : board.queue.length < strategy.capacity)
    : act strategy board { posted, phase := .testing } = some (board, { posted, phase := .sending }) := by
  exact if_neg (Nat.not_le_of_lt h)

theorem act_of_sending (posted : Posted T) (h : board.queue.length < strategy.channelCapacity)
    : act strategy board { posted, phase := .sending }
        = some ({ board with queue := board.queue ++ [posted] }, { posted, phase := .returned }) := by
  exact if_pos h

theorem run_of_complete {fuel : Nat} {threads : List (SendCall T)}
    (h : complete strategy fuel board call = some board')
    : ∃ k, Runs.run (BoundedChannel.step strategy) { shared := board, threads := threads ++ [call] }
        (List.replicate k (.advance threads.length))
      = some { shared := board', threads := threads ++ [{ call with phase := .returned }] } := by
  induction fuel generalizing board call with
  | zero => cases h
  | succ fuel ih =>
    rw [complete] at h
    split at h
    . next hphase =>
      cases h
      rw [← hphase]
      exact ⟨0, rfl⟩
    . obtain ⟨⟨board'', call''⟩, hact, hrest⟩ := Option.bind_eq_some_iff.mp h
      obtain ⟨k, hrun⟩ := ih hrest
      have hposted : call''.posted = call.posted := by
        unfold act at hact
        split at hact
        . split at hact
          . split at hact
            . cases hact
              rfl
            . cases hact
              rfl
          . cases hact
            rfl
        . cases hact
          rfl
        . split at hact
          . cases hact
            rfl
          . cases hact
            rfl
        . cases hact
          rfl
        . split at hact
          . cases hact
            rfl
          . cases hact
        . cases hact
      have hstep : BoundedChannel.step strategy { shared := board, threads := threads ++ [call] }
            (.advance threads.length)
          = some { shared := board'', threads := threads ++ [call''] } := by
        simp [BoundedChannel.step, Threads.advance, hact]
      refine ⟨k + 1, ?_⟩
      rw [List.replicate_succ, Runs.run_cons_of_some _ hstep, hrun, hposted]

end SendCall

namespace SequentialChannel

variable {T : Type} {strategy : BufferStrategy} {board board' : ChannelBoard T} {posted : Posted T}

theorem send_of_room (h : board.queue.length < strategy.capacity)
    : send strategy board posted = some { board with queue := board.queue ++ [posted] } := by
  rw [send, SendCall.complete_of_act _ (SendCall.act_of_room posted h),
    SendCall.complete_of_act _ (SendCall.act_of_sending posted (Nat.lt_succ_of_lt h)),
    SendCall.complete_of_returned _ rfl]

theorem send_dropping_of_full {capacity : Nat} (h : capacity ≤ board.queue.length)
    : send (.dropping capacity) board posted = some (board.recordDrop posted) := by
  have htest : SendCall.act (.dropping capacity) board { posted, phase := .testing }
      = some (board, { posted, phase := .discarding }) := if_pos h
  have hdiscard : SendCall.act (.dropping capacity) board { posted, phase := .discarding }
      = some (board.recordDrop posted, { posted, phase := .returned }) := rfl
  rw [send, SendCall.complete_of_act _ htest, SendCall.complete_of_act _ hdiscard,
    SendCall.complete_of_returned _ rfl]

theorem send_sliding_of_full {capacity : Nat} {oldest : Posted T} {rest : List (Posted T)}
    (hqueue : board.queue = oldest :: rest) (hfull : board.queue.length = capacity)
    : send (.sliding capacity) board posted
        = some { ChannelBoard.recordDrop { board with queue := rest } oldest with
            queue := rest ++ [posted] } := by
  have htest : SendCall.act (.sliding capacity) board { posted, phase := .testing }
      = some (board, { posted, phase := .evicting }) := if_pos (Nat.le_of_eq hfull.symm)
  have hevict : SendCall.act (.sliding capacity) board { posted, phase := .evicting }
      = some ({ board with queue := rest }, { posted, phase := .recording oldest }) := by
    rw [SendCall.act, hqueue]
  have hrecord : SendCall.act (.sliding capacity) { board with queue := rest }
        { posted, phase := .recording oldest }
      = some (ChannelBoard.recordDrop { board with queue := rest } oldest,
          { posted, phase := .testing }) := rfl
  have hroom : rest.length < (BufferStrategy.sliding capacity).capacity := by
    rw [← hfull, hqueue]
    exact Nat.lt_succ_self rest.length
  have hfuel : 3 * board.queue.length + 4 = 3 * rest.length + 2 + 1 + 1 + 1 + 1 + 1 := by
    rw [hqueue, List.length_cons]
    omega
  rw [send, hfuel, SendCall.complete_of_act _ htest, SendCall.complete_of_act _ hevict,
    SendCall.complete_of_act _ hrecord, SendCall.complete_of_act _ (SendCall.act_of_room posted hroom),
    SendCall.complete_of_act _ (SendCall.act_of_sending posted (Nat.lt_succ_of_lt hroom)),
    SendCall.complete_of_returned _ rfl]
  rfl

theorem run_of_send {s : BoundedChannel T} {msg : T}
    (h : send strategy s.shared { call := s.threads.length, msg } = some board')
    : ∃ k, Runs.run (BoundedChannel.step strategy) s
          (.start msg :: List.replicate k (.advance s.threads.length))
        = some {
            shared := board'
            threads := s.threads ++ [{ posted := { call := s.threads.length, msg }, phase := .returned }]
          } := by
  obtain ⟨k, hrun⟩ := @SendCall.run_of_complete _ _ _ _ _ _ s.threads h
  exact ⟨k, (Runs.run_cons_of_some _ rfl).trans hrun⟩

def Counted (counted : Bool) (board : ChannelBoard T) : Prop :=
  board.droppedTotal = if counted then some (UInt64.ofNat board.dropped.length) else none

theorem Counted.recordDrop {counted : Bool} (h : Counted counted board) (posted : Posted T)
    : Counted counted (board.recordDrop posted) := by
  unfold Counted at h ⊢
  rw [ChannelBoard.recordDrop, h, List.length_append, List.length_singleton, UInt64.ofNat_add]
  cases counted with
  | false => rfl
  | true => rfl

theorem send_refines {counted : Bool} (hcapacity : 1 ≤ strategy.capacity)
    {s : SequentialChannel T} (hbounded : s.board.queue.length ≤ strategy.capacity)
    (hcounted : Counted counted s.board) (posted : Posted T)
    : ∃ board', send strategy s.board posted = some board' ∧ Counted counted board'
        ∧ buffer { board := board', sent := s.sent ++ [posted] } = strategy.put s.buffer posted := by
  have hlength : (s.board.queue ++ [posted]).length = s.board.queue.length + 1 := by
    rw [List.length_append, List.length_singleton]
  by_cases hroom : s.board.queue.length < strategy.capacity
  . refine ⟨_, send_of_room hroom, hcounted, ?_⟩
    cases strategy with
    | dropping capacity =>
      simp only [buffer, BufferStrategy.put, Buffer.putEarliest, BufferStrategy.capacity] at hroom ⊢
      rw [List.take_of_length_le (by omega), List.drop_of_length_le (by omega), List.append_nil]
    | sliding capacity =>
      simp only [buffer, BufferStrategy.put, Buffer.putLatest, BufferStrategy.capacity] at hroom ⊢
      rw [Nat.sub_eq_zero_of_le (by omega), List.drop_zero, List.take_zero, List.append_nil]
  . have hfull := Nat.le_antisymm hbounded (Nat.le_of_not_lt hroom)
    cases strategy with
    | dropping capacity =>
      refine ⟨_, send_dropping_of_full (Nat.le_of_eq hfull.symm), hcounted.recordDrop posted, ?_⟩
      have hqueue : s.board.queue.length = capacity := hfull
      simp only [buffer, BufferStrategy.put, Buffer.putEarliest, ChannelBoard.recordDrop]
      rw [List.take_append_of_le_length (Nat.le_of_eq hqueue.symm),
        List.take_of_length_le (Nat.le_of_eq hqueue), List.drop_left' hqueue]
    | sliding capacity =>
      obtain ⟨oldest, rest, hqueue⟩ := List.exists_cons_of_length_pos
        (Nat.lt_of_lt_of_le hcapacity (Nat.le_of_eq hfull.symm))
      refine ⟨_, send_sliding_of_full hqueue hfull, ?_, ?_⟩
      . exact @Counted.recordDrop T { s.board with queue := rest } counted hcounted oldest
      . have hone : s.board.queue.length + 1 - capacity = 1 := by
          have : s.board.queue.length = capacity := hfull
          omega
        simp only [buffer, BufferStrategy.put, Buffer.putLatest, ChannelBoard.recordDrop]
        rw [hone, hqueue]
        rfl

theorem buffer_receive (s : SequentialChannel T)
    : buffer { s with board := (s.board.receive.map Prod.snd).getD s.board } = s.buffer.deliver := by
  unfold buffer Buffer.deliver ChannelBoard.receive
  cases hqueue : s.board.queue with
  | nil =>
    simp only [Option.map_none, Option.getD_none, hqueue, List.tail_nil, List.head?_nil,
      Option.toList_none, List.append_nil]
  | cons oldest rest => rfl

theorem counted_receive {counted : Bool} (h : Counted counted board)
    : Counted counted ((board.receive.map Prod.snd).getD board) := by
  unfold ChannelBoard.receive
  cases board.queue with
  | nil => exact h
  | cons oldest rest => exact h

structure Follows (strategy : BufferStrategy) (counted : Bool) (s : SequentialChannel T) : Prop where
  kept : s.buffer.Kept strategy.capacity
  latest : ∀ capacity, strategy = .sliding capacity → s.buffer.Latest capacity
  counted : Counted counted s.board

theorem Follows.step {counted : Bool} (hcapacity : 1 ≤ strategy.capacity) {s : SequentialChannel T}
    (h : s.Follows strategy counted) (use : ChannelUse T)
    : ∃ s', s.step strategy use = some s' ∧ s'.Follows strategy counted
        ∧ strategy.run s.buffer [use] = s'.buffer := by
  cases use with
  | send msg =>
    obtain ⟨board', hsend, hcounted, hbuffer⟩ := send_refines hcapacity h.kept.bounded h.counted
      { call := s.sent.length, msg }
    refine ⟨_, by rw [SequentialChannel.step, hsend, Option.map_some], ⟨?_, ?_, hcounted⟩, hbuffer.symm⟩
    . rw [hbuffer]
      cases strategy with
      | dropping capacity => exact h.kept.putEarliest _
      | sliding capacity => exact h.kept.putLatest _
    . rw [hbuffer]
      rintro capacity rfl
      exact (h.latest capacity rfl).putLatest _
  | receive =>
    refine ⟨_, rfl, ⟨?_, ?_, counted_receive h.counted⟩, (buffer_receive s).symm⟩
    . rw [buffer_receive]
      exact h.kept.deliver
    . rw [buffer_receive]
      exact fun capacity hsliding => (h.latest capacity hsliding).deliver

theorem run_cons_eq (strategy : BufferStrategy) (buffer : Buffer (Posted T)) (use : ChannelUse T)
    (rest : List (ChannelUse T))
    : strategy.run buffer (use :: rest) = strategy.run (strategy.run buffer [use]) rest := by
  cases use with
  | send msg => rfl
  | receive => rfl

theorem exists_run {counted : Bool} (hcapacity : 1 ≤ strategy.capacity) (uses : List (ChannelUse T))
    {s : SequentialChannel T} (h : s.Follows strategy counted)
    : ∃ s', Runs.run (step strategy) s uses = some s' ∧ s'.Follows strategy counted
        ∧ s'.buffer = strategy.run s.buffer uses := by
  induction uses generalizing s with
  | nil => exact ⟨s, rfl, h, rfl⟩
  | cons use rest ih =>
    obtain ⟨s', hstep, hfollows, hbuffer⟩ := h.step hcapacity use
    obtain ⟨s'', hrun, hfollows', hbuffer'⟩ := ih hfollows
    refine ⟨s'', (Runs.run_cons_of_some rest hstep).trans hrun, hfollows', ?_⟩
    rw [hbuffer', run_cons_eq, hbuffer]

theorem exists_refines (strategy : BufferStrategy) (hcapacity : 1 ≤ strategy.capacity)
    (counted : Bool) (uses : List (ChannelUse T))
    : ∃ s, Runs.run (step strategy) (init counted) uses = some s
        ∧ s.Refines strategy counted uses := by
  have hinit : (init counted : SequentialChannel T).Follows strategy counted := by
    refine ⟨Buffer.kept_empty, fun _ _ => Buffer.latest_empty, ?_⟩
    cases counted with
    | false => rfl
    | true => rfl
  obtain ⟨s, hrun, hfollows, hbuffer⟩ := exists_run hcapacity uses hinit
  refine ⟨s, hrun, hbuffer, hfollows.kept, ?_, hfollows.latest, hfollows.counted⟩
  rintro capacity rfl hfull posted
  exact send_dropping_of_full hfull

theorem exists_refines_threeMessages
    : ∃ s, Runs.run (step (.sliding 2)) (init true) [.send "a", .send "b", .send "c", .receive] = some s
        ∧ s.Refines (.sliding 2) true [.send "a", .send "b", .send "c", .receive] :=
  exists_refines (.sliding 2) (by decide) true _

end SequentialChannel

end AnimaAgent
