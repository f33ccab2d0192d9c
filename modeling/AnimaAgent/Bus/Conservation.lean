import Mathlib.Data.List.Range
import AnimaAgent.Bus.Core
import AnimaAgent.Library.Runs

namespace AnimaAgent

inductive SendAction (T : Type) where
  | start (msg : T)
  | advance (i : Nat)
  | receive

abbrev BoundedChannel (T : Type) := Threads (ChannelBoard T) (SendCall T)

namespace BoundedChannel

variable {T : Type} (strategy : BufferStrategy)

def init (counted : Bool) : BoundedChannel T where
  shared := .new counted
  threads := []

def step (s : BoundedChannel T) : SendAction T → Option (BoundedChannel T)
  | .start msg =>
    some (s.start { posted := { call := s.threads.length, msg }, phase := .testing })
  | .advance i => s.advance (SendCall.act strategy) i
  | .receive => s.shared.receive.map (fun received => { s with shared := received.2 })

def Quiescent (s : BoundedChannel T) : Prop :=
  ∀ call ∈ s.threads, call.phase = .returned

def accepted (s : BoundedChannel T) : Nat :=
  s.threads.countP (fun call => match call.phase with | .returned => true | _ => false)

/-- No call is blocked and the capacity is kept, and what is accepted is accounted for. -/
structure Conserves (s : BoundedChannel T) : Prop where
  unblocked : ∀ call ∈ s.threads, call.phase = .sending
    → s.shared.queue.length < strategy.channelCapacity
  bounded : s.shared.queue.length ≤ strategy.capacity
  counted : ∀ n ∈ s.shared.droppedTotal, n.toNat = s.shared.dropped.length
  accounted : s.Quiescent → ∀ n ∈ s.shared.droppedTotal,
    s.accepted = s.shared.delivered.length + n.toNat + s.shared.queue.length
  apart : ∀ posted ∈ s.shared.dropped, ∀ other ∈ s.shared.delivered, posted.call ≠ other.call

/-- A message is sent only while there is room below the capacity, and the counter has room for a drop. -/
def SendsBelow (s : BoundedChannel T) : SendAction T → Prop
  | .advance i => ∀ call, s.threads[i]? = some call →
    (call.phase = .sending → s.shared.queue.length < strategy.capacity)
    ∧ (call.Drops → ∀ n ∈ s.shared.droppedTotal, n.toNat + 1 < UInt64.size)
  | _ => True

def Accounts (s : BoundedChannel T) : Prop :=
  ((s.shared.delivered ++ s.shared.dropped ++ s.shared.queue
      ++ s.threads.flatMap SendCall.held).map Posted.call).Perm
    (List.range s.threads.length)

end BoundedChannel

namespace BoundedChannel

variable {T : Type} {strategy : BufferStrategy} {s s' : BoundedChannel T}

theorem accounts_init (counted : Bool) : Accounts (init counted : BoundedChannel T) := by
  exact List.Perm.refl _

theorem accounts_set (h : s.Accounts) {i : Nat} {call call' : SendCall T}
    {board' : ChannelBoard T} (hi : s.threads[i]? = some call)
    (hmove : (board'.delivered ++ board'.dropped ++ board'.queue ++ call'.held).Perm
      (s.shared.delivered ++ s.shared.dropped ++ s.shared.queue ++ call.held))
    : Accounts { shared := board', threads := s.threads.set i call' } := by
  have hhands := (Threads.perm_flatMap_set SendCall.held call' hi).map Posted.call
  have hmove' := hmove.map Posted.call
  unfold Accounts at h ⊢
  dsimp only
  rw [List.length_set]
  refine List.Perm.trans ?_ h
  rw [List.perm_iff_count] at hhands hmove' ⊢
  intro k
  have hhand := hhands k
  have hmove := hmove' k
  simp only [List.map_append, List.count_append] at hhand hmove ⊢
  omega

theorem accounts_act (h : s.Accounts) {i : Nat} {call call' : SendCall T}
    {board' : ChannelBoard T} (hi : s.threads[i]? = some call)
    (hact : call.act strategy s.shared = some (board', call'))
    : Accounts { shared := board', threads := s.threads.set i call' } := by
  classical
  refine accounts_set h hi ?_
  unfold SendCall.act at hact
  unfold SendCall.held
  split at hact
  . next hphase =>
    rw [hphase]
    split at hact
    . split at hact
      . cases hact
        exact List.Perm.refl _
      . cases hact
        exact List.Perm.refl _
    . cases hact
      exact List.Perm.refl _
  . next hphase =>
    rw [hphase]
    cases hact
    rw [List.perm_iff_count]
    intro posted
    simp only [ChannelBoard.recordDrop, List.count_append, List.count_nil]
    omega
  . next hphase =>
    rw [hphase]
    split at hact
    . cases hact
      exact List.Perm.refl _
    . next oldest rest hqueue =>
      cases hact
      rw [hqueue, List.perm_iff_count]
      intro posted
      simp only [List.count_append, List.count_cons, List.count_nil]
      omega
  . next evicted hphase =>
    rw [hphase]
    cases hact
    rw [List.perm_iff_count]
    intro posted
    simp only [ChannelBoard.recordDrop, List.count_append, List.count_cons, List.count_nil]
    omega
  . next hphase =>
    rw [hphase]
    split at hact
    . cases hact
      rw [List.perm_iff_count]
      intro posted
      simp only [List.count_append, List.count_nil]
      omega
    . cases hact
  . cases hact

theorem accounts_start (h : s.Accounts) (msg : T)
    : Accounts (s.start { posted := { call := s.threads.length, msg }, phase := .testing }) := by
  unfold Accounts Threads.start at *
  rw [List.length_append, List.length_singleton, List.range_succ, List.flatMap_append,
    ← List.append_assoc, List.map_append]
  exact h.append (List.Perm.refl _)

theorem accounts_receive (h : s.Accounts) {oldest : Posted T} {board' : ChannelBoard T}
    (hreceive : s.shared.receive = some (oldest, board'))
    : Accounts { s with shared := board' } := by
  classical
  unfold ChannelBoard.receive at hreceive
  split at hreceive
  . cases hreceive
  . next first rest hqueue =>
    cases hreceive
    refine List.Perm.trans (List.Perm.map _ ?_) h
    rw [hqueue, List.perm_iff_count]
    intro posted
    simp only [List.count_append, List.count_cons, List.count_nil]
    omega

theorem accounts_step {action : SendAction T} (h : s.Accounts)
    (hstep : s.step strategy action = some s')
    : s'.Accounts := by
  cases action with
  | start msg =>
    cases hstep
    exact accounts_start h msg
  | advance i =>
    obtain ⟨call, call', board', hi, hact, rfl⟩ := Threads.advance_eq_some hstep
    exact accounts_act h hi hact
  | receive =>
    obtain ⟨⟨oldest, board'⟩, hreceive, rfl⟩ := Option.map_eq_some_iff.mp hstep
    exact accounts_receive h hreceive

theorem accepted_of_quiescent (h : s.Quiescent) : s.accepted = s.threads.length := by
  unfold accepted
  rw [List.countP_eq_length]
  intro call hmem
  rw [h call hmem]

theorem hands_of_quiescent (h : s.Quiescent) : s.threads.flatMap SendCall.held = [] := by
  rw [List.flatMap_eq_nil_iff]
  intro call hmem
  unfold SendCall.held
  rw [h call hmem]

theorem conserves_iff (h : s.Accounts)
    : s.Conserves strategy
        ↔ s.shared.queue.length ≤ strategy.capacity
          ∧ ∀ n ∈ s.shared.droppedTotal, n.toNat = s.shared.dropped.length := by
  constructor
  . intro hconserves
    exact ⟨hconserves.bounded, hconserves.counted⟩
  . rintro ⟨hbounded, hcounted⟩
    refine ⟨fun _ _ _ => Nat.lt_succ_of_le hbounded, hbounded, hcounted, ?_, ?_⟩
    . intro hquiescent n hn
      have hlength := h.length_eq
      rw [hands_of_quiescent hquiescent, List.append_nil, List.length_map, List.length_range,
        List.length_append, List.length_append] at hlength
      rw [accepted_of_quiescent hquiescent, hcounted n hn]
      exact hlength.symm
    . intro posted hposted other hother heq
      have hnodup := h.nodup_iff.mpr List.nodup_range
      rw [List.append_assoc, List.append_assoc, List.map_append, List.nodup_append] at hnodup
      refine hnodup.2.2 other.call (List.mem_map_of_mem hother) posted.call ?_ heq.symm
      exact List.mem_map_of_mem (List.mem_append_left _ hposted)

theorem length_receive_le {board board' : ChannelBoard T} {oldest : Posted T}
    (h : board.receive = some (oldest, board'))
    : board'.queue.length ≤ board.queue.length ∧ board'.droppedTotal = board.droppedTotal
        ∧ board'.dropped = board.dropped := by
  unfold ChannelBoard.receive at h
  split at h
  . cases h
  . next first rest hqueue =>
    cases h
    rw [hqueue]
    exact ⟨Nat.le_succ _, rfl, rfl⟩

theorem counted_recordDrop_iff {board : ChannelBoard T} (posted : Posted T)
    (h : ∀ n ∈ board.droppedTotal, n.toNat = board.dropped.length)
    : (∀ n ∈ (board.recordDrop posted).droppedTotal,
        n.toNat = (board.recordDrop posted).dropped.length)
      ↔ ∀ n ∈ board.droppedTotal, n.toNat + 1 < UInt64.size := by
  unfold ChannelBoard.recordDrop
  dsimp only
  rw [List.length_append, List.length_singleton]
  cases hn : board.droppedTotal with
  | none => exact iff_of_true (fun _ h => by cases h) (fun _ h => by cases h)
  | some n =>
    have hlength := h n hn
    simp only [Option.map_some, Option.mem_some_iff, forall_eq', UInt64.toNat_add,
      UInt64.reduceToNat, UInt64.size]
    omega

theorem bounded_act_iff {call call' : SendCall T} {board board' : ChannelBoard T}
    (hbounded : board.queue.length ≤ strategy.capacity)
    (hcounted : ∀ n ∈ board.droppedTotal, n.toNat = board.dropped.length)
    (hact : call.act strategy board = some (board', call'))
    : (board'.queue.length ≤ strategy.capacity
        ∧ ∀ n ∈ board'.droppedTotal, n.toNat = board'.dropped.length)
      ↔ (call.phase = .sending → board.queue.length < strategy.capacity)
        ∧ (call.Drops → ∀ n ∈ board.droppedTotal, n.toNat + 1 < UInt64.size) := by
  unfold SendCall.act at hact
  unfold SendCall.Drops
  split at hact
  . next hphase =>
    have hsame : board' = board := by
      split at hact
      . split at hact
        . cases hact
          rfl
        . cases hact
          rfl
      . cases hact
        rfl
    rw [hsame, hphase]
    refine iff_of_true ⟨hbounded, hcounted⟩ ⟨nofun, ?_⟩
    rintro (h | ⟨_, h⟩) <;> cases h
  . next hphase =>
    cases hact
    rw [counted_recordDrop_iff _ hcounted, hphase]
    constructor
    . rintro ⟨-, hroom⟩
      exact ⟨nofun, fun _ => hroom⟩
    . rintro ⟨-, hroom⟩
      exact ⟨hbounded, hroom (.inl rfl)⟩
  . next hphase =>
    have hless : board'.queue.length ≤ board.queue.length
        ∧ board'.droppedTotal = board.droppedTotal ∧ board'.dropped = board.dropped := by
      split at hact
      . cases hact
        exact ⟨Nat.le_refl _, rfl, rfl⟩
      . next oldest rest hqueue =>
        cases hact
        rw [hqueue]
        exact ⟨Nat.le_succ _, rfl, rfl⟩
    obtain ⟨hlength, htotal, hdropped⟩ := hless
    rw [htotal, hdropped, hphase]
    refine iff_of_true ⟨hlength.trans hbounded, hcounted⟩ ⟨nofun, ?_⟩
    rintro (h | ⟨_, h⟩) <;> cases h
  . next evicted hphase =>
    cases hact
    rw [counted_recordDrop_iff _ hcounted, hphase]
    constructor
    . rintro ⟨-, hroom⟩
      exact ⟨nofun, fun _ => hroom⟩
    . rintro ⟨-, hroom⟩
      exact ⟨hbounded, hroom (.inr ⟨evicted, rfl⟩)⟩
  . next hphase =>
    split at hact
    . cases hact
      rw [hphase]
      dsimp only
      rw [List.length_append, List.length_singleton]
      constructor
      . rintro ⟨hlt, -⟩
        refine ⟨fun _ => hlt, ?_⟩
        rintro (h | ⟨_, h⟩) <;> cases h
      . rintro ⟨hlt, -⟩
        exact ⟨hlt rfl, hcounted⟩
    . cases hact
  . cases hact

theorem conserves_step_iff {action : SendAction T} (haccounts : s.Accounts)
    (hconserves : s.Conserves strategy) (hstep : s.step strategy action = some s')
    : s'.Conserves strategy ↔ s.SendsBelow strategy action := by
  rw [conserves_iff (accounts_step haccounts hstep)]
  have hbounded := hconserves.bounded
  have hcounted := hconserves.counted
  cases action with
  | start msg =>
    cases hstep
    exact iff_of_true ⟨hbounded, hcounted⟩ trivial
  | advance i =>
    obtain ⟨call, call', board', hi, hact, rfl⟩ := Threads.advance_eq_some hstep
    rw [bounded_act_iff hbounded hcounted hact]
    constructor
    . intro hbelow other hother
      cases hi.symm.trans hother
      exact hbelow
    . exact fun hbelow => hbelow call hi
  | receive =>
    obtain ⟨⟨oldest, board'⟩, hreceive, rfl⟩ := Option.map_eq_some_iff.mp hstep
    obtain ⟨hlength, htotal, hdropped⟩ := length_receive_le hreceive
    dsimp only
    rw [htotal, hdropped]
    exact iff_of_true ⟨hlength.trans hbounded, hcounted⟩ trivial

/--
The capacity is kept and what is accepted is accounted for throughout exactly those runs in which each
message is queued below the capacity, and the counter of drops does not wrap around.
-/
theorem always_conserves_iff (strategy : BufferStrategy) (counted : Bool)
    (actions : List (SendAction T))
    : Runs.Always (step strategy) (Conserves strategy) (init counted) actions
        ↔ Runs.Guarded (step strategy) (SendsBelow strategy) (init counted) actions := by
  refine Runs.always_iff_guarded Accounts (fun _ => True) ?_ (accounts_init counted) ?_
    (fun _ _ => trivial)
  . intro s action s' haccounts _ hconserves hstep
    exact ⟨accounts_step haccounts hstep, conserves_step_iff haccounts hconserves hstep⟩
  . rw [conserves_iff (accounts_init counted)]
    refine ⟨Nat.zero_le _, ?_⟩
    intro n hn
    cases counted with
    | false => cases hn
    | true =>
      cases hn
      rfl

/-- Of three senders that all find room for one message two queue theirs, and the third is blocked. -/
theorem not_always_conserves
    : ¬ Runs.Always (step (.dropping 1)) (Conserves (.dropping 1)) (init true : BoundedChannel String)
        [.start "a", .start "b", .start "c", .advance 0, .advance 1, .advance 2, .advance 0,
          .advance 1] := by
  intro h
  have hconserves := Runs.Always.run_eq_some h rfl
  exact absurd (hconserves.unblocked _ (List.mem_of_getElem? (i := 2) rfl) rfl) (by decide)

end BoundedChannel

end AnimaAgent
