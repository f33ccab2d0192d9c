import AnimaAgent.Dispatcher.Core
import AnimaAgent.Dispatcher.QueueOrder

namespace AnimaAgent

structure OutboundMessage where
  id : String
  channel : String
  accountId : String := "default"
  chatId : Option String := none
  content : String
  media : List String := []
  stage : String := "final"
  replyTarget : Option String := none
  senderId : Option String := none
  deriving DecidableEq

def DispatchMessage.fromOutbound (msg : OutboundMessage) : DispatchMessage :=
  let sessionKey := msg.chatId.map (fun chatId => "anima.session." ++ chatId)
  { id := msg.id
    channel := msg.channel
    accountId := msg.accountId
    chatId := msg.chatId
    content := msg.content
    media := msg.media
    stage := msg.stage
    replyTarget := msg.replyTarget
    senderId := msg.senderId
    priority := 5
    routingKey := sessionKey
    sessionKey }

structure OutboundChannel where
  capacity : Nat := 1000
  messages : List OutboundMessage := []
  closed : Bool := false

def OutboundChannel.send (channel : OutboundChannel) (msg : OutboundMessage) : OutboundChannel :=
  { channel with
    messages := channel.messages.drop (channel.messages.length + 1 - channel.capacity) ++ [msg] }

inductive OutboundLoopPhase where
  | top
  | checkEmpty
  | wait
  | waiting
  | received (msg : OutboundMessage)
  | draining (phase : DispatchPhase)
  | timedOut
  | leaving
  | ended

structure OutboundLoop where
  phase : OutboundLoopPhase := .top
  board : DispatcherBoard := DispatcherBoard.command {} .running
  bus : OutboundChannel := {}
  now : UInt64 := 0
  publishing : List OutboundMessage := []
  accepted : List OutboundMessage := []
  received : List OutboundMessage := []
  enqueued : List DispatchEnvelope := []

inductive OutboundLoopAction where
  | publish (msg : OutboundMessage)
  | send (i : Nat)
  | close
  | control (command : DispatcherControlCommand)
  /-- `enqueue_envelope` is called by others, who may ask for retries. -/
  | enqueue (envelope : DispatchEnvelope)
  | tick (now : UInt64)
  | timeout
  | step (selection : Selection) (findChannel : String → String → ChannelLookup)

namespace OutboundLoop

variable (s : OutboundLoop)

def enter (phase : OutboundLoopPhase) : OutboundLoop :=
  { s with phase }

def advance (selection : Selection) (findChannel : String → String → ChannelLookup)
    : Option OutboundLoop :=
  match s.phase with
  | .top => some (s.enter (if s.bus.closed then .checkEmpty else .wait))
  | .checkEmpty => some (s.enter (if s.bus.messages.isEmpty then .leaving else .wait))
  | .wait => some (s.enter .waiting)
  | .waiting =>
    match s.bus.messages with
    | [] => none
    | msg :: rest =>
      some { s with
        phase := .received msg
        bus := { s.bus with messages := rest }
        received := s.received ++ [msg] }
  | .received msg =>
    let envelope := DispatchEnvelope.fromMessage s.now (.fromOutbound msg)
    some { s with
      phase := .draining (.drainOne .control)
      board := s.board.enqueue envelope
      enqueued := s.enqueued ++ [envelope] }
  | .draining .idle => some (s.enter .top)
  | .draining phase =>
    (s.board.advance { now := s.now, selection, findChannel } phase).map (fun result =>
      { s with board := result.1, phase := .draining result.2 })
  | .timedOut => some (s.enter (if s.bus.closed then .leaving else .top))
  | .leaving => some (s.enter .ended)
  | .ended => none

end OutboundLoop

def outboundLoopStep (s : OutboundLoop) : OutboundLoopAction → Option OutboundLoop
  | .publish msg => if s.bus.closed then none else some { s with publishing := s.publishing ++ [msg] }
  | .send i =>
    s.publishing[i]?.map (fun msg =>
      { s with
        publishing := s.publishing.eraseIdx i
        bus := s.bus.send msg
        accepted := if s.bus.closed then s.accepted else s.accepted ++ [msg] })
  | .close => some { s with bus := { s.bus with closed := true } }
  | .control .drain => none -- it takes envelopes from the queue itself
  | .control command => some { s with board := s.board.command command.state }
  | .enqueue envelope => some { s with board := s.board.enqueue envelope }
  | .tick now => if s.now ≤ now then some { s with now } else none
  | .timeout =>
    match s.phase, s.bus.messages with
    | .waiting, [] => some (s.enter .timedOut)
    | _, _ => none
  | .step selection findChannel => s.advance selection findChannel

namespace OutboundLoop

def readyEnvelopes (s : OutboundLoop) : List DispatchEnvelope :=
  s.board.dispatcher.queue.envelopes.filter (fun envelope => envelope.ready s.now)

def Running (s : OutboundLoop) : Prop :=
  s.board.dispatcher.state = .running

instance (s : OutboundLoop) : Decidable s.Running :=
  inferInstanceAs (Decidable (s.board.dispatcher.state = .running))

end OutboundLoop

structure LeavesNothing (s : OutboundLoop) : Prop where
  waits : s.phase = .wait → s.Running → s.readyEnvelopes = []
  received : s.phase = .leaving
    → s.accepted.map DispatchMessage.fromOutbound <+: s.enqueued.map DispatchEnvelope.message
  attempted : s.phase = .leaving → s.Running
    → s.enqueued.Subperm (s.board.taken.map Prod.fst)

def OutboundLoopPhase.GoesOn : OutboundLoopPhase → Prop
  | .draining (.drainOne _) => False
  | .draining (.dequeue _) => False
  | .waiting => False
  | .received _ => False
  | .ended => False
  | _ => True

def OutboundLoopPhase.Dispatches : OutboundLoopPhase → Prop
  | .draining (.dispatch _ _) => True
  | _ => False

/--
A call of `dequeue` finds no more than one ready envelope, which is the next one of its place, a retry is
not due at once, and nothing that the bus has accepted is left when a wait in vain finds it closed.
-/
def OutboundLoop.StepKeepsUp (s : OutboundLoop) : OutboundLoopPhase → Prop
  | .draining (.dequeue _) => s.readyEnvelopes.length ≤ 1
    ∧ ∀ envelope ∈ s.readyEnvelopes, s.board.dispatcher.queue.ReadyHead s.now envelope
  | .draining (.retry _ envelope) => s.Running
    → ∀ next ∈ envelope.nextRetry s.now, next.ready s.now = false
  | .timedOut => s.bus.closed = true → s.accepted.length ≤ s.received.length
  | _ => True

/--
The steps of the thread keep up, and a wait in vain finds nothing ready. On the way from a call of
`dequeue` or a wait in vain to the next wait, nothing in the queue of a running dispatcher becomes ready.
The bus is not full when a message comes.
-/
def KeepsUp (s : OutboundLoop) : OutboundLoopAction → Prop
  | .publish _ => True
  | .send _ => s.bus.messages.length < s.bus.capacity
  | .close => True
  | .control command => s.phase.GoesOn → command.state = .running → s.readyEnvelopes = []
  | .enqueue envelope => s.phase.GoesOn → s.Running ∨ s.phase.Dispatches → envelope.ready s.now = false
  | .tick now => s.phase.GoesOn → s.Running ∨ s.phase.Dispatches
    → ∀ envelope ∈ s.board.dispatcher.queue.envelopes, envelope.ready now = false
  | .timeout => s.Running → s.readyEnvelopes = []
  | .step _ _ => s.StepKeepsUp s.phase

section Decidable

instance : DecidablePred OutboundLoopPhase.GoesOn := by
  intro phase
  unfold OutboundLoopPhase.GoesOn
  split <;> infer_instance

instance : DecidablePred OutboundLoopPhase.Dispatches := by
  intro phase
  unfold OutboundLoopPhase.Dispatches
  split <;> infer_instance

instance (queue : DispatchQueue) (now : UInt64) : DecidablePred (queue.ReadyHead now) := by
  intro envelope
  unfold DispatchQueue.ReadyHead
  infer_instance

instance (s : OutboundLoop) : DecidablePred s.StepKeepsUp := by
  intro phase
  unfold OutboundLoop.StepKeepsUp
  split <;> infer_instance

instance (s : OutboundLoop) : DecidablePred (KeepsUp s) := by
  intro action
  unfold KeepsUp
  split <;> infer_instance

end Decidable

section Board

theorem Dispatcher.recordBalancerMiss_eq (now : UInt64) (message : DispatchMessage)
    (selection : Selection) (dispatcher : Dispatcher)
    : ∃ lastDispatchDiagnostic, dispatcher.recordBalancerMiss now message selection
        = { dispatcher with lastDispatchDiagnostic } := by
  unfold recordBalancerMiss
  split
  . exact ⟨_, rfl⟩
  . exact ⟨_, rfl⟩

theorem Dispatcher.send_eq (now : UInt64) (message : DispatchMessage) (selection : Selection)
    (dispatcher : Dispatcher) (findChannel : String → String → ChannelLookup)
    : ∃ lastDispatchDiagnostic, (dispatcher.send now message selection findChannel).2
        = { dispatcher with lastDispatchDiagnostic } := by
  unfold send
  dsimp only
  split
  . exact ⟨_, rfl⟩
  . split
    . exact ⟨_, rfl⟩
    . exact ⟨_, rfl⟩

structure DispatcherBoard.Passes (board : DispatcherBoard) (phase : DispatchPhase)
    (board' : DispatcherBoard) (phase' : DispatchPhase) : Prop where
  queue : board'.dispatcher.queue = board.dispatcher.queue
  taken : board'.taken = board.taken
  quiet : (OutboundLoopPhase.draining phase').GoesOn
    → board'.dispatcher.state = .running ∨ (OutboundLoopPhase.draining phase').Dispatches
    → (OutboundLoopPhase.draining phase).GoesOn
      ∧ (board.dispatcher.state = .running ∨ (OutboundLoopPhase.draining phase).Dispatches)

namespace DispatcherBoard

variable {board board' : DispatcherBoard} {answers : DispatchAnswers} {phase phase' : DispatchPhase}

theorem Passes.of_state (hqueue : board'.dispatcher.queue = board.dispatcher.queue)
    (htaken : board'.taken = board.taken) (hphase : (OutboundLoopPhase.draining phase).GoesOn)
    (hphase' : ¬ (OutboundLoopPhase.draining phase').Dispatches)
    (hstate : board'.dispatcher.state = .running → board.dispatcher.state = .running)
    : board.Passes phase board' phase' := by
  refine ⟨hqueue, htaken, fun _ hquiet => ⟨hphase, .inl (hstate ?_)⟩⟩
  exact hquiet.resolve_right hphase'

theorem not_dispatches_afterSome (caller : DrainCaller)
    : ¬ (OutboundLoopPhase.draining caller.afterSome).Dispatches := by
  cases caller <;> exact id

theorem not_dispatches_afterNone (caller : DrainCaller)
    : ¬ (OutboundLoopPhase.draining caller.afterNone).Dispatches := by
  cases caller <;> exact id

theorem not_dispatches_afterDispatch (success : Bool)
    (origin : Option (DrainCaller × DispatchEnvelope))
    : ¬ (OutboundLoopPhase.draining (.afterDispatch success origin)).Dispatches := by
  unfold DispatchPhase.afterDispatch
  split
  . exact id
  . split
    . exact not_dispatches_afterSome _
    . exact id

theorem advance_cases (h : board.advance answers phase = some (board', phase'))
    : board.Passes phase board' phase'
      ∨ (∃ caller, phase = .dequeue caller ∧ board.take answers.now caller = (board', phase'))
      ∨ ∃ caller envelope next, phase = .retry caller envelope
          ∧ envelope.nextRetry answers.now = some next ∧ board' = board.enqueue next
          ∧ phase' = caller.afterSome := by
  cases phase with
  | idle => cases h
  | finished => cases h
  | dequeue caller => exact .inr (.inl ⟨caller, rfl, Option.some.inj h⟩)
  | retry caller envelope =>
    simp only [advance] at h
    cases hnext : envelope.nextRetry answers.now with
    | some next =>
      rw [hnext] at h
      cases h
      exact .inr (.inr ⟨caller, envelope, next, rfl, hnext, rfl, rfl⟩)
    | none =>
      rw [hnext] at h
      cases h
      exact .inl (.of_state rfl rfl trivial (not_dispatches_afterSome caller) id)
  | drainOne caller =>
    simp only [advance] at h
    refine .inl ?_
    split at h
    . next hstate =>
      cases h
      refine ⟨rfl, rfl, fun _ hquiet => absurd hquiet (not_or.mpr ⟨?_, ?_⟩)⟩
      . rw [hstate]
        exact DispatcherState.noConfusion
      . exact not_dispatches_afterNone caller
    . next hstate =>
      cases h
      refine ⟨rfl, rfl, fun _ hquiet => absurd hquiet (not_or.mpr ⟨?_, ?_⟩)⟩
      . rw [hstate]
        exact DispatcherState.noConfusion
      . exact not_dispatches_afterNone caller
    . cases h
      exact ⟨rfl, rfl, fun hphase _ => hphase.elim⟩
    . cases h
      exact ⟨rfl, rfl, fun hphase _ => hphase.elim⟩
  | dispatch message origin =>
    cases h
    exact .inl ⟨rfl, rfl, fun _ _ => ⟨trivial, .inr trivial⟩⟩
  | select message origin =>
    cases h
    obtain ⟨_, heq⟩ := Dispatcher.recordBalancerMiss_eq answers.now message answers.selection
      board.dispatcher
    refine .inl (.of_state ?_ rfl trivial id ?_)
    . unfold update
      rw [heq]
    . unfold update
      rw [heq]
      exact id
  | send message origin selection =>
    cases h
    obtain ⟨_, heq⟩ := Dispatcher.send_eq answers.now message selection board.dispatcher
      answers.findChannel
    refine .inl (.of_state ?_ rfl trivial (not_dispatches_afterDispatch _ origin) ?_)
    . unfold update
      rw [heq]
    . unfold update
      rw [heq]
      exact id
  | failed caller envelope =>
    cases h
    refine .inl (.of_state rfl rfl trivial ?_ id)
    split
    . exact id
    . exact not_dispatches_afterSome caller
  | drained =>
    cases h
    exact .inl (.of_state rfl rfl trivial id DispatcherState.noConfusion)
  | loop =>
    simp only [advance] at h
    refine .inl ?_
    split at h <;> cases h <;> exact .of_state rfl rfl trivial id id
  | loopEmpty =>
    cases h
    refine .inl (.of_state rfl rfl trivial ?_ id)
    split <;> exact id
  | loopDraining =>
    cases h
    refine .inl (.of_state rfl rfl trivial ?_ id)
    split <;> exact id
  | loopStop =>
    cases h
    exact .inl (.of_state rfl rfl trivial id DispatcherState.noConfusion)

end DispatcherBoard

end Board

def OutboundLoopPhase.pending : OutboundLoopPhase → List OutboundMessage
  | .received msg => [msg]
  | _ => []

def OutboundLoopPhase.Closing : OutboundLoopPhase → Prop
  | .checkEmpty => True
  | .leaving => True
  | _ => False

namespace OutboundLoop

structure Invariant (s : OutboundLoop) : Prop where
  placed : s.board.dispatcher.queue.Placed
  quiet : s.phase.GoesOn → s.Running ∨ s.phase.Dispatches → s.readyEnvelopes = []
  messages : ∃ late, s.accepted ++ late = s.received ++ s.bus.messages
    ∧ (s.bus.closed = false → late = [])
  enqueued : s.enqueued.map DispatchEnvelope.message ++ s.phase.pending.map .fromOutbound
    = s.received.map .fromOutbound
  due : ∀ envelope ∈ s.enqueued, envelope.ready s.now = true
  kept : s.enqueued.Subperm (s.board.taken.map Prod.fst ++ s.board.dispatcher.queue.envelopes)
  closing : s.phase.Closing → s.bus.closed = true
  leaving : s.phase = .leaving → s.accepted.length ≤ s.received.length

variable {s s' : OutboundLoop}

theorem Invariant.leavesNothing (h : s.Invariant) : LeavesNothing s where
  waits := by
    intro hphase hrunning
    exact h.quiet (hphase ▸ trivial) (.inl hrunning)
  received := by
    intro hphase
    obtain ⟨late, heq, _⟩ := h.messages
    have henqueued := h.enqueued
    rw [hphase] at henqueued
    rw [show s.enqueued.map DispatchEnvelope.message = s.received.map .fromOutbound by
      simpa [OutboundLoopPhase.pending] using henqueued]
    have haccepted : s.accepted <+: s.accepted ++ late := List.prefix_append _ _
    have hreceived : s.received <+: s.accepted ++ late := heq ▸ List.prefix_append _ _
    exact (List.prefix_of_prefix_length_le haccepted hreceived (h.leaving hphase)).map _
  attempted := by
    intro hphase hrunning
    have hquiet := h.quiet (hphase ▸ trivial) (.inl hrunning)
    rw [List.subperm_ext_iff]
    intro envelope hmem
    -- an envelope of a message is due, so that it does not wait in a queue without ready envelopes
    have hnot : envelope ∉ s.board.dispatcher.queue.envelopes := by
      intro hwaits
      have hready : envelope ∈ s.readyEnvelopes := List.mem_filter.mpr ⟨hwaits, h.due envelope hmem⟩
      rw [hquiet] at hready
      cases hready
    have hcount := h.kept.count_le envelope
    rwa [List.count_append, List.count_eq_zero.mpr hnot, Nat.add_zero] at hcount

theorem invariant_new (capacity : Nat) : Invariant { bus := { capacity } } where
  placed := by
    intro place envelope hmem
    cases hmem
  quiet := fun _ _ => rfl
  messages := ⟨[], rfl, fun _ => rfl⟩
  enqueued := rfl
  due := by
    intro envelope hmem
    cases hmem
  kept := List.nil_subperm
  closing := fun h => h.elim
  leaving := by
    intro h
    cases h

theorem Invariant.enter (h : s.Invariant) {phase : OutboundLoopPhase}
    (hquiet : phase.GoesOn → s.Running → s.readyEnvelopes = [])
    (hdispatches : ¬ phase.Dispatches) (hpending : phase.pending = s.phase.pending)
    (hclosing : phase.Closing → s.bus.closed = true)
    (hleaving : phase = .leaving → s.accepted.length ≤ s.received.length)
    : (s.enter phase).Invariant where
  placed := h.placed
  quiet := fun hphase hstate => hquiet hphase (hstate.resolve_right hdispatches)
  messages := h.messages
  enqueued := by
    rw [show (s.enter phase).phase.pending = s.phase.pending from hpending]
    exact h.enqueued
  due := h.due
  kept := h.kept
  closing := hclosing
  leaving := hleaving

theorem Invariant.publish (h : s.Invariant) (publishing : List OutboundMessage)
    : ({ s with publishing } : OutboundLoop).Invariant := by
  exact ⟨h.placed, h.quiet, h.messages, h.enqueued, h.due, h.kept, h.closing, h.leaving⟩

theorem Invariant.send (h : s.Invariant) {i : Nat} {msg : OutboundMessage}
    (hfull : s.bus.messages.length < s.bus.capacity)
    : Invariant
        { s with
          publishing := s.publishing.eraseIdx i
          bus := s.bus.send msg
          accepted := if s.bus.closed then s.accepted else s.accepted ++ [msg] } where
  placed := h.placed
  quiet := h.quiet
  messages := by
    obtain ⟨late, heq, hlate⟩ := h.messages
    have hdrop : (s.bus.send msg).messages = s.bus.messages ++ [msg] := by
      unfold OutboundChannel.send
      rw [Nat.sub_eq_zero_of_le hfull, List.drop_zero]
    dsimp only
    rw [hdrop, ← List.append_assoc, ← heq]
    cases hclosed : s.bus.closed with
    | true =>
      refine ⟨late ++ [msg], ?_, fun hopen => ?_⟩
      . rw [if_pos rfl, List.append_assoc]
      . exact absurd (hopen.symm.trans hclosed) Bool.false_ne_true
    | false =>
      refine ⟨[], ?_, fun _ => rfl⟩
      rw [if_neg Bool.false_ne_true, hlate hclosed, List.append_nil, List.append_nil]
  enqueued := h.enqueued
  due := h.due
  kept := h.kept
  closing := h.closing
  leaving := by
    intro hphase
    dsimp only at hphase ⊢
    rw [if_pos (h.closing (hphase ▸ trivial))]
    exact h.leaving hphase

theorem Invariant.close (h : s.Invariant)
    : ({ s with bus := { s.bus with closed := true } } : OutboundLoop).Invariant where
  placed := h.placed
  quiet := h.quiet
  messages := by
    obtain ⟨late, heq, _⟩ := h.messages
    exact ⟨late, heq, fun hopen => absurd hopen.symm Bool.false_ne_true⟩
  enqueued := h.enqueued
  due := h.due
  kept := h.kept
  closing := fun _ => rfl
  leaving := h.leaving

theorem Invariant.command (h : s.Invariant) {state : DispatcherState}
    (hguard : s.phase.GoesOn → state = .running → s.readyEnvelopes = [])
    : ({ s with board := s.board.command state } : OutboundLoop).Invariant where
  placed := h.placed
  quiet := by
    intro hphase hstate
    obtain hrunning | hdispatches := hstate
    . exact hguard hphase hrunning
    . exact h.quiet hphase (.inr hdispatches)
  messages := h.messages
  enqueued := h.enqueued
  due := h.due
  kept := h.kept
  closing := h.closing
  leaving := h.leaving

theorem Invariant.tick (h : s.Invariant) {now : UInt64} (hle : s.now ≤ now)
    (hguard : KeepsUp s (.tick now))
    : ({ s with now } : OutboundLoop).Invariant where
  placed := h.placed
  quiet := by
    intro hphase hstate
    refine List.filter_eq_nil_iff.mpr ?_
    intro envelope hmem hready
    exact Bool.false_ne_true ((hguard hphase hstate envelope hmem).symm.trans hready)
  messages := h.messages
  enqueued := h.enqueued
  due := by
    intro envelope hmem
    have hready := of_decide_eq_true (h.due envelope hmem)
    exact decide_eq_true (UInt64.le_trans hready hle)
  kept := h.kept
  closing := h.closing
  leaving := h.leaving

section Queue

variable {queue : DispatchQueue} {enqueued taken : List DispatchEnvelope}

theorem append_enqueue_perm (h : queue.Placed) (taken : List DispatchEnvelope)
    (envelope : DispatchEnvelope)
    : (taken ++ (queue.enqueue envelope).envelopes).Perm
        (envelope :: (taken ++ queue.envelopes)) := by
  exact ((DispatchQueue.envelopes_enqueue h envelope).append_left taken).trans
    List.perm_middle

theorem filter_ready_enqueue (h : queue.Placed) {now : UInt64} {envelope : DispatchEnvelope}
    (hready : envelope.ready now = false)
    (hnone : queue.envelopes.filter (fun envelope => envelope.ready now) = [])
    : (queue.enqueue envelope).envelopes.filter (fun envelope => envelope.ready now) = [] := by
  have hperm := (DispatchQueue.envelopes_enqueue h envelope).filter (fun envelope => envelope.ready now)
  rw [List.filter_cons_of_neg (by simp [hready]), hnone] at hperm
  exact hperm.eq_nil

theorem filter_ready_dequeue (h : queue.Placed) {now : UInt64}
    (hone : (queue.envelopes.filter (fun envelope => envelope.ready now)).length ≤ 1)
    (hhead : ∀ envelope ∈ queue.envelopes.filter (fun envelope => envelope.ready now),
      queue.ReadyHead now envelope)
    : (queue.dequeue now).2.envelopes.filter (fun envelope => envelope.ready now) = [] := by
  cases hfirst : (queue.dequeue now).1 with
  | none =>
    obtain ⟨hsame, hnone⟩ := DispatchQueue.dequeue_eq_none hfirst
    rw [hsame, List.eq_nil_iff_forall_not_mem]
    exact fun envelope hmem => hnone envelope (hhead envelope hmem)
  | some envelope =>
    have hready := (DispatchQueue.dequeue_urgent h hfirst).1.2
    have hperm := (DispatchQueue.envelopes_dequeue h hfirst).filter
      (fun envelope => envelope.ready now)
    rw [List.filter_cons, if_pos hready] at hperm
    have hlength := hperm.length_eq
    rw [List.length_cons] at hlength
    exact List.length_eq_zero_iff.mp (by omega)

end Queue

theorem Invariant.enqueue (h : s.Invariant) (envelope : DispatchEnvelope)
    (hguard : KeepsUp s (.enqueue envelope))
    : ({ s with board := s.board.enqueue envelope } : OutboundLoop).Invariant where
  placed := h.placed.enqueue envelope
  quiet := by
    intro hphase hstate
    exact filter_ready_enqueue h.placed (hguard hphase hstate) (h.quiet hphase hstate)
  messages := h.messages
  enqueued := h.enqueued
  due := h.due
  kept := by
    refine List.Subperm.trans ?_ (append_enqueue_perm h.placed _ envelope).symm.subperm
    exact h.kept.trans (List.sublist_cons_self _ _).subperm
  closing := h.closing
  leaving := h.leaving

theorem Invariant.receive (h : s.Invariant) (hphase : s.phase = .waiting) {msg : OutboundMessage}
    {rest : List OutboundMessage} (hmessages : s.bus.messages = msg :: rest)
    : Invariant
        { s with
          phase := .received msg
          bus := { s.bus with messages := rest }
          received := s.received ++ [msg] } where
  placed := h.placed
  quiet := fun hphase => hphase.elim
  messages := by
    obtain ⟨late, heq, hlate⟩ := h.messages
    rw [hmessages] at heq
    exact ⟨late, by rw [heq, List.append_assoc]; rfl, hlate⟩
  enqueued := by
    have henqueued := h.enqueued
    rw [hphase] at henqueued
    simpa [OutboundLoopPhase.pending] using henqueued
  due := h.due
  kept := h.kept
  closing := fun hphase => hphase.elim
  leaving := by
    intro hphase
    cases hphase

theorem Invariant.enqueueReceived (h : s.Invariant) {msg : OutboundMessage}
    (hphase : s.phase = .received msg)
    : Invariant
        { s with
          phase := .draining (.drainOne .control)
          board := s.board.enqueue (.fromMessage s.now (.fromOutbound msg))
          enqueued := s.enqueued ++ [.fromMessage s.now (.fromOutbound msg)] } where
  placed := h.placed.enqueue _
  quiet := fun hphase => hphase.elim
  messages := h.messages
  enqueued := by
    have henqueued := h.enqueued
    rw [hphase] at henqueued
    simpa [OutboundLoopPhase.pending, DispatchEnvelope.fromMessage] using henqueued
  due := by
    intro envelope hmem
    obtain hold | hnew := List.mem_append.mp hmem
    . exact h.due envelope hold
    . rw [List.mem_singleton.mp hnew]
      exact decide_eq_true (UInt64.le_refl _)
  kept := by
    refine List.Subperm.trans ?_ (append_enqueue_perm h.placed _ _).symm.subperm
    exact (List.perm_append_singleton _ _).subperm.trans ((List.subperm_cons _).mpr h.kept)
  closing := fun hphase => hphase.elim
  leaving := by
    intro hphase
    cases hphase

theorem Invariant.drain (h : s.Invariant) {phase phase' : DispatchPhase} {board' : DispatcherBoard}
    (hphase : s.phase = .draining phase) (hplaced : board'.dispatcher.queue.Placed)
    (hkept : s.enqueued.Subperm
      (board'.taken.map Prod.fst ++ board'.dispatcher.queue.envelopes))
    (hquiet : (OutboundLoopPhase.draining phase').GoesOn
      → board'.dispatcher.state = .running ∨ (OutboundLoopPhase.draining phase').Dispatches
      → board'.dispatcher.queue.envelopes.filter (fun envelope => envelope.ready s.now) = [])
    : ({ s with board := board', phase := .draining phase' } : OutboundLoop).Invariant where
  placed := hplaced
  quiet := hquiet
  messages := h.messages
  enqueued := by
    have henqueued := h.enqueued
    rw [hphase] at henqueued
    exact henqueued
  due := h.due
  kept := hkept
  closing := fun hphase => hphase.elim
  leaving := by
    intro hphase
    cases hphase

theorem Invariant.take (h : s.Invariant) {caller : DrainCaller}
    (hphase : s.phase = .draining (.dequeue caller)) (hone : s.readyEnvelopes.length ≤ 1)
    (hhead : ∀ envelope ∈ s.readyEnvelopes, s.board.dispatcher.queue.ReadyHead s.now envelope)
    : Invariant
        { s with
          board := (s.board.take s.now caller).1
          phase := .draining (s.board.take s.now caller).2 } := by
  have hready := filter_ready_dequeue h.placed hone hhead
  have hplaced := h.placed.dequeue s.now
  unfold DispatcherBoard.take
  dsimp only
  cases hfirst : (s.board.dispatcher.queue.dequeue s.now).1 with
  | none =>
    obtain ⟨hsame, _⟩ := DispatchQueue.dequeue_eq_none hfirst
    refine h.drain hphase hplaced ?_ (fun _ _ => hready)
    rw [show (s.board.update { s.board.dispatcher with
      queue := (s.board.dispatcher.queue.dequeue s.now).2 }).dispatcher.queue
        = s.board.dispatcher.queue from hsame]
    exact h.kept
  | some envelope =>
    refine h.drain hphase hplaced ?_ (fun _ _ => hready)
    refine h.kept.trans (List.Perm.subperm ?_)
    rw [List.map_append, List.append_assoc]
    exact (DispatchQueue.envelopes_dequeue h.placed hfirst).append_left _

theorem Invariant.advanceBoard (h : s.Invariant) {phase phase' : DispatchPhase}
    {board' : DispatcherBoard} {selection : Selection}
    {findChannel : String → String → ChannelLookup}
    (hkeeps : KeepsUp s (.step selection findChannel)) (hphase : s.phase = .draining phase)
    (hadvance : s.board.advance { now := s.now, selection, findChannel } phase
      = some (board', phase'))
    : ({ s with board := board', phase := .draining phase' } : OutboundLoop).Invariant := by
  change s.StepKeepsUp s.phase at hkeeps
  rw [hphase] at hkeeps
  obtain hpasses | ⟨caller, rfl, htake⟩ | ⟨caller, envelope, next, rfl, hnext, rfl, rfl⟩ :=
    DispatcherBoard.advance_cases hadvance
  . refine h.drain hphase ?_ ?_ ?_
    . rw [hpasses.queue]
      exact h.placed
    . rw [hpasses.queue, hpasses.taken]
      exact h.kept
    . intro hgoes hstate
      obtain ⟨hgoes', hstate'⟩ := hpasses.quiet hgoes hstate
      rw [hpasses.queue]
      exact h.quiet (hphase ▸ hgoes') (hphase ▸ hstate')
  . obtain ⟨hone, hhead⟩ := hkeeps
    have hafter := h.take hphase hone hhead
    rw [htake] at hafter
    exact hafter
  . refine h.drain hphase (h.placed.enqueue next) ?_ ?_
    . refine List.Subperm.trans ?_ (append_enqueue_perm h.placed _ next).symm.subperm
      exact h.kept.cons_right next
    . intro _ hstate
      have hrunning : s.Running := hstate.resolve_right (DispatcherBoard.not_dispatches_afterSome caller)
      refine filter_ready_enqueue h.placed (hkeeps hrunning next hnext) ?_
      exact h.quiet (hphase ▸ trivial) (.inl hrunning)

theorem Invariant.advance (h : s.Invariant) {selection : Selection}
    {findChannel : String → String → ChannelLookup}
    (hkeeps : KeepsUp s (.step selection findChannel))
    (hstep : s.advance selection findChannel = some s')
    : s'.Invariant := by
  unfold OutboundLoop.advance at hstep
  have hquiet : s.phase.GoesOn → s.Running → s.readyEnvelopes = [] :=
    fun hphase hrunning => h.quiet hphase (.inl hrunning)
  split at hstep
  . next hphase =>
    cases hstep
    rw [hphase] at hquiet
    cases hclosed : s.bus.closed with
    | true => exact h.enter hquiet id (by rw [hphase]; rfl) (fun _ => hclosed) nofun
    | false => exact h.enter hquiet id (by rw [hphase]; rfl) (fun hclosing => hclosing.elim) nofun
  . next hphase =>
    cases hstep
    rw [hphase] at hquiet
    have hclosed : s.bus.closed = true := h.closing (hphase ▸ trivial)
    by_cases hempty : s.bus.messages.isEmpty
    . rw [if_pos hempty]
      refine h.enter hquiet id (by rw [hphase]; rfl) (fun _ => hclosed) (fun _ => ?_)
      obtain ⟨late, heq, _⟩ := h.messages
      rw [List.isEmpty_iff.mp hempty, List.append_nil] at heq
      rw [← heq, List.length_append]
      exact Nat.le_add_right _ _
    . rw [if_neg hempty]
      exact h.enter hquiet id (by rw [hphase]; rfl) (fun hclosing => hclosing.elim) nofun
  . next hphase =>
    cases hstep
    exact h.enter (fun hgoes => hgoes.elim) id (by rw [hphase]; rfl) (fun hclosing => hclosing.elim)
      nofun
  . next hphase =>
    split at hstep
    . cases hstep
    . next msg rest hmessages =>
      cases hstep
      exact h.receive hphase hmessages
  . next msg hphase =>
    cases hstep
    exact h.enqueueReceived hphase
  . next hphase =>
    cases hstep
    rw [hphase] at hquiet
    exact h.enter hquiet id (by rw [hphase]; rfl) (fun hclosing => hclosing.elim) nofun
  . next phase _ hphase =>
    obtain ⟨⟨board', phase'⟩, hadvance, rfl⟩ := Option.map_eq_some_iff.mp hstep
    exact h.advanceBoard hkeeps hphase hadvance
  . next hphase =>
    cases hstep
    rw [hphase] at hquiet
    change s.StepKeepsUp s.phase at hkeeps
    rw [hphase] at hkeeps
    by_cases hclosed : s.bus.closed = true
    . rw [if_pos hclosed]
      exact h.enter hquiet id (by rw [hphase]; rfl) (fun _ => hclosed) (fun _ => hkeeps hclosed)
    . rw [if_neg hclosed]
      exact h.enter hquiet id (by rw [hphase]; rfl) (fun hclosing => hclosing.elim) nofun
  . next hphase =>
    cases hstep
    exact h.enter (fun hgoes => hgoes.elim) id (by rw [hphase]; rfl) (fun hclosing => hclosing.elim)
      nofun
  . cases hstep

end OutboundLoop

theorem OutboundLoop.Invariant.step {s s' : OutboundLoop} {action : OutboundLoopAction}
    (h : s.Invariant) (hkeeps : KeepsUp s action) (hstep : outboundLoopStep s action = some s')
    : s'.Invariant := by
  cases action with
  | publish msg =>
    obtain ⟨_, heq⟩ := Option.ite_none_left_eq_some.mp hstep
    cases heq
    exact h.publish _
  | send i =>
    obtain ⟨msg, _, rfl⟩ := Option.map_eq_some_iff.mp hstep
    exact h.send hkeeps
  | close =>
    cases hstep
    exact h.close
  | control command =>
    cases command with
    | drain => cases hstep
    | start =>
      cases hstep
      exact h.command hkeeps
    | pause =>
      cases hstep
      exact h.command hkeeps
    | resume =>
      cases hstep
      exact h.command hkeeps
    | stop =>
      cases hstep
      exact h.command hkeeps
  | enqueue envelope =>
    cases hstep
    exact h.enqueue envelope hkeeps
  | tick now =>
    obtain ⟨hle, heq⟩ := Option.ite_none_right_eq_some.mp hstep
    cases heq
    exact h.tick hle hkeeps
  | timeout =>
    simp only [outboundLoopStep] at hstep
    split at hstep
    . next hphase _ =>
      cases hstep
      exact h.enter (fun _ => hkeeps) id (by rw [hphase]; rfl) (fun hclosing => hclosing.elim) nofun
    . cases hstep
  | step selection findChannel => exact h.advance hkeeps hstep

theorem always_leavesNothing (capacity : Nat) {actions : List OutboundLoopAction}
    (h : Runs.Guarded outboundLoopStep KeepsUp { bus := { capacity } } actions)
    : Runs.Always outboundLoopStep LeavesNothing { bus := { capacity } } actions := by
  apply Runs.Always.mono (fun _ h => OutboundLoop.Invariant.leavesNothing h)
  refine Runs.always_of_guarded ?_ (OutboundLoop.invariant_new capacity) h
  intro s action s' hs hkeeps hstep
  exact hs.step hkeeps hstep

def sendingStep : OutboundLoopAction :=
  .step {} (fun _ _ =>
    { reason := .exactMatch
      channel := some (fun _ _ _ => { success := true, error := none }) })

def outboundTo (channel : String) : OutboundMessage :=
  { id := "message", channel, content := "hello" }

def sentRun : List OutboundLoopAction :=
  [.publish (outboundTo "cli"), .send 0] ++ List.replicate 12 sendingStep
    ++ [.close, .timeout] ++ List.replicate 2 sendingStep

theorem always_leavesNothing_sent
    : Runs.Always outboundLoopStep LeavesNothing { bus := { capacity := 1000 } } sentRun := by
  exact always_leavesNothing 1000 (by decide +kernel)

example : (Runs.run outboundLoopStep {} sentRun).map (fun s => s.board.taken.length) = some 1 := by
  decide +kernel

def pausedRun : List OutboundLoopAction :=
  [.control .pause, .publish (outboundTo "cli"), .send 0] ++ List.replicate 8 sendingStep
    ++ [.control .resume, .publish (outboundTo "cli"), .send 0] ++ List.replicate 9 sendingStep

/-- The first message is taken after the second one was received, which is left behind. -/
theorem not_always_leavesNothing
    : ¬ Runs.Always outboundLoopStep LeavesNothing { bus := { capacity := 1000 } } pausedRun := by
  intro h
  have hrun : (Runs.run outboundLoopStep { bus := { capacity := 1000 } } pausedRun).map
      (fun s => (s.phase matches .wait, decide s.Running, s.readyEnvelopes.length))
      = some (true, true, 1) := by
    decide +kernel
  obtain ⟨s, hs, hfacts⟩ := Option.map_eq_some_iff.mp hrun
  obtain ⟨hphase, hfacts⟩ := Prod.mk.inj hfacts
  obtain ⟨hrunning, hready⟩ := Prod.mk.inj hfacts
  have hwait : s.phase = .wait := by
    split at hphase
    . assumption
    . cases hphase
  have hnone := (h.run_eq_some hs).waits hwait (of_decide_eq_true hrunning)
  rw [hnone] at hready
  cases hready

end AnimaAgent
