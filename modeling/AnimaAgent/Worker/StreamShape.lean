import AnimaAgent.Library.BlockStream
import AnimaAgent.Library.Runs
import AnimaAgent.Worker.EventAdapter

namespace AnimaAgent

open BlockStream

def AdaptedEvent.signal : AdaptedEvent → Signal Nat
  | messageStart _ => .start
  | blockStart index _ _ => .openBlock index
  | textDelta index _ => .write index
  | inputDelta index _ => .write index
  | blockStop index => .closeBlock index
  | messageDelta _ => .summary
  | messageStop => .finish
  | error _ _ => .abort

def signalOf : Except TaskExecutorError AdaptedEvent → Signal Nat
  | .ok event => event.signal
  | .error _ => .abort

namespace OpenCodeEventAdapter

def deltaPart (adapter : OpenCodeEventAdapter) (raw : Value) : Option String :=
  if OpenCodeEvent.extractEventType raw = some "message.part.delta" then
    adapter.targetPart raw
  else
    none

def shapeFrom (base : Shape Nat) (adapter : OpenCodeEventAdapter) : Shape Nat :=
  base.afterAll (adapter.buffered.map AdaptedEvent.signal)

structure Ledger (indices : IndexMap String Nat) (started stopped : List String) : Prop where
  started_iff : ∀ part, part ∈ started ↔ ∃ index, indices.get part = some index
  below : ∀ part index, indices.get part = some index → index < indices.entries.length
  injective : ∀ part other index, indices.get part = some index → indices.get other = some index
    → part = other
  stopped_started : ∀ part ∈ stopped, part ∈ started

structure Tally (indices : IndexMap String Nat) (started stopped : List String)
    (opened closed : List Nat) : Prop extends Ledger indices started stopped where
  opened_iff : ∀ index, index ∈ opened ↔ ∃ part, indices.get part = some index ∧ part ∉ stopped
  closed_iff : ∀ index, index ∈ closed ↔ ∃ part, indices.get part = some index ∧ part ∈ stopped

structure Quiet (flushed : Bool) (adapter : OpenCodeEventAdapter) : Prop where
  eofFlushed : adapter.eofFlushed = flushed
  upstreamError : adapter.upstreamError = none

structure Waiting (flushed : Bool) (base : Shape Nat) (adapter : OpenCodeEventAdapter) : Prop
    extends Quiet flushed adapter where
  untargeted : adapter.targetAssistantMessageId = none
  unstarted : adapter.messageStarted = false
  unstopped : adapter.messageStopped = false
  tally : Tally adapter.partIndices adapter.startedParts adapter.stoppedParts [] []
  shape : adapter.shapeFrom base = .fresh

structure Running (flushed : Bool) (base : Shape Nat) (adapter : OpenCodeEventAdapter) : Prop
    extends Quiet flushed adapter where
  started : adapter.messageStarted = true
  unstopped : adapter.messageStopped = false
  shape : ∃ opened closed, adapter.shapeFrom base = .running opened closed
    ∧ Tally adapter.partIndices adapter.startedParts adapter.stoppedParts opened closed

structure Ended (flushed : Bool) (base : Shape Nat) (adapter : OpenCodeEventAdapter) : Prop
    extends Quiet flushed adapter where
  stopped : adapter.messageStopped = true
  shape : adapter.shapeFrom base = .finished

def Tracks (flushed : Bool) (base : Shape Nat) (adapter : OpenCodeEventAdapter) : Prop :=
  adapter.Waiting flushed base ∨ adapter.Running flushed base ∨ adapter.Ended flushed base

section Operations

variable {flushed : Bool} {base : Shape Nat} {adapter : OpenCodeEventAdapter}

theorem shapeFrom_queueSse (event : AdaptedEvent)
    : (adapter.queueSse event).shapeFrom base = (adapter.shapeFrom base).after event.signal := by
  unfold shapeFrom queueSse
  dsimp only
  rw [List.map_append, Shape.afterAll_append]
  rfl

theorem ledger_new (targetSessionId : String)
    : Ledger (new targetSessionId).partIndices (new targetSessionId).startedParts
        (new targetSessionId).stoppedParts := by
  exact ⟨fun part => iff_of_false List.not_mem_nil nofun, nofun, nofun, nofun⟩

theorem Ledger.get_eq_none {indices : IndexMap String Nat} {started stopped : List String}
    (h : Ledger indices started stopped) {part : String} (hnew : part ∉ started)
    : indices.get part = none := by
  rw [← Option.not_isSome_iff_eq_none, Option.isSome_iff_exists, ← h.started_iff]
  exact hnew

theorem Ledger.get_insert {indices : IndexMap String Nat} {started stopped : List String}
    (h : Ledger indices started stopped) {part : String} (hnew : part ∉ started) (other : String)
    (index : Nat)
    : (indices.insert part indices.entries.length).get other = some index
        ↔ (other = part ∧ indices.entries.length = index) ∨ indices.get other = some index := by
  have hnone := h.get_eq_none hnew
  rw [IndexMap.get_insert_eq]
  by_cases hother : other = part
  . simp [hother, hnone]
  . simp [hother]

theorem Ledger.get_ne_length {indices : IndexMap String Nat} {started stopped : List String}
    (h : Ledger indices started stopped) (other : String)
    : indices.get other ≠ some indices.entries.length := by
  intro hother
  exact Nat.lt_irrefl _ (h.below other _ hother)

theorem Ledger.insert {indices : IndexMap String Nat} {started stopped : List String}
    (h : Ledger indices started stopped) {part : String} (hnew : part ∉ started)
    : Ledger (indices.insert part indices.entries.length) (started ++ [part]) stopped := by
  have hget := h.get_insert hnew
  have hlength : (indices.insert part indices.entries.length).entries.length
      = indices.entries.length + 1 := by
    have hkeys := congrArg List.length (indices.keys_insert part indices.entries.length)
    rw [if_neg, List.length_append] at hkeys
    . simpa only [IndexMap.keys, List.length_map, List.length_singleton] using hkeys
    . rw [IndexMap.mem_keys_iff, ← h.started_iff]
      exact hnew
  constructor
  . intro other
    simp only [List.mem_append, List.mem_singleton, h.started_iff, hget]
    constructor
    . rintro (⟨index, hindex⟩ | rfl)
      . exact ⟨index, .inr hindex⟩
      . exact ⟨_, .inl ⟨rfl, rfl⟩⟩
    . rintro ⟨index, ⟨rfl, _⟩ | hindex⟩
      . exact .inr rfl
      . exact .inl ⟨index, hindex⟩
  . intro other index hindex
    rw [hlength]
    rw [hget] at hindex
    obtain ⟨_, rfl⟩ | hindex := hindex
    . exact Nat.lt_succ_self _
    . exact Nat.lt_succ_of_lt (h.below other index hindex)
  . intro one other index hone hother
    rw [hget] at hone hother
    obtain ⟨rfl, rfl⟩ | hone := hone
    . obtain ⟨rfl, _⟩ | hother := hother
      . rfl
      . exact absurd hother (h.get_ne_length other)
    . obtain ⟨rfl, rfl⟩ | hother := hother
      . exact absurd hone (h.get_ne_length one)
      . exact h.injective one other index hone hother
  . intro other hother
    exact List.mem_append_left _ (h.stopped_started other hother)

theorem Ledger.stop {indices : IndexMap String Nat} {started stopped : List String}
    (h : Ledger indices started stopped) {part : String} (hmem : part ∈ started)
    : Ledger indices started (stopped ++ [part]) := by
  refine ⟨h.started_iff, h.below, h.injective, ?_⟩
  intro other hother
  obtain hother | hother := List.mem_append.mp hother
  . exact h.stopped_started other hother
  . rw [List.mem_singleton.mp hother]
    exact hmem

theorem Tally.insert {indices : IndexMap String Nat} {started stopped : List String}
    {opened closed : List Nat} (h : Tally indices started stopped opened closed) {part : String}
    (hnew : part ∉ started)
    : Tally (indices.insert part indices.entries.length) (started ++ [part]) stopped
        (opened ++ [indices.entries.length]) closed := by
  have hget := h.get_insert hnew
  have hunstopped : part ∉ stopped := fun hmem => hnew (h.stopped_started part hmem)
  refine ⟨h.toLedger.insert hnew, ?_, ?_⟩
  . intro index
    simp only [List.mem_append, List.mem_singleton, h.opened_iff, hget]
    constructor
    . rintro (⟨other, hother, hopen⟩ | rfl)
      . exact ⟨other, .inr hother, hopen⟩
      . exact ⟨part, .inl ⟨rfl, rfl⟩, hunstopped⟩
    . rintro ⟨other, ⟨rfl, rfl⟩ | hother, hopen⟩
      . exact .inr rfl
      . exact .inl ⟨other, hother, hopen⟩
  . intro index
    simp only [h.closed_iff, hget]
    constructor
    . rintro ⟨other, hother, hclosed⟩
      exact ⟨other, .inr hother, hclosed⟩
    . rintro ⟨other, ⟨rfl, _⟩ | hother, hclosed⟩
      . exact absurd hclosed hunstopped
      . exact ⟨other, hother, hclosed⟩

theorem Tally.stop {indices : IndexMap String Nat} {started stopped : List String}
    {opened closed : List Nat} (h : Tally indices started stopped opened closed) {part : String}
    {index : Nat} (hindex : indices.get part = some index)
    : Tally indices started (stopped ++ [part]) (opened.filter (fun j => decide (j ≠ index)))
        (closed ++ [index]) := by
  refine ⟨h.toLedger.stop ((h.started_iff part).mpr ⟨index, hindex⟩), ?_, ?_⟩
  . intro j
    simp only [List.mem_filter, decide_eq_true_eq, h.opened_iff, List.mem_append,
      List.mem_singleton, not_or]
    constructor
    . rintro ⟨⟨other, hother, hopen⟩, hne⟩
      refine ⟨other, hother, hopen, ?_⟩
      rintro rfl
      exact hne (Option.some.inj (hother.symm.trans hindex))
    . rintro ⟨other, hother, hopen, hne⟩
      refine ⟨⟨other, hother, hopen⟩, ?_⟩
      rintro rfl
      exact hne (h.injective other part j hother hindex)
  . intro j
    simp only [List.mem_append, List.mem_singleton, h.closed_iff]
    constructor
    . rintro (⟨other, hother, hclosed⟩ | rfl)
      . exact ⟨other, hother, .inl hclosed⟩
      . exact ⟨part, hindex, .inr rfl⟩
    . rintro ⟨other, hother, hclosed | rfl⟩
      . exact .inl ⟨other, hother, hclosed⟩
      . exact .inr (Option.some.inj (hother.symm.trans hindex))

theorem Running.eq_of_started (h : adapter.Running flushed base)
    : adapter.ensureMessageStarted = adapter := by
  unfold ensureMessageStarted
  rw [if_pos h.started]

theorem Running.recordPartKind (h : adapter.Running flushed base) (part : String) (kind : PartKind)
    : (adapter.recordPartKind part kind).Running flushed base := by
  unfold OpenCodeEventAdapter.recordPartKind
  split
  . exact h
  . exact { h with }

theorem partIndex_of_get {part : String} {index : Nat}
    (h : adapter.partIndices.get part = some index)
    : adapter.partIndex part = (index, adapter) := by
  unfold partIndex
  rw [h]

theorem partIndex_of_none {part : String} (h : adapter.partIndices.get part = none)
    : adapter.partIndex part
        = (adapter.partIndices.entries.length,
          { adapter with
            partIndices := adapter.partIndices.insert part adapter.partIndices.entries.length }) := by
  unfold partIndex
  rw [h]

theorem Waiting.ensureMessageStarted (h : adapter.Waiting flushed base) (messageId : String)
    : ({ adapter with targetAssistantMessageId := some messageId }.ensureMessageStarted).Running
        flushed base := by
  unfold OpenCodeEventAdapter.ensureMessageStarted
  rw [if_neg (by simp [h.unstarted])]
  refine ⟨⟨h.eofFlushed, h.upstreamError⟩, rfl, h.unstopped, [], [], ?_, h.tally⟩
  rw [shapeFrom_queueSse]
  exact congrArg (fun shape => shape.after Signal.start) h.shape

theorem Running.ensurePartStarted (h : adapter.Running flushed base) (part : String)
    (kind : PartKind)
    : (adapter.ensurePartStarted part kind).Running flushed base := by
  unfold OpenCodeEventAdapter.ensurePartStarted
  rw [h.eq_of_started]
  replace h := h.recordPartKind part kind
  revert h
  generalize adapter.recordPartKind part kind = adapter
  intro h
  dsimp only
  split
  . exact h
  . next hnew =>
    obtain ⟨opened, closed, hshape, htally⟩ := h.shape
    have hnone := htally.get_eq_none hnew
    have hunused : adapter.partIndices.entries.length ∉ opened
        ∧ adapter.partIndices.entries.length ∉ closed := by
      constructor
      . intro hopened
        obtain ⟨other, hother, _⟩ := (htally.opened_iff _).mp hopened
        exact htally.get_ne_length other hother
      . intro hclosed
        obtain ⟨other, hother, _⟩ := (htally.closed_iff _).mp hclosed
        exact htally.get_ne_length other hother
    rw [partIndex_of_none (show IndexMap.get
      { adapter with startedParts := adapter.startedParts ++ [part] }.partIndices part = none
      from hnone)]
    refine ⟨⟨h.eofFlushed, h.upstreamError⟩, h.started, h.unstopped,
      opened ++ [adapter.partIndices.entries.length], closed, ?_, htally.insert hnew⟩
    rw [shapeFrom_queueSse]
    refine (congrArg (Shape.after · _) hshape).trans ?_
    exact if_neg (not_or.mpr hunused)

theorem mem_startedParts_ensurePartStarted (part : String) (kind : PartKind)
    : part ∈ (adapter.ensurePartStarted part kind).startedParts := by
  unfold OpenCodeEventAdapter.ensurePartStarted
  dsimp only
  split
  . assumption
  . unfold partIndex
    dsimp only
    split
    . exact List.mem_append_right _ (List.mem_singleton_self part)
    . exact List.mem_append_right _ (List.mem_singleton_self part)

theorem Running.stopPart (h : adapter.Running flushed base) (part : String)
    : (adapter.stopPart part).Running flushed base := by
  unfold OpenCodeEventAdapter.stopPart
  split
  . exact h
  . next hopen =>
    obtain ⟨hstarted, hunstopped⟩ := not_or.mp hopen
    obtain ⟨opened, closed, hshape, htally⟩ := h.shape
    obtain ⟨index, hindex⟩ := (htally.started_iff part).mp (not_not.mp hstarted)
    have hopened : index ∈ opened := (htally.opened_iff index).mpr ⟨part, hindex, hunstopped⟩
    dsimp only
    rw [partIndex_of_get (show IndexMap.get
      { adapter with stoppedParts := adapter.stoppedParts ++ [part] }.partIndices part = some index
      from hindex)]
    refine ⟨⟨h.eofFlushed, h.upstreamError⟩, h.started, h.unstopped, _, _, ?_, htally.stop hindex⟩
    rw [shapeFrom_queueSse]
    refine (congrArg (Shape.after · _) hshape).trans ?_
    exact if_pos hopened

theorem startedParts_stopPart (part : String)
    : (adapter.stopPart part).startedParts = adapter.startedParts := by
  unfold OpenCodeEventAdapter.stopPart
  split
  . rfl
  . unfold partIndex
    dsimp only
    split <;> rfl

theorem mem_stoppedParts_stopPart {part other : String}
    : other ∈ (adapter.stopPart part).stoppedParts
        ↔ other ∈ adapter.stoppedParts ∨ (other = part ∧ part ∈ adapter.startedParts) := by
  unfold OpenCodeEventAdapter.stopPart
  split
  . next hskip =>
    constructor
    . exact .inl
    . rintro (hstopped | ⟨rfl, hstarted⟩)
      . exact hstopped
      . exact hskip.resolve_left (not_not.mpr hstarted)
  . next hopen =>
    obtain ⟨hstarted, _⟩ := not_or.mp hopen
    have hstopped : ∀ adapter : OpenCodeEventAdapter,
        ((adapter.partIndex part).2).stoppedParts = adapter.stoppedParts := by
      intro adapter
      unfold partIndex
      split <;> rfl
    unfold queueSse
    dsimp only
    rw [hstopped, List.mem_append, List.mem_singleton]
    simp only [not_not.mp hstarted, and_true]

theorem Running.foldl_stopPart (h : adapter.Running flushed base) (parts : List String)
    : (parts.foldl OpenCodeEventAdapter.stopPart adapter).Running flushed base := by
  induction parts generalizing adapter with
  | nil => exact h
  | cons part parts ih => exact ih (h.stopPart part)

theorem startedParts_foldl_stopPart (parts : List String)
    : (parts.foldl OpenCodeEventAdapter.stopPart adapter).startedParts = adapter.startedParts := by
  induction parts generalizing adapter with
  | nil => rfl
  | cons part parts ih => exact ih.trans (startedParts_stopPart part)

theorem mem_stoppedParts_foldl_stopPart {parts : List String} {other : String}
    (hmem : other ∈ adapter.startedParts) (hparts : other ∈ parts ∨ other ∈ adapter.stoppedParts)
    : other ∈ (parts.foldl OpenCodeEventAdapter.stopPart adapter).stoppedParts := by
  induction parts generalizing adapter with
  | nil => exact hparts.resolve_left List.not_mem_nil
  | cons part parts ih =>
    refine ih ((startedParts_stopPart part).symm ▸ hmem) ?_
    rw [mem_stoppedParts_stopPart]
    obtain hparts | hstopped := hparts
    . obtain rfl | hrest := List.mem_cons.mp hparts
      . exact .inr (.inr ⟨rfl, hmem⟩)
      . exact .inl hrest
    . exact .inr (.inl hstopped)

variable (hash : HashOrder)

theorem Running.stopAllParts (h : adapter.Running flushed base)
    : (adapter.stopAllParts hash).Running flushed base := by
  exact h.foldl_stopPart _

theorem mem_stoppedParts_stopAllParts {part : String}
    (hmem : part ∈ (adapter.stopAllParts hash).startedParts)
    : part ∈ (adapter.stopAllParts hash).stoppedParts := by
  unfold OpenCodeEventAdapter.stopAllParts at hmem ⊢
  rw [startedParts_foldl_stopPart] at hmem
  exact mem_stoppedParts_foldl_stopPart hmem (.inl ((hash.perm _).mem_iff.mpr hmem))

theorem Running.stopMessageIfNeeded (h : adapter.Running flushed base)
    : (adapter.stopMessageIfNeeded hash).Ended flushed base := by
  unfold OpenCodeEventAdapter.stopMessageIfNeeded
  rw [if_neg (by simp [h.started, h.unstopped])]
  have hall : ∀ part ∈ (adapter.stopAllParts hash).startedParts,
      part ∈ (adapter.stopAllParts hash).stoppedParts :=
    fun part hmem => mem_stoppedParts_stopAllParts hash hmem
  replace h := h.stopAllParts hash
  revert hall h
  generalize adapter.stopAllParts hash = adapter
  intro hall h
  obtain ⟨opened, closed, hshape, htally⟩ := h.shape
  have hopened : opened = [] := by
    rw [List.eq_nil_iff_forall_not_mem]
    intro index hindex
    obtain ⟨part, hpart, hunstopped⟩ := (htally.opened_iff index).mp hindex
    exact hunstopped (hall part ((htally.started_iff part).mpr ⟨index, hpart⟩))
  subst hopened
  have hsummary : (adapter.queueSse (.messageDelta adapter.stopReason)).shapeFrom base
      = .closing := by
    rw [shapeFrom_queueSse, hshape]
    rfl
  refine ⟨⟨h.eofFlushed, h.upstreamError⟩, rfl, ?_⟩
  exact (shapeFrom_queueSse .messageStop).trans (congrArg (Shape.after · .finish) hsummary)

theorem Waiting.stopMessageIfNeeded (h : adapter.Waiting flushed base)
    : (adapter.stopMessageIfNeeded hash).Waiting flushed base := by
  unfold OpenCodeEventAdapter.stopMessageIfNeeded
  rw [if_pos (by simp [h.unstarted])]
  exact h

variable (raw : Value)

theorem tracks_handleTargetUpdated (h : adapter.ensureMessageStarted.Running flushed base)
    : (adapter.handleTargetUpdated hash raw).Tracks flushed base := by
  unfold handleTargetUpdated
  dsimp only
  split
  . next stopReason _ =>
    have hreason : ({ adapter.ensureMessageStarted with
        stopReason := some stopReason } : OpenCodeEventAdapter).Running flushed base := { h with }
    split
    . exact .inr (.inl (hreason.stopAllParts hash))
    . exact .inr (.inr (hreason.stopMessageIfNeeded hash))
  . split
    . exact .inr (.inr (h.stopMessageIfNeeded hash))
    . exact .inr (.inl h)

theorem Waiting.handleMessageUpdated (h : adapter.Waiting flushed base)
    : (adapter.handleMessageUpdated hash raw).Tracks flushed base := by
  unfold OpenCodeEventAdapter.handleMessageUpdated
  split
  . exact .inl h
  . split
    . exact .inl h
    . next messageId _ =>
      extract_lets role parentId asked sameParentAssistant followed
      have hasked : asked.Waiting flushed base := by
        unfold asked
        split
        . exact { h with }
        . exact h
      have hfollowed : followed = if sameParentAssistant then
          { asked with targetAssistantMessageId := some messageId } else asked := by
        unfold followed followMessage
        rw [hasked.untargeted]
        cases sameParentAssistant <;> rfl
      cases hsame : sameParentAssistant with
      | true =>
        rw [hfollowed, hsame, if_pos rfl, if_neg (by simp)]
        exact tracks_handleTargetUpdated hash raw (hasked.ensureMessageStarted messageId)
      | false =>
        rw [hfollowed, hsame, if_neg Bool.false_ne_true, if_pos (by simp [hasked.untargeted])]
        exact .inl hasked

theorem Running.followMessage (h : adapter.Running flushed base) (messageId : String)
    (sameParentAssistant : Bool)
    : (adapter.followMessage hash messageId sameParentAssistant).Running flushed base := by
  unfold OpenCodeEventAdapter.followMessage
  split
  . exact { h with }
  . split
    . exact { h.stopAllParts hash with }
    . exact h

theorem Running.handleMessageUpdated (h : adapter.Running flushed base)
    : (adapter.handleMessageUpdated hash raw).Tracks flushed base := by
  unfold OpenCodeEventAdapter.handleMessageUpdated
  split
  . exact .inr (.inl h)
  . split
    . exact .inr (.inl h)
    . next messageId _ =>
      extract_lets role parentId asked sameParentAssistant followed
      have hasked : asked.Running flushed base := by
        unfold asked
        split
        . exact { h with }
        . exact h
      have hfollowed : followed.Running flushed base :=
        hasked.followMessage hash messageId sameParentAssistant
      split
      . exact .inr (.inl hfollowed)
      . apply tracks_handleTargetUpdated
        rw [hfollowed.eq_of_started]
        exact hfollowed

theorem Running.handleMessagePartUpdated (h : adapter.Running flushed base)
    : (adapter.handleMessagePartUpdated raw).Running flushed base := by
  unfold OpenCodeEventAdapter.handleMessagePartUpdated
  split
  . exact h
  . next part _ =>
    have hkind : ∀ kind, ({ adapter with
        partKinds := adapter.partKinds.insert part kind } : OpenCodeEventAdapter).Running
          flushed base := fun _ => { h with }
    dsimp only
    split
    . exact ((hkind _).ensurePartStarted part _).stopPart part
    . exact (hkind _).ensurePartStarted part _

theorem Waiting.targetPart_eq_none (h : adapter.Waiting flushed base)
    : adapter.targetPart raw = none := by
  unfold targetPart
  rw [h.untargeted]

theorem Waiting.handleSessionStatus (h : adapter.Waiting flushed base)
    : (adapter.handleSessionStatus hash raw).Tracks flushed base := by
  unfold OpenCodeEventAdapter.handleSessionStatus
  dsimp only
  split
  . exact .inl h
  . split
    . refine .inr (.inr ⟨⟨h.eofFlushed, h.upstreamError⟩, rfl, ?_⟩)
      exact (shapeFrom_queueSse _).trans (congrArg (Shape.after · .abort) h.shape)
    . split
      . exact .inl (Waiting.stopMessageIfNeeded hash { h with })
      . exact .inl h

theorem Running.handleSessionStatus (h : adapter.Running flushed base)
    : (adapter.handleSessionStatus hash raw).Tracks flushed base := by
  unfold OpenCodeEventAdapter.handleSessionStatus
  dsimp only
  split
  . exact .inr (.inl h)
  . split
    . obtain ⟨opened, closed, hshape, _⟩ := h.shape
      refine .inr (.inr ⟨⟨h.eofFlushed, h.upstreamError⟩, rfl, ?_⟩)
      exact (shapeFrom_queueSse _).trans (congrArg (Shape.after · .abort) hshape)
    . split
      . exact .inr (.inr (Running.stopMessageIfNeeded hash { h with }))
      . exact .inr (.inl h)

theorem stoppedParts_ensurePartStarted (h : adapter.Running flushed base) (part : String)
    (kind : PartKind)
    : (adapter.ensurePartStarted part kind).stoppedParts = adapter.stoppedParts := by
  unfold OpenCodeEventAdapter.ensurePartStarted
  rw [h.eq_of_started]
  have hkind : (adapter.recordPartKind part kind).stoppedParts = adapter.stoppedParts := by
    unfold OpenCodeEventAdapter.recordPartKind
    split <;> rfl
  rw [← hkind]
  dsimp only
  split
  . rfl
  . unfold partIndex
    dsimp only
    split <;> rfl

theorem exists_handleMessagePartDelta (h : adapter.Running flushed base) {part : String}
    (hpart : adapter.targetPart raw = some part)
    : ∃ (next : OpenCodeEventAdapter) (event : AdaptedEvent) (index : Nat) (opened closed : List Nat),
        adapter.handleMessagePartDelta raw = next.queueSse event
        ∧ next.Running flushed base ∧ event.signal = .write index
        ∧ next.shapeFrom base = .running opened closed
        ∧ (index ∈ opened ↔ part ∉ adapter.stoppedParts) := by
  unfold handleMessagePartDelta
  rw [hpart]
  have hnext := h.ensurePartStarted part (adapter.deltaKind raw part)
  have hmem : part ∈ (adapter.ensurePartStarted part (adapter.deltaKind raw part)).startedParts :=
    mem_startedParts_ensurePartStarted part _
  have hstopped := stoppedParts_ensurePartStarted h part (adapter.deltaKind raw part)
  dsimp only
  revert hnext hmem hstopped
  generalize adapter.ensurePartStarted part (adapter.deltaKind raw part) = next
  intro hnext hmem hstopped
  obtain ⟨opened, closed, hshape, htally⟩ := hnext.shape
  obtain ⟨index, hindex⟩ := (htally.started_iff part).mp hmem
  have hopened : index ∈ opened ↔ part ∉ adapter.stoppedParts := by
    rw [htally.opened_iff, ← hstopped]
    constructor
    . rintro ⟨other, hother, hopen⟩
      exact htally.injective other part index hother hindex ▸ hopen
    . intro hopen
      exact ⟨part, hindex, hopen⟩
  rw [partIndex_of_get hindex]
  dsimp only
  split
  . exact ⟨next, _, index, opened, closed, rfl, hnext, rfl, hshape, hopened⟩
  . exact ⟨next, _, index, opened, closed, rfl, hnext, rfl, hshape, hopened⟩

theorem Running.handleMessagePartDelta (h : adapter.Running flushed base)
    (hopen : ∀ part, adapter.targetPart raw = some part → part ∉ adapter.stoppedParts)
    : (adapter.handleMessagePartDelta raw).Running flushed base := by
  cases hpart : adapter.targetPart raw with
  | none =>
    unfold OpenCodeEventAdapter.handleMessagePartDelta
    rw [hpart]
    exact h
  | some part =>
    obtain ⟨next, event, index, opened, closed, heq, hnext, hevent, hshape, hiff⟩ :=
      exists_handleMessagePartDelta raw h hpart
    obtain ⟨opened', closed', hshape', htally⟩ := hnext.shape
    obtain ⟨rfl, rfl⟩ := Shape.running.inj (hshape.symm.trans hshape')
    rw [heq]
    refine ⟨⟨hnext.eofFlushed, hnext.upstreamError⟩, hnext.started, hnext.unstopped, opened, closed,
      ?_, htally⟩
    rw [shapeFrom_queueSse, hshape, hevent]
    exact if_pos (hiff.mpr (hopen part hpart))

theorem Running.broken_of_stopped (h : adapter.Running flushed base) {part : String}
    (hpart : adapter.targetPart raw = some part) (hstopped : part ∈ adapter.stoppedParts)
    : (adapter.handleMessagePartDelta raw).shapeFrom base = .broken := by
  obtain ⟨next, event, index, opened, closed, heq, _, hevent, hshape, hiff⟩ :=
    exists_handleMessagePartDelta raw h hpart
  rw [heq, shapeFrom_queueSse, hshape, hevent]
  exact if_neg (fun hopened => hiff.mp hopened hstopped)

theorem handleRawEvent_of_delta (h : OpenCodeEvent.extractEventType raw = some "message.part.delta")
    : adapter.handleRawEvent hash raw = adapter.handleMessagePartDelta raw := by
  simp only [handleRawEvent, h]

theorem tracks_handleRawEvent (h : adapter.Waiting flushed base ∨ adapter.Running flushed base)
    (hopen : ∀ part, adapter.deltaPart raw = some part → part ∉ adapter.stoppedParts)
    : (adapter.handleRawEvent hash raw).Tracks flushed base := by
  have hkept : adapter.Tracks flushed base := h.imp_right .inl
  unfold handleRawEvent
  split
  . exact h.elim (Waiting.handleMessageUpdated hash raw) (Running.handleMessageUpdated hash raw)
  . obtain h | h := h
    . unfold handleMessagePartUpdated
      rw [h.targetPart_eq_none]
      exact .inl h
    . exact .inr (.inl (h.handleMessagePartUpdated raw))
  . next htype =>
    obtain h | h := h
    . unfold handleMessagePartDelta
      rw [h.targetPart_eq_none]
      exact .inl h
    . refine .inr (.inl (h.handleMessagePartDelta raw ?_))
      intro part hpart
      refine hopen part ?_
      unfold deltaPart
      rw [if_pos htype, hpart]
  . exact h.elim (Waiting.handleSessionStatus hash raw) (Running.handleSessionStatus hash raw)
  . exact hkept

theorem flushEofOnce_of_unflushed (h : adapter.Tracks false base)
    : (adapter.flushEofOnce hash).Waiting true base ∨ (adapter.flushEofOnce hash).Ended true base := by
  unfold flushEofOnce
  obtain h | h | h := h
  . rw [if_neg (by simp [h.eofFlushed])]
    exact .inl (Waiting.stopMessageIfNeeded hash { h with eofFlushed := rfl })
  . rw [if_neg (by simp [h.eofFlushed])]
    exact .inr (Running.stopMessageIfNeeded hash { h with eofFlushed := rfl })
  . rw [if_neg (by simp [h.eofFlushed])]
    unfold stopMessageIfNeeded
    rw [if_pos (by simp [h.stopped])]
    exact .inr { h with eofFlushed := rfl }

theorem Tracks.quiet (h : adapter.Tracks flushed base) : adapter.Quiet flushed := by
  obtain h | h | h := h
  . exact h.toQuiet
  . exact h.toQuiet
  . exact h.toQuiet

theorem Tracks.shape_ne_broken (h : adapter.Tracks flushed base)
    : adapter.shapeFrom base ≠ .broken := by
  obtain h | h | h := h
  . rw [h.shape]
    nofun
  . obtain ⟨opened, closed, hshape, _⟩ := h.shape
    rw [hshape]
    nofun
  . rw [h.shape]
    nofun

theorem Tracks.unended (h : adapter.Tracks flushed base) (hstopped : adapter.messageStopped = false)
    : adapter.Waiting flushed base ∨ adapter.Running flushed base := by
  obtain h | h | h := h
  . exact .inl h
  . exact .inr h
  . exact absurd hstopped (by simp [h.stopped])

theorem handleRawEvent_broken (h : adapter.Waiting flushed base ∨ adapter.Running flushed base)
    {part : String} (hpart : adapter.deltaPart raw = some part)
    (hstopped : part ∈ adapter.stoppedParts)
    : (adapter.handleRawEvent hash raw).shapeFrom base = .broken := by
  unfold deltaPart at hpart
  split at hpart
  . next htype =>
    rw [handleRawEvent_of_delta hash raw htype]
    obtain h | h := h
    . rw [h.targetPart_eq_none] at hpart
      cases hpart
    . exact h.broken_of_stopped raw hpart hstopped
  . cases hpart

theorem buffered_partIndex (part : String)
    : (adapter.partIndex part).2.buffered = adapter.buffered := by
  unfold partIndex
  split <;> rfl

theorem broken_queueSse (h : adapter.shapeFrom base = .broken) (event : AdaptedEvent)
    : (adapter.queueSse event).shapeFrom base = .broken := by
  rw [shapeFrom_queueSse, h, Shape.after_broken]

theorem broken_stopPart (h : adapter.shapeFrom base = .broken) (part : String)
    : (adapter.stopPart part).shapeFrom base = .broken := by
  unfold OpenCodeEventAdapter.stopPart
  split
  . exact h
  . dsimp only
    rw [shapeFrom_queueSse]
    unfold shapeFrom
    rw [buffered_partIndex]
    exact (congrArg (Shape.after · _) h).trans (Shape.after_broken _)

theorem broken_stopAllParts (h : adapter.shapeFrom base = .broken)
    : (adapter.stopAllParts hash).shapeFrom base = .broken := by
  unfold OpenCodeEventAdapter.stopAllParts
  generalize hash.order adapter.startedParts = parts
  induction parts generalizing adapter with
  | nil => exact h
  | cons part parts ih => exact ih (broken_stopPart h part)

theorem broken_stopMessageIfNeeded (h : adapter.shapeFrom base = .broken)
    : (adapter.stopMessageIfNeeded hash).shapeFrom base = .broken := by
  unfold OpenCodeEventAdapter.stopMessageIfNeeded
  split
  . exact h
  . exact broken_queueSse (broken_queueSse (broken_stopAllParts hash h) _) _

theorem broken_flushEofOnce (h : adapter.shapeFrom base = .broken)
    : (adapter.flushEofOnce hash).shapeFrom base = .broken := by
  unfold flushEofOnce
  split
  . exact h
  . exact broken_stopMessageIfNeeded hash
      (show ({ adapter with eofFlushed := true } : OpenCodeEventAdapter).shapeFrom base = .broken
        from h)

theorem tracks_pop (h : adapter.Tracks flushed base) {event : AdaptedEvent}
    {buffered : List AdaptedEvent} (hbuffered : adapter.buffered = event :: buffered)
    : ({ adapter with buffered } : OpenCodeEventAdapter).Tracks flushed
        (base.after event.signal) := by
  have hshape : ({ adapter with buffered } : OpenCodeEventAdapter).shapeFrom
      (base.after event.signal) = adapter.shapeFrom base := by
    unfold shapeFrom
    rw [hbuffered]
    rfl
  obtain h | h | h := h
  . exact .inl { h with shape := hshape.trans h.shape }
  . obtain ⟨opened, closed, hrunning, htally⟩ := h.shape
    exact .inr (.inl { h with shape := ⟨opened, closed, hshape.trans hrunning, htally⟩ })
  . exact .inr (.inr { h with shape := hshape.trans h.shape })

variable (adapter) in
theorem pollTargetUserMessageId_cases (poll : MessageIdPoll)
    : (∃ user, adapter.pollTargetUserMessageId poll = { adapter with targetUserMessageId := user })
        ∨ ∃ error, adapter.pollTargetUserMessageId poll
          = { adapter with upstreamError := some error } := by
  have hkept : adapter = { adapter with targetUserMessageId := adapter.targetUserMessageId } := rfl
  unfold pollTargetUserMessageId
  split
  . exact .inl ⟨_, hkept⟩
  . split
    . exact .inl ⟨_, rfl⟩
    . exact .inr ⟨_, rfl⟩
    . exact .inl ⟨_, hkept⟩
    . exact .inr ⟨_, rfl⟩

end Operations

end OpenCodeEventAdapter

namespace AdapterRun

open OpenCodeEventAdapter

def shapeOf (log : List AdapterEntry) : Shape Nat :=
  Shape.fresh.afterAll ((log.filterMap AdapterEntry.sent?).map signalOf)

def UnreadAfterEnd (log : List AdapterEntry) : Prop :=
  ∀ earlier later, log = earlier ++ later → shapeOf earlier = .finished
    → ∀ item, AdapterEntry.read item ∉ later

def queuedShape (run : AdapterRun) : Shape Nat :=
  run.adapter.shapeFrom (shapeOf run.log)

/-- The stream is well formed so far; once it has ended, the message is complete or never appeared. -/
structure WellFormed (run : AdapterRun) : Prop where
  shaped : run.queuedShape ≠ .broken
  unread : UnreadAfterEnd run.log
  complete : run.ended = true → run.queuedShape = .finished
    ∨ (run.queuedShape = .fresh ∧ run.adapter.targetAssistantMessageId = none)

/-- The source brings nothing behind a message that is finished and no delta for a part that is stopped. -/
structure Orderly (serde : SerdeJson) (run : AdapterRun) (poll : MessageIdPoll) : Prop where
  finished : run.adapter.buffered = [] → run.adapter.messageStopped = true
    → run.lines = [] ∧ (run.adapter.pollTargetUserMessageId poll).upstreamError = none
  opened : run.adapter.buffered = []
    → (run.adapter.pollTargetUserMessageId poll).upstreamError = none
    → ∀ raw ∈ run.eventRead serde, ∀ part, run.adapter.deltaPart raw = some part
      → part ∉ run.adapter.stoppedParts

structure Tracked (run : AdapterRun) : Prop where
  tracks : run.adapter.Tracks run.adapter.eofFlushed (shapeOf run.log)
  framed : run.adapter.messageStopped = true → run.dataLines = []
  flushed : run.adapter.eofFlushed = true → run.lines = [] ∧ run.dataLines = []
    ∧ (run.adapter.messageStarted = true → run.adapter.messageStopped = true)

section Log

variable {log : List AdapterEntry}

theorem shapeOf_append (later : List AdapterEntry)
    : shapeOf (log ++ later)
        = (shapeOf log).afterAll ((later.filterMap AdapterEntry.sent?).map signalOf) := by
  unfold shapeOf
  rw [List.filterMap_append, List.map_append, Shape.afterAll_append]

theorem shapeOf_append_read (item : Except TaskExecutorError String)
    : shapeOf (log ++ [.read item]) = shapeOf log := by
  exact shapeOf_append _

theorem unreadAfterEnd_append_singleton_iff {entry : AdapterEntry}
    : UnreadAfterEnd (log ++ [entry])
        ↔ UnreadAfterEnd log
          ∧ ∀ item, entry = .read item
            → ∀ earlier later, log = earlier ++ later → shapeOf earlier ≠ .finished := by
  constructor
  . intro h
    refine ⟨?_, ?_⟩
    . intro earlier later heq hfinished item hmem
      exact h earlier (later ++ [entry]) (by rw [heq, List.append_assoc]) hfinished item
        (List.mem_append_left _ hmem)
    . rintro item rfl earlier later heq hfinished
      exact h earlier (later ++ [.read item]) (by rw [heq, List.append_assoc]) hfinished item
        (List.mem_append_right _ (List.mem_singleton_self _))
  . rintro ⟨hlog, hentry⟩ earlier later heq hfinished item hmem
    obtain rfl | ⟨later, last, rfl⟩ := List.eq_nil_or_concat later
    . cases hmem
    . rw [List.concat_eq_append, ← List.append_assoc] at heq
      obtain ⟨hsame, hlast⟩ := List.append_inj' heq rfl
      cases hlast
      rw [List.concat_eq_append, List.mem_append, List.mem_singleton] at hmem
      obtain hmem | hmem := hmem
      . exact hlog earlier later hsame hfinished item hmem
      . exact hentry item hmem.symm earlier later hsame hfinished

theorem unreadAfterEnd_append_sent_iff {item : Except TaskExecutorError AdaptedEvent}
    : UnreadAfterEnd (log ++ [.sent item]) ↔ UnreadAfterEnd log := by
  rw [unreadAfterEnd_append_singleton_iff]
  exact and_iff_left nofun

theorem unreadAfterEnd_append_read_iff (hlog : UnreadAfterEnd log) (hshape : shapeOf log ≠ .broken)
    {item : Except TaskExecutorError String}
    : UnreadAfterEnd (log ++ [.read item]) ↔ shapeOf log ≠ .finished := by
  rw [unreadAfterEnd_append_singleton_iff]
  constructor
  . intro h
    exact h.2 item rfl log [] (List.append_nil log).symm
  . intro hunfinished
    refine ⟨hlog, ?_⟩
    rintro _ _ earlier later rfl hfinished
    rw [shapeOf_append] at hshape hunfinished
    unfold shapeOf at hfinished
    have hnil : (later.filterMap AdapterEntry.sent?).map signalOf = [] := by
      refine Shape.eq_nil_of_finished hfinished ?_
      rw [Shape.afterAll_append]
      exact hshape
    rw [hnil] at hunfinished
    exact hunfinished hfinished

end Log

def Exact (serde : SerdeJson) (run : AdapterRun) (poll : MessageIdPoll) (run' : AdapterRun) : Prop :=
  (run'.WellFormed ↔ run.Orderly serde poll) ∧ (run'.WellFormed → run'.ended = false → run'.Tracked)

structure ReadOrderly (serde : SerdeJson) (run : AdapterRun) : Prop where
  finished : run.adapter.messageStopped = true → run.lines = []
  opened : ∀ raw ∈ run.eventRead serde, ∀ part, run.adapter.deltaPart raw = some part
    → part ∉ run.adapter.stoppedParts

def ExactRead (serde : SerdeJson) (run run' : AdapterRun) : Prop :=
  (run'.WellFormed ↔ run.ReadOrderly serde) ∧ (run'.WellFormed → run'.ended = false → run'.Tracked)

section Step

variable {serde : SerdeJson} {hash : HashOrder} {run : AdapterRun} {poll : MessageIdPoll}

theorem queuedShape_of_buffered_nil (h : run.adapter.buffered = [])
    : run.queuedShape = shapeOf run.log := by
  unfold queuedShape shapeFrom
  rw [h]
  rfl

theorem exact_pop (hT : run.Tracked) (hW : run.WellFormed) (hended : run.ended = false)
    {event : AdaptedEvent} {buffered : List AdaptedEvent}
    (hbuffered : run.adapter.buffered = event :: buffered)
    : Exact serde run poll
        ({ run with adapter := { run.adapter with buffered }, dataLines := [] }.record
          [.sent (.ok event)]) := by
  have hshape : shapeOf (run.log ++ [.sent (.ok event)]) = (shapeOf run.log).after event.signal := by
    rw [shapeOf_append]
    rfl
  have htracks := tracks_pop hT.tracks hbuffered
  rw [← hshape] at htracks
  have hne : run.adapter.buffered ≠ [] := by
    rw [hbuffered]
    nofun
  constructor
  . refine iff_of_true ⟨htracks.shape_ne_broken, ?_, ?_⟩ ⟨fun h => absurd h hne, fun h => absurd h hne⟩
    . exact unreadAfterEnd_append_sent_iff.mpr hW.unread
    . intro h
      exact absurd h (by simp [record, hended])
  . intro _ _
    refine ⟨htracks, fun _ => rfl, ?_⟩
    intro hflushed
    obtain ⟨hlines, _, hstopped⟩ := hT.flushed hflushed
    exact ⟨hlines, rfl, hstopped⟩

theorem after_abort_iff (hT : run.Tracked) (hbuffered : run.adapter.buffered = [])
    : ((shapeOf run.log).after .abort = .finished ↔ run.adapter.messageStopped = false)
        ∧ ((shapeOf run.log).after .abort ≠ .broken ↔ run.adapter.messageStopped = false) := by
  have hshape : run.adapter.shapeFrom (shapeOf run.log) = shapeOf run.log :=
    queuedShape_of_buffered_nil hbuffered
  obtain h | h | h := hT.tracks
  . rw [← hshape, h.shape, h.unstopped]
    exact ⟨iff_of_true rfl rfl, iff_of_true nofun rfl⟩
  . obtain ⟨opened, closed, hrunning, _⟩ := h.shape
    rw [← hshape, hrunning, h.unstopped]
    exact ⟨iff_of_true rfl rfl, iff_of_true nofun rfl⟩
  . rw [← hshape, h.shape, h.stopped]
    exact ⟨iff_of_false nofun nofun, iff_of_false (fun hne => hne rfl) nofun⟩

theorem shapeOf_eq_finished_iff (hT : run.Tracked) (hbuffered : run.adapter.buffered = [])
    : shapeOf run.log = .finished ↔ run.adapter.messageStopped = true := by
  have hshape : run.adapter.shapeFrom (shapeOf run.log) = shapeOf run.log :=
    queuedShape_of_buffered_nil hbuffered
  obtain h | h | h := hT.tracks
  . rw [← hshape, h.shape, h.unstopped]
    exact iff_of_false nofun nofun
  . obtain ⟨opened, closed, hrunning, _⟩ := h.shape
    rw [← hshape, hrunning, h.unstopped]
    exact iff_of_false nofun nofun
  . rw [← hshape, h.shape, h.stopped]
    exact iff_of_true rfl rfl

theorem exact_failed (hT : run.Tracked) (hW : run.WellFormed)
    (hbuffered : run.adapter.buffered = []) {error : TaskExecutorError}
    (hpoll : run.adapter.pollTargetUserMessageId poll
      = { run.adapter with upstreamError := some error })
    : Exact serde run poll
        ({ run with
          adapter := { run.adapter with upstreamError := none }
          ended := true }.record [.sent (.error error)]) := by
  obtain ⟨hfinished, hbroken⟩ := after_abort_iff hT hbuffered
  have hshape : queuedShape ({ run with
      adapter := { run.adapter with upstreamError := none }
      ended := true }.record [.sent (.error error)]) = (shapeOf run.log).after .abort := by
    refine (queuedShape_of_buffered_nil ?_).trans (shapeOf_append _)
    exact hbuffered
  refine ⟨?_, fun _ h => nomatch h⟩
  constructor
  . intro h
    have hunstopped := hbroken.mp (hshape ▸ h.shaped)
    constructor
    . intro _ hstopped
      exact absurd hstopped (by simp [hunstopped])
    . intro _ hnone
      rw [hpoll] at hnone
      cases hnone
  . intro h
    have hunstopped : run.adapter.messageStopped = false := by
      rw [← Bool.not_eq_true]
      intro hstopped
      have hnone := (h.finished hbuffered hstopped).2
      rw [hpoll] at hnone
      cases hnone
    refine ⟨?_, unreadAfterEnd_append_sent_iff.mpr hW.unread, fun _ => .inl ?_⟩
    . exact hshape ▸ hbroken.mpr hunstopped
    . exact hshape.trans (hfinished.mpr hunstopped)

theorem exact_readError (hT : run.Tracked) (hW : run.WellFormed)
    (hbuffered : run.adapter.buffered = []) {error : TaskExecutorError}
    {lines : UnifiedStreamSource} (hlines : run.lines = .error error :: lines)
    : ExactRead serde run
        ({ run with lines, ended := true }.record [.read (.error error), .sent (.error error)]) := by
  obtain ⟨hfinished, hbroken⟩ := after_abort_iff hT hbuffered
  have hshape : queuedShape
      ({ run with lines, ended := true }.record [.read (.error error), .sent (.error error)])
      = (shapeOf run.log).after .abort := by
    refine (queuedShape_of_buffered_nil ?_).trans (shapeOf_append _)
    exact hbuffered
  refine ⟨?_, fun _ h => nomatch h⟩
  constructor
  . intro h
    have hunstopped := hbroken.mp (hshape ▸ h.shaped)
    constructor
    . intro hstopped
      exact absurd hstopped (by simp [hunstopped])
    . intro raw hraw
      unfold eventRead at hraw
      rw [hlines] at hraw
      cases hraw
  . intro h
    have hunstopped : run.adapter.messageStopped = false := by
      rw [← Bool.not_eq_true]
      intro hstopped
      have hnil := h.finished hstopped
      rw [hlines] at hnil
      cases hnil
    have hunfinished : shapeOf run.log ≠ .finished := by
      rw [Ne, shapeOf_eq_finished_iff hT hbuffered, hunstopped]
      nofun
    refine ⟨?_, ?_, fun _ => .inl ?_⟩
    . exact hshape ▸ hbroken.mpr hunstopped
    . have hread : UnreadAfterEnd (run.log ++ [.read (.error error)]) :=
        (unreadAfterEnd_append_read_iff hW.unread
          (queuedShape_of_buffered_nil hbuffered ▸ hW.shaped)).mpr hunfinished
      have hsent : UnreadAfterEnd (run.log ++ [.read (.error error)] ++ [.sent (.error error)]) :=
        unreadAfterEnd_append_sent_iff.mpr hread
      rw [List.append_assoc] at hsent
      exact hsent
    . exact hshape.trans (hfinished.mpr hunstopped)

theorem wellFormed_of_tracks
    (htracks : run.adapter.Tracks run.adapter.eofFlushed (shapeOf run.log))
    (hunread : UnreadAfterEnd run.log)
    (hcomplete : run.ended = true → run.adapter.messageStarted = true
      → run.adapter.messageStopped = true)
    : run.WellFormed := by
  refine ⟨htracks.shape_ne_broken, hunread, ?_⟩
  intro hended
  obtain h | h | h := htracks
  . exact .inr ⟨h.shape, h.untargeted⟩
  . exact absurd (hcomplete hended h.started) (by simp [h.unstopped])
  . exact .inl h.shape

theorem log_onLine (line : String) : (run.onLine serde hash line).log = run.log := by
  unfold onLine onBlank
  dsimp only
  split
  . split <;> rfl
  . split <;> rfl

variable (hash) in
theorem handled_cases (hT : run.Tracked) (hstopped : run.adapter.messageStopped = false)
    (raw : Value)
    : ((∀ part, run.adapter.deltaPart raw = some part → part ∉ run.adapter.stoppedParts)
          ∧ (run.adapter.handleRawEvent hash raw).Tracks run.adapter.eofFlushed (shapeOf run.log))
        ∨ (¬ (∀ part, run.adapter.deltaPart raw = some part → part ∉ run.adapter.stoppedParts)
          ∧ (run.adapter.handleRawEvent hash raw).shapeFrom (shapeOf run.log) = .broken) := by
  have hactive := hT.tracks.unended hstopped
  by_cases hopen : ∀ part, run.adapter.deltaPart raw = some part → part ∉ run.adapter.stoppedParts
  . exact .inl ⟨hopen, tracks_handleRawEvent hash raw hactive hopen⟩
  . refine .inr ⟨hopen, ?_⟩
    push Not at hopen
    obtain ⟨part, hpart, hmem⟩ := hopen
    exact handleRawEvent_broken hash raw hactive hpart hmem

theorem eofFlushed_of_lines (hT : run.Tracked) (hlines : run.lines ≠ [])
    : run.adapter.eofFlushed = false := by
  rw [← Bool.not_eq_true]
  intro hflushed
  exact hlines (hT.flushed hflushed).1

theorem kept_line (hT : run.Tracked) (hended : run.ended = false)
    (hstopped : run.adapter.messageStopped = false) (hlines : run.lines ≠ []) {line : String}
    (hunread : UnreadAfterEnd (run.log ++ [.read (.ok line)])) (lines : UnifiedStreamSource)
    (dataLines : List String)
    : WellFormed ({ run with lines, dataLines }.record [.read (.ok line)])
        ∧ Tracked ({ run with lines, dataLines }.record [.read (.ok line)]) := by
  have htracks := hT.tracks
  have hunflushed := eofFlushed_of_lines hT hlines
  rw [← shapeOf_append_read (.ok line)] at htracks
  constructor
  . exact wellFormed_of_tracks htracks hunread (fun h => absurd h (by simp [record, hended]))
  . exact ⟨htracks, fun h => absurd h (by simp [record, hstopped]),
      fun h => absurd h (by simp [record, hunflushed])⟩

theorem exact_frame (hT : run.Tracked) (hstopped : run.adapter.messageStopped = false)
    (hlines : run.lines ≠ []) {line : String}
    (hunread : UnreadAfterEnd (run.log ++ [.read (.ok line)])) (lines : UnifiedStreamSource)
    {raw : Value} (hraw : run.eventRead serde = some raw)
    : ExactRead serde run
        { (({ run with lines }.record [.read (.ok line)]).handle hash raw) with
          dataLines := []
          ended := (run.adapter.handleRawEvent hash raw).buffered.isEmpty
            && (run.adapter.handleRawEvent hash raw).messageStopped } := by
  have hunflushed := eofFlushed_of_lines hT hlines
  obtain ⟨hopen, htracks⟩ | ⟨hopen, hbroken⟩ := handled_cases hash hT hstopped raw
  . have hflushed := htracks.quiet.eofFlushed
    rw [← shapeOf_append_read (.ok line), ← hflushed] at htracks
    constructor
    . refine iff_of_true (wellFormed_of_tracks htracks hunread ?_) ⟨?_, ?_⟩
      . intro h _
        exact (Bool.and_eq_true_iff.mp h).2
      . intro h
        exact absurd h (by simp [hstopped])
      . intro raw' hraw'
        cases hraw.symm.trans hraw'
        exact hopen
    . intro _ _
      refine ⟨htracks, fun _ => rfl, ?_⟩
      intro h
      cases h.symm.trans (hflushed.trans hunflushed)
  . rw [← shapeOf_append_read (.ok line)] at hbroken
    have hnot : ∀ ended, ¬ WellFormed { (({ run with lines }.record
        [.read (.ok line)]).handle hash raw) with dataLines := [], ended } := by
      intro ended h
      exact h.shaped hbroken
    refine ⟨iff_of_false (hnot _) ?_, fun h => absurd h (hnot _)⟩
    intro h
    exact hopen (h.opened raw hraw)

theorem exact_line (hT : run.Tracked) (hW : run.WellFormed) (hended : run.ended = false)
    (hbuffered : run.adapter.buffered = []) {line : String} {lines : UnifiedStreamSource}
    (hlines : run.lines = .ok line :: lines)
    : ExactRead serde run
        (({ run with lines }.record [.read (.ok line)]).onLine serde hash line) := by
  have hread : UnreadAfterEnd (run.log ++ [.read (.ok line)])
      ↔ run.adapter.messageStopped = false := by
    rw [unreadAfterEnd_append_read_iff hW.unread
      (queuedShape_of_buffered_nil hbuffered ▸ hW.shaped), Ne,
      shapeOf_eq_finished_iff hT hbuffered, Bool.not_eq_true]
  have hne : run.lines ≠ [] := by
    rw [hlines]
    nofun
  cases hstopped : run.adapter.messageStopped with
  | true =>
    have hnot : ¬ WellFormed
        (({ run with lines }.record [.read (.ok line)]).onLine serde hash line) := by
      intro h
      have hunread := h.unread
      rw [log_onLine] at hunread
      rw [hread.mp hunread] at hstopped
      cases hstopped
    exact ⟨iff_of_false hnot (fun h => hne (h.finished hstopped)), fun h => absurd h hnot⟩
  | false =>
    have hunread := hread.mpr hstopped
    have hkept := kept_line hT hended hstopped hne hunread lines
    have horderly : run.eventRead serde = none → run.ReadOrderly serde := by
      intro hnone
      refine ⟨fun h => absurd h (by simp [hstopped]), ?_⟩
      rw [hnone]
      nofun
    unfold onLine onBlank
    dsimp only
    split
    . next hblank =>
      have hevent : run.eventRead serde = frameEvent serde run.dataLines := by
        unfold eventRead
        rw [hlines]
        exact if_pos hblank
      split
      . next hframe =>
        exact ⟨iff_of_true (hkept []).1 (horderly (hevent.trans hframe)), fun _ _ => (hkept []).2⟩
      . next raw hframe =>
        exact exact_frame hT hstopped hne hunread lines (hevent.trans hframe)
    . next hline =>
      have hnone : run.eventRead serde = none := by
        unfold eventRead
        rw [hlines]
        exact if_neg hline
      split
      . next stripped _ =>
        exact ⟨iff_of_true (hkept (run.dataLines ++ [stripped])).1 (horderly hnone),
          fun _ _ => (hkept (run.dataLines ++ [stripped])).2⟩
      . exact ⟨iff_of_true (hkept run.dataLines).1 (horderly hnone),
          fun _ _ => (hkept run.dataLines).2⟩

theorem frameEvent_nil (serde : SerdeJson) : frameEvent serde [] = none := by
  unfold frameEvent
  exact if_pos (.inl (by decide))

theorem complete_of_flushed {adapter : OpenCodeEventAdapter}
    (h : adapter.Waiting true (shapeOf run.log) ∨ adapter.Ended true (shapeOf run.log))
    (hunread : UnreadAfterEnd run.log) (hlines : run.lines = []) (ended : Bool)
    : WellFormed { run with adapter, dataLines := [], ended }
        ∧ Tracked { run with adapter, dataLines := [], ended } := by
  have htracks : adapter.Tracks true (shapeOf run.log) := h.imp_right .inr
  have hstopped : adapter.messageStarted = true → adapter.messageStopped = true := by
    intro hstarted
    obtain h | h := h
    . exact absurd hstarted (by simp [h.unstarted])
    . exact h.stopped
  rw [← htracks.quiet.eofFlushed] at htracks
  exact ⟨wellFormed_of_tracks htracks hunread (fun _ => hstopped), htracks, fun _ => rfl,
    fun _ => ⟨hlines, rfl, hstopped⟩⟩

theorem exact_eof (hT : run.Tracked) (hW : run.WellFormed) (hlines : run.lines = [])
    : ExactRead serde run (run.onEof serde hash) := by
  have hevent : run.eventRead serde = frameEvent serde run.dataLines := by
    unfold eventRead
    rw [hlines]
  unfold onEof
  cases hframe : frameEvent serde run.dataLines with
  | none =>
    have hflushed : (run.adapter.flushEofOnce hash).Waiting true (shapeOf run.log)
        ∨ (run.adapter.flushEofOnce hash).Ended true (shapeOf run.log) := by
      cases heof : run.adapter.eofFlushed with
      | false => exact flushEofOnce_of_unflushed hash (heof ▸ hT.tracks)
      | true =>
        unfold flushEofOnce
        rw [if_pos heof]
        obtain h | h | h := hT.tracks
        . exact .inl (heof ▸ h)
        . exact absurd ((hT.flushed heof).2.2 h.started) (by simp [h.unstopped])
        . exact .inr (heof ▸ h)
    have hcomplete := complete_of_flushed hflushed hW.unread hlines
    refine ⟨iff_of_true (hcomplete _).1 ⟨fun _ => hlines, ?_⟩, fun _ _ => (hcomplete _).2⟩
    rw [hevent, hframe]
    nofun
  | some raw =>
    have hdata : run.dataLines ≠ [] := by
      intro hnil
      rw [hnil, frameEvent_nil] at hframe
      cases hframe
    have hstopped : run.adapter.messageStopped = false := by
      rw [← Bool.not_eq_true]
      exact fun h => hdata (hT.framed h)
    have hunflushed : run.adapter.eofFlushed = false := by
      rw [← Bool.not_eq_true]
      exact fun h => hdata (hT.flushed h).2.1
    obtain ⟨hopen, htracks⟩ | ⟨hopen, hbroken⟩ := handled_cases hash hT hstopped raw
    . rw [hunflushed] at htracks
      have hcomplete := complete_of_flushed (flushEofOnce_of_unflushed hash htracks) hW.unread hlines
      refine ⟨iff_of_true (hcomplete _).1 ⟨fun _ => hlines, ?_⟩, fun _ _ => (hcomplete _).2⟩
      rw [hevent, hframe]
      intro raw' hraw'
      cases hraw'
      exact hopen
    . have hnot : ∀ ended, ¬ WellFormed { (run.handle hash raw) with
          adapter := (run.adapter.handleRawEvent hash raw).flushEofOnce hash
          dataLines := []
          ended } := by
        intro ended h
        exact h.shaped (broken_flushEofOnce hash hbroken)
      refine ⟨iff_of_false (hnot _) ?_, fun h => absurd h (hnot _)⟩
      intro h
      exact hopen (h.opened raw (hevent.trans hframe))

variable (serde) (hash) in
theorem exact_readItem (hT : run.Tracked) (hW : run.WellFormed) (hended : run.ended = false)
    (hbuffered : run.adapter.buffered = [])
    : ExactRead serde run (run.readItem serde hash) := by
  unfold readItem
  split
  . next line lines hlines => exact exact_line hT hW hended hbuffered hlines
  . next error lines hlines => exact exact_readError hT hW hbuffered hlines
  . next hlines => exact exact_eof hT hW hlines

theorem found_user (user : Option String) (hT : run.Tracked) (hW : run.WellFormed)
    : Tracked { run with adapter := { run.adapter with targetUserMessageId := user } }
        ∧ WellFormed { run with adapter := { run.adapter with targetUserMessageId := user } } := by
  refine ⟨⟨?_, hT.framed, hT.flushed⟩, ⟨hW.shaped, hW.unread, hW.complete⟩⟩
  obtain h | h | h := hT.tracks
  . exact .inl { h with }
  . exact .inr (.inl { h with })
  . exact .inr (.inr { h with })

theorem exact_turn (hT : run.ended = false → run.Tracked) (hW : run.WellFormed) {run' : AdapterRun}
    (hturn : run.turn serde hash poll = some run')
    : Exact serde run poll run' := by
  unfold turn at hturn
  split at hturn
  . cases hturn
  . next hended =>
    rw [Bool.not_eq_true] at hended
    replace hT := hT hended
    split at hturn
    . next event buffered hbuffered =>
      cases hturn
      exact exact_pop hT hW hended hbuffered
    . next hbuffered =>
      dsimp only at hturn
      obtain ⟨user, hpoll⟩ | ⟨error, hpoll⟩ := pollTargetUserMessageId_cases run.adapter poll
      . have hnone : (run.adapter.pollTargetUserMessageId poll).upstreamError = none := by
          rw [hpoll]
          exact hT.tracks.quiet.upstreamError
        rw [hnone] at hturn
        cases hturn
        rw [hpoll]
        obtain ⟨hT', hW'⟩ := found_user user hT hW
        obtain ⟨hiff, htracked⟩ := exact_readItem serde hash hT' hW' hended hbuffered
        refine ⟨hiff.trans ?_, htracked⟩
        constructor
        . intro h
          exact ⟨fun _ hstopped => ⟨h.finished hstopped, hnone⟩, fun _ _ => h.opened⟩
        . intro h
          exact ⟨fun hstopped => (h.finished hbuffered hstopped).1, h.opened hbuffered hnone⟩
      . rw [hpoll] at hturn
        cases hturn
        exact exact_failed hT hW hbuffered hpoll

end Step

variable (serde : SerdeJson) (hash : HashOrder) (targetSessionId : String)
  (lines : UnifiedStreamSource)

theorem tracked_start : Tracked (start targetSessionId lines) := by
  refine ⟨.inl ⟨⟨rfl, rfl⟩, rfl, rfl, rfl, ⟨ledger_new targetSessionId, ?_, ?_⟩, rfl⟩, nofun, nofun⟩
  . exact fun index => iff_of_false List.not_mem_nil nofun
  . exact fun index => iff_of_false List.not_mem_nil nofun

theorem wellFormed_start : WellFormed (start targetSessionId lines) := by
  refine wellFormed_of_tracks (tracked_start targetSessionId lines).tracks ?_ nofun
  intro earlier later heq _ item hmem
  rw [(List.append_eq_nil_iff.mp heq.symm).2] at hmem
  cases hmem

theorem always_wellFormed_iff (polls : List MessageIdPoll)
    : Runs.Always (turn serde hash) WellFormed (start targetSessionId lines) polls
        ↔ Runs.Guarded (turn serde hash) (Orderly serde) (start targetSessionId lines) polls := by
  refine Runs.always_iff_guarded (fun run => run.WellFormed → run.ended = false → run.Tracked)
    (fun _ => True) ?_ ?_ (wellFormed_start targetSessionId lines) (fun _ _ => trivial)
  . intro run poll run' hT _ hW hturn
    obtain ⟨hiff, htracked⟩ := exact_turn (hT hW) hW hturn
    exact ⟨htracked, hiff⟩
  . intro _ _
    exact tracked_start targetSessionId lines

def failedEvent : Value :=
  .object [
    ("sessionID", .string "s"),
    ("status", .string "error"),
    ("type", .string "session.status")]

def eventLines (event : Value) : UnifiedStreamSource :=
  [.ok ("data: " ++ event.render), .ok ""]

/-- Behind an error of the session the source is read on, and a second error is emitted. -/
theorem not_always_wellFormed
    : ¬ Runs.Always (turn (.ofValues [failedEvent]) .inserted) WellFormed
        (start "s" (eventLines failedEvent ++ eventLines failedEvent))
        (List.replicate 5 .empty) := by
  intro h
  have hshape : ((Runs.run (turn (.ofValues [failedEvent]) .inserted)
      (start "s" (eventLines failedEvent ++ eventLines failedEvent))
      (List.replicate 5 .empty)).map queuedShape) = some .broken := by
    decide +kernel
  obtain ⟨run, hrun, hbroken⟩ := Option.map_eq_some_iff.mp hshape
  exact (h.run_eq_some hrun).shaped hbroken

end AdapterRun

end AnimaAgent
