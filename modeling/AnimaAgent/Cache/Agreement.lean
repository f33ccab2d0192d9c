import AnimaAgent.Cache.Shared

namespace AnimaAgent

structure CacheBoard.Agrees (board : CacheBoard) : Prop where
  nodup : board.accessOrder.Nodup
  mem_iff : ∀ key, key ∈ board.accessOrder ↔ key ∈ board.entries.keys

abbrev SharedCache : Type := Threads CacheBoard CachePhase

inductive CacheAction where
  | start (call : CacheRequest)
  | advance (i : Nat) (now : UInt64)

def CachePhase.aloneStep (s : CacheBoard × CachePhase) (now : UInt64)
    : Option (CacheBoard × CachePhase) :=
  s.2.act now s.1

structure CacheBoard.SetEnds (board : CacheBoard) (write : CacheWrite) : Prop where
  returns : ∃ steps, ∀ clock : List UInt64, clock.length = steps
    → ∃ board', Runs.run CachePhase.aloneStep (board, .checking write) clock
        = some (board', .returned (.wrote write.value))
  turn : ∀ (clock : List UInt64) board', Runs.run CachePhase.aloneStep (board, .checking write) clock
      = some (board', .selecting write)
    → ∀ a b c : UInt64, ∃ board'',
        Runs.run CachePhase.aloneStep (board', .selecting write) [a, b, c]
          = some (board'', .checking write)
        ∧ board''.entries.keys.length + 1 = board'.entries.keys.length

namespace SharedCache

def new (maxEntries : Option Nat) (defaultTtlMs : Option UInt64) : SharedCache where
  shared := .new maxEntries defaultTtlMs
  threads := []

def step (s : SharedCache) : CacheAction → Option SharedCache
  | .start call => some (Threads.start call.begin s)
  | .advance i now => Threads.advance (CachePhase.act now) i s

structure Settled (s : SharedCache) : Prop where
  agrees : s.shared.Agrees
  length_le : s.shared.entries.keys.length ≤ s.shared.maxEntries
  setEnds : ∀ write, s.shared.SetEnds write

def Settles (s : SharedCache) : Prop :=
  (∀ phase ∈ s.threads, phase.isReturned) → s.Settled

def Another (s : SharedCache) (i : Nat) (P : CachePhase → Prop) : Prop :=
  ∃ phase ∈ s.threads.eraseIdx i, P phase

/--
A key is put into the order while it has an entry or is about to be taken out of the order again, and is
taken out of the order while it has no entry or is about to be put there again. A new key gets an entry
while there is room.
-/
structure Timely (s : SharedCache) (i : Nat) (phase : CachePhase) : Prop where
  tracks : ∀ key ∈ phase.tracks, key ∈ s.shared.entries.keys
    ∨ s.Another i (fun other => other.untracks = some key)
  untracks : ∀ key ∈ phase.untracks, key ∉ s.shared.entries.keys
    ∨ s.Another i (fun other => other.tracks = some key)
  inserts : ∀ key ∈ phase.inserts, key ∈ s.shared.entries.keys
    ∨ s.shared.entries.keys.length < s.shared.maxEntries

def InTime (s : SharedCache) : CacheAction → Prop
  | .start _ => True
  | .advance i _ => ∀ phase ∈ s.threads[i]?, s.Timely i phase

instance (s : SharedCache) (i : Nat) (P : CachePhase → Prop) [DecidablePred P]
    : Decidable (s.Another i P) :=
  inferInstanceAs (Decidable (∃ phase ∈ s.threads.eraseIdx i, P phase))

instance (s : SharedCache) (i : Nat) (phase : CachePhase) : Decidable (s.Timely i phase) :=
  decidable_of_iff
    ((∀ key ∈ phase.tracks, key ∈ s.shared.entries.keys
        ∨ s.Another i (fun other => other.untracks = some key))
      ∧ (∀ key ∈ phase.untracks, key ∉ s.shared.entries.keys
        ∨ s.Another i (fun other => other.tracks = some key))
      ∧ ∀ key ∈ phase.inserts, key ∈ s.shared.entries.keys
        ∨ s.shared.entries.keys.length < s.shared.maxEntries)
    ⟨fun h => ⟨h.1, h.2.1, h.2.2⟩, fun h => ⟨h.tracks, h.untracks, h.inserts⟩⟩

instance (s : SharedCache) : DecidablePred s.InTime
  | .start _ => inferInstanceAs (Decidable True)
  | .advance i _ => inferInstanceAs (Decidable (∀ phase ∈ s.threads[i]?, s.Timely i phase))

structure Repaired (s : SharedCache) : Prop where
  nodup : s.shared.accessOrder.Nodup
  length_le : s.shared.entries.keys.length ≤ s.shared.maxEntries
  untracked : ∀ key ∈ s.shared.accessOrder, key ∉ s.shared.entries.keys
    → ∃ phase ∈ s.threads, phase.untracks = some key
  tracked : ∀ key ∈ s.shared.entries.keys, key ∉ s.shared.accessOrder
    → ∃ phase ∈ s.threads, phase.tracks = some key

end SharedCache

namespace CacheBoard

variable {board : CacheBoard}

theorem nodup_untrack (key : String) (h : board.accessOrder.Nodup)
    : (board.untrack key).accessOrder.Nodup := by
  exact h.filter _

theorem nodup_track (key : String) (h : board.accessOrder.Nodup)
    : (board.track key).accessOrder.Nodup := by
  unfold track
  apply List.nodup_append.mpr
  refine ⟨h.filter _, List.nodup_singleton _, ?_⟩
  intro existing hmem other hother heq
  rw [List.mem_singleton] at hother
  rw [heq, hother] at hmem
  simp at hmem

theorem length_keys_remove_le (key : String)
    : (board.remove key).entries.keys.length ≤ board.entries.keys.length := by
  unfold remove
  rw [IndexMap.keys_shiftRemove]
  apply List.length_filter_le

theorem length_keys_remove {key : String} (h : key ∈ board.entries.keys)
    : (board.remove key).entries.keys.length + 1 = board.entries.keys.length := by
  unfold remove
  rw [IndexMap.keys_shiftRemove]
  have hnodup : board.entries.keys.Nodup := board.entries.nodup
  have herase := hnodup.erase_eq_filter key
  have hlength := List.length_erase_of_mem h
  have hpos := List.length_pos_of_mem h
  have hfilter : board.entries.keys.filter (fun other => decide (other ≠ key))
      = board.entries.keys.filter (fun other => other != key) := by
    apply List.filter_congr
    intro other _
    by_cases hother : other = key
    . simp [hother]
    . simp [hother]
  rw [hfilter, ← herase]
  omega

theorem length_keys_insert_le {key : String} {limit : Nat} (entry : CacheEntry)
    (hle : board.entries.keys.length ≤ limit)
    (h : key ∈ board.entries.keys ∨ board.entries.keys.length < limit)
    : (board.insert key entry).entries.keys.length ≤ limit := by
  unfold insert
  dsimp only
  rw [IndexMap.keys_insert]
  split
  . exact hle
  . next hnew =>
    rw [List.length_append, List.length_singleton]
    have := h.resolve_left hnew
    omega

end CacheBoard

namespace SharedCache

variable {s s' : SharedCache} {i : Nat}

theorem another_mem_set {P : CachePhase → Prop} (phase' : CachePhase) (h : s.Another i P)
    : ∃ phase ∈ s.threads.set i phase', P phase := by
  obtain ⟨phase, hmem, hP⟩ := h
  obtain ⟨j, hne, hj⟩ := List.mem_eraseIdx_iff_getElem?.mp hmem
  exact ⟨phase, Threads.mem_set_of_ne phase' hne hj, hP⟩

theorem exists_mem_set_of_not {P : CachePhase → Prop} {phase : CachePhase} (phase' : CachePhase)
    (hi : s.threads[i]? = some phase) (hnot : ¬ P phase) (h : ∃ phase ∈ s.threads, P phase)
    : ∃ phase ∈ s.threads.set i phase', P phase := by
  apply Threads.exists_mem_set hi
  . intro hP
    exact absurd hP hnot
  . exact h

theorem repaired_new (maxEntries : Option Nat) (defaultTtlMs : Option UInt64)
    : (new maxEntries defaultTtlMs).Repaired := by
  refine ⟨List.nodup_nil, Nat.zero_le _, ?_, ?_⟩
  . intro key hkey
    cases hkey
  . intro key hkey
    cases hkey

theorem repaired_start (phase : CachePhase) (h : s.Repaired)
    : Repaired (Threads.start phase s) := by
  refine ⟨h.nodup, h.length_le, ?_, ?_⟩
  . intro key hkey hnot
    obtain ⟨other, hmem, hother⟩ := h.untracked key hkey hnot
    exact ⟨other, List.mem_append_left _ hmem, hother⟩
  . intro key hkey hnot
    obtain ⟨other, hmem, hother⟩ := h.tracked key hkey hnot
    exact ⟨other, List.mem_append_left _ hmem, hother⟩

theorem repaired_change {phase phase' : CachePhase} {board' : CacheBoard}
    (hi : s.threads[i]? = some phase) (h : s.Repaired) (htimely : s.Timely i phase)
    (hchange : CachePhase.Change s.shared phase board' phase')
    (hmax : board'.maxEntries = s.shared.maxEntries)
    : Repaired { shared := board', threads := s.threads.set i phase' } := by
  -- a call whose step is none of these on a key has not been the one to put it right
  have huntracked : ∀ key, phase.untracks ≠ some key → key ∈ s.shared.accessOrder
      → key ∉ s.shared.entries.keys → ∃ other ∈ s.threads.set i phase', other.untracks = some key := by
    intro key hphase hkey hnot
    apply exists_mem_set_of_not phase' hi hphase
    exact h.untracked key hkey hnot
  have htracked : ∀ key, phase.tracks ≠ some key → key ∈ s.shared.entries.keys
      → key ∉ s.shared.accessOrder → ∃ other ∈ s.threads.set i phase', other.tracks = some key := by
    intro key hphase hkey hnot
    apply exists_mem_set_of_not phase' hi hphase
    exact h.tracked key hkey hnot
  have hself : phase' ∈ s.threads.set i phase' := Threads.mem_set_self phase' hi
  cases hchange with
  | looked _ _ hkeys horder huntracks htracks =>
    constructor
    . dsimp only
      rw [horder]
      exact h.nodup
    . dsimp only
      rw [hkeys, hmax]
      exact h.length_le
    . dsimp only
      rw [hkeys, horder]
      intro key hkey hnot
      apply huntracked key _ hkey hnot
      simp [huntracks]
    . dsimp only
      rw [hkeys, horder]
      intro key hkey hnot
      apply htracked key _ hkey hnot
      simp [htracks]
  | removed gone _ hphase' huntracks htracks =>
    constructor
    . exact h.nodup
    . exact (CacheBoard.length_keys_remove_le gone).trans h.length_le
    . intro key hkey hnot
      by_cases hgone : key = gone
      . rw [hgone]
        exact ⟨phase', hself, hphase'⟩
      . apply huntracked key _ hkey
        . intro hmem
          exact hnot (CacheBoard.mem_keys_remove.mpr ⟨hmem, hgone⟩)
        . simp [huntracks]
    . intro key hkey hnot
      apply htracked key _ (CacheBoard.mem_keys_remove.mp hkey).1 hnot
      simp [htracks]
  | inserted added entry _ hphase hphase' huntracks htracks =>
    constructor
    . exact h.nodup
    . exact CacheBoard.length_keys_insert_le entry h.length_le (htimely.inserts added hphase)
    . intro key hkey hnot
      apply huntracked key _ hkey
      . intro hmem
        exact hnot (CacheBoard.mem_keys_insert.mpr (.inl hmem))
      . simp [huntracks]
    . intro key hkey hnot
      by_cases hadded : key = added
      . rw [hadded]
        exact ⟨phase', hself, hphase'⟩
      . apply htracked key _ _ hnot
        . simp [htracks]
        . exact (CacheBoard.mem_keys_insert.mp hkey).resolve_right hadded
  | untracked gone _ huntracks htracks =>
    constructor
    . exact CacheBoard.nodup_untrack gone h.nodup
    . exact h.length_le
    . intro key hkey hnot
      obtain ⟨hmem, hne⟩ := CacheBoard.mem_accessOrder_untrack.mp hkey
      apply huntracked key _ hmem hnot
      rw [huntracks, Ne, Option.some.injEq]
      exact fun heq => hne heq.symm
    . intro key hkey hnot
      by_cases hgone : key = gone
      . rw [hgone] at hkey ⊢
        obtain hno | hother := htimely.untracks gone huntracks
        . exact absurd hkey hno
        . exact another_mem_set phase' hother
      . apply htracked key _ hkey
        . intro hmem
          exact hnot (CacheBoard.mem_accessOrder_untrack.mpr ⟨hmem, hgone⟩)
        . simp [htracks]
  | tracked added _ htracks huntracks =>
    constructor
    . exact CacheBoard.nodup_track added h.nodup
    . exact h.length_le
    . intro key hkey hnot
      by_cases hadded : key = added
      . rw [hadded] at hnot ⊢
        obtain hyes | hother := htimely.tracks added htracks
        . exact absurd hyes hnot
        . exact another_mem_set phase' hother
      . apply huntracked key _ _ hnot
        . simp [huntracks]
        . exact (CacheBoard.mem_accessOrder_track.mp hkey).resolve_right hadded
    . intro key hkey hnot
      apply htracked key _ hkey
      . intro hmem
        exact hnot (CacheBoard.mem_accessOrder_track.mpr (.inl hmem))
      . rw [htracks, Ne, Option.some.injEq]
        intro heq
        exact hnot (CacheBoard.mem_accessOrder_track.mpr (.inr heq.symm))

theorem repaired_step {action : CacheAction} (h : s.Repaired) (hintime : s.InTime action)
    (hstep : s.step action = some s')
    : s'.Repaired ∧ s'.shared.maxEntries = s.shared.maxEntries := by
  cases action with
  | start call =>
    cases hstep
    exact ⟨repaired_start _ h, rfl⟩
  | advance i now =>
    obtain ⟨phase, phase', board', hi, hact, rfl⟩ := Threads.advance_eq_some hstep
    obtain ⟨hchange, hmax⟩ := CachePhase.change_of_act hact
    exact ⟨repaired_change hi h (hintime phase hi) hchange hmax, hmax⟩

end SharedCache

namespace CacheBoard

variable {board : CacheBoard} {write : CacheWrite}

theorem Agrees.evict (key : String) (h : board.Agrees) : ((board.remove key).untrack key).Agrees := by
  constructor
  . exact nodup_untrack key h.nodup
  . intro existing
    rw [mem_accessOrder_untrack]
    change _ ↔ existing ∈ (board.remove key).entries.keys
    rw [mem_keys_remove, ← h.mem_iff existing]
    rfl

theorem turn_of_agrees (write : CacheWrite) (h : board.Agrees) (hpos : 0 < board.entries.keys.length)
    : ∃ board' : CacheBoard, board'.Agrees ∧ board'.maxEntries = board.maxEntries
        ∧ board'.entries.keys.length + 1 = board.entries.keys.length
        ∧ ∀ a b c : UInt64, Runs.run CachePhase.aloneStep (board, .selecting write) [a, b, c]
            = some (board', .checking write) := by
  obtain ⟨key, hkey⟩ := List.exists_mem_of_length_pos hpos
  cases horder : board.accessOrder with
  | nil =>
    have hmem := (h.mem_iff key).mpr hkey
    rw [horder] at hmem
    cases hmem
  | cons evictKey rest =>
    have hevict : evictKey ∈ board.entries.keys := by
      apply (h.mem_iff evictKey).mp
      rw [horder]
      exact List.mem_cons_self ..
    refine ⟨(board.remove evictKey).untrack evictKey, h.evict evictKey, rfl, ?_, ?_⟩
    . exact length_keys_remove hevict
    . intro a b c
      have hselect : CachePhase.aloneStep (board, .selecting write) a
          = some (board, .evicting write evictKey) := by
        simp only [CachePhase.aloneStep, CachePhase.act, horder, List.head?_cons]
      have hremove : CachePhase.aloneStep (board, .evicting write evictKey) b
          = some (board.remove evictKey, .releasing write evictKey) := by
        simp only [CachePhase.aloneStep, CachePhase.act, if_pos hevict]
      rw [Runs.run_cons_of_some _ hselect, Runs.run_cons_of_some _ hremove]
      rfl

theorem returns_of_room (clock : List UInt64) (hclock : clock.length = 3)
    (hroom : board.entries.keys.length < board.maxEntries ∨ write.key ∈ board.entries.keys)
    : ∃ board', Runs.run CachePhase.aloneStep (board, .checking write) clock
        = some (board', .returned (.wrote write.value)) := by
  obtain ⟨a, b, c, rfl⟩ := List.length_eq_three.mp hclock
  have hcheck : CachePhase.aloneStep (board, .checking write) a = some (board, .inserting write) := by
    simp only [CachePhase.aloneStep, CachePhase.act, if_pos hroom]
  rw [Runs.run_cons_of_some _ hcheck]
  exact ⟨_, rfl⟩

theorem returns_of_agrees (hmax : 1 ≤ board.maxEntries) (h : board.Agrees)
    : ∃ steps, ∀ clock : List UInt64, clock.length = steps
        → ∃ board', Runs.run CachePhase.aloneStep (board, .checking write) clock
            = some (board', .returned (.wrote write.value)) := by
  induction hlength : board.entries.keys.length generalizing board with
  | zero =>
    refine ⟨3, ?_⟩
    intro clock hclock
    apply returns_of_room clock hclock
    omega
  | succ n ih =>
    by_cases hroom : board.entries.keys.length < board.maxEntries ∨ write.key ∈ board.entries.keys
    . exact ⟨3, fun clock hclock => returns_of_room clock hclock hroom⟩
    . obtain ⟨board', hagrees, hmax', hless, hturn⟩ := turn_of_agrees write h (by omega)
      obtain ⟨steps, hreturns⟩ := ih (by omega) hagrees (by omega)
      refine ⟨steps + 4, ?_⟩
      intro clock hclock
      rcases clock with _ | ⟨now, _ | ⟨a, _ | ⟨b, _ | ⟨c, rest⟩⟩⟩⟩
      . cases hclock
      . cases hclock
      . cases hclock
      . cases hclock
      . have hcheck : CachePhase.aloneStep (board, .checking write) now
            = some (board, .selecting write) := by
          simp only [CachePhase.aloneStep, CachePhase.act, if_neg hroom]
        have hrest : rest.length = steps := by
          simp only [List.length_cons] at hclock
          omega
        rw [Runs.run_cons_of_some _ hcheck]
        change ∃ board'', Runs.run _ _ ([a, b, c] ++ rest) = some (board'', _)
        rw [Runs.run_append, hturn a b c]
        exact hreturns rest hrest

def AloneSet (write : CacheWrite) (s : CacheBoard × CachePhase) : Prop :=
  1 ≤ s.1.maxEntries
    ∧ match s.2 with
      | .checking other => other = write ∧ s.1.Agrees
      | .selecting other => other = write ∧ s.1.Agrees ∧ s.1.maxEntries ≤ s.1.entries.keys.length
      | .evicting other evictKey => other = write ∧ s.1.Agrees ∧ evictKey ∈ s.1.entries.keys
      | .releasing other evictKey => other = write ∧ (s.1.untrack evictKey).Agrees
      | _ => True

theorem aloneSet_step {s s' : CacheBoard × CachePhase} {now : UInt64} (h : AloneSet write s)
    (hstep : CachePhase.aloneStep s now = some s')
    : AloneSet write s' := by
  obtain ⟨board, phase⟩ := s
  obtain ⟨hpos, hphase⟩ := h
  unfold CachePhase.aloneStep CachePhase.act at hstep
  dsimp only at hpos hphase hstep
  split at hstep
  . split at hstep
    . cases hstep
      exact ⟨hpos, trivial⟩
    . split at hstep
      . cases hstep
        exact ⟨hpos, trivial⟩
      . cases hstep
        exact ⟨hpos, trivial⟩
  . cases hstep
    exact ⟨hpos, trivial⟩
  . cases hstep
    exact ⟨hpos, trivial⟩
  . split at hstep
    . cases hstep
      exact ⟨hpos, trivial⟩
    . next hroom =>
      cases hstep
      refine ⟨hpos, hphase.1, hphase.2, ?_⟩
      dsimp only
      omega
  . split at hstep
    . next evictKey hhead =>
      cases hstep
      refine ⟨hpos, hphase.1, hphase.2.1, ?_⟩
      apply (hphase.2.1.mem_iff evictKey).mp
      exact List.mem_of_mem_head? hhead
    . cases hstep
      exact ⟨hpos, trivial⟩
  . split at hstep
    . cases hstep
      exact ⟨hpos, hphase.1, hphase.2.1.evict _⟩
    . cases hstep
      exact ⟨hpos, hphase.1, hphase.2.1⟩
  . cases hstep
    exact ⟨hpos, hphase.1, hphase.2⟩
  . cases hstep
    exact ⟨hpos, trivial⟩
  . cases hstep
    exact ⟨hpos, trivial⟩
  . split at hstep
    . cases hstep
      exact ⟨hpos, trivial⟩
    . cases hstep
      exact ⟨hpos, trivial⟩
  . cases hstep
    exact ⟨hpos, trivial⟩
  . cases hstep

theorem setEnds_of_agrees (write : CacheWrite) (hmax : 1 ≤ board.maxEntries) (h : board.Agrees)
    : board.SetEnds write := by
  constructor
  . exact returns_of_agrees hmax h
  . intro clock board' hrun a b c
    have hstart : AloneSet write (board, .checking write) := ⟨hmax, rfl, h⟩
    have halways : Runs.Always CachePhase.aloneStep (AloneSet write) (board, .checking write) clock :=
      Runs.always_of_forall_step (fun _ _ _ hs hstep => aloneSet_step hs hstep) clock hstart
    obtain ⟨hpos, -, hagrees, hfull⟩ := halways.run_eq_some hrun
    dsimp only at hpos hagrees hfull
    obtain ⟨board'', -, -, hless, hturn⟩ := turn_of_agrees write hagrees (by omega)
    exact ⟨board'', hturn a b c, hless⟩

end CacheBoard

namespace SharedCache

theorem settles_of_repaired {s : SharedCache} (hmax : 1 ≤ s.shared.maxEntries) (h : s.Repaired)
    : s.Settles := by
  intro hquiet
  have hagrees : s.shared.Agrees := by
    constructor
    . exact h.nodup
    . intro key
      constructor
      . intro hkey
        by_contra hnot
        obtain ⟨phase, hmem, hphase⟩ := h.untracked key hkey hnot
        have hreturned := hquiet phase hmem
        cases phase <;> cases hphase <;> cases hreturned
      . intro hkey
        by_contra hnot
        obtain ⟨phase, hmem, hphase⟩ := h.tracked key hkey hnot
        have hreturned := hquiet phase hmem
        cases phase <;> cases hphase <;> cases hreturned
  exact ⟨hagrees, h.length_le, fun write => CacheBoard.setEnds_of_agrees write hmax hagrees⟩

theorem always_settles (maxEntries : Option Nat) (defaultTtlMs : Option UInt64)
    (actions : List CacheAction) (hmax : 1 ≤ maxEntries.getD 1000)
    (hintime : Runs.Guarded step InTime (new maxEntries defaultTtlMs) actions)
    : Runs.Always step Settles (new maxEntries defaultTtlMs) actions := by
  have hinv : ∀ (s : SharedCache) action s', s.Repaired ∧ 1 ≤ s.shared.maxEntries → s.InTime action
      → s.step action = some s' → s'.Repaired ∧ 1 ≤ s'.shared.maxEntries := by
    intro s action s' h hguard hstep
    obtain ⟨hrepaired, hsame⟩ := repaired_step h.1 hguard hstep
    refine ⟨hrepaired, ?_⟩
    rw [hsame]
    exact h.2
  have halways := Runs.always_of_guarded hinv ⟨repaired_new maxEntries defaultTtlMs, hmax⟩ hintime
  apply halways.mono
  intro s h
  exact settles_of_repaired h.2 h.1

def jobWrite : CacheWrite where
  key := "job"
  value := .null
  ttlMs := none

theorem always_settles_written
    : 1 ≤ (some 1 : Option Nat).getD 1000
        ∧ Runs.Always step Settles (new (some 1) none)
          [.start (.set jobWrite), .start (.set jobWrite), .advance 0 1, .advance 1 1, .advance 0 1,
            .advance 1 2, .advance 1 2, .start (.get "job"), .advance 2 3, .advance 0 3,
            .advance 2 4] := by
  refine ⟨by decide, always_settles _ _ _ (by decide) ?_⟩
  decide +kernel

theorem not_always_settles
    : ¬ ∀ (maxEntries : Option Nat) (defaultTtlMs : Option UInt64) (actions : List CacheAction),
        1 ≤ maxEntries.getD 1000
          → Runs.Always step Settles (new maxEntries defaultTtlMs) actions := by
  intro h
  have halways := h (some 1) none
    [.start (.set jobWrite), .advance 0 1, .advance 0 1, .advance 0 1, .start (.get "job"),
      .start (.delete "job"), .advance 1 2, .advance 2 2, .advance 2 2, .advance 1 2] (by decide)
  have hsettled := halways.run_eq_some rfl
  have hquiet := hsettled (by decide)
  have hkey := (hquiet.agrees.mem_iff "job").mp (by decide)
  exact absurd hkey (by decide)

end SharedCache

end AnimaAgent
