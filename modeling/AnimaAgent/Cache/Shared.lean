import AnimaAgent.Cache.Lru
import AnimaAgent.Library.IndexMap
import AnimaAgent.Library.Runs
import AnimaAgent.Library.Threads

namespace AnimaAgent

structure CacheBoard where
  entries : IndexMap String CacheEntry
  accessOrder : List String
  maxEntries : Nat
  defaultTtlMs : UInt64

structure CacheWrite where
  key : String
  value : Value
  ttlMs : Option UInt64

inductive CacheRequest where
  | get (key : String)
  | set (write : CacheWrite)
  | delete (key : String)

inductive CacheResult where
  | read (value : Option Value)
  | wrote (value : Value)
  | deleted (found : Bool)

inductive CachePhase where
  | reading (key : String)
  | forgetting (key : String)
  | touching (key : String) (value : Value)
  | checking (write : CacheWrite)
  | selecting (write : CacheWrite)
  | evicting (write : CacheWrite) (evictKey : String)
  | releasing (write : CacheWrite) (evictKey : String)
  | inserting (write : CacheWrite)
  | tracking (write : CacheWrite)
  | removing (key : String)
  | untracking (key : String)
  | returned (result : CacheResult)

def CacheRequest.begin : CacheRequest → CachePhase
  | .get key => .reading key
  | .set write => .checking write
  | .delete key => .removing key

namespace CacheBoard

def new (maxEntries : Option Nat) (defaultTtlMs : Option UInt64) : CacheBoard where
  entries := .empty
  accessOrder := []
  maxEntries := maxEntries.getD 1000
  defaultTtlMs := defaultTtlMs.getD (5 * 60 * 1000)

variable (board : CacheBoard) (key : String)

def untrack : CacheBoard :=
  { board with accessOrder := board.accessOrder.filter (fun existing => existing != key) }

def track : CacheBoard :=
  { board with accessOrder := board.accessOrder.filter (fun existing => existing != key) ++ [key] }

def remove : CacheBoard :=
  { board with entries := board.entries.shiftRemove key }

def insert (entry : CacheEntry) : CacheBoard :=
  { board with entries := board.entries.insert key entry }

@[simp]
theorem mem_accessOrder_untrack {board : CacheBoard} {key existing : String}
    : existing ∈ (board.untrack key).accessOrder
        ↔ existing ∈ board.accessOrder ∧ existing ≠ key := by
  simp [untrack]

@[simp]
theorem mem_accessOrder_track {board : CacheBoard} {key existing : String}
    : existing ∈ (board.track key).accessOrder
        ↔ existing ∈ board.accessOrder ∨ existing = key := by
  by_cases h : existing = key
  . simp [track, h]
  . simp [track, h]

@[simp]
theorem mem_keys_remove {board : CacheBoard} {key existing : String}
    : existing ∈ (board.remove key).entries.keys ↔ existing ∈ board.entries.keys ∧ existing ≠ key := by
  simp [remove, IndexMap.keys_shiftRemove]

@[simp]
theorem mem_keys_insert {board : CacheBoard} {key existing : String} {entry : CacheEntry}
    : existing ∈ (board.insert key entry).entries.keys
        ↔ existing ∈ board.entries.keys ∨ existing = key := by
  simp only [insert, IndexMap.keys_insert]
  split
  . next h =>
    constructor
    . exact .inl
    . intro hor
      apply hor.elim id
      intro heq
      rw [heq]
      exact h
  . simp

end CacheBoard

namespace CachePhase

def act (now : UInt64) (board : CacheBoard) : CachePhase → Option (CacheBoard × CachePhase)
  | .reading key =>
    match board.entries.get key with
    | none => some (board, .returned (.read none))
    | some entry =>
      if isCacheEntryExpired now entry then
        some (board.remove key, .forgetting key)
      else
        let entry := { entry with accessCount := entry.accessCount + 1, accessedAtMs := now }
        some (board.insert key entry, .touching key entry.value)
  | .forgetting key => some (board.untrack key, .returned (.read none))
  | .touching key value => some (board.track key, .returned (.read (some value)))
  | .checking write =>
    if board.entries.keys.length < board.maxEntries ∨ write.key ∈ board.entries.keys then
      some (board, .inserting write)
    else
      some (board, .selecting write)
  | .selecting write =>
    match board.accessOrder.head? with
    | some evictKey => some (board, .evicting write evictKey)
    | none => some (board, .inserting write)
  | .evicting write evictKey =>
    -- the turn is repeated also when there was nothing to delete
    if evictKey ∈ board.entries.keys then
      some (board.remove evictKey, .releasing write evictKey)
    else
      some (board, .checking write)
  | .releasing write evictKey => some (board.untrack evictKey, .checking write)
  | .inserting write =>
    let entry := {
      key := write.key
      value := write.value
      createdAtMs := now
      accessedAtMs := now
      accessCount := 0
      ttlMs := some (write.ttlMs.getD board.defaultTtlMs) }
    some (board.insert write.key entry, .tracking write)
  | .tracking write => some (board.track write.key, .returned (.wrote write.value))
  | .removing key =>
    if key ∈ board.entries.keys then
      some (board.remove key, .untracking key)
    else
      some (board, .returned (.deleted false))
  | .untracking key => some (board.untrack key, .returned (.deleted true))
  | .returned _ => none

def untracks : CachePhase → Option String
  | .forgetting key => some key
  | .releasing _ evictKey => some evictKey
  | .untracking key => some key
  | _ => none

def tracks : CachePhase → Option String
  | .touching key _ => some key
  | .tracking write => some write.key
  | _ => none

def inserts : CachePhase → Option String
  | .inserting write => some write.key
  | _ => none

def isReturned : CachePhase → Bool
  | .returned _ => true
  | _ => false

inductive Change (board : CacheBoard) (phase : CachePhase) : CacheBoard → CachePhase → Prop where
  | looked (board' : CacheBoard) (phase' : CachePhase) (hkeys : board'.entries.keys = board.entries.keys)
      (horder : board'.accessOrder = board.accessOrder) (huntracks : phase.untracks = none)
      (htracks : phase.tracks = none)
      : Change board phase board' phase'
  | removed (key : String) (phase' : CachePhase) (hphase' : phase'.untracks = some key)
      (huntracks : phase.untracks = none) (htracks : phase.tracks = none)
      : Change board phase (board.remove key) phase'
  | inserted (key : String) (entry : CacheEntry) (phase' : CachePhase)
      (hphase : phase.inserts = some key) (hphase' : phase'.tracks = some key)
      (huntracks : phase.untracks = none) (htracks : phase.tracks = none)
      : Change board phase (board.insert key entry) phase'
  | untracked (key : String) (phase' : CachePhase) (huntracks : phase.untracks = some key)
      (htracks : phase.tracks = none)
      : Change board phase (board.untrack key) phase'
  | tracked (key : String) (phase' : CachePhase) (htracks : phase.tracks = some key)
      (huntracks : phase.untracks = none)
      : Change board phase (board.track key) phase'

theorem change_of_act {now : UInt64} {board board' : CacheBoard} {phase phase' : CachePhase}
    (hact : phase.act now board = some (board', phase'))
    : Change board phase board' phase' ∧ board'.maxEntries = board.maxEntries := by
  unfold act at hact
  split at hact
  . next key =>
    split at hact
    . cases hact
      exact ⟨.looked _ _ rfl rfl rfl rfl, rfl⟩
    . next entry hentry =>
      split at hact
      . cases hact
        exact ⟨.removed key _ rfl rfl rfl, rfl⟩
      . cases hact
        have hmem : key ∈ board.entries.keys := IndexMap.mem_keys_iff.mpr ⟨entry, hentry⟩
        refine ⟨.looked _ _ ?_ rfl rfl rfl, rfl⟩
        unfold CacheBoard.insert
        rw [IndexMap.keys_insert, if_pos hmem]
  . cases hact
    exact ⟨.untracked _ _ rfl rfl, rfl⟩
  . cases hact
    exact ⟨.tracked _ _ rfl rfl, rfl⟩
  . split at hact
    . cases hact
      exact ⟨.looked _ _ rfl rfl rfl rfl, rfl⟩
    . cases hact
      exact ⟨.looked _ _ rfl rfl rfl rfl, rfl⟩
  . split at hact
    . cases hact
      exact ⟨.looked _ _ rfl rfl rfl rfl, rfl⟩
    . cases hact
      exact ⟨.looked _ _ rfl rfl rfl rfl, rfl⟩
  . split at hact
    . cases hact
      exact ⟨.removed _ _ rfl rfl rfl, rfl⟩
    . cases hact
      exact ⟨.looked _ _ rfl rfl rfl rfl, rfl⟩
  . cases hact
    exact ⟨.untracked _ _ rfl rfl, rfl⟩
  . cases hact
    exact ⟨.inserted _ _ _ rfl rfl rfl rfl, rfl⟩
  . cases hact
    exact ⟨.tracked _ _ rfl rfl, rfl⟩
  . split at hact
    . cases hact
      exact ⟨.removed _ _ rfl rfl rfl, rfl⟩
    . cases hact
      exact ⟨.looked _ _ rfl rfl rfl rfl, rfl⟩
  . cases hact
    exact ⟨.untracked _ _ rfl rfl, rfl⟩
  . cases hact

end CachePhase

end AnimaAgent
