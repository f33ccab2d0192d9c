import AnimaAgent.Cache.Lru
import AnimaAgent.Library.IndexMap

/-!
This module contains the storage of contexts in two tiers: a memory tier that evicts its least recently
used entry when it is full, and a tier of files. Entries move between the tiers. What the document of a
file says is the record that is read back from it: `reread` gives the value that is parsed from the text
of a value, which need not be the same one, or none if the text is not accepted.
-/

namespace AnimaAgent

inductive StorageTier where
  | l1
  | l2
  deriving DecidableEq

structure ContextEntry (ν : Type) where
  key : String
  value : ν
  tier : StorageTier
  createdAtMs : UInt64
  accessedAtMs : UInt64
  accessCount : UInt64
  ttlMs : Option UInt64

def outlived (now createdAtMs : UInt64) (ttlMs : Option UInt64) : Bool :=
  match ttlMs with
  | some ttl => decide (ttl < saturatingSub now createdAtMs)
  | none => false

def ContextEntry.isExpired {ν : Type} (now : UInt64) (entry : ContextEntry ν) : Bool :=
  outlived now entry.createdAtMs entry.ttlMs

structure MemoryStorage (ν : Type) where
  entries : IndexMap String (ContextEntry ν)
  lruOrder : List String
  maxEntries : Nat

namespace MemoryStorage

variable {ν : Type} (l1 : MemoryStorage ν)

def new (maxEntries : Option Nat) : MemoryStorage ν where
  entries := .empty
  lruOrder := []
  maxEntries := maxEntries.getD 10000

def touchLru (key : String) : MemoryStorage ν :=
  { l1 with lruOrder := l1.lruOrder.filter (fun k => k != key) ++ [key] }

def evictLru : MemoryStorage ν :=
  match l1.lruOrder with
  | [] => l1
  | evictKey :: rest => { l1 with entries := l1.entries.shiftRemove evictKey, lruOrder := rest }

def getEntry (now accessedAt : UInt64) (key : String) : Option (ContextEntry ν) × MemoryStorage ν :=
  match l1.entries.get key with
  | none => (none, l1)
  | some entry =>
    if entry.isExpired now then
      (none, { l1 with
        entries := l1.entries.shiftRemove key
        lruOrder := l1.lruOrder.filter (fun k => k != key) })
    else
      let entry := { entry with accessCount := entry.accessCount + 1, accessedAtMs := accessedAt }
      (some entry, touchLru { l1 with entries := l1.entries.insert key entry } key)

def setEntry (now : UInt64) (key : String) (value : ν) (ttlMs : Option UInt64) : MemoryStorage ν :=
  let room :=
    if l1.maxEntries ≤ l1.entries.keys.length ∧ key ∉ l1.entries.keys then l1.evictLru else l1
  let entry := {
    key := key
    value := value
    tier := .l1
    createdAtMs := now
    accessedAtMs := now
    accessCount := 0
    ttlMs := ttlMs }
  touchLru { room with entries := room.entries.insert key entry } key

def deleteEntry (key : String) : Bool × MemoryStorage ν :=
  if key ∈ l1.entries.keys then
    (true, { l1 with
      entries := l1.entries.shiftRemove key
      lruOrder := l1.lruOrder.filter (fun k => k != key) })
  else
    (false, l1)

def clear : MemoryStorage ν :=
  { l1 with entries := .empty, lruOrder := [] }

end MemoryStorage

inductive WriteOutcome where
  | written
  | refused
  | torn
  deriving DecidableEq

structure Disk where
  reads : String → Bool
  writes : String → WriteOutcome
  removes : String → Bool

def Disk.working : Disk where
  reads _ := true
  writes _ := .written
  removes _ := true

structure FileRecord (ν : Type) where
  key : String
  value : ν
  createdAtMs : UInt64
  accessCount : UInt64
  ttlMs : Option UInt64

def FileRecord.toEntry {ν : Type} (accessedAt : UInt64) (stored : FileRecord ν) : ContextEntry ν where
  key := stored.key
  value := stored.value
  tier := .l2
  createdAtMs := stored.createdAtMs
  accessedAtMs := accessedAt
  accessCount := stored.accessCount + 1
  ttlMs := stored.ttlMs

structure FileStorage (ν : Type) where
  files : IndexMap String (Option (FileRecord ν))

def replaceChar (c : Char) (replacement : String) (s : String) : String :=
  String.ofList (s.toList.flatMap (fun x => if x = c then replacement.toList else [x]))

def keyToFilename (key : String) : String :=
  replaceChar ':' "_COLON_" (replaceChar '\\' "_BSLASH_" (replaceChar '/' "_SLASH_" key))

namespace FileStorage

variable {ν : Type} (reread : ν → Option ν) (disk : Disk) (l2 : FileStorage ν)

def new : FileStorage ν where
  files := .empty

def removeFile (name : String) : Bool × FileStorage ν :=
  if name ∈ l2.files.keys ∧ disk.removes name then
    (true, { l2 with files := l2.files.shiftRemove name })
  else
    (false, l2)

def getEntry (accessedAt now : UInt64) (key : String) : Option (ContextEntry ν) × FileStorage ν :=
  if disk.reads (keyToFilename key) then
    match l2.files.get (keyToFilename key) with
    | some (some stored) =>
      if (stored.toEntry accessedAt).isExpired now then
        (none, (l2.removeFile disk (keyToFilename key)).2)
      else
        (some (stored.toEntry accessedAt), l2)
    | _ => (none, l2)
  else
    (none, l2)

def setEntry (now : UInt64) (key : String) (value : ν) (ttlMs : Option UInt64) : FileStorage ν :=
  let stored := (reread value).map (fun value => {
    key := key
    value := value
    createdAtMs := now
    accessCount := 0
    ttlMs := ttlMs })
  match disk.writes (keyToFilename key) with
  | .written => { l2 with files := l2.files.insert (keyToFilename key) stored }
  | .refused => l2
  | .torn => { l2 with files := l2.files.insert (keyToFilename key) none }

def deleteEntry (key : String) : Bool × FileStorage ν :=
  l2.removeFile disk (keyToFilename key)

end FileStorage

structure TieredStorageConfig where
  l1MaxEntries : Option Nat
  enableL2 : Option Bool
  promotionThreshold : Option UInt64
  demotionThresholdMs : Option UInt64

structure TieredStorage (ν : Type) where
  l1 : MemoryStorage ν
  l2 : Option (FileStorage ν)
  promotionThreshold : UInt64
  demotionThresholdMs : UInt64

namespace TieredStorage

variable {ν : Type}

def new (config : TieredStorageConfig) : TieredStorage ν where
  l1 := .new config.l1MaxEntries
  l2 := if config.enableL2.getD true then some .new else none
  promotionThreshold := config.promotionThreshold.getD 5
  demotionThresholdMs := config.demotionThresholdMs.getD (30 * 60 * 1000)

/-! The clock gives the readings that a call takes one after the other. -/

variable (reread : ν → Option ν) (disk : Disk) (clock : Nat → UInt64) (s : TieredStorage ν)

def get (key : String) : Option ν × TieredStorage ν :=
  match s.l1.getEntry (clock 0) (clock 1) key with
  | (some entry, l1) => (some entry.value, { s with l1 := l1 })
  | (none, l1) =>
    match s.l2 with
    | none => (none, { s with l1 := l1 })
    | some l2 =>
      match l2.getEntry disk (clock 1) (clock 2) key with
      | (none, l2) => (none, { s with l1 := l1, l2 := some l2 })
      | (some entry, l2) =>
        let l1 :=
          if s.promotionThreshold ≤ entry.accessCount then
            l1.setEntry (clock 3) key entry.value entry.ttlMs
          else
            l1
        (some entry.value, { s with l1 := l1, l2 := some l2 })

def set (key : String) (value : ν) (ttlMs : Option UInt64) : TieredStorage ν :=
  { s with
    l1 := s.l1.setEntry (clock 0) key value ttlMs
    l2 := s.l2.map (fun l2 => l2.setEntry reread disk (clock 1) key value ttlMs) }

def delete (key : String) : Bool × TieredStorage ν :=
  let (l1Deleted, l1) := s.l1.deleteEntry key
  match s.l2 with
  | none => (l1Deleted, { s with l1 := l1 })
  | some l2 =>
    let (l2Deleted, l2) := l2.deleteEntry disk key
    (l1Deleted || l2Deleted, { s with l1 := l1, l2 := some l2 })

def promote (key : String) : Bool × TieredStorage ν :=
  match s.l2 with
  | none => (false, s)
  | some l2 =>
    match l2.getEntry disk (clock 0) (clock 1) key with
    | (none, l2) => (false, { s with l2 := some l2 })
    | (some entry, l2) =>
      (true, { s with
        l1 := s.l1.setEntry (clock 2) key entry.value entry.ttlMs
        l2 := some (l2.deleteEntry disk key).2 })

def moveDown (n : Nat) (key : String) : Bool × TieredStorage ν :=
  match s.l1.getEntry (clock n) (clock (n + 1)) key with
  | (none, l1) => (false, { s with l1 := l1 })
  | (some entry, l1) =>
    (true, { s with
      l1 := (l1.deleteEntry key).2
      l2 := s.l2.map (fun l2 => l2.setEntry reread disk (clock (n + 2)) key entry.value entry.ttlMs) })

def demote (key : String) : Bool × TieredStorage ν :=
  match s.l2 with
  | none => (false, s)
  | some _ => s.moveDown reread disk clock 0 key

def coldKeys (now : UInt64) : List String :=
  (s.l1.entries.entries.filter (fun entry =>
    decide (s.demotionThresholdMs < saturatingSub now entry.2.accessedAtMs))).map Prod.fst

def moveAllDown (n : Nat) (s : TieredStorage ν) : List String → Nat × TieredStorage ν
  | [] => (0, s)
  | key :: rest =>
    let (moved, s) := s.moveDown reread disk clock n key
    let (count, s) := moveAllDown (n + 3) s rest
    (count + moved.toNat, s)

def demoteColdEntries : Nat × TieredStorage ν :=
  moveAllDown reread disk clock 1 s (s.coldKeys (clock 0))

end TieredStorage

end AnimaAgent
