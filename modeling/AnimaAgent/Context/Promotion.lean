import AnimaAgent.Context.Copies

namespace AnimaAgent

/-- How the operations on the files go during a read, and the readings that it takes of the time. -/
structure StorageRead where
  disk : Disk
  clock : Nat → UInt64

/-- The file can be read, and what it says has not outlived its time. -/
def StorageRead.Finds {ν : Type} (read : StorageRead) (key : String) (stored : FileRecord ν) : Prop :=
  read.disk.reads (keyToFilename key) = true ∧ stored.copy.isFresh (read.clock 2) = true

theorem MemoryStorage.getEntry_of_copy_eq_none {ν : Type} {l1 : MemoryStorage ν}
    {now accessedAt : UInt64} {key : String} (h : l1.copy key = none)
    : l1.getEntry now accessedAt key = (none, l1) := by
  unfold MemoryStorage.getEntry
  rw [Option.map_eq_none_iff.mp h]

section Unread

variable {ν : Type} {reread : ν → Option ν} {disk : Disk} {clock : Nat → UInt64}

def FileStorage.Unread (l2 : FileStorage ν) : Prop :=
  ∀ name stored, l2.record name = some stored → stored.accessCount = 0

theorem FileStorage.Unread.getEntry {l2 : FileStorage ν} (h : l2.Unread) (accessedAt now : UInt64)
    (key : String)
    : (l2.getEntry disk accessedAt now key).2.Unread := by
  intro name stored hstored
  exact h name stored (record_getEntry_of_some hstored)

theorem FileStorage.Unread.deleteEntry {l2 : FileStorage ν} (h : l2.Unread) (key : String)
    : (l2.deleteEntry disk key).2.Unread := by
  intro name stored hstored
  exact h name stored (record_deleteEntry_of_some hstored)

theorem FileStorage.Unread.setEntry {l2 : FileStorage ν} (h : l2.Unread) (now : UInt64) (key : String)
    (value : ν) (ttlMs : Option UInt64)
    : (l2.setEntry reread disk now key value ttlMs).Unread := by
  intro name stored hstored
  obtain ⟨_, _, _, rfl⟩ | hold := record_setEntry_eq hstored
  . rfl
  . exact h name stored hold

namespace TieredStorage

variable {s : TieredStorage ν}

def Unread (s : TieredStorage ν) : Prop :=
  ∀ l2, s.l2 = some l2 → l2.Unread

theorem Unread.get (h : s.Unread) (key : String) : (s.get disk clock key).2.Unread := by
  unfold TieredStorage.get
  split
  . exact h
  . split
    . next hl2 =>
      intro l2 heq
      cases hl2.symm.trans heq
    . next l2 hl2 =>
      have hread : (l2.getEntry disk (clock 1) (clock 2) key).2.Unread :=
        (h l2 hl2).getEntry _ _ _
      split
      . next heq =>
        rintro _ ⟨⟩
        rwa [heq] at hread
      . next heq =>
        rintro _ ⟨⟩
        rwa [heq] at hread

theorem Unread.map_setEntry (h : s.Unread) {now : UInt64} {key : String} {value : ν}
    {ttlMs : Option UInt64}
    : ∀ l2, s.l2.map (fun l2 => l2.setEntry reread disk now key value ttlMs) = some l2 → l2.Unread := by
  intro l2' heq
  obtain ⟨l2, hl2, rfl⟩ := Option.map_eq_some_iff.mp heq
  exact (h l2 hl2).setEntry now key value ttlMs

theorem Unread.delete (h : s.Unread) (key : String) : (s.delete disk key).2.Unread := by
  unfold TieredStorage.delete
  dsimp only
  cases hl2 : s.l2 with
  | none => exact fun l2 heq => by cases heq
  | some l2 =>
    rintro _ ⟨⟩
    exact (h l2 hl2).deleteEntry key

theorem Unread.promote (h : s.Unread) (key : String) : (s.promote disk clock key).2.Unread := by
  unfold TieredStorage.promote
  split
  . exact h
  . next l2 hl2 =>
    have hread : (l2.getEntry disk (clock 0) (clock 1) key).2.Unread :=
      (h l2 hl2).getEntry _ _ _
    split
    . next heq =>
      rintro _ ⟨⟩
      rwa [heq] at hread
    . next heq =>
      rw [heq] at hread
      rintro _ ⟨⟩
      exact hread.deleteEntry key

theorem Unread.moveDown (h : s.Unread) (n : Nat) (key : String)
    : (s.moveDown reread disk clock n key).2.Unread := by
  obtain ⟨l1, -, ⟨-, hs⟩ | ⟨copy, -, -, hs⟩⟩ := moveDown_spec reread disk clock s n key
  . rw [hs]
    exact h
  . rw [hs]
    exact h.map_setEntry

theorem Unread.demote (h : s.Unread) (key : String) : (s.demote reread disk clock key).2.Unread := by
  unfold TieredStorage.demote
  split
  . exact h
  . exact h.moveDown 0 key

theorem Unread.moveAllDown (h : s.Unread) (n : Nat) (keys : List String)
    : (moveAllDown reread disk clock n s keys).2.Unread := by
  induction keys generalizing n s with
  | nil => exact h
  | cons key rest ih => exact ih (h.moveDown n key) (n + 3)

theorem Unread.act (h : s.Unread) (action : TierAction ν) : (s.act reread disk clock action).Unread := by
  cases action with
  | get key => exact h.get key
  | set key value ttlMs => exact h.map_setEntry
  | delete key => exact h.delete key
  | promote key => exact h.promote key
  | demote key => exact h.demote key
  | demoteColdEntries => exact h.moveAllDown 1 _

end TieredStorage

theorem TierState.always_unread (config : TieredStorageConfig) (time : UInt64)
    (calls : List (TierCall ν))
    : Runs.Always (step reread) (fun s => s.storage.Unread) (TierState.new config time) calls := by
  apply Runs.always_of_forall_step
  . intro s call s' h hstep
    unfold step at hstep
    split at hstep
    . cases hstep
      exact h.act call.action
    . cases hstep
  . intro l2 hl2 name stored hstored
    unfold TierState.new TieredStorage.new at hl2
    dsimp only at hl2
    split at hl2
    . cases hl2
      cases hstored
    . cases hl2

end Unread

namespace TieredStorage

variable {ν : Type} (s : TieredStorage ν) (key : String) (stored : FileRecord ν)

def readAll (reads : List StorageRead) : TieredStorage ν :=
  reads.foldl (fun s read => (s.get read.disk read.clock key).2) s

def countSeen (read : StorageRead) : Option Nat :=
  s.l2.bind (fun l2 =>
    (l2.getEntry read.disk (read.clock 1) (read.clock 2) key).1.map (fun entry =>
      entry.accessCount.toNat))

structure Resides : Prop where
  memory : s.l1.copy key = none
  file : ∃ l2, s.l2 = some l2 ∧ l2.record (keyToFilename key) = some stored

def reachingRead : Nat :=
  max 1 (s.promotionThreshold.toNat - stored.accessCount.toNat)

/-- The entry is promoted by the read that reaches the threshold, and the reads before it are counted. -/
structure PromotesOnTime (reads : List StorageRead) : Prop where
  counted : ∀ n read, reads[n]? = some read → n < s.reachingRead stored
    → (s.readAll key (reads.take n)).countSeen key read = some (stored.accessCount.toNat + n + 1)
  notBefore : ∀ n, n ≤ reads.length → n < s.reachingRead stored
    → (s.readAll key (reads.take n)).l1.copy key = none
  promoted : s.reachingRead stored ≤ reads.length
    → ((s.readAll key (reads.take (s.reachingRead stored))).l1.copy key).map Copy.value
        = some stored.value

variable {s key stored} {read : StorageRead} {reads : List StorageRead}

theorem Resides.get_eq (h : s.Resides key stored) (hfinds : read.Finds key stored)
    : s.get read.disk read.clock key
        = (some stored.value,
          if s.promotionThreshold ≤ stored.accessCount + 1 then
            { s with l1 := s.l1.setEntry (read.clock 3) key stored.value stored.ttlMs }
          else
            s) := by
  obtain ⟨hmemory, l2, hl2, hrecord⟩ := h
  obtain ⟨hreads, hfresh⟩ := hfinds
  have hfile : l2.getEntry read.disk (read.clock 1) (read.clock 2) key
      = (some (stored.toEntry (read.clock 1)), l2) := by
    rw [FileStorage.getEntry_of_record_eq_some hrecord hreads, if_pos hfresh]
  unfold TieredStorage.get
  rw [MemoryStorage.getEntry_of_copy_eq_none hmemory]
  dsimp only
  rw [hl2]
  dsimp only
  rw [hfile]
  dsimp only
  rw [← hl2]
  change (some stored.value,
    { s with l1 := if s.promotionThreshold ≤ stored.accessCount + 1 then _ else _ }) = _
  split
  . rfl
  . rfl

theorem Resides.countSeen_eq (h : s.Resides key stored) (hfinds : read.Finds key stored)
    : s.countSeen key read = some (stored.accessCount + 1).toNat := by
  obtain ⟨-, l2, hl2, hrecord⟩ := h
  obtain ⟨hreads, hfresh⟩ := hfinds
  unfold countSeen
  rw [hl2, Option.bind_some, FileStorage.getEntry_of_record_eq_some hrecord hreads, if_pos hfresh]
  rfl

theorem Resides.readAll_eq_self (h : s.Resides key stored)
    (hfinds : ∀ read ∈ reads, read.Finds key stored)
    (hbelow : ¬ s.promotionThreshold ≤ stored.accessCount + 1)
    : s.readAll key reads = s := by
  induction reads with
  | nil => rfl
  | cons read rest ih =>
    obtain ⟨hfirst, hrest⟩ := List.forall_mem_cons.mp hfinds
    unfold readAll
    rw [List.foldl_cons, h.get_eq hfirst, if_neg hbelow]
    exact ih hrest

theorem reachingRead_eq_one (hbelow : s.promotionThreshold ≤ stored.accessCount + 1)
    (hcount : stored.accessCount.toNat + 1 < 2 ^ 64)
    : s.reachingRead stored = 1 := by
  unfold reachingRead
  rw [UInt64.le_iff_toNat_le, UInt64.toNat_add, UInt64.toNat_one, Nat.mod_eq_of_lt hcount] at hbelow
  omega

theorem one_lt_reachingRead (hbelow : ¬ s.promotionThreshold ≤ stored.accessCount + 1)
    (hcount : stored.accessCount.toNat + 1 < 2 ^ 64)
    : 1 < s.reachingRead stored := by
  unfold reachingRead
  rw [UInt64.le_iff_toNat_le, UInt64.toNat_add, UInt64.toNat_one, Nat.mod_eq_of_lt hcount] at hbelow
  omega

theorem Resides.countSeen_eq_some_iff (h : s.Resides key stored) (hfinds : read.Finds key stored)
    : s.countSeen key read = some (stored.accessCount.toNat + 1)
        ↔ stored.accessCount.toNat + 1 < 2 ^ 64 := by
  rw [h.countSeen_eq hfinds, Option.some_inj, UInt64.toNat_add, UInt64.toNat_one]
  constructor
  . intro hmod
    rw [← hmod]
    exact Nat.mod_lt _ (by decide)
  . exact Nat.mod_eq_of_lt

theorem Resides.lt_of_counted (h : s.Resides key stored) {rest : List StorageRead}
    (hfirst : read.Finds key stored) (hp : s.PromotesOnTime key stored (read :: rest))
    : stored.accessCount.toNat + 1 < 2 ^ 64 := by
  have hreach : 0 < s.reachingRead stored := Nat.lt_of_lt_of_le Nat.zero_lt_one (Nat.le_max_left _ _)
  exact (h.countSeen_eq_some_iff hfirst).mp (hp.counted 0 read rfl hreach)

theorem Resides.of_promotesOnTime (h : s.Resides key stored)
    (hfinds : ∀ read ∈ reads, read.Finds key stored) (hp : s.PromotesOnTime key stored reads)
    : reads = []
        ∨ (stored.accessCount.toNat + 1 < 2 ^ 64
          ∧ (s.promotionThreshold ≤ stored.accessCount + 1 ∨ reads.length ≤ 1)) := by
  match reads with
  | [] => exact .inl rfl
  | [read] => exact .inr ⟨h.lt_of_counted (hfinds read List.mem_cons_self) hp, .inr (Nat.le_refl 1)⟩
  | first :: second :: rest =>
    have hfirst := hfinds first List.mem_cons_self
    have hsecond := hfinds second (List.mem_cons_of_mem _ List.mem_cons_self)
    have hcount := h.lt_of_counted hfirst hp
    refine .inr ⟨hcount, .inl ?_⟩
    by_contra hbelow
    have hseen := hp.counted 1 second rfl (one_lt_reachingRead hbelow hcount)
    have hself : s.readAll key [first] = s :=
      h.readAll_eq_self (List.forall_mem_singleton.mpr hfirst) hbelow
    change (s.readAll key [first]).countSeen key second = _ at hseen
    rw [hself, (h.countSeen_eq_some_iff hsecond).mpr hcount, Option.some_inj] at hseen
    omega

theorem Resides.promotesOnTime_of_le (h : s.Resides key stored)
    (hfinds : ∀ read ∈ reads, read.Finds key stored)
    (hcount : stored.accessCount.toNat + 1 < 2 ^ 64)
    (hreaches : s.promotionThreshold ≤ stored.accessCount + 1)
    : s.PromotesOnTime key stored reads := by
  have hreach := reachingRead_eq_one hreaches hcount
  constructor
  . intro n read hread hn
    obtain rfl : n = 0 := by omega
    exact (h.countSeen_eq_some_iff (hfinds read (List.mem_of_getElem? hread))).mpr hcount
  . intro n _ hn
    obtain rfl : n = 0 := by omega
    exact h.memory
  . intro hlength
    rw [hreach] at hlength ⊢
    obtain ⟨read, rest, rfl⟩ := List.exists_cons_of_length_pos hlength
    change ((s.get read.disk read.clock key).2.l1.copy key).map Copy.value = _
    rw [h.get_eq (hfinds read List.mem_cons_self), if_pos hreaches, MemoryStorage.copy_setEntry,
      if_pos rfl]
    rfl

theorem Resides.promotesOnTime_of_length (h : s.Resides key stored)
    (hfinds : ∀ read ∈ reads, read.Finds key stored)
    (hcount : stored.accessCount.toNat + 1 < 2 ^ 64)
    (hbelow : ¬ s.promotionThreshold ≤ stored.accessCount + 1) (hlength : reads.length ≤ 1)
    : s.PromotesOnTime key stored reads := by
  have hreach := one_lt_reachingRead hbelow hcount
  constructor
  . intro n read hread _
    obtain ⟨hn, -⟩ := List.getElem?_eq_some_iff.mp hread
    obtain rfl : n = 0 := by omega
    exact (h.countSeen_eq_some_iff (hfinds read (List.mem_of_getElem? hread))).mpr hcount
  . intro n _ _
    have hsome : ∀ read ∈ reads.take n, read.Finds key stored :=
      fun read hmem => hfinds read (List.mem_of_mem_take hmem)
    rw [h.readAll_eq_self hsome hbelow]
    exact h.memory
  . intro hle
    omega

theorem promotesOnTime_nil (hmemory : s.l1.copy key = none) : s.PromotesOnTime key stored [] := by
  constructor
  . intro n read hread
    cases hread
  . intro n _ _
    rw [List.take_nil]
    exact hmemory
  . intro hlength
    unfold reachingRead at hlength
    rw [List.length_nil] at hlength
    omega

theorem Resides.promotesOnTime_iff (h : s.Resides key stored)
    (hfinds : ∀ read ∈ reads, read.Finds key stored)
    : s.PromotesOnTime key stored reads
        ↔ reads = []
          ∨ (stored.accessCount.toNat + 1 < 2 ^ 64
            ∧ (s.promotionThreshold ≤ stored.accessCount + 1 ∨ reads.length ≤ 1)) := by
  constructor
  . exact h.of_promotesOnTime hfinds
  . rintro (rfl | ⟨hcount, hcase⟩)
    . exact promotesOnTime_nil h.memory
    . by_cases hreaches : s.promotionThreshold ≤ stored.accessCount + 1
      . exact h.promotesOnTime_of_le hfinds hcount hreaches
      . exact h.promotesOnTime_of_length hfinds hcount hreaches (hcase.resolve_left hreaches)

def demotedPlan (promotionThreshold : Option UInt64) : TieredStorage Nat :=
  let config := {
    l1MaxEntries := none
    enableL2 := none
    promotionThreshold := promotionThreshold
    demotionThresholdMs := none }
  let clock := fun _ => 1000
  ((TieredStorage.new config).act some .working clock (.set "plan" 7 none)).act some .working clock
    (.demote "plan")

def planFile : FileRecord Nat where
  key := "plan"
  value := 7
  createdAtMs := 1000
  accessCount := 0
  ttlMs := none

def workingRead : StorageRead where
  disk := .working
  clock _ := 2000

theorem resides_demotedPlan (promotionThreshold : Option UInt64)
    : (demotedPlan promotionThreshold).Resides "plan" planFile := by
  exact ⟨rfl, _, rfl, rfl⟩

theorem workingRead_finds (n : Nat)
    : ∀ read ∈ List.replicate n workingRead, read.Finds "plan" planFile := by
  intro read hread
  rw [(List.mem_replicate.mp hread).2]
  exact ⟨rfl, rfl⟩

theorem promotesOnTime_iff_thresholdOne
    : (demotedPlan (some 1)).PromotesOnTime "plan" planFile (List.replicate 3 workingRead)
        ↔ List.replicate 3 workingRead = []
          ∨ (planFile.accessCount.toNat + 1 < 2 ^ 64
            ∧ ((demotedPlan (some 1)).promotionThreshold ≤ planFile.accessCount + 1
              ∨ (List.replicate 3 workingRead).length ≤ 1)) :=
  Resides.promotesOnTime_iff (resides_demotedPlan _) (workingRead_finds 3)

/-- The threshold is five if none is configured, and five reads do not reach it. -/
theorem fiveReads_not_promotesOnTime
    : (demotedPlan none).Resides "plan" planFile
        ∧ (∀ read ∈ List.replicate 5 workingRead, read.Finds "plan" planFile)
        ∧ ¬(demotedPlan none).PromotesOnTime "plan" planFile (List.replicate 5 workingRead) := by
  refine ⟨resides_demotedPlan none, workingRead_finds 5, ?_⟩
  intro h
  have hpromoted := h.promoted (by decide +kernel)
  have hmissing : (((demotedPlan none).readAll "plan" ((List.replicate 5 workingRead).take
      ((demotedPlan none).reachingRead planFile))).l1.copy "plan").map Copy.value = none := by
    decide +kernel
  rw [hmissing] at hpromoted
  cases hpromoted

end TieredStorage

end AnimaAgent
