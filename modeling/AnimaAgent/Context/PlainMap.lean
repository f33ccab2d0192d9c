import AnimaAgent.Context.TimeToLive

namespace AnimaAgent

namespace TieredStorage

variable {ν : Type} (clock : Nat → UInt64) (s : TieredStorage ν)

def fileCopy (name : String) : Option (Copy ν) :=
  s.l2.bind (fun l2 => l2.copy name)

variable {s} in
theorem fileCopy_of_none (h : s.l2 = none) (name : String) : s.fileCopy name = none := by
  unfold fileCopy
  rw [h]
  rfl

variable {s} in
theorem fileCopy_of_some {l2 : FileStorage ν} (h : s.l2 = some l2) (name : String)
    : s.fileCopy name = l2.copy name := by
  unfold fileCopy
  rw [h]
  rfl

inductive Evicts : TierAction ν → String → Prop where
  | set (key : String) (value : ν) (ttlMs : Option UInt64) (victim : String)
      (hevicted : s.l1.evicted key = some victim)
      : Evicts (.set key value ttlMs) victim
  | promotedByGet (key : String) (copy : Copy ν) (stamp : UInt64) (victim : String)
      (hmoves : s.Moves .working clock (.get key) key copy stamp)
      (hevicted : (s.l1.getEntry (clock 0) (clock 1) key).2.evicted key = some victim)
      : Evicts (.get key) victim
  | promoted (key : String) (copy : Copy ν) (stamp : UInt64) (victim : String)
      (hmoves : s.Moves .working clock (.promote key) key copy stamp)
      (hevicted : s.l1.evicted key = some victim)
      : Evicts (.promote key) victim

def Kept (key : String) : Prop :=
  (s.l1.copy key).isSome ∨ (s.fileCopy (keyToFilename key)).isSome

structure FreshUntil (time : UInt64) (key : String) : Prop where
  l1 : ∀ copy, s.l1.copy key = some copy → ∀ now, now ≤ time → copy.isFresh now = true
  file : ∀ copy, s.fileCopy (keyToFilename key) = some copy → ∀ now, now ≤ time
    → copy.isFresh now = true

variable {clock s} {reread : ν → Option ν} {time : UInt64} {key k : String}

theorem fileCopy_map_setEntry (hl2 : s.l2.isSome) (now : UInt64) (key : String) (value : ν)
    (ttlMs : Option UInt64) (l1 : MemoryStorage ν) (n : String)
    : fileCopy { s with
          l1 := l1
          l2 := s.l2.map (fun l2 => l2.setEntry reread .working now key value ttlMs) } n
        = if n = keyToFilename key then
            (reread value).map (fun value => { value := value, ttlMs := ttlMs, createdAtMs := now })
          else
            s.fileCopy n := by
  unfold fileCopy
  cases h : s.l2 with
  | none =>
    rw [h] at hl2
    cases hl2
  | some l2 => exact FileStorage.copy_setEntry_working now key value ttlMs n

inductive GetCase (clock : Nat → UInt64) (s : TieredStorage ν) (key : String)
    (result : Option ν × TieredStorage ν) : Prop where
  | hit (copy : Copy ν) (hcopy : (s.l1.copy key).filter (Copy.isFresh (clock 0)) = some copy)
      (hvalue : result.1 = some copy.value)
      (hl1 : result.2.l1 = (s.l1.getEntry (clock 0) (clock 1) key).2)
      (hfiles : ∀ n, result.2.fileCopy n = s.fileCopy n)
  | missed (hmiss : (s.l1.copy key).filter (Copy.isFresh (clock 0)) = none)
      (hfile : (s.fileCopy (keyToFilename key)).filter (Copy.isFresh (clock 2)) = none)
      (hvalue : result.1 = none) (hl1 : result.2.l1 = (s.l1.getEntry (clock 0) (clock 1) key).2)
      (hfiles : ∀ n, n ≠ keyToFilename key → result.2.fileCopy n = s.fileCopy n)
  | found (copy : Copy ν) (hmiss : (s.l1.copy key).filter (Copy.isFresh (clock 0)) = none)
      (hfile : (s.fileCopy (keyToFilename key)).filter (Copy.isFresh (clock 2)) = some copy)
      (hvalue : result.1 = some copy.value)
      (hstays : ∀ copy stamp, ¬ s.Moves .working clock (.get key) key copy stamp)
      (hl1 : result.2.l1 = (s.l1.getEntry (clock 0) (clock 1) key).2)
      (hfiles : ∀ n, result.2.fileCopy n = s.fileCopy n)
  | promoted (copy : Copy ν) (hmiss : (s.l1.copy key).filter (Copy.isFresh (clock 0)) = none)
      (hfile : (s.fileCopy (keyToFilename key)).filter (Copy.isFresh (clock 2)) = some copy)
      (hvalue : result.1 = some copy.value)
      (hmoves : s.Moves .working clock (.get key) key copy (clock 3))
      (hl1 : result.2.l1
        = (s.l1.getEntry (clock 0) (clock 1) key).2.setEntry (clock 3) key copy.value copy.ttlMs)
      (hfiles : ∀ n, result.2.fileCopy n = s.fileCopy n)

variable (clock s) in
theorem getCase_get (key : String) : GetCase clock s key (s.get .working clock key) := by
  have hfst := @MemoryStorage.getEntry_fst _ s.l1 (clock 0) (clock 1) key
  unfold TieredStorage.get
  rcases hread : s.l1.getEntry (clock 0) (clock 1) key with ⟨_ | entry, l1⟩
  . rw [hread] at hfst
    dsimp only
    cases hl2 : s.l2 with
    | none =>
      have hfiles : ∀ n, s.fileCopy n = none := fileCopy_of_none hl2
      refine .missed hfst.symm ?_ rfl (by rw [hread]) ?_
      . rw [hfiles]
        rfl
      . intro n _
        rw [hfiles]
        rfl
    | some l2 =>
      have hfiles : ∀ n, s.fileCopy n = l2.copy n := fileCopy_of_some hl2
      obtain ⟨hvalue, hafter⟩ := @FileStorage.getEntry_working _ l2 (clock 1) (clock 2) key
      dsimp only
      rcases hfile : l2.getEntry .working (clock 1) (clock 2) key with ⟨_ | entry, l2'⟩
      . rw [hfile] at hvalue hafter
        refine .missed hfst.symm ?_ rfl (by rw [hread]) ?_
        . rw [hfiles]
          exact hvalue.symm
        . intro n hn
          rw [hfiles]
          exact (hafter n).trans (if_neg hn)
      . rw [hfile] at hvalue hafter
        obtain ⟨hreads, stored, hrecord, rfl, hfresh⟩ :=
          FileStorage.getEntry_eq_some (congrArg Prod.fst hfile)
        have hfound : (s.fileCopy (keyToFilename key)).filter (Copy.isFresh (clock 2))
            = some stored.copy := by
          rw [hfiles]
          exact hvalue.symm
        have hkept : ∀ n, l2'.copy n = s.fileCopy n := by
          intro n
          rw [hfiles]
          apply (hafter n).trans
          split
          . next hn =>
            rw [hn, ← hvalue]
            unfold FileStorage.copy
            rw [hrecord]
            rfl
          . rfl
        by_cases hcount : s.promotionThreshold ≤ stored.accessCount + 1
        . refine .promoted stored.copy hfst.symm hfound rfl
            (.promotedByGet key l2 stored hfst.symm hl2 hreads hrecord hfresh hcount) ?_ hkept
          rw [hread]
          exact if_pos hcount
        . refine .found stored.copy hfst.symm hfound rfl ?_ ?_ hkept
          . intro copy stamp hmoves
            cases hmoves with
            | promotedByGet _ other stored' _ hother _ hrecord' _ hcount' =>
              cases hl2.symm.trans hother
              cases hrecord.symm.trans hrecord'
              exact hcount hcount'
          . rw [hread]
            exact if_neg hcount
  . rw [hread] at hfst
    exact .hit entry.copy hfst.symm rfl (by rw [hread]) (fun n => rfl)

inductive PromoteCase (clock : Nat → UInt64) (s : TieredStorage ν) (key : String)
    (s' : TieredStorage ν) : Prop where
  | absent (hfile : (s.fileCopy (keyToFilename key)).filter (Copy.isFresh (clock 1)) = none)
      (hl1 : s'.l1 = s.l1) (hfiles : ∀ n, n ≠ keyToFilename key → s'.fileCopy n = s.fileCopy n)
  | promoted (copy : Copy ν) (hmoves : s.Moves .working clock (.promote key) key copy (clock 2))
      (hl1 : s'.l1 = s.l1.setEntry (clock 2) key copy.value copy.ttlMs)
      (hfiles : ∀ n, s'.fileCopy n = if n = keyToFilename key then none else s.fileCopy n)

variable (clock s) in
theorem promoteCase_promote (key : String)
    : PromoteCase clock s key (s.promote .working clock key).2 := by
  unfold TieredStorage.promote
  cases hl2 : s.l2 with
  | none =>
    refine .absent ?_ rfl (fun n _ => rfl)
    rw [fileCopy_of_none hl2]
    rfl
  | some l2 =>
    have hfiles : ∀ n, s.fileCopy n = l2.copy n := fileCopy_of_some hl2
    obtain ⟨hvalue, hafter⟩ := @FileStorage.getEntry_working _ l2 (clock 0) (clock 1) key
    dsimp only
    rcases hfile : l2.getEntry .working (clock 0) (clock 1) key with ⟨_ | entry, l2'⟩
    . rw [hfile] at hvalue hafter
      refine .absent ?_ rfl ?_
      . rw [hfiles]
        exact hvalue.symm
      . intro n hn
        rw [hfiles]
        exact (hafter n).trans (if_neg hn)
    . rw [hfile] at hvalue hafter
      obtain ⟨hreads, stored, hrecord, rfl, hfresh⟩ :=
        FileStorage.getEntry_eq_some (congrArg Prod.fst hfile)
      refine .promoted stored.copy (.promoted key l2 stored hl2 hreads hrecord hfresh) rfl ?_
      intro n
      apply (FileStorage.copy_deleteEntry_working key n).trans
      split
      . rfl
      . next hn =>
        rw [hfiles]
        exact (hafter n).trans (if_neg hn)

theorem filter_isFresh_eq_some {copy : Option (Copy ν)} {now : UInt64}
    (hfresh : ∀ c, copy = some c → c.isFresh now = true) (hsome : copy.isSome)
    : ∃ c, copy.filter (Copy.isFresh now) = some c := by
  obtain ⟨c, rfl⟩ := Option.isSome_iff_exists.mp hsome
  exact ⟨c, Option.filter_eq_some_iff.mpr ⟨rfl, hfresh c rfl⟩⟩

theorem copy_delete (disk : Disk) (key k : String)
    : (s.delete disk key).2.l1.copy k = if k = key then none else s.l1.copy k := by
  unfold TieredStorage.delete
  cases s.l2 with
  | none => exact MemoryStorage.copy_deleteEntry key k
  | some l2 => exact MemoryStorage.copy_deleteEntry key k

theorem fileCopy_delete (key n : String)
    : (s.delete .working key).2.fileCopy n
        = if n = keyToFilename key then none else s.fileCopy n := by
  unfold TieredStorage.delete fileCopy
  cases h : s.l2 with
  | none =>
    dsimp only
    rw [Option.bind_none, ite_self]
  | some l2 => exact FileStorage.copy_deleteEntry_working key n

theorem allCopies_of_fileCopy {P : String → Copy ν → Prop}
    (hl1 : ∀ key copy, s.l1.copy key = some copy → P (keyToFilename key) copy)
    (hfiles : ∀ n copy, s.fileCopy n = some copy → P n copy)
    : s.AllCopies P := by
  refine ⟨hl1, ?_⟩
  intro l2 hl2 n stored hstored
  apply hfiles
  unfold fileCopy FileStorage.copy
  rw [hl2, Option.bind_some, hstored]
  rfl

theorem kept_set (value : ν) (ttlMs : Option UInt64) (hl2 : s.l2.isSome)
    (hname : keyToFilename k = keyToFilename key → k = key) (hkept : k ≠ key → s.Kept k)
    (hevicts : k ≠ key → s.Evicts clock (.set key value ttlMs) k
      → (s.fileCopy (keyToFilename k)).isSome)
    : (s.set reread .working clock key value ttlMs).Kept k := by
  unfold TieredStorage.set Kept
  dsimp only
  rw [fileCopy_map_setEntry hl2, MemoryStorage.copy_setEntry]
  by_cases hk : k = key
  . rw [if_pos hk]
    exact .inl rfl
  . rw [if_neg hk, if_neg (fun h => hk (hname h))]
    split
    . next hevicted => exact .inr (hevicts hk (.set key value ttlMs k hevicted))
    . exact hkept hk

section Kept

variable (hname : keyToFilename k = keyToFilename key → k = key) (hkept : s.Kept k)

include hname hkept

theorem kept_get (hfresh : s.FreshUntil time k) (hclock : ∀ i, i ≤ 2 → clock i ≤ time)
    (hevicts : s.Evicts clock (.get key) k → (s.fileCopy (keyToFilename k)).isSome)
    : (s.get .working clock key).2.Kept k := by
  have hl1after := @MemoryStorage.copy_getEntry _ s.l1 (clock 0) (clock 1) key k
  unfold Kept
  cases getCase_get clock s key with
  | hit copy hcopy hvalue hl1 hfiles =>
    rw [hfiles, hl1, hl1after]
    split
    . rw [hcopy]
      exact .inl rfl
    . exact hkept
  | missed hmiss hfile hvalue hl1 hfiles =>
    by_cases hk : k = key
    . rw [hk] at hkept hfresh
      obtain hin | hin := hkept
      . obtain ⟨c, hc⟩ := filter_isFresh_eq_some (fun c hc => hfresh.l1 c hc _ (hclock 0 (by omega))) hin
        rw [hmiss] at hc
        cases hc
      . obtain ⟨c, hc⟩ := filter_isFresh_eq_some (fun c hc => hfresh.file c hc _ (hclock 2 (by omega))) hin
        rw [hfile] at hc
        cases hc
    . rw [hfiles _ (fun h => hk (hname h)), hl1, hl1after, if_neg hk]
      exact hkept
  | found copy hmiss hfile hvalue hstays hl1 hfiles =>
    rw [hfiles, hl1, hl1after]
    split
    . next hk =>
      rw [hk, (Option.filter_eq_some_iff.mp hfile).1]
      exact .inr rfl
    . exact hkept
  | promoted copy hmiss hfile hvalue hmoves hl1 hfiles =>
    rw [hfiles, hl1, MemoryStorage.copy_setEntry, hl1after]
    by_cases hk : k = key
    . rw [if_pos hk]
      exact .inl rfl
    . rw [if_neg hk, if_neg hk]
      split
      . next hevicted => exact .inr (hevicts (.promotedByGet key copy _ k hmoves hevicted))
      . exact hkept

theorem kept_promote (hfresh : s.FreshUntil time k) (hclock : ∀ i, i ≤ 1 → clock i ≤ time)
    (hevicts : s.Evicts clock (.promote key) k → (s.fileCopy (keyToFilename k)).isSome)
    : (s.promote .working clock key).2.Kept k := by
  unfold Kept
  cases promoteCase_promote clock s key with
  | absent hfile hl1 hfiles =>
    rw [hl1]
    by_cases hk : k = key
    . rw [hk] at hkept hfresh ⊢
      obtain hin | hin := hkept
      . exact .inl hin
      . obtain ⟨c, hc⟩ := filter_isFresh_eq_some (fun c hc => hfresh.file c hc _ (hclock 1 (by omega))) hin
        rw [hfile] at hc
        cases hc
    . rw [hfiles _ (fun h => hk (hname h))]
      exact hkept
  | promoted copy hmoves hl1 hfiles =>
    rw [hl1, hfiles, MemoryStorage.copy_setEntry]
    by_cases hk : k = key
    . rw [if_pos hk]
      exact .inl rfl
    . rw [if_neg hk, if_neg (fun h => hk (hname h))]
      split
      . next hevicted => exact .inr (hevicts (.promoted key copy _ k hmoves hevicted))
      . exact hkept

theorem kept_moveDown {n : Nat} (hl2 : s.l2.isSome) (hfresh : s.FreshUntil time k)
    (hclock : clock n ≤ time)
    (hreread : ∀ copy, s.l1.copy key = some copy → reread copy.value = some copy.value)
    : (s.moveDown reread .working clock n key).2.Kept k := by
  unfold Kept
  obtain ⟨l1, hl1, ⟨hnone, hs⟩ | ⟨copy, hcopy, -, hs⟩⟩ := moveDown_spec reread .working clock s n key
  . rw [hs]
    dsimp only
    rw [hl1]
    by_cases hk : k = key
    . rw [hk] at hkept hfresh ⊢
      obtain hin | hin := hkept
      . obtain ⟨c, hc⟩ := filter_isFresh_eq_some (fun c hc => hfresh.l1 c hc _ hclock) hin
        rw [hnone] at hc
        cases hc
      . exact .inr hin
    . rw [if_neg hk]
      exact hkept
  . rw [hs, fileCopy_map_setEntry hl2, hreread copy hcopy]
    dsimp only
    rw [hl1]
    by_cases hk : k = key
    . apply Or.inr
      rw [hk]
      simp
    . rw [if_neg hk, if_neg (fun h => hk (hname h))]
      exact hkept

theorem kept_demote (hl2 : s.l2.isSome) (hfresh : s.FreshUntil time k) (hclock : clock 0 ≤ time)
    (hreread : ∀ copy, s.l1.copy key = some copy → reread copy.value = some copy.value)
    : (s.demote reread .working clock key).2.Kept k := by
  unfold TieredStorage.demote
  split
  . exact hkept
  . exact kept_moveDown hname hkept hl2 hfresh hclock hreread

theorem kept_delete (hk : k ≠ key) : (s.delete .working key).2.Kept k := by
  unfold Kept
  rw [copy_delete, fileCopy_delete, if_neg hk, if_neg (fun h => hk (hname h))]
  exact hkept

end Kept

theorem copy_eq_none_of_evicted {l1 : MemoryStorage ν} {victim : String}
    (h : l1.evicted key = some victim)
    : l1.copy key = none := by
  unfold MemoryStorage.evicted at h
  split at h
  . next hfull =>
    unfold MemoryStorage.copy
    rw [Option.map_eq_none_iff]
    exact IndexMap.get_eq_none_iff.mpr hfull.2
  . cases h

theorem filter_fileCopy {l2 : FileStorage ν} {stored : FileRecord ν} {now : UInt64}
    (hl2 : s.l2 = some l2) (hrecord : l2.record (keyToFilename key) = some stored)
    (hfresh : stored.copy.isFresh now = true)
    : (s.fileCopy (keyToFilename key)).filter (Copy.isFresh now) = some stored.copy := by
  unfold fileCopy FileStorage.copy
  rw [hl2, Option.bind_some, hrecord]
  exact Option.filter_eq_some_iff.mpr ⟨rfl, hfresh⟩

theorem moves_get {copy : Copy ν} {stamp : UInt64}
    (h : s.Moves .working clock (.get key) key copy stamp)
    : (s.l1.copy key).filter (Copy.isFresh (clock 0)) = none
        ∧ (s.fileCopy (keyToFilename key)).filter (Copy.isFresh (clock 2)) = some copy := by
  cases h with
  | promotedByGet _ _ _ hmiss hl2 _ hrecord hfresh _ => exact ⟨hmiss, filter_fileCopy hl2 hrecord hfresh⟩

theorem moves_promote {copy : Copy ν} {stamp : UInt64}
    (h : s.Moves .working clock (.promote key) key copy stamp)
    : (s.fileCopy (keyToFilename key)).filter (Copy.isFresh (clock 1)) = some copy := by
  cases h with
  | promoted _ _ _ hl2 _ hrecord hfresh => exact filter_fileCopy hl2 hrecord hfresh

theorem fileCopy_of_evicts {action : TierAction ν} {victim : String} (hl2 : s.l2.isSome)
    (hname : ∀ other, action.key = some other → keyToFilename victim = keyToFilename other
      → victim = other)
    (hfresh : s.FreshUntil time victim) (hclock : ∀ i, i ≤ 2 → clock i ≤ time) (hkept : s.Kept victim)
    (hevicts : s.Evicts clock action victim)
    (hafter : action.key ≠ some victim → (s.act reread .working clock action).Kept victim)
    : (s.fileCopy (keyToFilename victim)).isSome := by
  cases hevicts with
  | set key value ttlMs _ hevicted =>
    by_cases hvictim : victim = key
    . rw [hvictim] at hkept ⊢
      unfold Kept at hkept
      rw [copy_eq_none_of_evicted hevicted] at hkept
      exact hkept.resolve_left (fun h => by cases h)
    . replace hafter := hafter (fun h => hvictim (Option.some.inj h).symm)
      unfold act TieredStorage.set Kept at hafter
      dsimp only at hafter
      rw [fileCopy_map_setEntry hl2, MemoryStorage.copy_setEntry, if_neg hvictim, if_pos hevicted,
        if_neg (fun h => hvictim (hname key rfl h))] at hafter
      exact hafter.resolve_left (fun h => by cases h)
  | promotedByGet key copy stamp _ hmoves hevicted =>
    have hmiss := (moves_get hmoves).1
    by_cases hvictim : victim = key
    . rw [hvictim] at hkept hfresh ⊢
      obtain hin | hin := hkept
      . obtain ⟨c, hc⟩ := filter_isFresh_eq_some (fun c hc => hfresh.l1 c hc _ (hclock 0 (by omega))) hin
        rw [hmiss] at hc
        cases hc
      . exact hin
    . replace hafter := hafter (fun h => hvictim (Option.some.inj h).symm)
      unfold act Kept at hafter
      cases getCase_get clock s key with
      | hit copy hcopy =>
        rw [hmiss] at hcopy
        cases hcopy
      | missed _ hfile =>
        rw [(moves_get hmoves).2] at hfile
        cases hfile
      | found copy _ _ _ hstays => exact absurd hmoves (hstays _ _)
      | promoted copy _ _ _ _ hl1 hfiles =>
        rw [hfiles, hl1, MemoryStorage.copy_setEntry, if_neg hvictim, if_pos hevicted] at hafter
        exact hafter.resolve_left (fun h => by cases h)
  | promoted key copy stamp _ hmoves hevicted =>
    by_cases hvictim : victim = key
    . rw [hvictim] at hkept ⊢
      unfold Kept at hkept
      rw [copy_eq_none_of_evicted hevicted] at hkept
      exact hkept.resolve_left (fun h => by cases h)
    . replace hafter := hafter (fun h => hvictim (Option.some.inj h).symm)
      unfold act Kept at hafter
      cases promoteCase_promote clock s key with
      | absent hfile =>
        rw [moves_promote hmoves] at hfile
        cases hfile
      | promoted copy _ hl1 hfiles =>
        rw [hfiles, hl1, MemoryStorage.copy_setEntry, if_neg hvictim, if_pos hevicted,
          if_neg (fun h => hvictim (hname key rfl h))] at hafter
        exact hafter.resolve_left (fun h => by cases h)

theorem isSome_moveDown (n : Nat) (key : String)
    : (s.moveDown reread .working clock n key).2.l2.isSome = s.l2.isSome := by
  obtain ⟨l1, -, ⟨-, hs⟩ | ⟨copy, -, -, hs⟩⟩ := moveDown_spec reread .working clock s n key
  . rw [hs]
  . rw [hs]
    exact Option.isSome_map

theorem copy_moveDown_of_isSome {n : Nat}
    (h : ((s.moveDown reread .working clock n key).2.l1.copy k).isSome)
    : (s.l1.copy k).isSome := by
  obtain ⟨l1, hl1, ⟨-, hs⟩ | ⟨copy, -, -, hs⟩⟩ := moveDown_spec reread .working clock s n key
  all_goals
    rw [hs] at h
    dsimp only at h
    rw [hl1] at h
    split at h
    . cases h
    . exact h

variable (reread clock) in
theorem moveAllDown_spec (keys : List String) (n : Nat) (s : TieredStorage ν)
    : (moveAllDown reread .working clock n s keys).2.l2.isSome = s.l2.isSome
        ∧ ∀ k, ((moveAllDown reread .working clock n s keys).2.l1.copy k).isSome
          → (s.l1.copy k).isSome := by
  induction keys generalizing n s with
  | nil => exact ⟨rfl, fun k h => h⟩
  | cons key rest ih =>
    obtain ⟨hl2, hl1⟩ := ih (n + 3) (s.moveDown reread .working clock n key).2
    refine ⟨hl2.trans (isSome_moveDown n key), ?_⟩
    intro k h
    exact copy_moveDown_of_isSome (hl1 k h)

theorem copy_setEntry_of_isSome {l1 : MemoryStorage ν} {now : UInt64} {value : ν}
    {ttlMs : Option UInt64} (h : ((l1.setEntry now key value ttlMs).copy k).isSome)
    : (l1.copy k).isSome ∨ key = k := by
  rw [MemoryStorage.copy_setEntry] at h
  split at h
  . next hk => exact .inr hk.symm
  . split at h
    . cases h
    . exact .inl h

theorem copy_getEntry_of_isSome {l1 : MemoryStorage ν} {now accessedAt : UInt64}
    (h : ((l1.getEntry now accessedAt key).2.copy k).isSome)
    : (l1.copy k).isSome := by
  rw [MemoryStorage.copy_getEntry] at h
  split at h
  . next hk =>
    obtain ⟨c, hc⟩ := Option.isSome_iff_exists.mp h
    rw [hk, (Option.filter_eq_some_iff.mp hc).1]
    rfl
  . exact h

theorem isSome_get (key : String) : (s.get .working clock key).2.l2.isSome = s.l2.isSome := by
  unfold TieredStorage.get
  split
  . rfl
  . split
    . rfl
    . next l2 hl2 =>
      have hsome : s.l2.isSome = true := Option.isSome_iff_exists.mpr ⟨l2, hl2⟩
      split
      . exact hsome.symm
      . exact hsome.symm

variable (reread clock) in
theorem act_spec (s : TieredStorage ν) (action : TierAction ν)
    : (s.act reread .working clock action).l2.isSome = s.l2.isSome
        ∧ ∀ k, ((s.act reread .working clock action).l1.copy k).isSome
          → (s.l1.copy k).isSome ∨ action.key = some k := by
  cases action with
  | get key =>
    refine ⟨isSome_get key, ?_⟩
    intro k h
    unfold act at h
    cases getCase_get clock s key with
    | hit _ _ _ hl1 _ =>
      rw [hl1] at h
      exact .inl (copy_getEntry_of_isSome h)
    | missed _ _ _ hl1 _ =>
      rw [hl1] at h
      exact .inl (copy_getEntry_of_isSome h)
    | found _ _ _ _ _ hl1 _ =>
      rw [hl1] at h
      exact .inl (copy_getEntry_of_isSome h)
    | promoted _ _ _ _ _ hl1 _ =>
      rw [hl1] at h
      exact (copy_setEntry_of_isSome h).imp copy_getEntry_of_isSome (congrArg some)
  | set key value ttlMs =>
    refine ⟨Option.isSome_map, ?_⟩
    intro k h
    exact (copy_setEntry_of_isSome h).imp_right (congrArg some)
  | delete key =>
    unfold act TieredStorage.delete
    dsimp only
    have hl1 : ∀ k, ((s.l1.deleteEntry key).2.copy k).isSome → (s.l1.copy k).isSome := by
      intro k h
      rw [MemoryStorage.copy_deleteEntry] at h
      split at h
      . cases h
      . exact h
    cases hl2 : s.l2 with
    | none => exact ⟨rfl, fun k h => .inl (hl1 k h)⟩
    | some l2 => exact ⟨rfl, fun k h => .inl (hl1 k h)⟩
  | promote key =>
    unfold act TieredStorage.promote
    cases hl2 : s.l2 with
    | none => exact ⟨by rw [hl2], fun k h => .inl h⟩
    | some l2 =>
      dsimp only
      rcases l2.getEntry .working (clock 0) (clock 1) key with ⟨_ | entry, l2'⟩
      . exact ⟨rfl, fun k h => .inl h⟩
      . refine ⟨rfl, ?_⟩
        intro k h
        exact (copy_setEntry_of_isSome h).imp_right (congrArg some)
  | demote key =>
    unfold act TieredStorage.demote
    cases hl2 : s.l2 with
    | none => exact ⟨by rw [hl2], fun k h => .inl h⟩
    | some l2 =>
      refine ⟨(isSome_moveDown 0 key).trans (by rw [hl2]), ?_⟩
      intro k h
      exact .inl (copy_moveDown_of_isSome h)
  | demoteColdEntries =>
    obtain ⟨hl2, hl1⟩ := moveAllDown_spec clock reread (s.coldKeys (clock 0)) 1 s
    exact ⟨hl2, fun k h => .inl (hl1 k h)⟩

end TieredStorage

end AnimaAgent
