import AnimaAgent.Context.PlainMap

namespace AnimaAgent

namespace SetCall

variable {ν : Type} (call : SetCall ν)

def Live (time : UInt64) : Prop :=
  ∀ ttl ∈ call.ttlMs, time.toNat ≤ call.startedAt.toNat + ttl.toNat

structure Tells (copy : Copy ν) : Prop where
  value : copy.value = call.value
  ttlMs : copy.ttlMs = call.ttlMs
  startedAt : call.startedAt ≤ copy.createdAtMs

variable {call}

theorem Live.mono {time time' : UInt64} (hle : time ≤ time') (h : call.Live time') : call.Live time := by
  intro ttl httl
  have := h ttl httl
  rw [UInt64.le_iff_toNat_le] at hle
  omega

theorem Tells.isFresh {copy : Copy ν} {time now : UInt64} (h : call.Tells copy) (hlive : call.Live time)
    (hnow : now ≤ time)
    : copy.isFresh now = true := by
  apply Copy.isFresh_iff.mpr
  intro ttl httl
  rw [h.ttlMs] at httl
  have hage := hlive ttl httl
  have hcreated := UInt64.le_iff_toNat_le.mp h.startedAt
  rw [UInt64.le_iff_toNat_le] at hnow
  omega

theorem eq_of_readsAs {reread : ν → Option ν} {value value' : ν} (h : reread value = some value)
    (hreads : ReadsAs reread value value')
    : value' = value := by
  induction hreads with
  | refl => rfl
  | tail _ hstep ih =>
    rw [ih, h] at hstep
    exact (Option.some.inj hstep).symm

theorem Tells.restamp {reread : ν → Option ν} {copy : Copy ν} {stamp : UInt64} {value : ν}
    (h : call.Tells copy) (hreread : reread call.value = some call.value)
    (hreads : ReadsAs reread copy.value value) (hstamp : call.startedAt ≤ stamp)
    : call.Tells { copy with value := value, createdAtMs := stamp } := by
  rw [h.value] at hreads
  exact ⟨eq_of_readsAs hreread hreads, h.ttlMs, hstamp⟩

end SetCall

namespace TierState

variable {ν : Type} (reread : ν → Option ν) (keys : Set String)

/-- A value is read as long as its key is not deleted and its time to live has not passed. -/
structure ReadsLast (s : TierState ν) : Prop where
  readable : ∀ key ∈ keys, ∀ clock : Clock, s.time ≤ clock.reading 0
    → ∀ call, s.latest key = some call → call.Live (clock.reading 4)
    → (s.storage.get .working clock.reading key).1 = some call.value
  current : ∀ key ∈ keys, ∀ clock : Clock, s.time ≤ clock.reading 0
    → ∀ value, (s.storage.get .working clock.reading key).1 = some value
    → ∃ call, s.latest key = some call ∧ call.value = value

/-- The files all work, the key is one of the keys, and a value that is set is read back as it is. -/
structure Uses (call : TierCall ν) : Prop where
  working : call.disk = .working
  mem : ∀ key, call.action.key = some key → key ∈ keys
  readsBack : ∀ key value ttlMs, call.action = .set key value ttlMs → reread value = some value

/-- An entry that is evicted from the memory tier has a file, or has expired when the call returns. -/
def EvictsStored (s : TierState ν) (call : TierCall ν) : Prop :=
  ∀ victim, s.storage.Evicts call.clock.reading call.action victim
    → ∀ stored, s.latest victim = some stored → stored.Live (s.returnedAt call)
    → (s.storage.fileCopy (keyToFilename victim)).isSome

def Told (latest : String → Option (SetCall ν)) (name : String) (copy : Copy ν) : Prop :=
  ∃ key ∈ keys, keyToFilename key = name ∧ ∃ call, latest key = some call ∧ call.Tells copy

structure Current (s : TierState ν) : Prop where
  enabled : s.storage.l2.isSome
  copies : s.storage.AllCopies (Told keys s.latest)
  memory : ∀ key, (s.storage.l1.copy key).isSome → key ∈ keys
  latest : ∀ key call, s.latest key = some call → key ∈ keys ∧ call.startedAt ≤ s.time
  readsBack : ∀ key call, s.latest key = some call → reread call.value = some call.value

def NoLoss (s : TierState ν) : Prop :=
  ∀ key call, s.latest key = some call → call.Live s.time → s.storage.Kept key

variable {reread} {keys} {s s' : TierState ν} (hinj : Set.InjOn keyToFilename keys)

include hinj

theorem exists_of_told {latest : String → Option (SetCall ν)} {key : String} {copy : Copy ν}
    (hkey : key ∈ keys) (h : Told keys latest (keyToFilename key) copy)
    : ∃ call, latest key = some call ∧ call.Tells copy := by
  obtain ⟨other, hother, hname, hcall⟩ := h
  rw [hinj hother hkey hname] at hcall
  exact hcall

omit hinj in
theorem reread_of_told {latest : String → Option (SetCall ν)} {name : String} {copy : Copy ν}
    (hreread : ∀ key call, latest key = some call → reread call.value = some call.value)
    (h : Told keys latest name copy)
    : reread copy.value = some copy.value := by
  obtain ⟨other, -, -, call, hcall, htells⟩ := h
  rw [htells.value]
  exact hreread other call hcall

omit hinj in
theorem told_of_fileCopy {latest : String → Option (SetCall ν)} {storage : TieredStorage ν}
    {name : String} {copy : Copy ν} (h : storage.AllCopies (Told keys latest))
    (hcopy : storage.fileCopy name = some copy)
    : Told keys latest name copy := by
  obtain ⟨l2, hl2, hrecord⟩ := Option.bind_eq_some_iff.mp hcopy
  obtain ⟨stored, hstored, rfl⟩ := Option.map_eq_some_iff.mp hrecord
  exact h.l2 l2 hl2 name stored hstored

theorem freshUntil_of_live {latest : String → Option (SetCall ν)} {storage : TieredStorage ν}
    {key : String} {call : SetCall ν} {time : UInt64} (h : storage.AllCopies (Told keys latest))
    (hkey : key ∈ keys) (hlatest : latest key = some call) (hlive : call.Live time)
    : storage.FreshUntil time key := by
  constructor
  . intro copy hcopy now hnow
    obtain ⟨other, hother, htells⟩ := exists_of_told hinj hkey (h.l1 key copy hcopy)
    cases hlatest.symm.trans hother
    exact htells.isFresh hlive hnow
  . intro copy hcopy now hnow
    obtain ⟨other, hother, htells⟩ := exists_of_told hinj hkey (told_of_fileCopy h hcopy)
    cases hlatest.symm.trans hother
    exact htells.isFresh hlive hnow

theorem readsLast_iff (h : s.Current reread keys) : s.ReadsLast keys ↔ s.NoLoss := by
  constructor
  . intro hreads key call hlatest hlive
    have hget := hreads.readable key (h.latest key call hlatest).1 (.still s.time) (UInt64.le_refl _)
      call hlatest hlive
    cases TieredStorage.getCase_get ((Clock.still s.time).reading) s.storage key with
    | hit copy hcopy =>
      apply Or.inl
      rw [(Option.filter_eq_some_iff.mp hcopy).1]
      rfl
    | missed _ _ hvalue =>
      rw [hvalue] at hget
      cases hget
    | found copy _ hfile =>
      apply Or.inr
      rw [(Option.filter_eq_some_iff.mp hfile).1]
      rfl
    | promoted copy _ hfile =>
      apply Or.inr
      rw [(Option.filter_eq_some_iff.mp hfile).1]
      rfl
  . intro hnoLoss
    have hcurrent : ∀ key ∈ keys, ∀ clock : Clock, ∀ value,
        (s.storage.get .working clock.reading key).1 = some value
        → ∃ call, s.latest key = some call ∧ call.value = value := by
      intro key hkey clock value hvalue
      have htold : ∃ copy, Told keys s.latest (keyToFilename key) copy ∧ copy.value = value := by
        cases TieredStorage.getCase_get clock.reading s.storage key with
        | hit copy hcopy hget =>
          cases hget.symm.trans hvalue
          exact ⟨copy, h.copies.l1 key copy (Option.filter_eq_some_iff.mp hcopy).1, rfl⟩
        | missed _ _ hget => cases hget.symm.trans hvalue
        | found copy _ hfile hget =>
          cases hget.symm.trans hvalue
          exact ⟨copy, told_of_fileCopy h.copies (Option.filter_eq_some_iff.mp hfile).1, rfl⟩
        | promoted copy _ hfile hget =>
          cases hget.symm.trans hvalue
          exact ⟨copy, told_of_fileCopy h.copies (Option.filter_eq_some_iff.mp hfile).1, rfl⟩
      obtain ⟨copy, htold, hcopy⟩ := htold
      obtain ⟨call, hcall, htells⟩ := exists_of_told hinj hkey htold
      exact ⟨call, hcall, htells.value.symm.trans hcopy⟩
    constructor
    . intro key hkey clock htime call hlatest hlive
      have hnow : s.time ≤ clock.reading 4 :=
        UInt64.le_trans htime (clock.mono 0 4 (by omega))
      have hkept := hnoLoss key call hlatest (hlive.mono hnow)
      have hfresh := freshUntil_of_live hinj h.copies hkey hlatest hlive
      have hget : ∃ value, (s.storage.get .working clock.reading key).1 = some value := by
        cases TieredStorage.getCase_get clock.reading s.storage key with
        | hit copy _ hget => exact ⟨_, hget⟩
        | missed hmiss hfile hget =>
          obtain hin | hin := hkept
          . obtain ⟨c, hc⟩ := TieredStorage.filter_isFresh_eq_some
              (fun c hc => hfresh.l1 c hc _ (clock.mono 0 4 (by omega))) hin
            rw [hmiss] at hc
            cases hc
          . obtain ⟨c, hc⟩ := TieredStorage.filter_isFresh_eq_some
              (fun c hc => hfresh.file c hc _ (clock.mono 2 4 (by omega))) hin
            rw [hfile] at hc
            cases hc
        | found copy _ _ hget => exact ⟨_, hget⟩
        | promoted copy _ _ hget => exact ⟨_, hget⟩
      obtain ⟨value, hvalue⟩ := hget
      obtain ⟨other, hother, hsame⟩ := hcurrent key hkey clock value hvalue
      cases hlatest.symm.trans hother
      rw [hvalue, hsame]
    . intro key hkey clock _ value hvalue
      exact hcurrent key hkey clock value hvalue

omit hinj in
theorem Told.update {latest : String → Option (SetCall ν)} {key name : String} {copy : Copy ν}
    (value : Option (SetCall ν)) (hname : name ≠ keyToFilename key) (h : Told keys latest name copy)
    : Told keys (Function.update latest key value) name copy := by
  obtain ⟨other, hother, hfile, call, hcall, htells⟩ := h
  refine ⟨other, hother, hfile, call, ?_, htells⟩
  rw [Function.update_of_ne]
  . exact hcall
  . intro heq
    rw [heq] at hfile
    exact hname hfile.symm

omit hinj in
theorem told_of_moves {action : TierAction ν} {disk : Disk} {clock : Clock} (h : s.Current reread keys)
    (htime : s.time ≤ clock.reading 0) {key : String} {copy : Copy ν} {stamp : UInt64}
    (hmoves : s.storage.Moves disk clock.reading action key copy stamp) {value : ν}
    (hreads : ReadsAs reread copy.value value)
    : Told keys s.latest (keyToFilename key) { copy with value := value, createdAtMs := stamp } := by
  have hrestamp : ∀ n, stamp = clock.reading n → Told keys s.latest (keyToFilename key) copy
      → Told keys s.latest (keyToFilename key) { copy with value := value, createdAtMs := stamp } := by
    intro n hstamp htold
    obtain ⟨other, hother, hname, call, hcall, htells⟩ := htold
    refine ⟨other, hother, hname, call, hcall,
      htells.restamp (h.readsBack other call hcall) hreads ?_⟩
    have hbefore := UInt64.le_trans (h.latest other call hcall).2 htime
    rw [hstamp]
    exact UInt64.le_trans hbefore (clock.mono 0 n (by omega))
  cases hmoves with
  | promotedByGet _ l2 stored _ hl2 _ hrecord => exact hrestamp 3 rfl (h.copies.l2 l2 hl2 _ _ hrecord)
  | promoted _ l2 stored hl2 _ hrecord => exact hrestamp 2 rfl (h.copies.l2 l2 hl2 _ _ hrecord)
  | demoted _ _ _ hcopy => exact hrestamp 2 rfl (h.copies.l1 _ _ hcopy)
  | demotedCold i _ _ _ _ hcopy => exact hrestamp (3 * i + 3) rfl (h.copies.l1 _ _ hcopy)

theorem copies_set {clock : Clock} {key : String} {call : SetCall ν} (h : s.Current reread keys)
    (hkey : key ∈ keys) (hreread : reread call.value = some call.value)
    (hcall : call.startedAt = clock.reading 0)
    : (s.storage.set reread .working clock.reading key call.value call.ttlMs).AllCopies
        (Told keys (Function.update s.latest key (some call))) := by
  have hnew : ∀ n, Told keys (Function.update s.latest key (some call)) (keyToFilename key)
      { value := call.value, ttlMs := call.ttlMs, createdAtMs := clock.reading n } := by
    intro n
    refine ⟨key, hkey, rfl, call, Function.update_self .., rfl, rfl, ?_⟩
    rw [hcall]
    exact clock.mono 0 n (by omega)
  apply TieredStorage.allCopies_of_fileCopy
  . intro k copy hcopy
    unfold TieredStorage.set at hcopy
    dsimp only at hcopy
    rw [MemoryStorage.copy_setEntry] at hcopy
    split at hcopy
    . next hk =>
      cases hcopy
      rw [hk]
      exact hnew 0
    . next hk =>
      split at hcopy
      . cases hcopy
      . have hmem : k ∈ keys := h.memory k (by rw [hcopy]; rfl)
        exact (h.copies.l1 k copy hcopy).update _ (fun hname => hk (hinj hmem hkey hname))
  . intro n copy hcopy
    unfold TieredStorage.set at hcopy
    rw [TieredStorage.fileCopy_map_setEntry h.enabled, hreread] at hcopy
    split at hcopy
    . next hn =>
      cases hcopy
      rw [hn]
      exact hnew 1
    . next hn => exact (told_of_fileCopy h.copies hcopy).update _ hn

theorem copies_delete {key : String} (h : s.Current reread keys) (hkey : key ∈ keys)
    : (s.storage.delete .working key).2.AllCopies
        (Told keys (Function.update s.latest key none)) := by
  apply TieredStorage.allCopies_of_fileCopy
  . intro k copy hcopy
    rw [TieredStorage.copy_delete] at hcopy
    split at hcopy
    . cases hcopy
    . next hk =>
      have hmem : k ∈ keys := h.memory k (by rw [hcopy]; rfl)
      exact (h.copies.l1 k copy hcopy).update _ (fun hname => hk (hinj hmem hkey hname))
  . intro n copy hcopy
    rw [TieredStorage.fileCopy_delete] at hcopy
    split at hcopy
    . cases hcopy
    . next hn => exact (told_of_fileCopy h.copies hcopy).update _ hn

omit hinj in
theorem step_eq_some {call : TierCall ν} (hstep : s.step reread call = some s')
    : s.time ≤ call.clock.reading 0 ∧ s.time ≤ s.returnedAt call
        ∧ s'.storage = s.storage.act reread call.disk call.clock.reading call.action
        ∧ s'.time = s.returnedAt call
        ∧ s'.latest = (s.record (call.clock.reading 0) (s.returnedAt call) call.action).2 := by
  unfold step at hstep
  split at hstep
  . next htime =>
    cases hstep
    exact ⟨htime, UInt64.le_trans htime (call.clock.mono 0 _ (Nat.zero_le _)), rfl, rfl, rfl⟩
  . cases hstep

theorem copies_step {call : TierCall ν} (h : s.Current reread keys) (huses : Uses reread keys call)
    (htime : s.time ≤ call.clock.reading 0)
    : (s.storage.act reread call.disk call.clock.reading call.action).AllCopies
        (Told keys (s.record (call.clock.reading 0) (s.returnedAt call) call.action).2) := by
  have hmoved : ∀ key copy stamp value',
      s.storage.Moves call.disk call.clock.reading call.action key copy stamp
      → ReadsAs reread copy.value value'
      → Told keys s.latest (keyToFilename key) { copy with value := value', createdAtMs := stamp } := by
    intro key copy stamp value' hmoves hreads
    exact told_of_moves h htime hmoves hreads
  obtain ⟨action, clock, disk⟩ := call
  obtain ⟨hworking, hmem, hreread⟩ := huses
  dsimp only at hworking hmem hreread hmoved ⊢
  rw [hworking] at hmoved ⊢
  cases action with
  | set key value ttlMs => exact copies_set hinj h (hmem key rfl) (hreread key value ttlMs rfl) rfl
  | delete key => exact copies_delete hinj h (hmem key rfl)
  | get key => exact h.copies.act (fun _ _ _ haction => by cases haction) hmoved
  | promote key => exact h.copies.act (fun _ _ _ haction => by cases haction) hmoved
  | demote key => exact h.copies.act (fun _ _ _ haction => by cases haction) hmoved
  | demoteColdEntries => exact h.copies.act (fun _ _ _ haction => by cases haction) hmoved

omit hinj in
theorem latest_record {action : TierAction ν} {startedAt returnedAt : UInt64} {key : String}
    {call : SetCall ν} (h : (s.record startedAt returnedAt action).2 key = some call)
    : (∃ value ttlMs, action = .set key value ttlMs ∧ call.value = value
          ∧ call.startedAt = startedAt)
        ∨ s.latest key = some call := by
  cases action with
  | set other value ttlMs =>
    by_cases hkey : key = other
    . rw [hkey] at h ⊢
      cases (Function.update_self (f := s.latest) ..).symm.trans h
      exact .inl ⟨value, ttlMs, rfl, rfl, rfl⟩
    . exact .inr ((Function.update_of_ne hkey _ s.latest).symm.trans h)
  | delete other =>
    by_cases hkey : key = other
    . rw [hkey] at h
      cases (Function.update_self (f := s.latest) ..).symm.trans h
    . exact .inr ((Function.update_of_ne hkey _ s.latest).symm.trans h)
  | get _ => exact .inr h
  | promote _ => exact .inr h
  | demote _ => exact .inr h
  | demoteColdEntries => exact .inr h

theorem current_step {call : TierCall ν} (h : s.Current reread keys) (huses : Uses reread keys call)
    (hstep : s.step reread call = some s')
    : s'.Current reread keys := by
  obtain ⟨htime, hreturned, hstorage, hs'time, hlatest⟩ := step_eq_some hstep
  have hspec := TieredStorage.act_spec call.clock.reading reread s.storage call.action
  rw [← huses.working] at hspec
  constructor
  . rw [hstorage, hspec.1]
    exact h.enabled
  . rw [hstorage, hlatest]
    exact copies_step hinj h huses htime
  . intro key hkey
    rw [hstorage] at hkey
    obtain hold | hnew := hspec.2 key hkey
    . exact h.memory key hold
    . exact huses.mem key hnew
  . intro key stored hstored
    rw [hlatest] at hstored
    rw [hs'time]
    obtain ⟨value, ttlMs, haction, -, hstarted⟩ | hold := latest_record hstored
    . refine ⟨huses.mem key (by rw [haction]; rfl), ?_⟩
      rw [hstarted]
      exact call.clock.mono 0 _ (Nat.zero_le _)
    . obtain ⟨hkey, hbefore⟩ := h.latest key stored hold
      exact ⟨hkey, UInt64.le_trans hbefore hreturned⟩
  . intro key stored hstored
    rw [hlatest] at hstored
    obtain ⟨value, ttlMs, haction, rfl, -⟩ | hold := latest_record hstored
    . exact huses.readsBack key stored.value ttlMs haction
    . exact h.readsBack key stored hold

omit hinj in
theorem latest_record_of_ne {action : TierAction ν} (startedAt returnedAt : UInt64) {key : String}
    (hkey : action.key ≠ some key)
    : (s.record startedAt returnedAt action).2 key = s.latest key := by
  cases action with
  | set other value ttlMs => exact Function.update_of_ne (fun h => hkey (congrArg some h.symm)) _ _
  | delete other => exact Function.update_of_ne (fun h => hkey (congrArg some h.symm)) _ _
  | get _ => rfl
  | promote _ => rfl
  | demote _ => rfl
  | demoteColdEntries => rfl

omit hinj in
theorem two_le_readings {action : TierAction ν} {clock : Nat → UInt64} {victim : String}
    (h : s.storage.Evicts clock action victim)
    : 2 ≤ s.storage.readings clock action := by
  cases h with
  | set => exact Nat.le_refl 2
  | promotedByGet => exact (by omega : 2 ≤ 4)
  | promoted => exact (by omega : 2 ≤ 3)

theorem kept_moveAllDown {latest : String → Option (SetCall ν)} {clock : Clock} {key : String}
    {call : SetCall ν} {time : UInt64} (hkey : key ∈ keys) (hlatest : latest key = some call)
    (hlive : call.Live time)
    (hstarted : ∀ k stored, latest k = some stored → stored.startedAt ≤ clock.reading 0)
    (hreread : ∀ k stored, latest k = some stored → reread stored.value = some stored.value)
    {cold : List String} (hcold : ∀ k ∈ cold, k ∈ keys) {n : Nat}
    (hclock : clock.reading (n + 3 * cold.length) ≤ time) {storage : TieredStorage ν}
    (hl2 : storage.l2.isSome) (hcopies : storage.AllCopies (Told keys latest))
    (hkept : storage.Kept key)
    : (TieredStorage.moveAllDown reread .working clock.reading n storage cold).2.Kept key := by
  induction cold generalizing n storage with
  | nil => exact hkept
  | cons first rest ih =>
    rw [List.length_cons] at hclock
    have hrest : n + 3 * (rest.length + 1) = n + 3 + 3 * rest.length := by omega
    rw [hrest] at hclock
    apply ih (fun k hmem => hcold k (List.mem_cons_of_mem _ hmem)) hclock
    . exact (TieredStorage.isSome_moveDown n first).trans hl2
    . apply hcopies.moveDown
      intro copy value' _ hcopy _ hreads
      obtain ⟨other, hother, hname, stored, hstored, htells⟩ := hcopies.l1 first copy hcopy
      refine ⟨other, hother, hname, stored, hstored,
        htells.restamp (hreread other stored hstored) hreads ?_⟩
      exact UInt64.le_trans (hstarted other stored hstored) (clock.mono 0 _ (Nat.zero_le _))
    . apply TieredStorage.kept_moveDown _ hkept hl2
      . exact freshUntil_of_live hinj hcopies hkey hlatest hlive
      . exact UInt64.le_trans (clock.mono n _ (by omega)) hclock
      . intro copy hcopy
        exact reread_of_told hreread (hcopies.l1 first copy hcopy)
      . exact hinj hkey (hcold first (List.mem_cons_self ..))

theorem kept_act {call : TierCall ν} (h : s.Current reread keys) (huses : Uses reread keys call)
    (htime : s.time ≤ call.clock.reading 0) (hevicts : s.EvictsStored call) {key : String}
    {stored : SetCall ν} (hlatest : s.latest key = some stored)
    (hlive : stored.Live (s.returnedAt call)) (hkept : s.storage.Kept key)
    (hdelete : call.action ≠ .delete key)
    : (s.storage.act reread .working call.clock.reading call.action).Kept key := by
  have hkey := (h.latest key stored hlatest).1
  have hfresh := freshUntil_of_live hinj h.copies hkey hlatest hlive
  have hvictim := fun hevicted => hevicts key hevicted stored hlatest hlive
  have hname : ∀ other, call.action.key = some other → keyToFilename key = keyToFilename other
      → key = other := by
    intro other hother
    exact hinj hkey (huses.mem other hother)
  obtain ⟨action, clock, disk⟩ := call
  unfold returnedAt at hfresh hlive
  dsimp only at htime hlive hfresh hvictim hname hdelete ⊢
  cases action with
  | get other =>
    exact TieredStorage.kept_get (hname other rfl) hkept hfresh
      (fun i hi => clock.mono i 4 (by omega)) hvictim
  | set other value ttlMs =>
    exact TieredStorage.kept_set value ttlMs h.enabled (hname other rfl) (fun _ => hkept)
      (fun _ => hvictim)
  | delete other =>
    apply TieredStorage.kept_delete (hname other rfl) hkept
    intro heq
    exact hdelete (by rw [heq])
  | promote other =>
    exact TieredStorage.kept_promote (hname other rfl) hkept hfresh
      (fun i hi => clock.mono i 3 (by omega)) hvictim
  | demote other =>
    exact TieredStorage.kept_demote (hname other rfl) hkept h.enabled hfresh
      (clock.mono 0 3 (by omega))
      (fun copy hcopy => reread_of_told h.readsBack (h.copies.l1 other copy hcopy))
  | demoteColdEntries =>
    apply kept_moveAllDown hinj hkey hlatest hlive
    . intro k other hother
      exact UInt64.le_trans (h.latest k other hother).2 htime
    . exact h.readsBack
    . intro k hmem
      obtain ⟨entry, hentry, rfl⟩ := List.mem_map.mp hmem
      apply h.memory
      have hget := IndexMap.get_eq_some_iff.mpr (List.mem_filter.mp hentry).1
      unfold MemoryStorage.copy
      rw [hget]
      rfl
    . exact clock.mono _ _ (Nat.le_of_eq (Nat.add_comm ..))
    . exact h.enabled
    . exact h.copies
    . exact hkept

theorem noLoss_step_iff {call : TierCall ν} (h : s.Current reread keys) (huses : Uses reread keys call)
    (hnoLoss : s.NoLoss) (hstep : s.step reread call = some s')
    : s'.NoLoss ↔ s.EvictsStored call := by
  obtain ⟨htime, hreturned, hstorage, hs'time, hlatest⟩ := step_eq_some hstep
  rw [huses.working] at hstorage
  constructor
  . intro hafter victim hevicts stored hstored hlive
    have hvictim := (h.latest victim stored hstored).1
    apply TieredStorage.fileCopy_of_evicts h.enabled _ _ _ _ hevicts
    . intro hne
      rw [← hstorage]
      apply hafter victim stored
      . rw [hlatest, latest_record_of_ne _ _ hne]
        exact hstored
      . rw [hs'time]
        exact hlive
    . exact s.returnedAt call
    . intro other hother
      exact hinj hvictim (huses.mem other hother)
    . exact freshUntil_of_live hinj h.copies hvictim hstored hlive
    . intro i hi
      exact call.clock.mono i _ (hi.trans (two_le_readings hevicts))
    . exact hnoLoss victim stored hstored (hlive.mono hreturned)
  . intro hevicts key stored hstored hlive
    rw [hlatest] at hstored
    rw [hs'time] at hlive
    rw [hstorage]
    obtain ⟨value, ttlMs, haction, -, -⟩ | hold := latest_record hstored
    . rw [haction]
      exact TieredStorage.kept_set value ttlMs h.enabled (fun _ => rfl) (fun hne => absurd rfl hne)
        (fun hne => absurd rfl hne)
    . apply kept_act hinj h huses htime hevicts hold hlive
      . exact hnoLoss key stored hold (hlive.mono hreturned)
      . intro haction
        rw [haction] at hstored
        cases (Function.update_self (f := s.latest) ..).symm.trans hstored

omit hinj in
theorem current_new {config : TieredStorageConfig} (henabled : config.enableL2.getD true = true)
    (time : UInt64)
    : (TierState.new (ν := ν) config time).Current reread keys := by
  constructor
  . unfold TierState.new TieredStorage.new
    dsimp only
    rw [if_pos henabled]
    rfl
  . constructor
    . intro key copy hcopy
      cases hcopy
    . intro l2 hl2 name stored hstored
      unfold TierState.new TieredStorage.new at hl2
      dsimp only at hl2
      rw [if_pos henabled] at hl2
      cases hl2
      cases hstored
  . intro key hkey
    cases hkey
  . intro key call hcall
    cases hcall
  . intro key call hcall
    cases hcall

/--
Every key is read with its last value until it is deleted or expires along exactly the runs in which the
memory tier evicts nothing that is alive and has no file.
-/
theorem always_readsLast_iff {config : TieredStorageConfig}
    (henabled : config.enableL2.getD true = true) (time : UInt64) {calls : List (TierCall ν)}
    (hcalls : ∀ call ∈ calls, Uses reread keys call)
    : Runs.Always (step reread) (ReadsLast keys) (TierState.new config time) calls
        ↔ Runs.Guarded (step reread) EvictsStored (TierState.new config time) calls := by
  have hnew : (TierState.new (ν := ν) config time).Current reread keys := current_new henabled time
  refine Runs.always_iff_guarded (Current reread keys) (Uses reread keys) ?_ hnew ?_ hcalls
  . intro s call s' hcurrent huses hreads hstep
    have hafter := current_step hinj hcurrent huses hstep
    refine ⟨hafter, ?_⟩
    rw [readsLast_iff hinj hafter]
    exact noLoss_step_iff hinj hcurrent huses ((readsLast_iff hinj hcurrent).mp hreads) hstep
  . rw [readsLast_iff hinj hnew]
    intro key call hcall
    cases hcall

end TierState

namespace TierState

def oneEntry : TieredStorageConfig where
  l1MaxEntries := some 1
  enableL2 := none
  promotionThreshold := none
  demotionThresholdMs := none

def twoKeys : Set String :=
  fun key => key ∈ ["plan", "notes"]

def tierCall (action : TierAction Value) : TierCall Value where
  action := action
  clock := .still 0
  disk := .working

theorem injOn_twoKeys : Set.InjOn keyToFilename twoKeys := by
  intro a ha b hb h
  have hall : ∀ a ∈ ["plan", "notes"], ∀ b ∈ ["plan", "notes"], keyToFilename a = keyToFilename b
      → a = b := by decide
  exact hall a ha b hb h

theorem uses_tierCall {action : TierAction Value} {key : String} (hkey : key ∈ twoKeys)
    (haction : action.key = some key)
    : Uses some twoKeys (tierCall action) := by
  refine ⟨rfl, ?_, fun _ _ _ _ => rfl⟩
  intro other hother
  cases haction.symm.trans hother
  exact hkey

theorem always_readsLast_iff_evicted
    : Runs.Always (step some) (ReadsLast twoKeys) (TierState.new oneEntry 0)
          [tierCall (.set "plan" (.bool true) none), tierCall (.set "notes" .null none),
            tierCall (.get "plan")]
        ↔ Runs.Guarded (step some) EvictsStored (TierState.new oneEntry 0)
          [tierCall (.set "plan" (.bool true) none), tierCall (.set "notes" .null none),
            tierCall (.get "plan")] := by
  apply always_readsLast_iff injOn_twoKeys rfl
  intro call hcall
  have hplan : "plan" ∈ twoKeys := List.mem_cons_self ..
  have hnotes : "notes" ∈ twoKeys := List.mem_cons_of_mem _ (List.mem_cons_self ..)
  simp only [List.mem_cons, List.not_mem_nil, or_false] at hcall
  obtain rfl | rfl | rfl := hcall
  . exact uses_tierCall hplan rfl
  . exact uses_tierCall hnotes rfl
  . exact uses_tierCall hplan rfl

/-- A promotion leaves the only copy in the memory tier, from where the next key evicts it. -/
theorem promoted_not_readsLast
    : Set.InjOn keyToFilename twoKeys
        ∧ ¬ Runs.Always (step some) (ReadsLast twoKeys) (TierState.new oneEntry 0)
          [tierCall (.set "plan" (.bool true) none), tierCall (.promote "plan"),
            tierCall (.set "notes" .null none)] := by
  refine ⟨injOn_twoKeys, ?_⟩
  intro h
  have hreads := h.run_eq_some rfl
  have hget := hreads.readable "plan" (List.mem_cons_self ..) (.still 0) (by decide) _ rfl
    (fun ttl httl => by cases httl)
  cases hget

end TierState

end AnimaAgent
