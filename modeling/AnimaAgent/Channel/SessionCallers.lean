import AnimaAgent.Channel.Session
import AnimaAgent.Library.Threads

namespace AnimaAgent

inductive CallerPhase where
  | byId
  | byRoutingKey
  | byExtractedId
  | creating
  | returned (session : Session)

structure SessionCaller where
  channelName : String
  phase : CallerPhase

structure SessionBoard where
  store : SessionStoreState
  created : List Session

namespace SessionStoreState

variable (state : SessionStoreState) (opts : FindSessionOptions)

def findById : Option Session :=
  opts.sessionId.bind state.getSession

def findByRoutingKey : Option Session :=
  opts.routingKey.bind state.getSessionByRoutingKey

def findByExtractedId : Option Session :=
  (opts.routingKey.bind extractSessionId).bind state.getSession

def createFor (channelName uuid : String) (now : UInt64) : Session × SessionStoreState :=
  state.createSession channelName
    { routingKey := opts.routingKey, accountId := opts.accountId } uuid now

theorem findSession_eq
    : state.findSession opts
        = (state.findById opts <|> state.findByRoutingKey opts <|> state.findByExtractedId opts) := by
  rfl

end SessionStoreState

namespace SessionCaller

variable (opts : FindSessionOptions)

def found (next : CallerPhase) : Option Session → CallerPhase
  | some session => .returned session
  | none => next

def act (uuid : String) (now : UInt64) (board : SessionBoard) (caller : SessionCaller)
    : Option (SessionBoard × SessionCaller) :=
  match caller.phase with
  | .byId =>
    some (board, { caller with phase := found .byRoutingKey (board.store.findById opts) })
  | .byRoutingKey =>
    some (board, { caller with phase := found .byExtractedId (board.store.findByRoutingKey opts) })
  | .byExtractedId =>
    some (board, { caller with phase := found .creating (board.store.findByExtractedId opts) })
  | .creating =>
    let (session, store) := board.store.createFor opts caller.channelName uuid now
    some ({ store, created := board.created ++ [session] }, { caller with phase := .returned session })
  | .returned _ => none

end SessionCaller

inductive CallerAction where
  | start (channelName : String)
  | advance (i : Nat) (uuid : String) (now : UInt64)

abbrev SessionCallers := Threads SessionBoard SessionCaller

namespace SessionCallers

variable (opts : FindSessionOptions)

def init (store : SessionStoreState) : SessionCallers where
  shared := { store, created := [] }
  threads := []

def step (s : SessionCallers) : CallerAction → Option SessionCallers
  | .start channelName => some (s.start { channelName, phase := .byId })
  | .advance i uuid now => s.advance (SessionCaller.act opts uuid now) i

/-- All callers that have returned have returned one session, of which at most one was created. -/
structure OneSession (s : SessionCallers) : Prop where
  same : ∀ a ∈ s.threads, ∀ b ∈ s.threads, ∀ session session', a.phase = .returned session
    → b.phase = .returned session' → session = session'
  once : s.shared.created.length ≤ 1

/--
A caller creates a session only if it would still find none. Without a routing key nobody would find it,
so that no other one may have been created.
-/
def CreatesAlone (s : SessionCallers) : CallerAction → Prop
  | .start _ => True
  | .advance i _ _ => ∀ caller, s.threads[i]? = some caller → caller.phase = .creating
    → s.shared.store.findSession opts = none
      ∧ (opts.routingKey.isSome ∨ s.shared.created = [])

end SessionCallers

namespace SessionStoreState

variable {state : SessionStoreState} {opts : FindSessionOptions}

theorem findSession_eq_none_iff
    : state.findSession opts = none ↔ state.findById opts = none
        ∧ state.findByRoutingKey opts = none ∧ state.findByExtractedId opts = none := by
  rw [findSession_eq]
  cases state.findById opts with
  | some session => simp
  | none =>
    cases state.findByRoutingKey opts with
    | some session => simp
    | none => simp

theorem findSession_of_byId {session : Session} (h : state.findById opts = some session)
    : state.findSession opts = some session := by
  rw [findSession_eq, h]
  rfl

theorem findSession_of_byRoutingKey {session : Session} (hid : state.findById opts = none)
    (h : state.findByRoutingKey opts = some session)
    : state.findSession opts = some session := by
  rw [findSession_eq, hid, h]
  rfl

theorem findSession_of_byExtractedId {session : Session} (hid : state.findById opts = none)
    (hkey : state.findByRoutingKey opts = none)
    (h : state.findByExtractedId opts = some session)
    : state.findSession opts = some session := by
  rw [findSession_eq, hid, hkey, h]
  rfl

section Created

variable {channelName uuid : String} {now : UInt64}

theorem getSession_createFor (id : String)
    : (state.createFor opts channelName uuid now).2.getSession id
        = if id = uuid then some (state.createFor opts channelName uuid now).1
          else state.getSession id := by
  exact IndexMap.get_insert_eq ..

theorem eq_of_getSession_createFor {id : String} {session : Session}
    (hnone : state.getSession id = none)
    (h : (state.createFor opts channelName uuid now).2.getSession id = some session)
    : session = (state.createFor opts channelName uuid now).1 := by
  rw [getSession_createFor] at h
  split at h
  . exact (Option.some.inj h).symm
  . rw [hnone] at h
    cases h

variable (state channelName uuid now) in
theorem findByRoutingKey_createFor (hkey : opts.routingKey.isSome)
    : (state.createFor opts channelName uuid now).2.findByRoutingKey opts
        = some (state.createFor opts channelName uuid now).1 := by
  obtain ⟨routingKey, hkey⟩ := Option.isSome_iff_exists.mp hkey
  have hrouted : (state.createFor opts channelName uuid now).2.byRoutingKey.get routingKey
      = some uuid := by
    refine (IndexMap.get_insert_eq ..).trans ?_
    rw [hkey]
    exact if_pos rfl
  unfold findByRoutingKey getSessionByRoutingKey
  rw [hkey, Option.bind_some, hrouted, Option.bind_some]
  exact (getSession_createFor uuid).trans (if_pos rfl)

variable (hnone : state.findSession opts = none) {session : Session}
include hnone

theorem eq_of_findById_createFor
    (h : (state.createFor opts channelName uuid now).2.findById opts = some session)
    : session = (state.createFor opts channelName uuid now).1 := by
  obtain ⟨hid, -, -⟩ := findSession_eq_none_iff.mp hnone
  unfold findById at h hid
  obtain ⟨id, hsome, h⟩ := Option.bind_eq_some_iff.mp h
  rw [hsome, Option.bind_some] at hid
  exact eq_of_getSession_createFor hid h

theorem eq_of_findByExtractedId_createFor
    (h : (state.createFor opts channelName uuid now).2.findByExtractedId opts = some session)
    : session = (state.createFor opts channelName uuid now).1 := by
  obtain ⟨-, -, hextracted⟩ := findSession_eq_none_iff.mp hnone
  unfold findByExtractedId at h hextracted
  obtain ⟨id, hsome, h⟩ := Option.bind_eq_some_iff.mp h
  rw [hsome, Option.bind_some] at hextracted
  exact eq_of_getSession_createFor hextracted h

end Created

theorem eq_of_findByRoutingKey_createFor {channelName uuid : String} {now : UInt64}
    {session : Session}
    (h : (state.createFor opts channelName uuid now).2.findByRoutingKey opts = some session)
    : session = (state.createFor opts channelName uuid now).1 := by
  have hkey : opts.routingKey.isSome := by
    obtain ⟨routingKey, hkey, -⟩ := Option.bind_eq_some_iff.mp h
    exact Option.isSome_of_eq_some hkey
  rw [findByRoutingKey_createFor state channelName uuid now hkey] at h
  exact (Option.some.inj h).symm

end SessionStoreState

def CallerPhase.Knows (opts : FindSessionOptions) (store : SessionStoreState) : CallerPhase → Prop
  | .byId => True
  | .byRoutingKey => store.findById opts = none
  | .byExtractedId => store.findById opts = none ∧ store.findByRoutingKey opts = none
  | .creating => store.findSession opts = none
  | .returned session => store.findSession opts = some session

namespace SessionCallers

open SessionCaller

variable {opts : FindSessionOptions} {initial : SessionStoreState} {s s' : SessionCallers}

structure Follows (opts : FindSessionOptions) (initial : SessionStoreState) (s : SessionCallers)
    : Prop where
  untouched : s.shared.created = []
    → s.shared.store = initial ∧ ∀ caller ∈ s.threads, caller.phase.Knows opts initial
  touched : ∀ session, s.shared.created = [session]
    → initial.findSession opts = none
      ∧ (∃ channelName uuid now,
        initial.createFor opts channelName uuid now = (session, s.shared.store))
      ∧ ∀ caller ∈ s.threads, ∀ returned, caller.phase = .returned returned → returned = session

theorem follows_init (store : SessionStoreState) : (init store).Follows opts store where
  untouched := fun _ => ⟨rfl, fun _ hmem => absurd hmem List.not_mem_nil⟩
  touched := fun _ h => by cases h

theorem knows_found {store : SessionStoreState} {next : CallerPhase} {result : Option Session}
    (hsome : ∀ session, result = some session → store.findSession opts = some session)
    (hnone : result = none → next.Knows opts store)
    : (found next result).Knows opts store := by
  cases result with
  | some session => exact hsome session rfl
  | none => exact hnone rfl

theorem knows_lookup {store : SessionStoreState} {board : SessionBoard}
    (hstore : board.store = store) {caller caller' : SessionCaller} {board' : SessionBoard}
    {uuid : String} {now : UInt64} (hknows : caller.phase.Knows opts store)
    (hphase : caller.phase ≠ .creating) (hact : act opts uuid now board caller = some (board', caller'))
    : board' = board ∧ caller'.phase.Knows opts store := by
  subst hstore
  unfold act at hact
  split at hact
  . cases hact
    exact ⟨rfl, knows_found (fun _ h => SessionStoreState.findSession_of_byId h) (fun h => h)⟩
  . next hbyKey =>
    rw [hbyKey] at hknows
    cases hact
    refine ⟨rfl, knows_found (fun _ h => ?_) (fun h => ⟨hknows, h⟩)⟩
    exact SessionStoreState.findSession_of_byRoutingKey hknows h
  . next hextracted =>
    rw [hextracted] at hknows
    obtain ⟨hid, hkey⟩ := hknows
    cases hact
    refine ⟨rfl, knows_found (fun _ h => ?_) (fun h => ?_)⟩
    . exact SessionStoreState.findSession_of_byExtractedId hid hkey h
    . exact SessionStoreState.findSession_eq_none_iff.mpr ⟨hid, hkey, h⟩
  . next hcreating => exact absurd hcreating hphase
  . cases hact

theorem run_advance_alone {uuid : String} {now : UInt64} {board board' : SessionBoard}
    {caller caller' : SessionCaller} (h : act opts uuid now board caller = some (board', caller'))
    (n : Nat)
    : Runs.run (step opts) { shared := board, threads := [caller] }
          (List.replicate (n + 1) (.advance 0 uuid now))
        = Runs.run (step opts) { shared := board', threads := [caller'] }
          (List.replicate n (.advance 0 uuid now)) := by
  have hstep : step opts { shared := board, threads := [caller] } (.advance 0 uuid now)
      = some { shared := board', threads := [caller'] } := by
    change (act opts uuid now board caller).map _ = _
    rw [h]
    rfl
  rw [List.replicate_succ]
  exact Runs.run_cons_of_some _ hstep

theorem run_alone (opts : FindSessionOptions) (store : SessionStoreState)
    (channelName uuid : String) (now : UInt64)
    : ∃ n created, Runs.run (step opts) (init store)
          (.start channelName :: List.replicate n (.advance 0 uuid now))
        = some {
          shared := {
            store := (store.findOrCreateSession channelName opts uuid now).2
            created := created }
          threads := [{
            channelName := channelName
            phase := .returned (store.findOrCreateSession channelName opts uuid now).1 }] } := by
  have hact : ∀ (phase next : CallerPhase),
      act opts uuid now { store, created := [] } { channelName, phase }
        = some ({ store, created := [] }, { channelName, phase := next })
      → ∀ n, Runs.run (step opts)
          { shared := { store, created := [] }, threads := [{ channelName, phase }] }
          (List.replicate (n + 1) (.advance 0 uuid now))
        = Runs.run (step opts)
          { shared := { store, created := [] }, threads := [{ channelName, phase := next }] }
          (List.replicate n (.advance 0 uuid now)) :=
    fun _ _ h n => run_advance_alone h n
  have hbyId := hact .byId _ rfl
  have hbyKey := hact .byRoutingKey _ rfl
  have hbyExtracted := hact .byExtractedId _ rfl
  unfold SessionStoreState.findOrCreateSession
  cases hid : store.findById opts with
  | some session =>
    rw [SessionStoreState.findSession_of_byId hid]
    rw [hid] at hbyId
    exact ⟨1, [], hbyId 0⟩
  | none =>
    rw [hid] at hbyId
    cases hkey : store.findByRoutingKey opts with
    | some session =>
      rw [SessionStoreState.findSession_of_byRoutingKey hid hkey]
      rw [hkey] at hbyKey
      exact ⟨2, [], (hbyId 1).trans (hbyKey 0)⟩
    | none =>
      rw [hkey] at hbyKey
      cases hextracted : store.findByExtractedId opts with
      | some session =>
        rw [SessionStoreState.findSession_of_byExtractedId hid hkey hextracted]
        rw [hextracted] at hbyExtracted
        exact ⟨3, [], ((hbyId 2).trans (hbyKey 1)).trans (hbyExtracted 0)⟩
      | none =>
        rw [SessionStoreState.findSession_eq_none_iff.mpr ⟨hid, hkey, hextracted⟩]
        rw [hextracted] at hbyExtracted
        have hcreate : act opts uuid now { store, created := [] } { channelName, phase := .creating }
            = some (
              { store := (store.createFor opts channelName uuid now).2
                created := [(store.createFor opts channelName uuid now).1] },
              { channelName, phase := .returned (store.createFor opts channelName uuid now).1 }) :=
          rfl
        exact ⟨4, [(store.createFor opts channelName uuid now).1], ((hbyId 3).trans (hbyKey 2)).trans
          ((hbyExtracted 1).trans (run_advance_alone hcreate 0))⟩

theorem returned_lookup {session : Session} {store : SessionStoreState}
    (hnone : initial.findSession opts = none) {channelName uuid₀ : String} {now₀ : UInt64}
    (hcreated : initial.createFor opts channelName uuid₀ now₀ = (session, store))
    {board board' : SessionBoard} (hstore : board.store = store) {caller caller' : SessionCaller}
    {uuid : String} {now : UInt64} (hphase : caller.phase ≠ .creating)
    (hact : act opts uuid now board caller = some (board', caller'))
    : board' = board ∧ ∀ returned, caller'.phase = .returned returned → returned = session := by
  have hfound : ∀ (next : CallerPhase) (result : Option Session),
      (∀ returned, next ≠ .returned returned) → (∀ found, result = some found → found = session)
      → ∀ returned, found next result = .returned returned → returned = session := by
    intro next result hnext hresult returned hreturned
    cases result with
    | none => exact absurd hreturned (hnext returned)
    | some result =>
      cases hreturned
      exact hresult _ rfl
  have hfst : session = (initial.createFor opts channelName uuid₀ now₀).1 := by rw [hcreated]
  have hsnd : board.store = (initial.createFor opts channelName uuid₀ now₀).2 := by
    rw [hcreated, hstore]
  unfold act at hact
  rw [hsnd] at hact
  split at hact
  . cases hact
    refine ⟨rfl, hfound _ _ (fun _ => CallerPhase.noConfusion) (fun found h => ?_)⟩
    rw [hfst]
    exact SessionStoreState.eq_of_findById_createFor hnone h
  . cases hact
    refine ⟨rfl, hfound _ _ (fun _ => CallerPhase.noConfusion) (fun found h => ?_)⟩
    rw [hfst]
    exact SessionStoreState.eq_of_findByRoutingKey_createFor h
  . cases hact
    refine ⟨rfl, hfound _ _ (fun _ => CallerPhase.noConfusion) (fun found h => ?_)⟩
    rw [hfst]
    exact SessionStoreState.eq_of_findByExtractedId_createFor hnone h
  . next hcreating => exact absurd hcreating hphase
  . cases hact

theorem same_of_knows {threads : List SessionCaller}
    (h : ∀ caller ∈ threads, caller.phase.Knows opts initial)
    : ∀ a ∈ threads, ∀ b ∈ threads, ∀ session session', a.phase = .returned session
      → b.phase = .returned session' → session = session' := by
  intro a ha b hb session session' hphase hphase'
  have hfound := h a ha
  have hfound' := h b hb
  rw [hphase] at hfound
  rw [hphase'] at hfound'
  exact Option.some.inj (hfound.symm.trans hfound')

theorem start_spec (channelName : String) (hfollows : s.Follows opts initial) (hone : s.OneSession)
    : Follows opts initial (s.start { channelName, phase := .byId })
      ∧ OneSession (s.start { channelName, phase := .byId }) := by
  have hmem : ∀ caller ∈ s.threads ++ [{ channelName, phase := .byId }],
      caller ∈ s.threads ∨ caller.phase = .byId := by
    intro caller hcaller
    obtain hold | hnew := List.mem_append.mp hcaller
    . exact .inl hold
    . exact .inr (by rw [List.mem_singleton.mp hnew])
  refine ⟨⟨?_, ?_⟩, ⟨?_, hone.once⟩⟩
  . intro hcreated
    obtain ⟨hstore, hknows⟩ := hfollows.untouched hcreated
    refine ⟨hstore, fun caller hcaller => ?_⟩
    obtain hold | hphase := hmem caller hcaller
    . exact hknows caller hold
    . rw [hphase]
      trivial
  . intro session hcreated
    obtain ⟨hnone, hstore, hreturned⟩ := hfollows.touched session hcreated
    refine ⟨hnone, hstore, fun caller hcaller returned hphase => ?_⟩
    obtain hold | hnew := hmem caller hcaller
    . exact hreturned caller hold returned hphase
    . cases hnew.symm.trans hphase
  . intro a ha b hb session session' hphase hphase'
    obtain hold | hnew := hmem a ha
    . obtain hold' | hnew' := hmem b hb
      . exact hone.same a hold b hold' session session' hphase hphase'
      . cases hnew'.symm.trans hphase'
    . cases hnew.symm.trans hphase

theorem forall_mem_set {P : SessionCaller → Prop} {threads : List SessionCaller} {i : Nat}
    {caller' : SessionCaller} (hold : ∀ caller ∈ threads, P caller) (hnew : P caller')
    : ∀ caller ∈ threads.set i caller', P caller := by
  intro caller hcaller
  obtain hmem | rfl := List.mem_or_eq_of_mem_set hcaller
  . exact hold caller hmem
  . exact hnew

theorem lookup_spec {i : Nat} {uuid : String} {now : UInt64} {caller caller' : SessionCaller}
    {board' : SessionBoard} (hfollows : s.Follows opts initial) (hone : s.OneSession)
    (hi : s.threads[i]? = some caller) (hphase : caller.phase ≠ .creating)
    (hact : act opts uuid now s.shared caller = some (board', caller'))
    : Follows opts initial { shared := board', threads := s.threads.set i caller' }
      ∧ OneSession { shared := board', threads := s.threads.set i caller' } := by
  have hmem := List.mem_of_getElem? hi
  have honce := hone.once
  cases hcreated : s.shared.created with
  | nil =>
    obtain ⟨hstore, hknows⟩ := hfollows.untouched hcreated
    obtain ⟨rfl, hknows'⟩ := knows_lookup hstore (hknows caller hmem) hphase hact
    have hall := forall_mem_set (i := i) hknows hknows'
    refine ⟨⟨fun _ => ⟨hstore, hall⟩, ?_⟩, ⟨same_of_knows hall, honce⟩⟩
    intro session hsession
    cases hcreated.symm.trans hsession
  | cons session rest =>
    have hrest : rest = [] := by
      rw [hcreated, List.length_cons] at honce
      exact List.length_eq_zero_iff.mp (by omega)
    subst hrest
    obtain ⟨hnone, ⟨channelName, uuid₀, now₀, hstore⟩, hreturned⟩ := hfollows.touched session hcreated
    obtain ⟨rfl, hreturned'⟩ := returned_lookup hnone hstore rfl hphase hact
    have hall := forall_mem_set (i := i) hreturned hreturned'
    refine ⟨⟨?_, ?_⟩, ⟨?_, honce⟩⟩
    . intro hnil
      cases hcreated.symm.trans hnil
    . intro session' hsession'
      cases hcreated.symm.trans hsession'
      exact ⟨hnone, ⟨channelName, uuid₀, now₀, hstore⟩, hall⟩
    . intro a ha b hb x y hx hy
      exact (hall a ha x hx).trans (hall b hb y hy).symm

theorem create_spec {i : Nat} {caller : SessionCaller} (uuid : String) (now : UInt64)
    (hfollows : s.Follows opts initial) (hone : s.OneSession) (hi : s.threads[i]? = some caller)
    (hphase : caller.phase = .creating)
    : let created := s.shared.store.createFor opts caller.channelName uuid now
      let after : SessionCallers := {
        shared := { store := created.2, created := s.shared.created ++ [created.1] }
        threads := s.threads.set i { caller with phase := .returned created.1 } }
      after.Follows opts initial
      ∧ (after.OneSession
        ↔ s.shared.store.findSession opts = none
          ∧ (opts.routingKey.isSome ∨ s.shared.created = [])) := by
  have hmem := List.mem_of_getElem? hi
  have honce := hone.once
  dsimp only
  cases hcreated : s.shared.created with
  | nil =>
    obtain ⟨hstore, hknows⟩ := hfollows.untouched hcreated
    have hnone : initial.findSession opts = none := by
      have hcaller := hknows caller hmem
      rw [hphase] at hcaller
      exact hcaller
    have hnotReturned : ∀ other ∈ s.threads, ∀ returned, other.phase = .returned returned
        → returned = (s.shared.store.createFor opts caller.channelName uuid now).1 := by
      intro other hother returned hreturned
      have hfound := hknows other hother
      rw [hreturned] at hfound
      cases hnone.symm.trans hfound
    have hall : ∀ other ∈ s.threads.set i { caller with
          phase := .returned (s.shared.store.createFor opts caller.channelName uuid now).1 },
        ∀ returned, other.phase = .returned returned
          → returned = (s.shared.store.createFor opts caller.channelName uuid now).1 :=
      forall_mem_set hnotReturned (fun returned hreturned => by cases hreturned; rfl)
    refine ⟨⟨fun h => absurd h (List.cons_ne_nil _ _), ?_⟩,
      iff_of_true ⟨?_, Nat.le_refl 1⟩ ⟨?_, .inr rfl⟩⟩
    . intro session hsession
      cases hsession
      exact ⟨hnone, ⟨caller.channelName, uuid, now, by rw [← hstore]⟩, hall⟩
    . intro a ha b hb x y hx hy
      exact (hall a ha x hx).trans (hall b hb y hy).symm
    . rw [hstore]
      exact hnone
  | cons session rest =>
    have hrest : rest = [] := by
      rw [hcreated, List.length_cons] at honce
      exact List.length_eq_zero_iff.mp (by omega)
    subst hrest
    obtain ⟨-, ⟨channelName, uuid₀, now₀, hstore⟩, -⟩ := hfollows.touched session hcreated
    refine ⟨⟨fun h => absurd h (List.cons_ne_nil _ _), fun _ h => ?_⟩, iff_of_false ?_ ?_⟩
    . cases h
    . intro hafter
      have := hafter.once
      simp at this
    . rintro ⟨hnone, hkey | hnil⟩
      . have hfound := SessionStoreState.findByRoutingKey_createFor initial channelName uuid₀ now₀ hkey
        rw [hstore] at hfound
        cases (SessionStoreState.findSession_eq_none_iff.mp hnone).2.1.symm.trans hfound
      . cases hnil

theorem step_iff {action : CallerAction} (hfollows : s.Follows opts initial) (hone : s.OneSession)
    (hstep : step opts s action = some s')
    : s'.Follows opts initial ∧ (s'.OneSession ↔ s.CreatesAlone opts action) := by
  cases action with
  | start channelName =>
    cases hstep
    obtain ⟨hfollows', hone'⟩ := start_spec channelName hfollows hone
    exact ⟨hfollows', iff_of_true hone' trivial⟩
  | advance i uuid now =>
    obtain ⟨caller, caller', board', hi, hact, rfl⟩ := Threads.advance_eq_some hstep
    by_cases hphase : caller.phase = .creating
    . obtain ⟨hfollows', hiff⟩ := create_spec uuid now hfollows hone hi hphase
      unfold act at hact
      rw [hphase] at hact
      cases hact
      refine ⟨hfollows', hiff.trans ⟨?_, ?_⟩⟩
      . intro halone other hother _
        exact halone
      . intro halone
        exact halone caller hi hphase
    . obtain ⟨hfollows', hone'⟩ := lookup_spec hfollows hone hi hphase hact
      refine ⟨hfollows', iff_of_true hone' ?_⟩
      intro other hother hcreating
      cases hi.symm.trans hother
      exact absurd hcreating hphase

/--
The callers return one session and create at most one throughout exactly those runs in which each that
creates would still find none, and is the first one if they have no routing key.
-/
theorem always_oneSession_iff (opts : FindSessionOptions) (store : SessionStoreState)
    (actions : List CallerAction)
    : Runs.Always (step opts) OneSession (init store) actions
        ↔ Runs.Guarded (step opts) (CreatesAlone opts) (init store) actions := by
  refine Runs.always_iff_guarded (Follows opts store) (fun _ => True) ?_ (follows_init store)
    ⟨fun _ hmem => absurd hmem List.not_mem_nil, Nat.zero_le 1⟩ (fun _ _ => trivial)
  intro s action s' hfollows _ hone hstep
  exact step_iff hfollows hone hstep

/-- Two calls for a session identifier, one after the other, create a session each. -/
theorem not_always_oneSession
    : ¬ Runs.Always (step { sessionId := some "s" }) OneSession (init .new)
        ([.start "web", .advance 0 "" 0, .advance 0 "" 0, .advance 0 "" 0, .advance 0 "u" 0]
          ++ [.start "web", .advance 1 "" 1, .advance 1 "" 1, .advance 1 "" 1,
            .advance 1 "v" 1]) := by
  intro h
  have hone := Runs.Always.run_eq_some h rfl
  exact absurd hone.once (by decide)

end SessionCallers

end AnimaAgent
