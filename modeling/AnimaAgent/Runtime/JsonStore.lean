import AnimaAgent.Runtime.PersistedState

namespace AnimaAgent

def RuntimeDomainEvent.eventType : RuntimeDomainEvent → String
  | runUpserted .. => "run_upserted"
  | turnUpserted .. => "turn_upserted"
  | taskUpserted .. => "task_upserted"
  | suspensionUpserted .. => "suspension_upserted"
  | toolInvocationUpserted .. => "tool_invocation_upserted"
  | requirementUpserted .. => "requirement_upserted"
  | messageAppended .. => "message_appended"
  | projectionHintRecorded .. => "projection_hint_recorded"

def lastEvents (events : List RuntimeDomainEventEnvelope) : List RuntimeDomainEventEnvelope :=
  if events.length > 200 then events.drop (events.length - 200) else events

structure JsonStoreInner where
  nextSequence : UInt64 := 0
  snapshot : RuntimeStateSnapshot := {}
  recentEvents : List RuntimeDomainEventEnvelope := []

structure JsonStateStore where
  inner : JsonStoreInner
  file : Option String

namespace JsonStoreInner

def persisted (inner : JsonStoreInner) : PersistedRuntimeState where
  version := RUNTIME_STATE_PERSISTENCE_VERSION
  nextSequence := inner.nextSequence
  snapshot := inner.snapshot
  recentEvents := inner.recentEvents

end JsonStoreInner

namespace JsonStateStore

section Store

variable (serde : SerdeJson)

def loadPersistedState (file : Option String) : Option PersistedRuntimeState := do
  let content ← file
  let value ← parseData serde content
  let persisted ← PersistedRuntimeState.fromValue value
  if persisted.version ≠ RUNTIME_STATE_PERSISTENCE_VERSION then none else some persisted

def restored (file : Option String) : PersistedRuntimeState :=
  (loadPersistedState serde file).getD
    { version := RUNTIME_STATE_PERSISTENCE_VERSION, nextSequence := 0, snapshot := {}
      recentEvents := [] }

def withPersistence (file : Option String) : JsonStateStore where
  inner :=
    { nextSequence := (restored serde file).nextSequence
      snapshot := (restored serde file).snapshot
      recentEvents := (restored serde file).recentEvents }
  file := file

def persistState (inner : JsonStoreInner) : JsonStateStore where
  inner := inner
  file := some (serde.toString inner.persisted.toValue)

variable (store : JsonStateStore)

def append (now : UInt64) (event : RuntimeDomainEvent) : JsonStateStore :=
  let sequence := store.inner.nextSequence + 1
  persistState serde
    { nextSequence := sequence
      snapshot := reduceEvent store.inner.snapshot event
      recentEvents := lastEvents (store.inner.recentEvents
        ++ [{ sequence, recordedAtMs := now, eventType := event.eventType }]) }

def deleteSession (chatId : String) : JsonStateStore :=
  let inner := { store.inner with snapshot := store.inner.snapshot.purgeSession chatId }
  if (store.inner.snapshot.sessionRunIds chatId).length > 0 then
    persistState serde inner
  else
    { store with inner }

def setSessionTitle (chatId title : String) : JsonStateStore :=
  persistState serde
    { store.inner with
      snapshot :=
        { store.inner.snapshot with
          sessionTitles := store.inner.snapshot.sessionTitles.insert chatId title } }

def deleteSessionTitle (chatId : String) : JsonStateStore :=
  if chatId ∈ store.inner.snapshot.sessionTitles then
    persistState serde
      { store.inner with
        snapshot :=
          { store.inner.snapshot with
            sessionTitles := store.inner.snapshot.sessionTitles.erase chatId } }
  else
    store

def step (now : UInt64) : StoreAction → JsonStateStore
  | .append event => store.append serde now event
  | .deleteSession chatId => store.deleteSession serde chatId
  | .setSessionTitle chatId title => store.setSessionTitle serde chatId title
  | .deleteSessionTitle chatId => store.deleteSessionTitle serde chatId

end Store

variable {serde : SerdeJson} {store : JsonStateStore}

def Reloads (serde : SerdeJson) (store : JsonStateStore) : Prop :=
  (restored serde store.file).Same store.inner.persisted

/-- The text of the state is read back, and its counters fit into a `usize`. -/
structure Storable (serde : SerdeJson) (store : JsonStateStore) : Prop where
  text : serde.ReadsBack store.inner.persisted.toValue
  fits : PersistedRuntimeState.Fits store.inner.snapshot

def DeletesRuns (store : JsonStateStore) : StoreAction → Prop
  | .deleteSession chatId =>
    chatId ∈ store.inner.snapshot.sessionTitles → store.inner.snapshot.sessionRunIds chatId ≠ []
  | _ => True

theorem loadPersistedState_persistState {inner : JsonStoreInner}
    (h : Storable serde (persistState serde inner))
    : ∃ persisted, loadPersistedState serde (persistState serde inner).file = some persisted
        ∧ persisted.Same inner.persisted := by
  obtain ⟨persisted, hread, hsame⟩ :=
    PersistedRuntimeState.fromValue_toValue inner.persisted h.fits
  refine ⟨persisted, ?_, hsame⟩
  have htext : serde.fromStr (serde.toString inner.persisted.toValue)
      = .ok inner.persisted.toValue := h.text
  have hversion : persisted.version = RUNTIME_STATE_PERSISTENCE_VERSION := hsame.version
  unfold loadPersistedState persistState parseData
  dsimp only [Option.bind_eq_bind, Option.bind_some]
  rw [htext]
  dsimp only [Option.bind_some]
  rw [hread, Option.bind_some, if_neg (not_not_intro hversion)]

theorem reloads_persistState {inner : JsonStoreInner}
    (h : Storable serde (persistState serde inner))
    : Reloads serde (persistState serde inner) := by
  obtain ⟨persisted, hload, hsame⟩ := loadPersistedState_persistState h
  unfold Reloads restored
  rw [hload]
  exact hsame

theorem reloads_withPersistence (file : Option String)
    : Reloads serde (withPersistence serde file) := by
  have hversion : (restored serde file).version = RUNTIME_STATE_PERSISTENCE_VERSION := by
    unfold restored
    cases hload : loadPersistedState serde file with
    | none => rfl
    | some persisted =>
      obtain ⟨content, _, hcontent⟩ := Option.bind_eq_some_iff.mp hload
      obtain ⟨value, _, hvalue⟩ := Option.bind_eq_some_iff.mp hcontent
      obtain ⟨read, _, hread⟩ := Option.bind_eq_some_iff.mp hvalue
      split at hread
      . cases hread
      . next hsame =>
        cases hread
        exact not_not.mp hsame
  refine ⟨hversion, rfl, ?_, fun _ => rfl, rfl⟩
  constructor <;> intros <;> rfl

theorem purgeSession_of_no_runs {snapshot : RuntimeStateSnapshot} {chatId : String}
    (h : snapshot.sessionRunIds chatId = [])
    : snapshot.purgeSession chatId
        = { snapshot with sessionTitles := snapshot.sessionTitles.erase chatId } := by
  have hturns : snapshot.runTurnIds [] = [] := by
    unfold RuntimeStateSnapshot.runTurnIds
    simp
  unfold RuntimeStateSnapshot.purgeSession
  dsimp only
  rw [h, hturns]
  simp only [List.not_mem_nil, not_false_eq_true, decide_true, Rows.keep_true, List.filter_true]

theorem erase_of_notMem {titles : AList (fun _ : String => String)} {chatId : String}
    (h : chatId ∉ titles)
    : titles.erase chatId = titles := by
  exact AList.ext (List.kerase_of_notMem_keys h)

theorem Reloads.deleteSession_iff (h : Reloads serde store) (chatId : String)
    (hstorable : Storable serde (store.deleteSession serde chatId))
    : Reloads serde (store.deleteSession serde chatId)
        ↔ (chatId ∈ store.inner.snapshot.sessionTitles
          → store.inner.snapshot.sessionRunIds chatId ≠ []) := by
  unfold deleteSession at hstorable ⊢
  dsimp only at hstorable ⊢
  by_cases hruns : store.inner.snapshot.sessionRunIds chatId = []
  . rw [if_neg (by rw [hruns]; exact Nat.lt_irrefl 0), purgeSession_of_no_runs hruns]
    constructor
    . intro hafter htitle
      -- the file has the title still
      obtain ⟨title, hlookup⟩ := Option.isSome_iff_exists.mp (AList.lookup_isSome.mpr htitle)
      have hbefore := (h.titles chatId).trans hlookup
      have hmissing := (hafter.titles chatId).trans (AList.lookup_erase chatId _)
      cases hbefore.symm.trans hmissing
    . intro hdeletes
      have hnew : chatId ∉ store.inner.snapshot.sessionTitles := fun htitle => hdeletes htitle hruns
      rw [erase_of_notMem hnew]
      exact h
  . have hlength := List.length_pos_iff.mpr hruns
    rw [if_pos hlength] at hstorable ⊢
    exact iff_of_true (reloads_persistState hstorable) (fun _ => hruns)

theorem Reloads.step_iff (h : Reloads serde store) (now : UInt64) (action : StoreAction)
    (hstorable : Storable serde (store.step serde now action))
    : Reloads serde (store.step serde now action) ↔ store.DeletesRuns action := by
  cases action with
  | append event => exact iff_of_true (reloads_persistState hstorable) trivial
  | deleteSession chatId => exact h.deleteSession_iff chatId hstorable
  | setSessionTitle chatId title => exact iff_of_true (reloads_persistState hstorable) trivial
  | deleteSessionTitle chatId =>
    refine iff_of_true ?_ trivial
    change Reloads serde (store.deleteSessionTitle serde chatId)
    change Storable serde (store.deleteSessionTitle serde chatId) at hstorable
    unfold deleteSessionTitle at hstorable ⊢
    split at hstorable
    . next htitle =>
      rw [if_pos htitle]
      exact reloads_persistState hstorable
    . next htitle =>
      rw [if_neg htitle]
      exact h

abbrev TimedAction := UInt64 × StoreAction

def timedStep (serde : SerdeJson) (store : JsonStateStore) (timed : TimedAction)
    : Option JsonStateStore :=
  some (store.step serde timed.1 timed.2)

/--
A new store on the same file starts with the state in memory, all along a run of operations on a store
that was opened on any file, exactly if no session is deleted for its title alone. The states of the run
are such that their text can be read back.
-/
theorem always_reloads_iff (serde : SerdeJson) (file : Option String) (actions : List TimedAction)
    (hstorable : Runs.Always (timedStep serde) (Storable serde) (withPersistence serde file) actions)
    : Runs.Always (timedStep serde) (Reloads serde) (withPersistence serde file) actions
        ↔ Runs.Guarded (timedStep serde) (fun store timed => store.DeletesRuns timed.2)
            (withPersistence serde file) actions := by
  refine Runs.always_iff_guarded_within ?_ (reloads_withPersistence file) hstorable
  rintro store timed store' h hstorable hstep
  cases hstep
  exact h.step_iff timed.1 timed.2 hstorable

def titled (titles : AList (fun _ : String => String)) : PersistedRuntimeState :=
  JsonStoreInner.persisted { snapshot := { sessionTitles := titles } }

def titleFormat : SerdeJson :=
  .ofValues [(titled ∅).toValue, (titled (AList.singleton "chat_1" "hello")).toValue]

def namedAndDeleted : List TimedAction :=
  [(1, .setSessionTitle "chat_1" "hello"), (2, .deleteSession "chat_1")]

theorem storable_namedAndDeleted
    : Runs.Always (timedStep titleFormat) (Storable titleFormat) (withPersistence titleFormat none)
        namedAndDeleted := by
  have hfits : ∀ {store : JsonStateStore}, store.inner.snapshot.turns = ∅
      → store.inner.snapshot.requirements = ∅
      → PersistedRuntimeState.Fits store.inner.snapshot := by
    intro store hturns hrequirements
    constructor
    . intro id turn hturn
      rw [hturns] at hturn
      cases hturn
    . intro id requirement hrequirement
      rw [hrequirements] at hrequirement
      cases hrequirement
    . intro id requirement hrequirement
      rw [hrequirements] at hrequirement
      cases hrequirement
  refine ⟨⟨?_, hfits rfl rfl⟩, ?_⟩
  . change SerdeJson.fromStr _ _ = _
    decide +kernel
  . rintro store hstep
    cases hstep
    refine ⟨⟨?_, hfits rfl rfl⟩, ?_⟩
    . change SerdeJson.fromStr _ _ = _
      decide +kernel
    . rintro store hstep
      cases hstep
      refine ⟨?_, hfits rfl rfl⟩
      change SerdeJson.fromStr _ _ = _
      decide +kernel

theorem always_reloads_iff_namedAndDeleted
    : Runs.Always (timedStep titleFormat) (Reloads titleFormat) (withPersistence titleFormat none)
          namedAndDeleted
        ↔ Runs.Guarded (timedStep titleFormat) (fun store timed => store.DeletesRuns timed.2)
            (withPersistence titleFormat none) namedAndDeleted := by
  exact always_reloads_iff titleFormat none namedAndDeleted storable_namedAndDeleted

theorem namedAndDeleted_not_reloads
    : Runs.Always (timedStep titleFormat) (Storable titleFormat)
          (withPersistence titleFormat none) namedAndDeleted
        ∧ ¬Runs.Always (timedStep titleFormat) (Reloads titleFormat)
            (withPersistence titleFormat none) namedAndDeleted := by
  refine ⟨storable_namedAndDeleted, ?_⟩
  have htitles : (Runs.run (timedStep titleFormat) (withPersistence titleFormat none)
      namedAndDeleted).map (fun store =>
        ((restored titleFormat store.file).snapshot.sessionTitles.lookup "chat_1",
          store.inner.snapshot.sessionTitles.lookup "chat_1"))
      = some (some "hello", none) := by
    decide +kernel
  intro halways
  obtain ⟨store, hrun, heq⟩ := Option.map_eq_some_iff.mp htitles
  obtain ⟨hfile, hmemory⟩ := Prod.mk.inj heq
  have hsame := (halways.run_eq_some hrun).titles "chat_1"
  cases hfile.symm.trans (hsame.trans hmemory)

end JsonStateStore

end AnimaAgent
