import AnimaAgent.Context.Manager
import AnimaAgent.Library.Appends

namespace AnimaAgent

namespace ContextManager

theorem historyKey_inj {a b : String} : historyKey a = historyKey b ↔ a = b := by
  constructor
  . intro h
    have hchars := congrArg String.toList h
    unfold historyKey sessionKey at hchars
    simp only [String.toList_append, List.append_assoc, List.append_cancel_left_eq] at hchars
    exact String.toList_injective (List.append_cancel_right hchars)
  . intro h
    rw [h]

abbrev OtherKey :=
  { key : String // ∀ sessionId, key ≠ historyKey sessionId }

inductive ManagerCall where
  | addToSessionHistory (sessionId : String) (entry : Value)
  | setContext (key : OtherKey) (value : Value)

inductive CallPhase where
  | called
  | adding (current : Option Value)
  | returned
  deriving DecidableEq

structure ManagerThread where
  call : ManagerCall
  phase : CallPhase

def historyItems : Option Value → List Value
  | some (.array items) => items
  | _ => []

def act (manager : ContextManager) (thread : ManagerThread)
    : Option (ContextManager × ManagerThread) :=
  match thread.call, thread.phase with
  | .addToSessionHistory sessionId _, .called =>
    let (current, manager) := manager.getContext (historyKey sessionId)
    some (manager, { thread with phase := .adding current })
  | .addToSessionHistory sessionId entry, .adding current =>
    some (manager.setContext (historyKey sessionId) (.array (historyItems current ++ [entry])),
      { thread with phase := .returned })
  | .setContext key value, .called =>
    some (manager.setContext key value, { thread with phase := .returned })
  | _, _ => none

def callStep (s : Threads ContextManager ManagerThread) (i : Nat)
    : Option (Threads ContextManager ManagerThread) :=
  s.advance act i

def called (manager : ContextManager) (calls : List ManagerCall)
    : Threads ContextManager ManagerThread where
  shared := manager
  threads := calls.map (fun call => { call, phase := .called })

theorem run_addToSessionHistory (manager : ContextManager) (sessionId : String) (entry : Value)
    : Runs.run callStep (called manager [.addToSessionHistory sessionId entry]) [0, 0]
        = some
          { shared := manager.addToSessionHistory sessionId entry
            threads := [{ call := .addToSessionHistory sessionId entry, phase := .returned }] } := by
  have hread : callStep (called manager [.addToSessionHistory sessionId entry]) 0
      = some
        { shared := (manager.getContext (historyKey sessionId)).2
          threads :=
            [{ call := .addToSessionHistory sessionId entry
               phase := .adding (manager.getContext (historyKey sessionId)).1 }] } := by
    rfl
  rw [Runs.run_cons_of_some _ hread]
  unfold addToSessionHistory
  generalize manager.getContext (historyKey sessionId) = read
  obtain ⟨current, manager'⟩ := read
  cases current with
  | none => rfl
  | some value => cases value <;> rfl

def ManagerCall.entryFor (sessionId : String) : ManagerCall → List Value
  | addToSessionHistory sessionId' entry => if sessionId' = sessionId then [entry] else []
  | setContext .. => []

/-- The history has what was added to it exactly once, in some order. -/
def AllAdded (manager : ContextManager) (calls : List ManagerCall) (sessionId : String)
    (manager' : ContextManager)
    : Prop :=
  ∃ order, order.Perm (calls.flatMap (ManagerCall.entryFor sessionId))
    ∧ (manager'.getSessionHistory sessionId).1 = (manager.getSessionHistory sessionId).1 ++ order

/-- A call that reads a history is the only one that is about to write it. -/
def ReadsAlone (s : Threads ContextManager ManagerThread) (i : Nat) : Prop :=
  ∀ sessionId entry,
    s.threads[i]? = some { call := .addToSessionHistory sessionId entry, phase := .called }
      → ∀ current entry', { call := .addToSessionHistory sessionId entry', phase := .adding current }
        ∉ s.threads

section Session

variable (sessionId : String)

def ManagerThread.appender (thread : ManagerThread) : Appender Value :=
  match thread.call with
  | .setContext .. => { begins := false, taken := none, written := [] }
  | .addToSessionHistory sessionId' entry =>
    if sessionId' = sessionId then
      match thread.phase with
      | .called => { begins := true, taken := none, written := [] }
      | .adding current => { begins := false, taken := some (historyItems current), written := [] }
      | .returned => { begins := false, taken := none, written := [entry] }
    else
      { begins := false, taken := none, written := [] }

section Appender

variable {sessionId} (entry : Value)

theorem appender_of_ne {other : String} (h : other ≠ sessionId) (phase : CallPhase)
    : ManagerThread.appender sessionId { call := .addToSessionHistory other entry, phase }
        = { begins := false, taken := none, written := [] } := by
  exact if_neg h

theorem appender_called
    : ManagerThread.appender sessionId { call := .addToSessionHistory sessionId entry, phase := .called }
        = { begins := true, taken := none, written := [] } := by
  exact if_pos rfl

theorem appender_adding (current : Option Value)
    : ManagerThread.appender sessionId
          { call := .addToSessionHistory sessionId entry, phase := .adding current }
        = { begins := false, taken := some (historyItems current), written := [] } := by
  exact if_pos rfl

theorem appender_returned
    : ManagerThread.appender sessionId
          { call := .addToSessionHistory sessionId entry, phase := .returned }
        = { begins := false, taken := none, written := [entry] } := by
  exact if_pos rfl

end Appender

def history (manager : ContextManager) : List Value :=
  historyItems (manager.contexts.get (historyKey sessionId))

theorem fst_getSessionHistory (manager : ContextManager)
    : (manager.getSessionHistory sessionId).1 = history sessionId manager := by
  unfold getSessionHistory getContext history
  cases manager.contexts.get (historyKey sessionId) with
  | none => rfl
  | some value => cases value <;> rfl

theorem fst_getContext (manager : ContextManager) (key : String)
    : (manager.getContext key).1 = manager.contexts.get key := by
  unfold getContext
  cases manager.contexts.get key <;> rfl

theorem contexts_getContext (manager : ContextManager) (key : String)
    : (manager.getContext key).2.contexts = manager.contexts := by
  unfold getContext
  cases manager.contexts.get key <;> rfl

theorem history_setContext (manager : ContextManager) (value : Value)
    : history sessionId (manager.setContext (historyKey sessionId) value)
        = historyItems (some value) := by
  unfold history setContext
  dsimp only
  rw [IndexMap.get_insert_eq, if_pos rfl]

theorem history_setContext_of_ne (manager : ContextManager) {key : String} (value : Value)
    (hne : key ≠ historyKey sessionId)
    : history sessionId (manager.setContext key value) = history sessionId manager := by
  unfold history setContext
  dsimp only
  rw [IndexMap.get_insert_eq, if_neg hne.symm]

theorem step_of_act {manager manager' : ContextManager} {thread thread' : ManagerThread}
    (h : act manager thread = some (manager', thread'))
    : Appends.Step (history sessionId manager) (thread.appender sessionId)
        (history sessionId manager') (thread'.appender sessionId) := by
  obtain ⟨call, phase⟩ := thread
  cases call with
  | setContext key value =>
    cases phase with
    | called =>
      cases h
      rw [history_setContext_of_ne sessionId manager value (key.2 sessionId)]
      exact .other rfl rfl rfl
    | adding current => cases h
    | returned => cases h
  | addToSessionHistory other entry =>
    cases phase with
    | called =>
      have hact : act manager { call := .addToSessionHistory other entry, phase := .called }
          = some ((manager.getContext (historyKey other)).2,
            { call := .addToSessionHistory other entry
              phase := .adding (manager.getContext (historyKey other)).1 }) := rfl
      cases hact.symm.trans h
      have hsame : history sessionId (manager.getContext (historyKey other)).2
          = history sessionId manager := by
        unfold history
        rw [contexts_getContext]
      rw [hsame]
      by_cases heq : other = sessionId
      . subst heq
        rw [appender_called, appender_adding, fst_getContext]
        exact .read rfl rfl rfl rfl
      . rw [appender_of_ne entry heq, appender_of_ne entry heq]
        exact .other rfl rfl rfl
    | adding current =>
      cases h
      by_cases heq : other = sessionId
      . subst heq
        rw [appender_adding, appender_returned, history_setContext]
        exact .write rfl rfl rfl rfl
      . rw [appender_of_ne entry heq, appender_of_ne entry heq, history_setContext_of_ne]
        . exact .other rfl rfl rfl
        . exact fun h => heq (historyKey_inj.mp h)
    | returned => cases h

theorem begins_appender_iff {thread : ManagerThread}
    : (thread.appender sessionId).begins = true
        ↔ ∃ entry, thread = { call := .addToSessionHistory sessionId entry, phase := .called } := by
  constructor
  . intro h
    obtain ⟨call, phase⟩ := thread
    cases call with
    | setContext key value => cases h
    | addToSessionHistory other entry =>
      by_cases heq : other = sessionId
      . subst heq
        cases phase with
        | called => exact ⟨entry, rfl⟩
        | adding current => rw [appender_adding] at h; cases h
        | returned => rw [appender_returned] at h; cases h
      . rw [appender_of_ne entry heq] at h
        cases h
  . rintro ⟨entry, rfl⟩
    rw [appender_called]

theorem taken_appender_ne_none_iff {thread : ManagerThread}
    : (thread.appender sessionId).taken ≠ none
        ↔ ∃ entry current,
          thread = { call := .addToSessionHistory sessionId entry, phase := .adding current } := by
  constructor
  . intro h
    obtain ⟨call, phase⟩ := thread
    cases call with
    | setContext key value => exact absurd rfl h
    | addToSessionHistory other entry =>
      by_cases heq : other = sessionId
      . subst heq
        cases phase with
        | called => exact absurd (congrArg Appender.taken (appender_called entry)) h
        | adding current => exact ⟨entry, current, rfl⟩
        | returned => exact absurd (congrArg Appender.taken (appender_returned entry)) h
      . exact absurd (congrArg Appender.taken (appender_of_ne entry heq phase)) h
  . rintro ⟨entry, current, rfl⟩
    rw [appender_adding]
    exact Option.some_ne_none _

theorem appender_of_called (call : ManagerCall)
    : (ManagerThread.appender sessionId { call, phase := .called }).taken = none
        ∧ (ManagerThread.appender sessionId { call, phase := .called }).written = [] := by
  cases call with
  | setContext key value => exact ⟨rfl, rfl⟩
  | addToSessionHistory other entry =>
    by_cases heq : other = sessionId
    . subst heq
      rw [appender_called]
      exact ⟨rfl, rfl⟩
    . rw [appender_of_ne entry heq]
      exact ⟨rfl, rfl⟩

theorem written_appender {thread : ManagerThread} (h : thread.phase = .returned)
    : (thread.appender sessionId).written = thread.call.entryFor sessionId := by
  obtain ⟨call, phase⟩ := thread
  subst h
  cases call with
  | setContext key value => rfl
  | addToSessionHistory other entry =>
    change _ = if other = sessionId then [entry] else []
    by_cases heq : other = sessionId
    . subst heq
      rw [appender_returned, if_pos rfl]
    . rw [appender_of_ne entry heq, if_neg heq]

end Session

theorem readsAlone_iff {s : Threads ContextManager ManagerThread} {i : Nat}
    : ReadsAlone s i ↔ ∀ sessionId, Appends.Alone (ManagerThread.appender sessionId) s i := by
  constructor
  . intro h sessionId thread hi hbegins other hother
    obtain ⟨entry, rfl⟩ := (begins_appender_iff sessionId).mp hbegins
    by_contra htaken
    obtain ⟨entry', current, rfl⟩ := (taken_appender_ne_none_iff sessionId).mp htaken
    exact h sessionId entry hi current entry' hother
  . intro h sessionId entry hi current entry' hother
    have hnone := h sessionId _ hi ((begins_appender_iff sessionId).mpr ⟨entry, rfl⟩) _ hother
    exact (taken_appender_ne_none_iff sessionId).mpr ⟨entry', current, rfl⟩ hnone

theorem map_call_of_callStep {s s' : Threads ContextManager ManagerThread} {i : Nat}
    (h : callStep s i = some s')
    : s'.threads.map ManagerThread.call = s.threads.map ManagerThread.call := by
  obtain ⟨thread, thread', shared', hi, hact, rfl⟩ := Threads.advance_eq_some h
  have hcall : thread'.call = thread.call := by
    obtain ⟨call, phase⟩ := thread
    cases call <;> cases phase <;> cases hact <;> rfl
  obtain ⟨hlt, rfl⟩ := List.getElem?_eq_some_iff.mp hi
  rw [List.map_set, hcall, ← List.getElem_map ManagerThread.call (h := by rwa [List.length_map]),
    List.set_getElem_self]

/--
When all calls have returned, every history has all that was added to it exactly if no call read a
history between the two locks of another one.
-/
theorem allAdded_iff (manager : ContextManager) (calls : List ManagerCall) {schedule : List Nat}
    {final : Threads ContextManager ManagerThread}
    (hrun : Runs.run callStep (called manager calls) schedule = some final)
    (hreturned : ∀ thread ∈ final.threads, thread.phase = .returned)
    : (∀ sessionId, AllAdded manager calls sessionId final.shared)
        ↔ Runs.Guarded callStep ReadsAlone (called manager calls) schedule := by
  have hcalls : final.threads.map ManagerThread.call = calls := by
    have halways : Runs.Always callStep (fun s => s.threads.map ManagerThread.call = calls)
        (called manager calls) schedule := by
      refine Runs.always_of_forall_step ?_ schedule ?_
      . intro s i s' h hstep
        exact (map_call_of_callStep hstep).trans h
      . simp [called, Function.comp_def]
    exact halways.run_eq_some hrun
  have hsession : ∀ sessionId, AllAdded manager calls sessionId final.shared
      ↔ Runs.Guarded callStep (Appends.Alone (ManagerThread.appender sessionId))
        (called manager calls) schedule := by
    intro sessionId
    have hidle : ∀ thread ∈ (called manager calls).threads,
        (thread.appender sessionId).taken = none ∧ (thread.appender sessionId).written = [] := by
      intro thread hmem
      obtain ⟨call, -, rfl⟩ := List.mem_map.mp hmem
      exact appender_of_called sessionId call
    obtain ⟨hbounded, hexact⟩ := @Appends.bounded_and_exact_of_idle _ _ _ (history sessionId) _ _ hidle
    have hwritten : Appends.written (ManagerThread.appender sessionId) final
        = calls.flatMap (ManagerCall.entryFor sessionId) := by
      rw [← hcalls, List.flatMap_map]
      exact List.flatMap_congr fun thread hmem => written_appender sessionId (hreturned thread hmem)
    have hiff := Appends.complete_iff_guarded (fun _ _ _ _ => step_of_act sessionId) hbounded hexact
      hrun ?_
    . unfold AllAdded
      rw [fst_getSessionHistory, fst_getSessionHistory, ← hwritten]
      exact hiff
    . intro thread hmem
      by_contra htaken
      obtain ⟨entry, current, rfl⟩ := (taken_appender_ne_none_iff sessionId).mp htaken
      cases hreturned _ hmem
  have hguard : ReadsAlone = fun s i => ∀ sessionId,
      Appends.Alone (ManagerThread.appender sessionId) s i := by
    funext s i
    exact propext readsAlone_iff
  rw [hguard, Runs.guarded_forall_iff]
  exact forall_congr' hsession

def twoCalls : List ManagerCall :=
  [.addToSessionHistory "s1" (.string "a"), .addToSessionHistory "s1" (.string "b")]

theorem overlapping_not_allAdded
    : ∃ final, Runs.run callStep (called ⟨.empty, ⟨0, 0, 0, 0⟩⟩ twoCalls) [0, 1, 0, 1] = some final
        ∧ (∀ thread ∈ final.threads, thread.phase = .returned)
        ∧ ¬∀ sessionId, AllAdded ⟨.empty, ⟨0, 0, 0, 0⟩⟩ twoCalls sessionId final.shared := by
  refine ⟨_, rfl, by decide +kernel, ?_⟩
  intro h
  obtain ⟨order, horder, hhistory⟩ := h "s1"
  have hlength := congrArg List.length hhistory
  rw [List.length_append, horder.length_eq] at hlength
  exact absurd hlength (by decide +kernel)

theorem allAdded_iff_inTurn
    : ∃ final, Runs.run callStep (called ⟨.empty, ⟨0, 0, 0, 0⟩⟩ twoCalls) [0, 0, 1, 1] = some final
        ∧ (∀ thread ∈ final.threads, thread.phase = .returned)
        ∧ ((∀ sessionId, AllAdded ⟨.empty, ⟨0, 0, 0, 0⟩⟩ twoCalls sessionId final.shared)
          ↔ Runs.Guarded callStep ReadsAlone (called ⟨.empty, ⟨0, 0, 0, 0⟩⟩ twoCalls) [0, 0, 1, 1]) := by
  have hrun : ∃ final, Runs.run callStep (called ⟨.empty, ⟨0, 0, 0, 0⟩⟩ twoCalls) [0, 0, 1, 1]
      = some final ∧ ∀ thread ∈ final.threads, thread.phase = .returned := by
    exact ⟨_, rfl, by decide +kernel⟩
  obtain ⟨final, hrun, hreturned⟩ := hrun
  exact ⟨final, hrun, hreturned, allAdded_iff _ _ hrun hreturned⟩

end ContextManager

end AnimaAgent
