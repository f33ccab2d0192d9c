import AnimaAgent.Library.IndexMap
import AnimaAgent.Support.Value

namespace AnimaAgent

structure ContextStats where
  reads : UInt64
  writes : UInt64
  deletes : UInt64
  entries : Nat

structure ContextManager where
  contexts : IndexMap String Value
  stats : ContextStats

def sessionKey (sessionId suffix : String) : String :=
  "session:" ++ sessionId ++ suffix

namespace ContextManager

variable (manager : ContextManager)

def getContext (key : String) : Option Value × ContextManager :=
  match manager.contexts.get key with
  | none => (none, manager)
  | some value =>
    let stats := manager.stats
    (some value, { manager with stats := { stats with reads := stats.reads + 1 } })

def setContext (key : String) (value : Value) : ContextManager :=
  let contexts := manager.contexts.insert key value
  let stats := manager.stats
  { manager with
    contexts := contexts
    stats := { stats with writes := stats.writes + 1, entries := contexts.keys.length } }

def deleteContext (key : String) : Bool × ContextManager :=
  if key ∈ manager.contexts.keys then
    let contexts := manager.contexts.shiftRemove key
    let stats := manager.stats
    (true, { manager with
      contexts := contexts
      stats := { stats with deletes := stats.deletes + 1, entries := contexts.keys.length } })
  else
    (false, manager)

def listPrefix (pattern : String) : List Char :=
  if pattern.toList.getLast? = some '*' then pattern.toList.dropLast else pattern.toList

def listKeys (pattern : String) : List String :=
  manager.contexts.keys.filter (fun key => (listPrefix pattern).isPrefixOf key.toList)

def historyKey (sessionId : String) : String :=
  sessionKey sessionId ":history"

def addToSessionHistory (sessionId : String) (entry : Value) : ContextManager :=
  let (current, manager) := manager.getContext (historyKey sessionId)
  let items :=
    match current with
    | some (.array items) => items
    | _ => []
  manager.setContext (historyKey sessionId) (.array (items ++ [entry]))

def getSessionHistory (sessionId : String) : List Value × ContextManager :=
  let (current, manager) := manager.getContext (historyKey sessionId)
  match current with
  | some (.array items) => (items, manager)
  | _ => ([], manager)

def clearSessionContext (sessionId : String) : ContextManager :=
  (manager.listKeys (sessionKey sessionId "*")).foldl (fun manager key => (manager.deleteContext key).2)
    manager

end ContextManager

/-- The keys of a session are its own one and those behind it. -/
def OfSession (sessionId key : String) : Prop :=
  key = sessionKey sessionId "" ∨ (sessionKey sessionId ":").toList <+: key.toList

instance (sessionId key : String) : Decidable (OfSession sessionId key) :=
  inferInstanceAs (Decidable (_ ∨ _))

namespace ContextManager

variable {manager : ContextManager} {sessionId : String}

/-- The entries of the session are removed, and those of the other sessions and all others stay. -/
structure ClearsOnly (manager : ContextManager) (sessionId : String) : Prop where
  removed : ∀ key, OfSession sessionId key
    → (manager.clearSessionContext sessionId).contexts.get key = none
  kept : ∀ key, ¬ OfSession sessionId key
    → (manager.clearSessionContext sessionId).contexts.get key = manager.contexts.get key

theorem contexts_deleteContext (key : String)
    : (manager.deleteContext key).2.contexts = manager.contexts.shiftRemove key := by
  unfold deleteContext
  split
  . rfl
  . next hkey =>
    have hsame : manager.contexts.entries.filter (fun entry => decide (entry.1 ≠ key))
        = manager.contexts.entries := by
      rw [List.filter_eq_self]
      intro entry hentry
      apply decide_eq_true
      intro heq
      exact hkey (List.mem_map.mpr ⟨entry, hentry, heq⟩)
    unfold IndexMap.shiftRemove
    simp only [hsame]

theorem contexts_foldl_deleteContext (keys : List String)
    : (keys.foldl (fun manager key => (manager.deleteContext key).2) manager).contexts
        = keys.foldl IndexMap.shiftRemove manager.contexts := by
  induction keys generalizing manager with
  | nil => rfl
  | cons key keys ih => rw [List.foldl_cons, ih, contexts_deleteContext, List.foldl_cons]

theorem listPrefix_sessionKey (sessionId : String)
    : listPrefix (sessionKey sessionId "*") = (sessionKey sessionId "").toList := by
  have hstar : (sessionKey sessionId "*").toList = (sessionKey sessionId "").toList ++ ['*'] := by
    unfold sessionKey
    simp
  unfold listPrefix
  rw [hstar, if_pos List.getLast?_concat, List.dropLast_concat]

theorem get_clearSessionContext (key : String)
    : (manager.clearSessionContext sessionId).contexts.get key
        = if (sessionKey sessionId "").toList <+: key.toList then none
          else manager.contexts.get key := by
  unfold clearSessionContext
  rw [contexts_foldl_deleteContext, IndexMap.get_foldl_shiftRemove]
  have hmem : key ∈ manager.listKeys (sessionKey sessionId "*") ↔ key ∈ manager.contexts.keys
      ∧ (sessionKey sessionId "").toList <+: key.toList := by
    unfold listKeys
    rw [listPrefix_sessionKey, List.mem_filter, List.isPrefixOf_iff_prefix]
  simp only [hmem]
  by_cases hbegins : (sessionKey sessionId "").toList <+: key.toList
  . rw [if_pos hbegins]
    split
    . rfl
    . next hnot =>
      exact IndexMap.get_eq_none_iff.mpr (fun hmem => hnot ⟨hmem, hbegins⟩)
  . rw [if_neg hbegins, if_neg (fun h => hbegins h.2)]

theorem prefix_of_ofSession {key : String} (h : OfSession sessionId key)
    : (sessionKey sessionId "").toList <+: key.toList := by
  obtain rfl | h := h
  . exact List.prefix_refl _
  . apply List.IsPrefix.trans _ h
    unfold sessionKey
    simp

theorem clearsOnly_iff (manager : ContextManager) (sessionId : String)
    : manager.ClearsOnly sessionId
        ↔ ∀ key ∈ manager.contexts.keys, (sessionKey sessionId "").toList <+: key.toList
          → OfSession sessionId key := by
  constructor
  . intro h key hkey hbegins
    by_contra hnot
    obtain ⟨value, hvalue⟩ := IndexMap.mem_keys_iff.mp hkey
    have hkept := h.kept key hnot
    rw [get_clearSessionContext, if_pos hbegins, hvalue] at hkept
    cases hkept
  . intro h
    constructor
    . intro key hkey
      rw [get_clearSessionContext, if_pos (prefix_of_ofSession hkey)]
    . intro key hkey
      rw [get_clearSessionContext]
      split
      . next hbegins =>
        symm
        exact IndexMap.get_eq_none_iff.mpr (fun hmem => hkey (h key hmem hbegins))
      . rfl

theorem prefix_concat_of_ofSession {key : String} (h : OfSession sessionId key)
    : (sessionKey sessionId ":").toList <+: key.toList ++ [':'] := by
  obtain rfl | h := h
  . unfold sessionKey
    simp
  . exact h.trans (List.prefix_append _ _)

theorem ClearsOnly.get_of_apart (h : manager.ClearsOnly sessionId) {other key : String}
    (hother : OfSession other key)
    (hbehind : ¬(sessionId.toList ++ [':']) <+: other.toList ++ [':'])
    (hbefore : ¬(other.toList ++ [':']) <+: sessionId.toList ++ [':'])
    : (manager.clearSessionContext sessionId).contexts.get key = manager.contexts.get key := by
  apply h.kept key
  intro hkey
  have hsession : ∀ id : String, (sessionKey id ":").toList
      = "session:".toList ++ (id.toList ++ [':']) := by
    intro id
    unfold sessionKey
    simp
  have hmine := prefix_concat_of_ofSession hkey
  have hothers := prefix_concat_of_ofSession hother
  rw [hsession] at hmine hothers
  obtain hle | hle := List.prefix_or_prefix_of_prefix hmine hothers
  . exact hbehind ((List.prefix_append_right_inj _).mp hle)
  . exact hbefore ((List.prefix_append_right_inj _).mp hle)

/-- The history of the session s10 is cleared with the session s1. -/
theorem sharedBeginning_not_clearsOnly
    : ¬ ClearsOnly (setContext ⟨.empty, ⟨0, 0, 0, 0⟩⟩ (historyKey "s10") (.array [])) "s1" := by
  intro h
  exact absurd (h.kept (historyKey "s10") (by decide)) (by decide)

end ContextManager

end AnimaAgent
