import AnimaAgent.Agent.SessionFrame
import AnimaAgent.Library.IndexMap
import AnimaAgent.Tasks.Query

namespace AnimaAgent

structure SessionListItem where
  sessionId : String
  chatId : String
  channel : String
  historyLen : Nat
  lastUserMessagePreview : String
  lastActive : UInt64
  title : Option String
  deriving DecidableEq

structure SessionHistoryItem where
  role : Option String
  content : Value
  recordedAt : Option UInt64
  raw : Value
  deriving DecidableEq

def ContentBlock.textOf : ContentBlock → Option String
  | .text t => some t
  | _ => none

def transcriptContentPreview (blocks : List ContentBlock) : String :=
  String.ofList
    ((String.intercalate " " (blocks.filterMap ContentBlock.textOf)).toList.take 80)

def transcriptContentValue (blocks : List ContentBlock) : Value :=
  match blocks with
  | [.text text] => .string text
  | _ => valueFromBlocks blocks

namespace SessionListItem

variable (item : SessionListItem)

def seenAt (time : UInt64) : SessionListItem :=
  { item with lastActive := if item.lastActive ≤ time then time else item.lastActive }

def withMessage (message : MessageRecord) : SessionListItem :=
  let item := { item with historyLen := item.historyLen + 1 }.seenAt message.appendedAtMs
  let preview := transcriptContentPreview message.blocks
  if message.role = .user ∧ preview ≠ "" then
    { item with lastUserMessagePreview := preview }
  else
    item

end SessionListItem

namespace RuntimeStateSnapshot

variable (snapshot : RuntimeStateSnapshot)

def newListItem (chatId channel : String) (lastActive : UInt64) : SessionListItem where
  sessionId := chatId
  chatId := chatId
  channel := channel
  historyLen := 0
  lastUserMessagePreview := ""
  lastActive := lastActive
  title := snapshot.sessionTitles.lookup chatId

def listRun (sessions : IndexMap String SessionListItem) (run : RunRecord)
    : IndexMap String SessionListItem :=
  match run.chatId with
  | none => sessions
  | some chatId =>
    let item := (sessions.get chatId).getD (snapshot.newListItem chatId run.channel run.updatedAtMs)
    sessions.insert chatId (item.seenAt run.updatedAtMs)

def listMessage (sessions : IndexMap String SessionListItem) (message : MessageRecord)
    : IndexMap String SessionListItem :=
  match snapshot.runs.lookup message.runId with
  | none => sessions
  | some run =>
    match run.chatId with
    | none => sessions
    | some chatId =>
      let item :=
        (sessions.get chatId).getD (snapshot.newListItem chatId run.channel message.appendedAtMs)
      sessions.insert chatId (item.withMessage message)

def listedSessions : IndexMap String SessionListItem :=
  snapshot.transcript.foldl snapshot.listMessage
    ((values snapshot.runs).foldl snapshot.listRun .empty)

def buildSessionSummaries : List SessionListItem :=
  snapshot.listedSessions.values

def buildSessionsSnapshot : List SessionListItem :=
  Newest.sorted (fun session => session.lastActive.toNat) snapshot.buildSessionSummaries

def sessionOf (message : MessageRecord) : Option String :=
  (snapshot.runs.lookup message.runId).bind RunRecord.chatId

end RuntimeStateSnapshot

def MessageRecord.toHistoryItem (message : MessageRecord) : SessionHistoryItem :=
  let content := transcriptContentValue message.blocks
  { role := some message.role.wireName
    content
    recordedAt := some message.appendedAtMs
    raw := .object [
      ("content", content),
      ("filtered", .bool message.filtered),
      ("message_id", .string message.messageId),
      ("metadata", message.metadata),
      ("recorded_at_ms", .ofU64 message.appendedAtMs),
      ("role", .string message.role.wireName),
      ("run_id", .string message.runId),
      ("tool_use_id", ToolInvocationRecord.optString message.toolUseId),
      ("turn_id", ToolInvocationRecord.optString message.turnId)] }

namespace RuntimeStateSnapshot

variable (snapshot : RuntimeStateSnapshot)

def buildSessionHistory (sessionId : String) : Option (List SessionHistoryItem) :=
  let hasSession := (values snapshot.runs).any (fun run => run.chatId == some sessionId)
  let history := (snapshot.transcript.filter
    (fun message => snapshot.sessionOf message == some sessionId)).map MessageRecord.toHistoryItem
  if hasSession || !history.isEmpty then some history else none

end RuntimeStateSnapshot

theorem values_keep {ρ : Type} (p : ρ → Bool) (map : AList (fun _ : String => ρ))
    : RuntimeStateSnapshot.values (Rows.keep (fun _ record => p record) map)
        = (RuntimeStateSnapshot.values map).filter p := by
  unfold RuntimeStateSnapshot.values Rows.keep
  rw [List.filter_map]
  rfl

theorem filter_values_keep {ρ : Type} {p q : ρ → Bool} (h : ∀ record, q record = true → p record = true)
    (map : AList (fun _ : String => ρ))
    : (RuntimeStateSnapshot.values (Rows.keep (fun _ record => p record) map)).filter q
        = (RuntimeStateSnapshot.values map).filter q := by
  rw [values_keep, List.filter_filter]
  apply List.filter_congr
  intro record _
  cases hq : q record with
  | false => rfl
  | true => exact h record hq

theorem find?_values_keep {ρ : Type} {p q : ρ → Bool} (h : ∀ record, q record = true → p record = true)
    (map : AList (fun _ : String => ρ))
    : (RuntimeStateSnapshot.values (Rows.keep (fun _ record => p record) map)).find? q
        = (RuntimeStateSnapshot.values map).find? q := by
  rw [← List.head?_filter, filter_values_keep h, List.head?_filter]

theorem any_values_keep {ρ : Type} {p q : ρ → Bool} (h : ∀ record, q record = true → p record = true)
    (map : AList (fun _ : String => ρ))
    : (RuntimeStateSnapshot.values (Rows.keep (fun _ record => p record) map)).any q
        = (RuntimeStateSnapshot.values map).any q := by
  rw [← List.isSome_find?, find?_values_keep h, List.isSome_find?]

theorem lookup_keep_of {ρ : Type} {p : ρ → Bool} {map : AList (fun _ : String => ρ)} {id : String}
    (h : ∀ record, map.lookup id = some record → p record = true)
    : (Rows.keep (fun _ record => p record) map).lookup id = map.lookup id := by
  rw [Rows.lookup_keep]
  cases hlookup : map.lookup id with
  | none => rfl
  | some record => exact Option.filter_some_pos (h record hlookup)

namespace RuntimeStateSnapshot

variable {snapshot : RuntimeStateSnapshot} {chatId : String}

theorem values_runs_purgeSession
    : values (snapshot.purgeSession chatId).runs
        = (values snapshot.runs).filter (fun run => decide (run.chatId ≠ some chatId)) := by
  unfold values purgeSession Rows.keep
  dsimp only
  rw [List.filter_map]
  congr 1
  apply List.filter_congr
  intro entry hmem
  have hlookup := AList.mem_lookup_iff.mpr hmem
  have hiff : entry.1 ∈ snapshot.sessionRunIds chatId ↔ entry.2.chatId = some chatId := by
    rw [mem_sessionRunIds]
    constructor
    . rintro ⟨run, hrun, hchat⟩
      cases hlookup.symm.trans hrun
      exact hchat
    . exact fun hchat => ⟨entry.2, hlookup, hchat⟩
  exact decide_eq_decide.mpr (not_congr hiff)

theorem lookup_runs_purgeSession {runId : String} (h : ¬snapshot.InSession chatId runId)
    : (snapshot.purgeSession chatId).runs.lookup runId = snapshot.runs.lookup runId := by
  unfold purgeSession
  dsimp only
  rw [Rows.lookup_keep]
  cases snapshot.runs.lookup runId with
  | none => rfl
  | some run => exact Option.filter_some_pos (decide_eq_true h)

theorem lookup_runs_purgeSession_of_inSession {runId : String} (h : snapshot.InSession chatId runId)
    : (snapshot.purgeSession chatId).runs.lookup runId = none := by
  have hnot : decide (runId ∉ snapshot.sessionRunIds chatId) = false :=
    decide_eq_false (not_not.mpr h)
  unfold purgeSession
  dsimp only
  rw [Rows.lookup_keep]
  cases snapshot.runs.lookup runId with
  | none => rfl
  | some run => exact Option.filter_some_neg hnot

theorem sessionOf_eq_iff {message : MessageRecord}
    : snapshot.sessionOf message = some chatId ↔ snapshot.InSession chatId message.runId := by
  unfold sessionOf InSession
  rw [mem_sessionRunIds, Option.bind_eq_some_iff]

variable (snapshot) in
def itemOfRun (k : String) (item : Option SessionListItem) (run : RunRecord) : SessionListItem :=
  (item.getD (snapshot.newListItem k run.channel run.updatedAtMs)).seenAt run.updatedAtMs

variable (snapshot) in
def itemOfMessage (k : String) (item : Option SessionListItem) (message : MessageRecord)
    : SessionListItem :=
  let channel := ((snapshot.runs.lookup message.runId).map RunRecord.channel).getD ""
  (item.getD (snapshot.newListItem k channel message.appendedAtMs)).withMessage message

theorem get_listRun (sessions : IndexMap String SessionListItem) (run : RunRecord) (k : String)
    : (snapshot.listRun sessions run).get k
        = if run.chatId = some k then
            some (snapshot.itemOfRun k (sessions.get k) run)
          else
            sessions.get k := by
  unfold listRun
  cases hchat : run.chatId with
  | none => exact (if_neg (Option.some_ne_none k).symm).symm
  | some chatId =>
    dsimp only
    rw [IndexMap.get_insert_eq]
    by_cases hk : k = chatId
    . subst hk
      rw [if_pos rfl, if_pos rfl]
      rfl
    . rw [if_neg hk, if_neg (fun h => hk (Option.some.inj h).symm)]

theorem get_listMessage (sessions : IndexMap String SessionListItem) (message : MessageRecord)
    (k : String)
    : (snapshot.listMessage sessions message).get k
        = if snapshot.sessionOf message = some k then
            some (snapshot.itemOfMessage k (sessions.get k) message)
          else
            sessions.get k := by
  unfold listMessage sessionOf itemOfMessage
  cases snapshot.runs.lookup message.runId with
  | none => exact (if_neg (Option.some_ne_none k).symm).symm
  | some run =>
    dsimp only
    rw [Option.bind_some]
    cases hchat : run.chatId with
    | none => exact (if_neg (Option.some_ne_none k).symm).symm
    | some chatId =>
      dsimp only
      rw [IndexMap.get_insert_eq]
      by_cases hk : k = chatId
      . subst hk
        rw [if_pos rfl, if_pos rfl]
        rfl
      . rw [if_neg hk, if_neg (fun h => hk (Option.some.inj h).symm)]

theorem get_listedSessions (k : String)
    : snapshot.listedSessions.get k
        = (snapshot.transcript.filter
            (fun message => decide (snapshot.sessionOf message = some k))).foldl
          (fun item message => some (snapshot.itemOfMessage k item message))
          (((values snapshot.runs).filter (fun run => decide (run.chatId = some k))).foldl
            (fun item run => some (snapshot.itemOfRun k item run)) none) := by
  unfold listedSessions
  rw [IndexMap.get_foldl _ _ get_listMessage, IndexMap.get_foldl _ _ get_listRun,
    IndexMap.get_empty]

theorem filter_transcript_purgeSession {k : String} (hne : k ≠ chatId)
    : (snapshot.purgeSession chatId).transcript.filter
          (fun message => decide ((snapshot.purgeSession chatId).sessionOf message = some k))
        = snapshot.transcript.filter
          (fun message => decide (snapshot.sessionOf message = some k)) := by
  change (snapshot.transcript.filter
    (fun message => decide (message.runId ∉ snapshot.sessionRunIds chatId))).filter _ = _
  rw [List.filter_filter]
  apply List.filter_congr
  intro message _
  rw [← Bool.decide_and]
  apply decide_eq_decide.mpr
  by_cases hin : snapshot.InSession chatId message.runId
  . have hother : snapshot.sessionOf message ≠ some k := by
      rw [sessionOf_eq_iff.mpr hin]
      exact fun h => hne (Option.some.inj h).symm
    exact iff_of_false (fun h => h.2 hin) hother
  . unfold sessionOf
    rw [lookup_runs_purgeSession hin]
    exact and_iff_left hin

theorem filter_runs_purgeSession {k : String} (hne : k ≠ chatId)
    : (values (snapshot.purgeSession chatId).runs).filter (fun run => decide (run.chatId = some k))
        = (values snapshot.runs).filter (fun run => decide (run.chatId = some k)) := by
  rw [values_runs_purgeSession, List.filter_filter]
  apply List.filter_congr
  intro run _
  rw [← Bool.decide_and]
  apply decide_eq_decide.mpr
  refine and_iff_left_of_imp ?_
  intro hchat h
  exact hne (Option.some.inj (hchat.symm.trans h))

theorem sessionTitles_purgeSession {k : String} (hne : k ≠ chatId)
    : (snapshot.purgeSession chatId).sessionTitles.lookup k = snapshot.sessionTitles.lookup k := by
  exact AList.lookup_erase_ne hne

theorem get_listedSessions_purgeSession {k : String} (hne : k ≠ chatId)
    : (snapshot.purgeSession chatId).listedSessions.get k = snapshot.listedSessions.get k := by
  have htitle := @sessionTitles_purgeSession snapshot chatId k hne
  rw [get_listedSessions, get_listedSessions, filter_transcript_purgeSession hne,
    filter_runs_purgeSession hne]
  have hruns : ∀ item run, (snapshot.purgeSession chatId).itemOfRun k item run
      = snapshot.itemOfRun k item run := by
    intro item run
    unfold itemOfRun newListItem
    rw [htitle]
  simp only [hruns]
  apply List.foldl_ext
  intro item message hmem
  have hsession := of_decide_eq_true (List.mem_filter.mp hmem).2
  have hin : ¬snapshot.InSession chatId message.runId := by
    intro h
    rw [sessionOf_eq_iff.mpr h] at hsession
    exact hne (Option.some.inj hsession).symm
  unfold itemOfMessage newListItem
  rw [htitle, lookup_runs_purgeSession hin]

theorem filter_transcript_purgeSession_self
    : (snapshot.purgeSession chatId).transcript.filter
        (fun message => decide ((snapshot.purgeSession chatId).sessionOf message = some chatId))
        = [] := by
  rw [List.filter_eq_nil_iff]
  intro message _ hsession
  have hsession := of_decide_eq_true hsession
  unfold sessionOf at hsession
  obtain ⟨run, hrun, hchat⟩ := Option.bind_eq_some_iff.mp hsession
  by_cases hin : snapshot.InSession chatId message.runId
  . rw [lookup_runs_purgeSession_of_inSession hin] at hrun
    cases hrun
  . rw [lookup_runs_purgeSession hin] at hrun
    exact hin (mem_sessionRunIds.mpr ⟨run, hrun, hchat⟩)

theorem filter_runs_purgeSession_self
    : (values (snapshot.purgeSession chatId).runs).filter
        (fun run => decide (run.chatId = some chatId)) = [] := by
  rw [values_runs_purgeSession, List.filter_filter, List.filter_eq_nil_iff]
  intro run _
  simp

theorem get_listedSessions_purgeSession_self
    : (snapshot.purgeSession chatId).listedSessions.get chatId = none := by
  rw [get_listedSessions, filter_transcript_purgeSession_self, filter_runs_purgeSession_self]
  rfl

def IsFor (k : String) (item : SessionListItem) : Prop :=
  item.sessionId = k ∧ item.chatId = k

theorem isFor_foldl {α : Type} {k : String} {next : Option SessionListItem → α → SessionListItem}
    (hnext : ∀ item a, (∀ old, item = some old → IsFor k old) → IsFor k (next item a))
    (items : List α) {item : Option SessionListItem} (h : ∀ old, item = some old → IsFor k old)
    : ∀ listed, items.foldl (fun item a => some (next item a)) item = some listed
        → IsFor k listed := by
  induction items generalizing item with
  | nil => exact h
  | cons a items ih =>
    apply ih
    rintro _ ⟨⟩
    exact hnext item a h

theorem isFor_getD {k : String} {item : Option SessionListItem} {new : SessionListItem}
    (h : ∀ old, item = some old → IsFor k old) (hnew : IsFor k new)
    : IsFor k (item.getD new) := by
  cases item with
  | none => exact hnew
  | some old => exact h old rfl

theorem isFor_withMessage {k : String} {item : SessionListItem} (h : IsFor k item)
    (message : MessageRecord)
    : IsFor k (item.withMessage message) := by
  unfold SessionListItem.withMessage
  dsimp only
  split
  . exact h
  . exact h

theorem isFor_of_get {k : String} {item : SessionListItem}
    (h : snapshot.listedSessions.get k = some item)
    : IsFor k item := by
  rw [get_listedSessions] at h
  refine isFor_foldl ?_ _ (isFor_foldl ?_ _ (fun _ h => by cases h)) item h
  . intro item message hitem
    exact isFor_withMessage (isFor_getD hitem ⟨rfl, rfl⟩) message
  . intro item run hitem
    exact isFor_getD hitem ⟨rfl, rfl⟩

theorem mem_buildSessionsSnapshot {item : SessionListItem}
    : item ∈ snapshot.buildSessionsSnapshot
        ↔ snapshot.listedSessions.get item.sessionId = some item := by
  unfold buildSessionsSnapshot buildSessionSummaries
  rw [Newest.mem_sorted, IndexMap.mem_values_iff]
  constructor
  . rintro ⟨k, hget⟩
    rwa [(isFor_of_get hget).1]
  . exact fun hget => ⟨item.sessionId, hget⟩

theorem mem_buildSessionsSnapshot_purgeSession {item : SessionListItem}
    : item ∈ (snapshot.purgeSession chatId).buildSessionsSnapshot
        ↔ item ∈ snapshot.buildSessionsSnapshot ∧ item.sessionId ≠ chatId := by
  rw [mem_buildSessionsSnapshot, mem_buildSessionsSnapshot]
  by_cases hne : item.sessionId = chatId
  . rw [hne, get_listedSessions_purgeSession_self]
    exact iff_of_false (Option.some_ne_none item).symm (fun h => h.2 rfl)
  . rw [get_listedSessions_purgeSession hne]
    exact (and_iff_left hne).symm

theorem beq_some_eq_decide (k : String)
    : (fun message => snapshot.sessionOf message == some k)
        = fun message => decide (snapshot.sessionOf message = some k) := by
  funext message
  exact beq_eq_decide _ _

theorem any_chatId_eq (k : String)
    : (values snapshot.runs).any (fun run => run.chatId == some k)
        = !((values snapshot.runs).filter (fun run => decide (run.chatId = some k))).isEmpty := by
  induction values snapshot.runs with
  | nil => rfl
  | cons run runs ih =>
    rw [List.any_cons, List.filter_cons, ih, beq_eq_decide]
    cases decide (run.chatId = some k) with
    | true => rfl
    | false => rfl

theorem buildSessionHistory_purgeSession {k : String} (hne : k ≠ chatId)
    : (snapshot.purgeSession chatId).buildSessionHistory k = snapshot.buildSessionHistory k := by
  unfold buildSessionHistory
  rw [any_chatId_eq, any_chatId_eq, beq_some_eq_decide, beq_some_eq_decide,
    filter_transcript_purgeSession hne, filter_runs_purgeSession hne]

theorem buildSessionHistory_purgeSession_self
    : (snapshot.purgeSession chatId).buildSessionHistory chatId = none := by
  unfold buildSessionHistory
  rw [any_chatId_eq, beq_some_eq_decide, filter_transcript_purgeSession_self,
    filter_runs_purgeSession_self]
  rfl

end RuntimeStateSnapshot

end AnimaAgent
