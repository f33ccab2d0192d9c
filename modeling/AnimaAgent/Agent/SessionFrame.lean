import AnimaAgent.Agent.Upserts
import AnimaAgent.Library.Positions

namespace AnimaAgent

namespace RuntimeStateSnapshot

variable (snapshot : RuntimeStateSnapshot)

def InSession (chatId runId : String) : Prop :=
  runId ∈ snapshot.sessionRunIds chatId

def SameRecords {ρ : Type} (mine : ρ → Prop) (a b : AList (fun _ : String => ρ)) : Prop :=
  ∀ id record, mine record → (b.lookup id = some record ↔ a.lookup id = some record)

structure SameSession (chatId : String) (a b : RuntimeStateSnapshot) : Prop where
  runs : SameRecords (fun run => run.chatId = some chatId) a.runs b.runs
  turns : SameRecords (fun turn => a.InSession chatId turn.runId) a.turns b.turns
  tasks : SameRecords (fun task => a.InSession chatId task.runId) a.tasks b.tasks
  suspensions : SameRecords (fun suspension => a.InSession chatId suspension.runId)
    a.suspensions b.suspensions
  toolInvocations : SameRecords (fun invocation => a.InSession chatId invocation.runId)
    a.toolInvocations b.toolInvocations
  requirements : SameRecords (fun requirement => a.InSession chatId requirement.runId)
    a.requirements b.requirements
  hints : ∀ runId, a.InSession chatId runId
    → b.projectionHints.lookup runId = a.projectionHints.lookup runId
  jobs : SameRecords (fun runId => a.InSession chatId runId)
    a.index.runIdsByJobId b.index.runIdsByJobId
  plans : b.index.taskIdsByPlanId = a.index.taskIdsByPlanId
  suspensionQuestions : b.index.suspensionIdsByQuestionId = a.index.suspensionIdsByQuestionId
  invocationQuestions : b.index.invocationIdsByQuestionId = a.index.invocationIdsByQuestionId
  title : b.sessionTitles.lookup chatId = a.sessionTitles.lookup chatId
  transcript : b.transcript.filter (fun message => decide (message.runId ∈ a.sessionRunIds chatId))
    = a.transcript.filter (fun message => decide (message.runId ∈ a.sessionRunIds chatId))
  rebuilt : ∀ id suspension, a.suspensions.lookup id = some suspension
    → a.InSession chatId suspension.runId
    → b.rebuildTurnMessages suspension = a.rebuildTurnMessages suspension

def effectiveTurnId (suspension : SuspensionRecord) : Option String :=
  if suspension.turnId = "" then
    (snapshot.runs.lookup suspension.runId).bind RunRecord.currentTurnId
  else
    some suspension.turnId

def checkpoint (turnId : Option String) : Nat :=
  ((turnId.bind snapshot.turns.lookup).map TurnRecord.transcriptCheckpoint).getD 0

def checkpointWithout (chatId : String) (turnId : Option String) : Nat :=
  (((turnId.bind snapshot.turns.lookup).filter
    (fun turn => decide (turn.runId ∉ snapshot.sessionRunIds chatId))).map
      TurnRecord.transcriptCheckpoint).getD 0

/--
The messages of the turn that are rebuilt for a suspension are behind the checkpoint also when the
messages of the session are not counted.
-/
def StandsWithout (chatId : String) (suspension : SuspensionRecord) : Prop :=
  Positions.Stands (fun message => decide (message.runId ∉ snapshot.sessionRunIds chatId))
    (fun message => message.runId == suspension.runId
      && message.turnId == snapshot.effectiveTurnId suspension)
    snapshot.transcript (snapshot.checkpoint (snapshot.effectiveTurnId suspension))
    (snapshot.checkpointWithout chatId (snapshot.effectiveTurnId suspension))

section Purge

variable {snapshot} {other chatId : String}

theorem mem_sessionRunIds {runId : String}
    : runId ∈ snapshot.sessionRunIds chatId
        ↔ ∃ run, snapshot.runs.lookup runId = some run ∧ run.chatId = some chatId := by
  unfold sessionRunIds
  rw [List.mem_map]
  constructor
  . rintro ⟨entry, hmem, rfl⟩
    obtain ⟨hentry, hchat⟩ := List.mem_filter.mp hmem
    exact ⟨entry.2, AList.mem_lookup_iff.mpr hentry, of_decide_eq_true hchat⟩
  . rintro ⟨run, hrun, hchat⟩
    exact ⟨⟨runId, run⟩, List.mem_filter.mpr ⟨AList.mem_lookup_iff.mp hrun, decide_eq_true hchat⟩,
      rfl⟩

theorem notMem_sessionRunIds (hne : other ≠ chatId) {runId : String}
    (h : runId ∈ snapshot.sessionRunIds chatId)
    : runId ∉ snapshot.sessionRunIds other := by
  intro hother
  obtain ⟨run, hrun, hchat⟩ := mem_sessionRunIds.mp h
  obtain ⟨run', hrun', hchat'⟩ := mem_sessionRunIds.mp hother
  cases hrun.symm.trans hrun'
  exact hne (Option.some.inj (hchat'.symm.trans hchat))

theorem sameRecords_keep {ρ : Type} {mine : ρ → Prop} {p : String → ρ → Bool}
    (records : AList (fun _ : String => ρ))
    (h : ∀ id record, records.lookup id = some record → mine record → p id record = true)
    : SameRecords mine records (Rows.keep p records) := by
  intro id record hmine
  rw [Rows.lookup_keep, Option.filter_eq_some_iff]
  exact ⟨And.left, fun hrecord => ⟨hrecord, h id record hrecord hmine⟩⟩

theorem mem_runTurnIds {runIds : List String} {turnId : String}
    : turnId ∈ snapshot.runTurnIds runIds
        ↔ ∃ turn, snapshot.turns.lookup turnId = some turn ∧ turn.runId ∈ runIds := by
  unfold runTurnIds
  rw [List.mem_map]
  constructor
  . rintro ⟨entry, hmem, rfl⟩
    obtain ⟨hentry, hrun⟩ := List.mem_filter.mp hmem
    exact ⟨entry.2, AList.mem_lookup_iff.mpr hentry, of_decide_eq_true hrun⟩
  . rintro ⟨turn, hturn, hrun⟩
    exact ⟨⟨turnId, turn⟩, List.mem_filter.mpr ⟨AList.mem_lookup_iff.mp hturn, decide_eq_true hrun⟩,
      rfl⟩

theorem checkpoint_purgeSession (turnId : Option String)
    : (snapshot.purgeSession chatId).checkpoint turnId
        = snapshot.checkpointWithout chatId turnId := by
  unfold checkpoint checkpointWithout
  cases turnId with
  | none => rfl
  | some turnId =>
    rw [Option.bind_some, Option.bind_some]
    unfold purgeSession
    dsimp only
    rw [Rows.lookup_keep]
    cases hturn : snapshot.turns.lookup turnId with
    | none => rfl
    | some turn =>
      have hiff : turnId ∉ snapshot.runTurnIds (snapshot.sessionRunIds chatId)
          ↔ turn.runId ∉ snapshot.sessionRunIds chatId := by
        rw [mem_runTurnIds]
        simp [hturn]
      simp only [Option.filter, hiff]

theorem effectiveTurnId_purgeSession (hne : other ≠ chatId) {suspension : SuspensionRecord}
    (hrun : snapshot.InSession chatId suspension.runId)
    : (snapshot.purgeSession other).effectiveTurnId suspension
        = snapshot.effectiveTurnId suspension := by
  have hother := notMem_sessionRunIds hne hrun
  unfold effectiveTurnId purgeSession
  dsimp only
  rw [Rows.lookup_keep]
  cases snapshot.runs.lookup suspension.runId with
  | none => rfl
  | some run =>
    have hkept : Option.filter
        (fun _ => decide (suspension.runId ∉ snapshot.sessionRunIds other)) (some run) = some run :=
      Option.filter_some_pos (decide_eq_true hother)
    rw [hkept]

theorem rebuildTurnMessages_def (suspension : SuspensionRecord)
    : snapshot.rebuildTurnMessages suspension
        = ((snapshot.transcript.drop
            (snapshot.checkpoint (snapshot.effectiveTurnId suspension))).filter
              (fun message => message.runId == suspension.runId
                && message.turnId == snapshot.effectiveTurnId suspension)).map
              MessageRecord.toInternal := by
  rfl

theorem rebuildTurnMessages_purgeSession_iff (hne : other ≠ chatId) {suspension : SuspensionRecord}
    (hrun : snapshot.InSession chatId suspension.runId)
    : (snapshot.purgeSession other).rebuildTurnMessages suspension
          = snapshot.rebuildTurnMessages suspension
        ↔ snapshot.StandsWithout other suspension := by
  rw [rebuildTurnMessages_def, rebuildTurnMessages_def,
    effectiveTurnId_purgeSession hne hrun, checkpoint_purgeSession]
  refine Positions.map_filter_drop_eq_iff MessageRecord.toInternal ?_
  intro message hmessage
  have hsame : message.runId = suspension.runId := by
    rw [Bool.and_eq_true, beq_iff_eq] at hmessage
    exact hmessage.1
  rw [hsame]
  exact decide_eq_true (notMem_sessionRunIds hne hrun)

/--
The deletion of a session leaves another one as it is exactly if the messages of each of its
suspensions stand behind their checkpoint without the deleted session.
-/
theorem purgeSession_sameSession_iff (snapshot : RuntimeStateSnapshot) (hne : other ≠ chatId)
    : SameSession chatId snapshot (snapshot.purgeSession other)
        ↔ ∀ id suspension, snapshot.suspensions.lookup id = some suspension
          → snapshot.InSession chatId suspension.runId
          → snapshot.StandsWithout other suspension := by
  have hother : ∀ {runId}, snapshot.InSession chatId runId
      → runId ∉ snapshot.sessionRunIds other := notMem_sessionRunIds hne
  constructor
  . intro h id suspension hlookup hrun
    exact (rebuildTurnMessages_purgeSession_iff hne hrun).mp (h.rebuilt id suspension hlookup hrun)
  . intro h
    constructor
    . apply sameRecords_keep
      intro runId run hrun hchat
      exact decide_eq_true (hother (mem_sessionRunIds.mpr ⟨run, hrun, hchat⟩))
    . apply sameRecords_keep
      intro turnId turn hturn hrun
      apply decide_eq_true
      rw [mem_runTurnIds]
      rintro ⟨turn', hturn', hrun'⟩
      cases hturn.symm.trans hturn'
      exact hother hrun hrun'
    . exact sameRecords_keep _ (fun _ _ _ hrun => decide_eq_true (hother hrun))
    . exact sameRecords_keep _ (fun _ _ _ hrun => decide_eq_true (hother hrun))
    . exact sameRecords_keep _ (fun _ _ _ hrun => decide_eq_true (hother hrun))
    . exact sameRecords_keep _ (fun _ _ _ hrun => decide_eq_true (hother hrun))
    . exact fun _ _ => rfl
    . exact sameRecords_keep _ (fun _ _ _ hrun => decide_eq_true (hother hrun))
    . rfl
    . rfl
    . rfl
    . exact AList.lookup_erase_ne hne.symm
    . unfold purgeSession
      dsimp only
      rw [List.filter_filter]
      apply List.filter_congr
      intro message _
      cases hmine : decide (message.runId ∈ snapshot.sessionRunIds chatId) with
      | false => rfl
      | true =>
        have hmine : message.runId ∈ snapshot.sessionRunIds chatId := of_decide_eq_true hmine
        rw [decide_eq_true (hother hmine), Bool.true_and]
    . intro id suspension hlookup hrun
      exact (rebuildTurnMessages_purgeSession_iff hne hrun).mpr (h id suspension hlookup hrun)

end Purge

def messageIn (id chatId : String) : InboundMessage where
  id := id
  channel := "web"
  senderId := "user_1"
  chatId := some chatId
  content := "hello"

def receivedMsg (id : String) : InternalMsg where
  role := .user
  blocks := [.text "hello"]
  messageId := id
  toolUseId := none
  filtered := false
  metadata := .object []

def permissionAsked : PendingQuestion where
  questionId := "q_1"
  jobId := "job_2"
  opencodeSessionId := "session_2"
  questionKind := .confirm
  prompt := "allow?"
  options := ["allow", "deny"]
  rawQuestion := .object []
  decisionMode := .userRequired
  riskLevel := .high
  requiresUserConfirmation := true
  sourceKind := .toolPermission
  continuationToken := none
  askedAtMs := 0
  answerSubmitted := false
  answerSummary := none
  resolutionSource := none
  inbound := some (messageIn "job_2" "chat_2")

def twoSessions : List RuntimeUpsert :=
  [ .turnOfRun 0 (messageIn "job_1" "chat_1") "initial" .running .running,
    .message 0 (messageIn "job_1" "chat_1") (receivedMsg "msg_1"),
    .turnOfRun 0 (messageIn "job_2" "chat_2") "initial" .running .running,
    .message 0 (messageIn "job_2" "chat_2") (receivedMsg "msg_2"),
    .suspension 0 (messageIn "job_2" "chat_2") permissionAsked none none .toolPermission .active ]

/-- The suspended messages of the second session are lost when the first one is deleted. -/
theorem twoSessions_not_sameSession
    : ¬SameSession "chat_2" (reached twoSessions) ((reached twoSessions).purgeSession "chat_1") := by
  have hsuspended : ((reached twoSessions).suspensions.lookup (runtimeSuspensionId "q_1")).map
      (fun suspension => (decide (suspension.runId ∈ (reached twoSessions).sessionRunIds "chat_2"),
        (reached twoSessions).rebuildTurnMessages suspension,
        ((reached twoSessions).purgeSession "chat_1").rebuildTurnMessages suspension))
        = some (true, [receivedMsg "msg_2"], []) := by
    decide +kernel
  intro h
  obtain ⟨suspension, hlookup, heq⟩ := Option.map_eq_some_iff.mp hsuspended
  obtain ⟨hrun, hmessages⟩ := Prod.mk.inj heq
  obtain ⟨hbefore, hafter⟩ := Prod.mk.inj hmessages
  have hsame := h.rebuilt _ suspension hlookup (of_decide_eq_true hrun : _ ∈ _)
  rw [hbefore, hafter] at hsame
  cases hsame

theorem purgeSession_sameSession_iff_twoSessions
    : "chat_1" ≠ "chat_2"
        ∧ (SameSession "chat_2" (reached twoSessions) ((reached twoSessions).purgeSession "chat_1")
          ↔ ∀ id suspension, (reached twoSessions).suspensions.lookup id = some suspension
            → (reached twoSessions).InSession "chat_2" suspension.runId
            → (reached twoSessions).StandsWithout "chat_1" suspension) := by
  have hne : "chat_1" ≠ "chat_2" := by decide
  exact ⟨hne, purgeSession_sameSession_iff (reached twoSessions) hne⟩

end RuntimeStateSnapshot

end AnimaAgent
