import AnimaAgent.Execution.Lemmas.Step

namespace AnimaAgent

inductive LoopMsg (serde : SerdeJson) : InternalMsg → Prop where
  | input (msg : InternalMsg) : msg.role = .user → msg.toolUseId = none → LoopMsg serde msg
  | assistant (uuid : String) (response : Value) : LoopMsg serde (buildAssistantMsg uuid response)
  | toolResult (uuid toolUseId : String) (result : ToolResult)
    (invocation : Option ToolInvocationRecord) :
    LoopMsg serde (buildToolResultMsg serde uuid toolUseId result invocation)
  | filtered (msg : InternalMsg) : LoopMsg serde msg → LoopMsg serde { msg with filtered := true }
  | cleared (msg : InternalMsg) :
    LoopMsg serde msg → LoopMsg serde (clearOldToolResults.cleared serde msg)

namespace LoopMsg

variable {serde : SerdeJson}

theorem toolUseId_eq_none {msg : InternalMsg} (h : LoopMsg serde msg)
    : msg.role = .assistant → msg.toolUseId = none := by
  induction h with
  | input msg hrole hid => exact fun _ => hid
  | assistant uuid response => exact fun _ => rfl
  | toolResult uuid toolUseId result invocation =>
    intro hrole
    cases hrole
  | filtered msg h ih => exact ih
  | cleared msg h ih => exact ih

theorem noAssistantToolUseId {messages : List InternalMsg}
    (h : ∀ msg ∈ messages, LoopMsg serde msg)
    : NoAssistantToolUseId messages := by
  intro msg hmem
  exact (h msg hmem).toolUseId_eq_none

end LoopMsg

def LoopHistory (serde : SerdeJson) (messages : List InternalMsg) : Prop :=
  ∀ msg ∈ messages, LoopMsg serde msg

namespace LoopHistory

variable {serde : SerdeJson}

theorem append {as bs : List InternalMsg} (ha : LoopHistory serde as) (hb : LoopHistory serde bs)
    : LoopHistory serde (as ++ bs) := by
  intro msg hmem
  rcases List.mem_append.mp hmem with hmem | hmem
  . exact ha msg hmem
  . exact hb msg hmem

theorem singleton {msg : InternalMsg} (h : LoopMsg serde msg) : LoopHistory serde [msg] := by
  intro msg' hmem
  rw [List.mem_singleton.mp hmem]
  exact h

end LoopHistory

namespace LoopEnv

variable (env : LoopEnv)

theorem recordOutcome_loopHistory (i : Nat) (item : IndexedToolOutcome)
    : LoopHistory env.serde (env.recordOutcome i item).run.1 := by
  unfold recordOutcome
  split
  . exact .singleton (.toolResult ..)
  . intro msg hmem
    cases hmem

theorem recordOutcomes_loopHistory (i : Nat) (items : List IndexedToolOutcome)
    : LoopHistory env.serde (items.mapM (env.recordOutcome i)).run.1.flatten := by
  intro msg hmem
  rw [WriterT.fst_mapM, ← List.flatMap_def, List.mem_flatMap] at hmem
  obtain ⟨item, _, hmem⟩ := hmem
  exact env.recordOutcome_loopHistory i item msg hmem

end LoopEnv

theorem ensureToolResultPairing_repairs_iff (serde : SerdeJson) (messages : List InternalMsg)
    (h : LoopHistory serde messages)
    : RepairedBy messages (ensureToolResultPairing messages) ↔ Paired messages := by
  exact repairedBy_ensureToolResultPairing_iff (LoopMsg.noAssistantToolUseId h)

def toolUseResponse : Value :=
  .object [
    ("content", .array [
      .object [("id", .string "tu_1"), ("input", .object []), ("name", .string "echo"),
        ("type", .string "tool_use")]])]

def userMsg (messageId text : String) : InternalMsg where
  role := .user
  blocks := [.text text]
  messageId := messageId
  toolUseId := none
  filtered := false
  metadata := .object []

def unansweredHistory : List InternalMsg :=
  [userMsg "m1" "hi", buildAssistantMsg "m2" toolUseResponse]

theorem loopHistory_unansweredHistory : LoopHistory SerdeJson.small unansweredHistory := by
  exact LoopHistory.append (.singleton (.input _ rfl rfl)) (.singleton (.assistant _ _))

theorem unansweredHistory_not_repaired
    : LoopHistory SerdeJson.small unansweredHistory
        ∧ ¬RepairedBy unansweredHistory (ensureToolResultPairing unansweredHistory) := by
  constructor
  . exact loopHistory_unansweredHistory
  . intro h
    exact absurd h.paired (by decide)

theorem ensureToolResultPairing_repairs_iff_unansweredHistory
    : RepairedBy unansweredHistory (ensureToolResultPairing unansweredHistory)
        ↔ Paired unansweredHistory := by
  exact ensureToolResultPairing_repairs_iff SerdeJson.small _ loopHistory_unansweredHistory

end AnimaAgent
