import Mathlib.Data.List.AList
import AnimaAgent.Messages.Types

namespace AnimaAgent

structure MessageLookups where
  toolResultByUseId : AList (fun _ : String => Nat) := ∅
  toolUseById : AList (fun _ : String => Nat) := ∅

namespace MessageLookups

def add (lookups : MessageLookups) (msg : InternalMsg) (i : Nat) : MessageLookups :=
  match msg.toolUseId with
  | some toolUseId =>
    if msg.role = .assistant then
      { lookups with toolUseById := lookups.toolUseById.insert toolUseId i }
    else
      { lookups with toolResultByUseId := lookups.toolResultByUseId.insert toolUseId i }
  | none => lookups

end MessageLookups

def buildMessageLookups (messages : List InternalMsg) : MessageLookups :=
  messages.zipIdx.foldl (fun lookups entry => lookups.add entry.1 entry.2) {}

namespace ensureToolResultPairing

def placeholder (msg : InternalMsg) (toolUseId : String) : InternalMsg where
  role := .user
  blocks := [.toolResult toolUseId (.string "") false]
  messageId := msg.messageId ++ "_auto_result"
  toolUseId := some toolUseId
  filtered := false
  metadata := .object [("auto_generated", .bool true)]

def insert? (lookups : MessageLookups) (msg : InternalMsg) (i : Nat) : Option (Nat × InternalMsg) :=
  if msg.role = .assistant then
    match msg.toolUseId with
    | some toolUseId =>
      if (lookups.toolResultByUseId.lookup toolUseId).isNone then
        some (i + 1, placeholder msg toolUseId)
      else
        none
    | none => none
  else
    none

def inserts (lookups : MessageLookups) (messages : List InternalMsg) : List (Nat × InternalMsg) :=
  messages.zipIdx.filterMap (fun entry => insert? lookups entry.1 entry.2)

end ensureToolResultPairing

def ensureToolResultPairing (messages : List InternalMsg) : List InternalMsg :=
  let lookups := buildMessageLookups messages
  let inserts := ensureToolResultPairing.inserts lookups messages
  inserts.foldr (fun entry messages => messages.insertIdx entry.1 entry.2) messages

namespace ContentBlock

def toolUseId? : ContentBlock → Option String
  | toolUse id _ _ => some id
  | _ => none

def toolResultId? : ContentBlock → Option String
  | toolResult toolUseId _ _ => some toolUseId
  | _ => none

end ContentBlock

namespace InternalMsg

def toolUseIds (msg : InternalMsg) : List String :=
  msg.blocks.filterMap ContentBlock.toolUseId?

def toolResultIds (msg : InternalMsg) : List String :=
  msg.blocks.filterMap ContentBlock.toolResultId?

end InternalMsg

/-- Every tool use of an unfiltered assistant message is answered by one later message. -/
def Paired : List InternalMsg → Prop
  | [] => True
  | msg :: later =>
    (msg.role = .assistant → msg.filtered = false →
      ∀ id ∈ msg.toolUseIds, later.countP (fun msg => id ∈ msg.toolResultIds) = 1)
    ∧ Paired later

instance decidablePaired : DecidablePred Paired
  | [] => .isTrue trivial
  | _ :: later =>
    have := decidablePaired later
    inferInstanceAs (Decidable (_ ∧ _))

/-- What the repair is for: all tool uses are answered, nothing else changes, once is enough. -/
structure RepairedBy (messages : List InternalMsg) (repaired : List InternalMsg) : Prop where
  paired : Paired repaired
  sublist : messages.Sublist repaired
  idempotent : ensureToolResultPairing repaired = repaired

def NoAssistantToolUseId (messages : List InternalMsg) : Prop :=
  ∀ msg ∈ messages, msg.role = .assistant → msg.toolUseId = none

namespace ensureToolResultPairing

theorem insert?_eq_none {msg : InternalMsg} (lookups : MessageLookups) (i : Nat)
    (h : msg.role = .assistant → msg.toolUseId = none)
    : insert? lookups msg i = none := by
  unfold insert?
  split
  . next hrole => rw [h hrole]
  . rfl

theorem inserts_eq_nil {messages : List InternalMsg} (lookups : MessageLookups)
    (h : NoAssistantToolUseId messages)
    : inserts lookups messages = [] := by
  unfold inserts
  rw [List.filterMap_eq_nil_iff]
  intro entry hmem
  apply insert?_eq_none
  exact h entry.1 (List.fst_mem_of_mem_zipIdx hmem)

end ensureToolResultPairing

namespace ensureToolResultPairing

theorem insert?_index {lookups : MessageLookups} {msg : InternalMsg} {i : Nat}
    {entry : Nat × InternalMsg} (h : insert? lookups msg i = some entry)
    : entry.1 = i + 1 := by
  unfold insert? at h
  split at h
  . split at h
    . split at h
      . cases h; rfl
      . cases h
    . cases h
  . cases h

theorem inserts_index_le {lookups : MessageLookups} {front rest : List InternalMsg}
    (h : NoAssistantToolUseId rest)
    : ∀ entry ∈ inserts lookups (front ++ rest), entry.1 ≤ front.length := by
  intro entry hmem
  unfold inserts at hmem
  rw [List.zipIdx_append, List.filterMap_append, List.mem_append] at hmem
  rcases hmem with hmem | hmem
  . obtain ⟨⟨msg, i⟩, hmem, hentry⟩ := List.mem_filterMap.mp hmem
    have hi := List.snd_lt_of_mem_zipIdx hmem
    have := insert?_index hentry
    omega
  . obtain ⟨⟨msg, i⟩, hmem, hentry⟩ := List.mem_filterMap.mp hmem
    rw [insert?_eq_none lookups i (h msg (List.fst_mem_of_mem_zipIdx hmem))] at hentry
    cases hentry

theorem insertIdx_append {i : Nat} {front : List InternalMsg} (h : i ≤ front.length)
    (rest : List InternalMsg) (msg : InternalMsg)
    : (front ++ rest).insertIdx i msg = front.insertIdx i msg ++ rest := by
  induction front generalizing i with
  | nil =>
    have : i = 0 := by simpa using h
    rw [this]
    rfl
  | cons first front ih =>
    cases i with
    | zero => rfl
    | succ i =>
      have : i ≤ front.length := by simpa using h
      rw [List.cons_append, List.insertIdx_succ_cons, List.insertIdx_succ_cons, ih this,
        List.cons_append]

theorem foldr_insertIdx_append (front rest : List InternalMsg) (entries : List (Nat × InternalMsg))
    (h : ∀ entry ∈ entries, entry.1 ≤ front.length)
    : ∃ front', front.length ≤ front'.length
        ∧ entries.foldr (fun entry messages => messages.insertIdx entry.1 entry.2) (front ++ rest)
          = front' ++ rest := by
  induction entries with
  | nil => exact ⟨front, Nat.le_refl _, rfl⟩
  | cons entry entries ih =>
    obtain ⟨front', hle, hfold⟩ := ih (fun e hmem => h e (List.mem_cons_of_mem entry hmem))
    have hentry := Nat.le_trans (h entry (List.mem_cons_self ..)) hle
    refine ⟨front'.insertIdx entry.1 entry.2, ?_, ?_⟩
    . have := List.length_le_length_insertIdx (l := front') (x := entry.2) (i := entry.1)
      omega
    . rw [List.foldr_cons, hfold, insertIdx_append hentry]

end ensureToolResultPairing

theorem ensureToolResultPairing_append (front : List InternalMsg) {rest : List InternalMsg}
    (h : NoAssistantToolUseId rest)
    : ∃ front', ensureToolResultPairing (front ++ rest) = front' ++ rest := by
  obtain ⟨front', _, hfold⟩ := ensureToolResultPairing.foldr_insertIdx_append front rest _
    (ensureToolResultPairing.inserts_index_le h)
  exact ⟨front', hfold⟩

theorem ensureToolResultPairing_eq_self {messages : List InternalMsg}
    (h : NoAssistantToolUseId messages)
    : ensureToolResultPairing messages = messages := by
  unfold ensureToolResultPairing
  dsimp
  rw [ensureToolResultPairing.inserts_eq_nil _ h]
  rfl

theorem repairedBy_ensureToolResultPairing_iff {messages : List InternalMsg}
    (h : NoAssistantToolUseId messages)
    : RepairedBy messages (ensureToolResultPairing messages) ↔ Paired messages := by
  constructor
  . intro hrepaired
    have := hrepaired.paired
    rwa [ensureToolResultPairing_eq_self h] at this
  . intro hpaired
    constructor
    . rwa [ensureToolResultPairing_eq_self h]
    . rw [ensureToolResultPairing_eq_self h]
    . rw [ensureToolResultPairing_eq_self h, ensureToolResultPairing_eq_self h]

end AnimaAgent
