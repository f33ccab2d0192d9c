import AnimaAgent.Provider.OpenAiCompat

namespace AnimaAgent

structure OpenAiCompatProvider where
  model : String
  maxTokens : UInt32

def floatValue (bits : UInt64) : Value :=
  if (bits >>> 52) &&& 0x7ff = 0x7ff then .null else .number (.float bits)

namespace OpenAiCompatProvider

variable (provider : OpenAiCompatProvider) (serde : SerdeJson)

def roleStr : ChatRole → String
  | .user => "user"
  | .assistant => "assistant"

structure GatheredBlocks where
  toolResults : List (String × Value) := []
  toolCalls : List Value := []
  textParts : List String := []

def toolCallValue (id name : String) (input : Value) : Value :=
  .object [
    ("function", .object [("arguments", .string (serde.toString input)), ("name", .string name)]),
    ("id", .string id),
    ("type", .string "function")]

def gatherBlock (gathered : GatheredBlocks) : ContentBlock → GatheredBlocks
  | .text text => { gathered with textParts := gathered.textParts ++ [text] }
  | .toolUse id name input =>
    { gathered with toolCalls := gathered.toolCalls ++ [toolCallValue serde id name input] }
  | .toolResult toolUseId content _ =>
    { gathered with toolResults := gathered.toolResults ++ [(toolUseId, content)] }
  | .thinking _ => gathered
  | .json _ => gathered

def resultText (content : Value) : String :=
  match content with
  | .string s => s
  | _ => serde.toString content

def toolMessage (result : String × Value) : Value :=
  .object [
    ("content", .string (resultText serde result.2)),
    ("role", .string "tool"),
    ("tool_call_id", .string result.1)]

def wireMessages (msg : ChatMessage) : List Value :=
  let gathered := msg.content.foldl (gatherBlock serde) {}
  let text := Value.string ("\n".intercalate gathered.textParts)
  let spoken :=
    if !gathered.toolCalls.isEmpty then
      [Value.object
        ((if !gathered.textParts.isEmpty then [("content", text)] else [])
          ++ [("role", .string "assistant"), ("tool_calls", .array gathered.toolCalls)])]
    else if !gathered.textParts.isEmpty && gathered.toolResults.isEmpty then
      [.object [("content", text), ("role", .string (roleStr msg.role))]]
    else if gathered.textParts.isEmpty && gathered.toolResults.isEmpty then
      [.object [("content", .string ""), ("role", .string (roleStr msg.role))]]
    else
      []
  spoken ++ gathered.toolResults.map (toolMessage serde)

def systemMessages (req : ChatRequest) : List Value :=
  match req.system with
  | some system => [.object [("content", .string system), ("role", .string "system")]]
  | none => []

def openAiTool (t : Value) : Option Value := do
  let name ← (← t.get "name").asStr
  let desc := ((t.get "description").bind Value.asStr).getD ""
  let schema := (t.get "input_schema").getD (.object [("type", .string "object")])
  pure (.object [
    ("function", .object [
      ("description", .string desc), ("name", .string name), ("parameters", schema)]),
    ("type", .string "function")])

def buildBody (req : ChatRequest) : Value :=
  let messages := systemMessages req ++ req.messages.flatMap (wireMessages serde)
  let tools := (req.tools.getD []).filterMap openAiTool
  .object (
    [("max_tokens", .number (.posInt (req.maxTokens.getD provider.maxTokens).toUInt64)),
      ("messages", .array messages),
      ("model", .string (req.model.getD provider.model))]
    ++ (match req.temperature with
      | some temp => [("temperature", floatValue temp)]
      | none => [])
    ++ (if !tools.isEmpty then [("tools", .array tools)] else []))

inductive WireItem where
  | text (content : String)
  | call (id name arguments : String)
  | result (toolCallId content : String)
  deriving DecidableEq

def readCall (call : Value) : WireItem :=
  let function := (call.get "function").getD .null
  .call (call.strField "id") (function.strField "name") (function.strField "arguments")

def readMessage (msg : Value) : List WireItem :=
  if msg.strField "role" = "tool" then
    [.result (msg.strField "tool_call_id") (msg.strField "content")]
  else
    (match (msg.get "content").bind Value.asStr with
      | some content => [WireItem.text content]
      | none => [])
    ++ (((msg.get "tool_calls").bind Value.asArray).getD []).map readCall

/--
The items carry the blocks, each once and in order: a tool use with its id, name and input, a result
with its id and content, and texts that follow each other as one text of so many lines.
-/
inductive Carries : List WireItem → List ContentBlock → Prop
  | nil : Carries [] []
  | text {items : List WireItem} {blocks : List ContentBlock} (texts : List String)
      (rest : Carries items blocks)
      : Carries (.text ("\n".intercalate texts) :: items) (texts.map ContentBlock.text ++ blocks)
  | call {items : List WireItem} {blocks : List ContentBlock} (id name : String) (input : Value)
      (rest : Carries items blocks)
      : Carries (.call id name (serde.toString input) :: items) (.toolUse id name input :: blocks)
  | result {items : List WireItem} {blocks : List ContentBlock} (id : String) (content : Value)
      (isError : Bool) (rest : Carries items blocks)
      : Carries (.result id (resultText serde content) :: items)
          (.toolResult id content isError :: blocks)

end OpenAiCompatProvider

namespace ContentBlock

def isToolResult : ContentBlock → Bool
  | toolResult .. => true
  | _ => false

def isCarried (block : ContentBlock) : Bool :=
  block.isText || block.isToolUse || block.isToolResult

def rank : ContentBlock → Nat
  | text _ => 0
  | toolUse .. => 1
  | _ => 2

end ContentBlock

namespace OpenAiCompatProvider

variable {serde : SerdeJson}

/--
The texts of a message stand before its tool uses and these before its results, and no results stand
with texts alone.
-/
structure InWireOrder (blocks : List ContentBlock) : Prop where
  ordered : (blocks.filter ContentBlock.isCarried).Pairwise (fun a b => a.rank ≤ b.rank)
  spoken : (∃ block ∈ blocks, block.isToolResult = true) → (∃ block ∈ blocks, block.isText = true)
    → ∃ block ∈ blocks, block.isToolUse = true

def WireItem.rank : WireItem → Nat
  | .text _ => 0
  | .call .. => 1
  | .result .. => 2

theorem ranks_cons {items : List WireItem} {blocks : List ContentBlock} {item : WireItem}
    {block : ContentBlock} (hrank : item.rank = block.rank)
    (hitems : (item :: items).Pairwise (fun a b => a.rank ≤ b.rank))
    (hblocks : blocks.Pairwise (fun a b => a.rank ≤ b.rank)
      ∧ ∀ later ∈ blocks, ∃ laterItem ∈ items, laterItem.rank = later.rank)
    : (block :: blocks).Pairwise (fun a b => a.rank ≤ b.rank)
        ∧ ∀ other ∈ block :: blocks, ∃ otherItem ∈ item :: items, otherItem.rank = other.rank := by
  obtain ⟨hfirst, -⟩ := List.pairwise_cons.mp hitems
  obtain ⟨hpairwise, hranks⟩ := hblocks
  constructor
  . refine List.pairwise_cons.mpr ⟨?_, hpairwise⟩
    intro later hmem
    obtain ⟨laterItem, hitem, hlater⟩ := hranks later hmem
    rw [← hrank, ← hlater]
    exact hfirst laterItem hitem
  . intro other hmem
    obtain rfl | hmem := List.mem_cons.mp hmem
    . exact ⟨item, List.mem_cons_self .., hrank⟩
    . obtain ⟨otherItem, hitem, hother⟩ := hranks other hmem
      exact ⟨otherItem, List.mem_cons_of_mem _ hitem, hother⟩

theorem Carries.ranks {items : List WireItem} {blocks : List ContentBlock}
    (h : Carries serde items blocks) (hitems : items.Pairwise (fun a b => a.rank ≤ b.rank))
    : blocks.Pairwise (fun a b => a.rank ≤ b.rank)
        ∧ ∀ block ∈ blocks, ∃ item ∈ items, item.rank = block.rank := by
  induction h with
  | nil =>
    refine ⟨.nil, ?_⟩
    intro block hmem
    cases hmem
  | text texts rest ih =>
    obtain ⟨hfirst, hrest⟩ := List.pairwise_cons.mp hitems
    obtain ⟨hpairwise, hranks⟩ := ih hrest
    constructor
    . rw [List.pairwise_append]
      refine ⟨?_, hpairwise, ?_⟩
      . rw [List.pairwise_map]
        exact List.pairwise_of_forall (fun _ _ => Nat.le_refl _)
      . intro block hmem later _
        obtain ⟨text, _, rfl⟩ := List.mem_map.mp hmem
        exact Nat.zero_le _
    . intro block hmem
      obtain hmem | hmem := List.mem_append.mp hmem
      . obtain ⟨text, _, rfl⟩ := List.mem_map.mp hmem
        exact ⟨_, List.mem_cons_self .., rfl⟩
      . obtain ⟨item, hitem, hrank⟩ := hranks block hmem
        exact ⟨item, List.mem_cons_of_mem _ hitem, hrank⟩
  | call id name input rest ih =>
    exact ranks_cons rfl hitems (ih (List.pairwise_cons.mp hitems).2)
  | result id content isError rest ih =>
    exact ranks_cons rfl hitems (ih (List.pairwise_cons.mp hitems).2)

theorem filter_isText_eq_nil {blocks : List ContentBlock}
    (h : ∀ block ∈ blocks.filter ContentBlock.isCarried, 1 ≤ block.rank)
    : blocks.filter ContentBlock.isText = [] := by
  rw [List.filter_eq_nil_iff]
  intro block hmem htext
  have hle := h block (List.mem_filter.mpr ⟨hmem, by unfold ContentBlock.isCarried; rw [htext]; rfl⟩)
  cases block with
  | text _ => cases hle
  | _ => cases htext

theorem filter_isToolUse_eq_nil {blocks : List ContentBlock}
    (h : ∀ block ∈ blocks.filter ContentBlock.isCarried, 2 ≤ block.rank)
    : blocks.filter ContentBlock.isToolUse = [] := by
  rw [List.filter_eq_nil_iff]
  intro block hmem huse
  cases block with
  | toolUse id name input =>
    have hle := h _ (List.mem_filter.mpr ⟨hmem, rfl⟩)
    exact absurd hle (Nat.not_succ_le_self 1)
  | _ => cases huse

theorem filter_isCarried_of_ordered {blocks : List ContentBlock}
    (h : (blocks.filter ContentBlock.isCarried).Pairwise (fun a b => a.rank ≤ b.rank))
    : blocks.filter ContentBlock.isCarried
        = blocks.filter ContentBlock.isText ++ blocks.filter ContentBlock.isToolUse
          ++ blocks.filter ContentBlock.isToolResult := by
  induction blocks with
  | nil => rfl
  | cons block rest ih =>
    cases block with
    | text text =>
      obtain ⟨-, hrest⟩ := List.pairwise_cons.mp h
      exact congrArg (List.cons (.text text)) (ih hrest)
    | toolUse id name input =>
      obtain ⟨hfirst, hrest⟩ := List.pairwise_cons.mp h
      have hcarried : (ContentBlock.toolUse id name input :: rest).filter ContentBlock.isCarried
          = .toolUse id name input :: rest.filter ContentBlock.isCarried := rfl
      have huses : (ContentBlock.toolUse id name input :: rest).filter ContentBlock.isToolUse
          = .toolUse id name input :: rest.filter ContentBlock.isToolUse := rfl
      have htexts : (ContentBlock.toolUse id name input :: rest).filter ContentBlock.isText
          = rest.filter ContentBlock.isText := rfl
      rw [hcarried, huses, htexts, ih hrest, filter_isText_eq_nil hfirst]
      rfl
    | toolResult id content isError =>
      obtain ⟨hfirst, hrest⟩ := List.pairwise_cons.mp h
      have hcarried : (ContentBlock.toolResult id content isError :: rest).filter ContentBlock.isCarried
          = .toolResult id content isError :: rest.filter ContentBlock.isCarried := rfl
      have htexts : (ContentBlock.toolResult id content isError :: rest).filter ContentBlock.isText
          = rest.filter ContentBlock.isText := rfl
      have huses : (ContentBlock.toolResult id content isError :: rest).filter ContentBlock.isToolUse
          = rest.filter ContentBlock.isToolUse := rfl
      rw [hcarried, huses, htexts, ih hrest, filter_isToolUse_eq_nil hfirst,
        filter_isText_eq_nil (fun block hmem => Nat.le_of_succ_le (hfirst block hmem))]
      rfl
    | thinking text => exact ih h
    | json value => exact ih h

def toolItem? (serde : SerdeJson) : ContentBlock → Option WireItem
  | .toolUse id name input => some (.call id name (serde.toString input))
  | .toolResult id content _ => some (.result id (resultText serde content))
  | _ => none

theorem foldl_gatherBlock (gathered : GatheredBlocks) (blocks : List ContentBlock)
    : let result := blocks.foldl (gatherBlock serde) gathered
      result.textParts.map ContentBlock.text
          = gathered.textParts.map ContentBlock.text ++ blocks.filter ContentBlock.isText
        ∧ result.toolCalls.map readCall
          = gathered.toolCalls.map readCall
            ++ (blocks.filter ContentBlock.isToolUse).filterMap (toolItem? serde)
        ∧ (result.toolResults.map (toolMessage serde)).flatMap readMessage
          = (gathered.toolResults.map (toolMessage serde)).flatMap readMessage
            ++ (blocks.filter ContentBlock.isToolResult).filterMap (toolItem? serde) := by
  induction blocks generalizing gathered with
  | nil => simp
  | cons block rest ih =>
    dsimp only
    rw [List.foldl_cons]
    obtain ⟨htexts, hcalls, hresults⟩ := ih (gatherBlock serde gathered block)
    rw [htexts, hcalls, hresults]
    cases block with
    | text text =>
      refine ⟨?_, rfl, rfl⟩
      unfold gatherBlock
      dsimp only
      rw [List.map_append, List.append_assoc]
      rfl
    | toolUse id name input =>
      refine ⟨rfl, ?_, rfl⟩
      unfold gatherBlock
      dsimp only
      rw [List.map_append, List.append_assoc]
      rfl
    | toolResult id content isError =>
      refine ⟨rfl, rfl, ?_⟩
      unfold gatherBlock
      dsimp only
      rw [List.map_append, List.flatMap_append, List.append_assoc]
      rfl
    | thinking text => exact ⟨rfl, rfl, rfl⟩
    | json value => exact ⟨rfl, rfl, rfl⟩

theorem carries_toolItems {blocks rest : List ContentBlock} {items : List WireItem}
    (hblocks : ∀ block ∈ blocks, block.isToolUse = true ∨ block.isToolResult = true)
    (h : Carries serde items rest)
    : Carries serde (blocks.filterMap (toolItem? serde) ++ items) (blocks ++ rest) := by
  induction blocks with
  | nil => exact h
  | cons block blocks ih =>
    obtain ⟨hfirst, hlater⟩ := List.forall_mem_cons.mp hblocks
    have hrest := ih hlater
    cases block with
    | toolUse id name input => exact .call id name input hrest
    | toolResult id content isError => exact .result id content isError hrest
    | text text => cases hfirst with
      | inl h => cases h
      | inr h => cases h
    | thinking text => cases hfirst with
      | inl h => cases h
      | inr h => cases h
    | json value => cases hfirst with
      | inl h => cases h
      | inr h => cases h

theorem length_foldl_gatherBlock (gathered : GatheredBlocks) (blocks : List ContentBlock)
    : let result := blocks.foldl (gatherBlock serde) gathered
      result.toolCalls.length
          = gathered.toolCalls.length + (blocks.filter ContentBlock.isToolUse).length
        ∧ result.toolResults.length
          = gathered.toolResults.length + (blocks.filter ContentBlock.isToolResult).length := by
  induction blocks generalizing gathered with
  | nil => exact ⟨rfl, rfl⟩
  | cons block rest ih =>
    dsimp only
    rw [List.foldl_cons]
    obtain ⟨hcalls, hresults⟩ := ih (gatherBlock serde gathered block)
    rw [hcalls, hresults]
    cases block with
    | text text => exact ⟨rfl, rfl⟩
    | toolUse id name input =>
      refine ⟨?_, rfl⟩
      unfold gatherBlock
      rw [List.length_append, List.length_singleton, List.filter_cons_of_pos rfl, List.length_cons]
      omega
    | toolResult id content isError =>
      refine ⟨rfl, ?_⟩
      unfold gatherBlock
      rw [List.length_append, List.length_singleton, List.filter_cons_of_pos rfl, List.length_cons]
      omega
    | thinking text => exact ⟨rfl, rfl⟩
    | json value => exact ⟨rfl, rfl⟩

theorem readMessage_content (content : String) (role : ChatRole)
    : readMessage (.object [("content", .string content), ("role", .string (roleStr role))])
        = [.text content] := by
  cases role with
  | user => rfl
  | assistant => rfl

theorem readMessage_calls (calls : List Value)
    : readMessage (.object [("role", .string "assistant"), ("tool_calls", .array calls)])
        = calls.map readCall := by
  rfl

theorem readMessage_content_calls (content : String) (calls : List Value)
    : readMessage (.object [("content", .string content), ("role", .string "assistant"),
          ("tool_calls", .array calls)])
        = .text content :: calls.map readCall := by
  rfl

theorem flatMap_readMessage_wireMessages (msg : ChatMessage)
    : ∃ texts : List String, texts.map ContentBlock.text = msg.content.filter ContentBlock.isText
        ∧ (wireMessages serde msg).flatMap readMessage
          = (if msg.content.filter ContentBlock.isToolUse ≠ [] ∧ texts ≠ []
              ∨ msg.content.filter ContentBlock.isToolUse = []
                ∧ msg.content.filter ContentBlock.isToolResult = [] then
              [WireItem.text ("\n".intercalate texts)]
            else [])
            ++ (msg.content.filter ContentBlock.isToolUse).filterMap (toolItem? serde)
            ++ (msg.content.filter ContentBlock.isToolResult).filterMap (toolItem? serde) := by
  obtain ⟨htexts, hcalls, hresults⟩ := @foldl_gatherBlock serde {} msg.content
  obtain ⟨hcallCount, hresultCount⟩ := @length_foldl_gatherBlock serde {} msg.content
  unfold wireMessages
  generalize msg.content.foldl (gatherBlock serde) {} = gathered at *
  rw [List.map_nil, List.nil_append] at htexts hcalls
  rw [List.map_nil, List.flatMap_nil, List.nil_append] at hresults
  rw [List.length_nil, Nat.zero_add] at hcallCount hresultCount
  have hcallsNil : gathered.toolCalls = []
      ↔ msg.content.filter ContentBlock.isToolUse = [] := by
    rw [← List.length_eq_zero_iff, hcallCount, List.length_eq_zero_iff]
  have hresultsNil : gathered.toolResults = []
      ↔ msg.content.filter ContentBlock.isToolResult = [] := by
    rw [← List.length_eq_zero_iff, hresultCount, List.length_eq_zero_iff]
  refine ⟨gathered.textParts, htexts, ?_⟩
  dsimp only
  rw [List.flatMap_append, hresults, ← hcalls]
  simp only [ne_eq, ← hcallsNil, ← hresultsNil]
  congr 1
  obtain ⟨toolResults, toolCalls, textParts⟩ := gathered
  dsimp only
  match toolCalls, textParts, toolResults with
  | call :: calls, [], results =>
    refine ((List.append_nil _).trans (readMessage_calls (call :: calls))).trans ?_
    rw [if_neg (by simp)]
    rfl
  | call :: calls, text :: texts, results =>
    refine ((List.append_nil _).trans (readMessage_content_calls _ (call :: calls))).trans ?_
    rw [if_pos (.inl ⟨List.cons_ne_nil _ _, List.cons_ne_nil _ _⟩)]
    rfl
  | [], [], [] => exact (List.append_nil _).trans (readMessage_content "" msg.role)
  | [], [], result :: results => rfl
  | [], text :: texts, [] => exact (List.append_nil _).trans (readMessage_content _ msg.role)
  | [], text :: texts, result :: results => rfl

theorem rank_toolUseItem {blocks : List ContentBlock} {item : WireItem}
    (h : item ∈ (blocks.filter ContentBlock.isToolUse).filterMap (toolItem? serde))
    : item.rank = 1 := by
  obtain ⟨block, hblock, hitem⟩ := List.mem_filterMap.mp h
  have huse := (List.mem_filter.mp hblock).2
  cases block with
  | toolUse id name input =>
    cases hitem
    rfl
  | _ => cases huse

theorem rank_toolResultItem {blocks : List ContentBlock} {item : WireItem}
    (h : item ∈ (blocks.filter ContentBlock.isToolResult).filterMap (toolItem? serde))
    : item.rank = 2 := by
  obtain ⟨block, hblock, hitem⟩ := List.mem_filterMap.mp h
  have hresult := (List.mem_filter.mp hblock).2
  cases block with
  | toolResult id content isError =>
    cases hitem
    rfl
  | _ => cases hresult

theorem pairwise_rank_items (blocks : List ContentBlock) (texts : List WireItem)
    (htexts : texts.Pairwise (fun a b => a.rank ≤ b.rank)) (hranks : ∀ item ∈ texts, item.rank = 0)
    : (texts ++ (blocks.filter ContentBlock.isToolUse).filterMap (toolItem? serde)
          ++ (blocks.filter ContentBlock.isToolResult).filterMap (toolItem? serde)).Pairwise
        (fun a b => a.rank ≤ b.rank) := by
  rw [List.pairwise_append, List.pairwise_append]
  refine ⟨⟨htexts, ?_, ?_⟩, ?_, ?_⟩
  . apply List.pairwise_iff_forall_sublist.mpr
    intro a b hsublist
    rw [rank_toolUseItem (hsublist.mem (List.mem_cons_self ..)),
      rank_toolUseItem (hsublist.mem (List.mem_cons_of_mem _ (List.mem_cons_self ..)))]
  . intro a ha b hb
    rw [hranks a ha]
    exact Nat.zero_le _
  . apply List.pairwise_iff_forall_sublist.mpr
    intro a b hsublist
    rw [rank_toolResultItem (hsublist.mem (List.mem_cons_self ..)),
      rank_toolResultItem (hsublist.mem (List.mem_cons_of_mem _ (List.mem_cons_self ..)))]
  . intro a ha b hb
    rw [rank_toolResultItem hb]
    obtain ha | ha := List.mem_append.mp ha
    . rw [hranks a ha]
      exact Nat.zero_le _
    . rw [rank_toolUseItem ha]
      exact Nat.le_succ _

theorem carries_wireMessages_iff (msg : ChatMessage)
    : Carries serde ((wireMessages serde msg).flatMap readMessage)
          (msg.content.filter ContentBlock.isCarried)
        ↔ InWireOrder msg.content := by
  obtain ⟨texts, htexts, hitems⟩ := @flatMap_readMessage_wireMessages serde msg
  rw [hitems]
  constructor
  . intro hcarries
    obtain ⟨hordered, hranks⟩ := hcarries.ranks (by
      apply pairwise_rank_items
      . split
        . exact List.pairwise_singleton _ _
        . exact .nil
      . intro item hmem
        split at hmem
        . rw [List.mem_singleton.mp hmem]
          rfl
        . cases hmem)
    refine ⟨hordered, ?_⟩
    rintro ⟨result, hresult, hisResult⟩ ⟨text, htext, hisText⟩
    by_contra hnoUse
    have huses : msg.content.filter ContentBlock.isToolUse = [] := by
      rw [List.filter_eq_nil_iff]
      intro block hmem huse
      exact hnoUse ⟨block, hmem, huse⟩
    have hresults : msg.content.filter ContentBlock.isToolResult ≠ [] :=
      List.ne_nil_of_mem (List.mem_filter.mpr ⟨hresult, hisResult⟩)
    obtain ⟨item, hitem, hrank⟩ := hranks text
      (List.mem_filter.mpr ⟨htext, by unfold ContentBlock.isCarried; rw [hisText]; rfl⟩)
    rw [huses, if_neg (by simp [hresults])] at hitem
    rw [rank_toolResultItem hitem] at hrank
    cases text with
    | text _ => cases hrank
    | _ => cases hisText
  . intro hinOrder
    rw [filter_isCarried_of_ordered hinOrder.ordered, ← htexts]
    have htools : ∀ block ∈ msg.content.filter ContentBlock.isToolUse
        ++ msg.content.filter ContentBlock.isToolResult,
        block.isToolUse = true ∨ block.isToolResult = true := by
      intro block hmem
      obtain hmem | hmem := List.mem_append.mp hmem
      . exact .inl (List.mem_filter.mp hmem).2
      . exact .inr (List.mem_filter.mp hmem).2
    have hcarries := carries_toolItems htools (Carries.nil : Carries serde [] [])
    rw [List.append_nil, List.append_nil, List.filterMap_append] at hcarries
    rw [List.append_assoc, List.append_assoc]
    split
    . exact .text texts hcarries
    . next hunspoken =>
      have hnil : texts = [] := by
        by_contra hne
        obtain ⟨hunused, hunanswered⟩ := not_or.mp hunspoken
        have huses : msg.content.filter ContentBlock.isToolUse = [] := by
          by_contra huses
          exact hunused ⟨huses, hne⟩
        obtain ⟨result, hresult⟩ := List.exists_mem_of_ne_nil _ (fun h => hunanswered ⟨huses, h⟩)
        obtain ⟨text, htext⟩ := List.exists_mem_of_ne_nil _ hne
        have htextMem := List.mem_map_of_mem (f := ContentBlock.text) htext
        rw [htexts, List.mem_filter] at htextMem
        obtain ⟨use, huse, hisUse⟩ :=
          hinOrder.spoken ⟨result, List.mem_filter.mp hresult⟩ ⟨_, htextMem⟩
        exact List.ne_nil_of_mem (List.mem_filter.mpr ⟨huse, hisUse⟩) huses
      rw [hnil]
      exact hcarries

/--
The messages of the body are the system prompt and then what the messages of the request become, one
after the other, and each of these carries the texts, tool uses and results of its message.
-/
structure CarriesRequest (serde : SerdeJson) (req : ChatRequest) (body : Value) : Prop where
  messages : body.get "messages"
    = some (.array (systemMessages req ++ req.messages.flatMap (wireMessages serde)))
  carried : ∀ msg ∈ req.messages,
    Carries serde ((wireMessages serde msg).flatMap readMessage)
      (msg.content.filter ContentBlock.isCarried)

theorem buildBody_carries_iff (provider : OpenAiCompatProvider) (req : ChatRequest)
    : CarriesRequest serde req (provider.buildBody serde req)
        ↔ ∀ msg ∈ req.messages, InWireOrder msg.content := by
  constructor
  . intro h msg hmem
    exact (carries_wireMessages_iff msg).mp (h.carried msg hmem)
  . intro h
    refine ⟨rfl, ?_⟩
    intro msg hmem
    exact (carries_wireMessages_iff msg).mpr (h msg hmem)

def resultAndText : ChatRequest where
  messages :=
    [{ role := .user
       content := [.text "and now the tests", .toolResult "call_1" (.string "ok") false] }]

theorem resultAndText_not_carried
    : ¬CarriesRequest .small resultAndText
        (buildBody { model := "gpt-4", maxTokens := 4096 } .small resultAndText) := by
  intro h
  have hmsg := (carries_wireMessages_iff _).mp (h.carried _ (List.mem_cons_self ..))
  obtain ⟨block, hmem, huse⟩ := hmsg.spoken
    ⟨_, List.mem_cons_of_mem _ (List.mem_cons_self ..), rfl⟩ ⟨_, List.mem_cons_self .., rfl⟩
  obtain rfl | hmem := List.mem_cons.mp hmem
  . cases huse
  . rw [List.mem_singleton.mp hmem] at huse
    cases huse

end OpenAiCompatProvider

end AnimaAgent
