import AnimaAgent.Support.Value

namespace AnimaAgent

inductive MessageRole where
  | user
  | assistant
  | system
  deriving DecidableEq, Repr

inductive ContentBlock where
  | text (text : String)
  | toolUse (id : String) (name : String) (input : Value)
  | toolResult (toolUseId : String) (content : Value) (isError : Bool)
  | thinking (thinking : String)
  | json (value : Value)
  deriving DecidableEq

structure ApiMsg where
  role : MessageRole
  content : Value
  deriving DecidableEq

structure InternalMsg where
  role : MessageRole
  blocks : List ContentBlock
  messageId : String
  toolUseId : Option String
  filtered : Bool
  metadata : Value
  deriving DecidableEq

namespace ContentBlock

def toValue : ContentBlock → Value
  | text t => .object [("text", .string t), ("type", .string "text")]
  | toolUse id name input =>
    .object [("id", .string id), ("input", input), ("name", .string name),
      ("type", .string "tool_use")]
  | toolResult toolUseId content isError =>
    .object [("content", content), ("is_error", .bool isError), ("tool_use_id", .string toolUseId),
      ("type", .string "tool_result")]
  | thinking t => .object [("thinking", .string t), ("type", .string "thinking")]
  | json value => value

def isText : ContentBlock → Bool
  | text _ => true
  | _ => false

def isTool : ContentBlock → Bool
  | toolUse .. => true
  | toolResult .. => true
  | _ => false

end ContentBlock

def valueFromBlocks (blocks : List ContentBlock) : Value :=
  match blocks with
  | [.text t] => .string t
  | _ => .array (blocks.map ContentBlock.toValue)

def Value.strField (item : Value) (key : String) : String :=
  ((item.get key).bind Value.asStr).getD ""

def Value.wireType (item : Value) : Option String :=
  (item.get "type").bind Value.asStr

def blockFromItem (fallbackToolUseId : Option String) (item : Value) : ContentBlock :=
  match item.wireType with
  | some "text" => .text (item.strField "text")
  | some "tool_use" =>
    .toolUse (item.strField "id") (item.strField "name") ((item.get "input").getD .null)
  | some "tool_result" =>
    .toolResult
      ((((item.get "tool_use_id").bind Value.asStr).or fallbackToolUseId).getD "")
      ((item.get "content").getD .null)
      (((item.get "is_error").bind Value.asBool).getD false)
  | some "thinking" => .thinking (item.strField "thinking")
  | _ => .json item

def blocksFromValue (content : Value) (fallbackToolUseId : Option String) : List ContentBlock :=
  match content with
  | .array items => items.map (blockFromItem fallbackToolUseId)
  | .string text => [.text text]
  | other => [.json other]

namespace ContentBlock

def wireKinds : List String :=
  ["text", "tool_use", "tool_result", "thinking"]

/-- A `Json` block whose value does not read back as another kind of block. -/
def Plain : ContentBlock → Prop
  | json value => ∀ kind ∈ wireKinds, value.wireType ≠ some kind
  | _ => True

instance : DecidablePred Plain := fun block => by
  cases block <;> unfold Plain <;> infer_instance

def jsonSize : ContentBlock → Nat
  | json value => value.size
  | _ => 0

theorem blockFromItem_of_wireType_ne {item : Value} (fallback : Option String)
    (h : ∀ kind ∈ wireKinds, item.wireType ≠ some kind)
    : blockFromItem fallback item = .json item := by
  unfold blockFromItem
  split
  . next h' => exact absurd h' (h "text" (by simp [wireKinds]))
  . next h' => exact absurd h' (h "tool_use" (by simp [wireKinds]))
  . next h' => exact absurd h' (h "tool_result" (by simp [wireKinds]))
  . next h' => exact absurd h' (h "thinking" (by simp [wireKinds]))
  . rfl

theorem blockFromItem_of_wireType_none {item : Value} (fallback : Option String)
    (h : item.wireType = none)
    : blockFromItem fallback item = .json item := by
  apply blockFromItem_of_wireType_ne
  intro kind _
  rw [h]
  simp

theorem blockFromItem_toValue (fallback : Option String) (block : ContentBlock) (h : block.Plain)
    : blockFromItem fallback block.toValue = block := by
  cases block with
  | json value => exact blockFromItem_of_wireType_ne fallback h
  | text t => rfl
  | toolUse id name input => rfl
  | toolResult toolUseId content isError => rfl
  | thinking t => rfl

theorem plain_of_blockFromItem_toValue (fallback : Option String) {block : ContentBlock}
    (h : blockFromItem fallback block.toValue = block)
    : block.Plain := by
  cases block with
  | json value =>
    intro kind hkind htype
    unfold blockFromItem toValue at h
    rw [htype] at h
    simp only [wireKinds, List.mem_cons, List.not_mem_nil, or_false] at hkind
    obtain rfl | rfl | rfl | rfl := hkind <;> cases h
  | _ => trivial

end ContentBlock

@[simp]
theorem blocksFromValue_array (items : List Value) (fallback : Option String)
    : blocksFromValue (.array items) fallback = items.map (blockFromItem fallback) := by
  rfl

@[simp]
theorem blocksFromValue_string (text : String) (fallback : Option String)
    : blocksFromValue (.string text) fallback = [.text text] := by
  rfl

theorem valueFromBlocks_eq_string_iff (blocks : List ContentBlock) (t : String)
    : valueFromBlocks blocks = .string t ↔ blocks = [.text t] := by
  unfold valueFromBlocks
  split
  . simp
  . next h =>
    constructor
    . intro h'
      cases h'
    . intro h'
      exact absurd h' (h t)

theorem blocksFromValue_valueFromBlocks (blocks : List ContentBlock) (fallback : Option String)
    (h : ∀ block ∈ blocks, block.Plain)
    : blocksFromValue (valueFromBlocks blocks) fallback = blocks := by
  unfold valueFromBlocks
  split
  . rfl
  . rw [blocksFromValue_array, List.map_map]
    conv => rhs; rw [← List.map_id blocks]
    apply List.map_congr_left
    intro block hmem
    exact ContentBlock.blockFromItem_toValue fallback block (h block hmem)

theorem blocksFromValue_valueFromBlocks_iff (blocks : List ContentBlock)
    : blocksFromValue (valueFromBlocks blocks) none = blocks
        ↔ ∀ block ∈ blocks, block.Plain := by
  constructor
  . intro h block hmem
    unfold valueFromBlocks at h
    split at h
    . cases List.mem_singleton.mp hmem
      trivial
    . rw [blocksFromValue_array, List.map_map] at h
      have hread := List.map_inj_left.mp (h.trans (List.map_id blocks).symm) block hmem
      exact ContentBlock.plain_of_blockFromItem_toValue none hread
  . exact blocksFromValue_valueFromBlocks blocks none

end AnimaAgent
