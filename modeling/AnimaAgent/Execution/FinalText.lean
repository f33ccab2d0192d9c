import AnimaAgent.Execution.Lemmas.Answers
import AnimaAgent.Streaming.Encoding

namespace AnimaAgent

structure ProviderAnswer where
  parsed : ParsedResponse
  assistant : InternalMsg

namespace ProviderAnswer

def isToolFree (answer : ProviderAnswer) : Bool :=
  answer.parsed.toolUses.isEmpty

def isNormal (answer : ProviderAnswer) : Bool :=
  answer.isToolFree && answer.parsed.stopReason ≠ .maxTokens

def endsNormally (answers : List ProviderAnswer) : Bool :=
  answers.getLast?.any isNormal

/--
The tool-free answers that a run ends with. All but the last one are truncated, for an answer that is
neither ends the run.
-/
def closing (answers : List ProviderAnswer) : List ProviderAnswer :=
  answers.rtakeWhile isToolFree

def joinedText (answers : List ProviderAnswer) : String :=
  String.join (answers.map (fun answer => answer.parsed.text))

end ProviderAnswer

def InternalMsg.shownText (msg : InternalMsg) : String :=
  "\n".intercalate (msg.blocks.filterMap ContentBlock.text?)

theorem extractLastAssistantText_append {front rest : List InternalMsg} {msg : InternalMsg}
    (hmsg : msg.role = .assistant) (hrest : ∀ later ∈ rest, later.role ≠ .assistant)
    : extractLastAssistantText (front ++ msg :: rest) = msg.shownText := by
  unfold extractLastAssistantText
  have hnone : rest.reverse.find? (fun msg => msg.role == .assistant) = none := by
    rw [List.find?_eq_none]
    intro later hmem hrole
    exact hrest later (List.mem_reverse.mp hmem) (eq_of_beq hrole)
  rw [List.reverse_append, List.reverse_cons, List.append_assoc, List.find?_append, hnone,
    Option.none_or, List.singleton_append, List.find?_cons_of_pos (by rw [hmsg]; rfl)]
  rfl

namespace LoopEnv

variable (env : LoopEnv)

def answers : Nat → LoopState → List ProviderAnswer
  | 0, _ => []
  | remaining + 1, state =>
    match (env.callProvider state.iterations (env.prepared state)).outcome with
    | .error _ => []
    | .ok (parsed, assistant) =>
      { parsed, assistant } ::
        match (env.act (env.answered state assistant) parsed).outcome with
        | .ok (.continue state) => answers remaining state
        | _ => []

def lastShown (messages : List InternalMsg) (answers : List ProviderAnswer) : String :=
  match answers.getLast? with
  | some answer => answer.assistant.shownText
  | none => extractLastAssistantText messages

def toolFreeTexts (answers : List ProviderAnswer) : List String :=
  (answers.filter ProviderAnswer.isToolFree).map (fun answer => answer.parsed.text)

section Run

variable {env}

theorem extractLastAssistantText_continue {state state' : LoopState} {parsed : ParsedResponse}
    {i : Nat} {messages : List InternalMsg} {assistant : InternalMsg}
    (hcall : (env.callProvider i messages).outcome = .ok (parsed, assistant))
    (h : (env.act (env.answered state assistant) parsed).outcome = .ok (.continue state'))
    : extractLastAssistantText state'.messages = assistant.shownText := by
  obtain ⟨value, _, rfl⟩ := env.callProvider_eq_ok hcall
  rw [act_outcome] at h
  split at h
  . unfold finishOrContinue at h
    split at h
    . cases h
      rw [show (env.answered state (buildAssistantMsg (env.uuid i 0) value)).messages
          = env.prepared state ++ [buildAssistantMsg (env.uuid i 0) value] from rfl,
        List.append_assoc, List.singleton_append]
      apply extractLastAssistantText_append rfl
      intro later hmem
      rw [List.mem_singleton.mp hmem]
      exact fun h => by cases h
    . cases h
  . rw [runToolUses_fst] at h
    split at h
    . cases h
    . next messages' hrun =>
      cases h
      obtain ⟨results, rfl, hdo⟩ := env.runSegments_completed hrun
      rw [show (env.answered state (buildAssistantMsg (env.uuid i 0) value)).messages
          = env.prepared state ++ [buildAssistantMsg (env.uuid i 0) value] from rfl,
        List.append_assoc, List.singleton_append]
      apply extractLastAssistantText_append rfl
      obtain ⟨ids, hresults, -⟩ := hdo.results
      intro later hmem hrole
      rw [(EndsInResults.forall_user hresults later hmem).1] at hrole
      cases hrole

theorem toolFreeTexts_cons (answer : ProviderAnswer) (rest : List ProviderAnswer)
    : toolFreeTexts (answer :: rest)
        = (if answer.isToolFree then [answer.parsed.text] else []) ++ toolFreeTexts rest := by
  unfold toolFreeTexts
  rw [List.filter_cons]
  split
  . rfl
  . rfl

theorem lastShown_cons {messages messages' : List InternalMsg} {answer : ProviderAnswer}
    (h : extractLastAssistantText messages' = answer.assistant.shownText)
    (rest : List ProviderAnswer)
    : lastShown messages (answer :: rest) = lastShown messages' rest := by
  unfold lastShown
  rw [List.getLast?_cons]
  cases rest.getLast? with
  | none => exact h.symm
  | some last => rfl

theorem truncatedTextParts_continue {state state' : LoopState} {parsed : ParsedResponse}
    {assistant : InternalMsg}
    (h : (env.act (env.answered state assistant) parsed).outcome = .ok (.continue state'))
    : state'.truncatedTextParts
        = state.truncatedTextParts ++ if parsed.toolUses.isEmpty then [parsed.text] else [] := by
  rw [act_outcome] at h
  split at h
  . next hempty =>
    rw [if_pos hempty]
    unfold finishOrContinue at h
    split at h
    . cases h
      rfl
    . cases h
  . next hempty =>
    rw [if_neg hempty, List.append_nil]
    rw [runToolUses_fst] at h
    split at h
    . cases h
    . cases h
      rfl

theorem not_isNormal_of_continue {state state' : LoopState} {answer : ProviderAnswer}
    (h : (env.act (env.answered state answer.assistant) answer.parsed).outcome = .ok (.continue state'))
    : answer.isNormal = false := by
  rw [act_outcome] at h
  unfold ProviderAnswer.isNormal
  split at h
  . unfold finishOrContinue at h
    split at h
    . next htruncated => rw [decide_eq_false (not_not_intro htruncated), Bool.and_false]
    . cases h
  . next htools =>
    unfold ProviderAnswer.isToolFree
    rw [Bool.not_eq_true] at htools
    rw [htools, Bool.false_and]

theorem endsNormally_cons {answer : ProviderAnswer} (h : answer.isNormal = false)
    (rest : List ProviderAnswer)
    : ProviderAnswer.endsNormally (answer :: rest) = ProviderAnswer.endsNormally rest := by
  unfold ProviderAnswer.endsNormally
  rw [List.getLast?_cons]
  cases rest.getLast? with
  | none => exact h
  | some last => rfl

section Answered

variable {state : LoopState} {parsed : ParsedResponse} {assistant : InternalMsg}
variable (hcall : (env.callProvider state.iterations (env.prepared state)).outcome
  = .ok (parsed, assistant))

include hcall

theorem answers_of_continue {state' : LoopState} (remaining : Nat)
    (hact : (env.act (env.answered state assistant) parsed).outcome = .ok (.continue state'))
    : env.answers (remaining + 1) state = { parsed, assistant } :: env.answers remaining state' := by
  rw [answers, hcall]
  dsimp only
  rw [hact]

theorem answers_of_done {outcome : AgenticLoopOutcome} (remaining : Nat)
    (hact : (env.act (env.answered state assistant) parsed).outcome = .ok (.done outcome))
    : env.answers (remaining + 1) state = [{ parsed, assistant }] := by
  rw [answers, hcall]
  dsimp only
  rw [hact]

end Answered

theorem iterate_completed {remaining : Nat} {state : LoopState} {result : AgenticLoopResult}
    (h : (env.iterate remaining state).outcome = .ok (.completed result))
    : result.hitLimit = !ProviderAnswer.endsNormally (env.answers remaining state)
        ∧ result.finalText
          = if ProviderAnswer.endsNormally (env.answers remaining state) then
              String.join (state.truncatedTextParts ++ toolFreeTexts (env.answers remaining state))
            else
              lastShown state.messages (env.answers remaining state) := by
  induction remaining generalizing state with
  | zero =>
    cases h
    exact ⟨rfl, rfl⟩
  | succ remaining ih =>
    rw [iterate, step_eq, bind_assoc, Traced.outcome_bind_eq_ok] at h
    obtain ⟨⟨parsed, assistant⟩, hcall, h⟩ := h
    rw [Traced.outcome_bind_eq_ok] at h
    obtain ⟨step, hact, h⟩ := h
    dsimp only at hact
    cases step with
    | done outcome =>
      cases h
      rw [answers_of_done hcall remaining hact]
      rw [act_outcome] at hact
      split at hact
      . next hempty =>
        unfold finishOrContinue at hact
        split at hact
        . cases hact
        . next hstop =>
          cases hact
          have hnormal
              : ProviderAnswer.endsNormally [({ parsed, assistant } : ProviderAnswer)] = true := by
            unfold ProviderAnswer.endsNormally ProviderAnswer.isNormal ProviderAnswer.isToolFree
            rw [List.getLast?_singleton, Option.any_some, hempty, Bool.true_and, decide_eq_true hstop]
          have htexts : toolFreeTexts [({ parsed, assistant } : ProviderAnswer)] = [parsed.text] := by
            rw [toolFreeTexts_cons]
            unfold ProviderAnswer.isToolFree
            rw [if_pos hempty]
            rfl
          rw [hnormal, if_pos rfl, htexts]
          refine ⟨rfl, ?_⟩
          dsimp only
          split
          . next hnone =>
            rw [show state.truncatedTextParts = [] from List.isEmpty_iff.mp hnone]
            simp
          . rfl
      . rw [runToolUses_fst] at hact
        split at hact
        . cases hact
        . cases hact
    | «continue» state' =>
      dsimp only at h
      rw [answers_of_continue hcall remaining hact]
      have hshown := extractLastAssistantText_continue hcall hact
      have hparts := truncatedTextParts_continue hact
      have hnormal : ProviderAnswer.isNormal { parsed, assistant } = false :=
        not_isNormal_of_continue hact
      obtain ⟨hlimit, htext⟩ := ih h
      rw [endsNormally_cons hnormal, lastShown_cons hshown, toolFreeTexts_cons, hlimit, htext, hparts,
        List.append_assoc]
      exact ⟨rfl, rfl⟩

end Run

/-- The tool-free answers that tool rounds follow have no text. -/
def EarlierEmpty (answers : List ProviderAnswer) : Prop :=
  ∀ answer ∈ answers.rdropWhile ProviderAnswer.isToolFree,
    answer.isToolFree = true → answer.parsed.text = ""

/-- The message recorded last shows as much as all closing answers together. -/
def ClosingShown (messages : List InternalMsg) (answers : List ProviderAnswer) : Prop :=
  lastShown messages answers = ProviderAnswer.joinedText (ProviderAnswer.closing answers)

theorem join_toolFreeTexts_iff (answers : List ProviderAnswer)
    : String.join (toolFreeTexts answers) = ProviderAnswer.joinedText (ProviderAnswer.closing answers)
        ↔ EarlierEmpty answers := by
  have hsplit : toolFreeTexts answers
      = toolFreeTexts (answers.rdropWhile ProviderAnswer.isToolFree)
        ++ (ProviderAnswer.closing answers).map (fun answer => answer.parsed.text) := by
    have hclosing : (ProviderAnswer.closing answers).filter ProviderAnswer.isToolFree
        = ProviderAnswer.closing answers := by
      rw [List.filter_eq_self]
      intro answer hmem
      exact List.mem_rtakeWhile_imp hmem
    unfold toolFreeTexts
    rw [← hclosing, ← List.map_append, ← List.filter_append]
    unfold ProviderAnswer.closing
    rw [List.rdropWhile_append_rtakeWhile]
  unfold ProviderAnswer.joinedText EarlierEmpty
  rw [hsplit, String.join_append, String.append_eq_right_iff, Text.join_eq_empty_iff]
  unfold toolFreeTexts
  rw [List.forall_mem_map]
  apply forall_congr'
  intro answer
  rw [List.mem_filter, and_imp]

theorem closingShown_iff {messages : List InternalMsg} {front : List ProviderAnswer}
    {last : ProviderAnswer} (h : last.assistant.shownText = last.parsed.text)
    : ClosingShown messages (front ++ [last])
        ↔ if last.isToolFree then
            ∀ answer ∈ ProviderAnswer.closing front, answer.parsed.text = ""
          else
            last.parsed.text = "" := by
  unfold ClosingShown lastShown ProviderAnswer.closing ProviderAnswer.joinedText
  rw [List.getLast?_concat]
  dsimp only
  rw [h]
  by_cases htoolFree : last.isToolFree
  . rw [if_pos htoolFree, List.rtakeWhile_concat_pos _ _ _ htoolFree, List.map_append,
      String.join_append, List.map_singleton, String.join_cons, String.join_nil, String.append_empty,
      eq_comm, String.append_eq_right_iff, Text.join_eq_empty_iff, List.forall_mem_map]
  . rw [if_neg htoolFree, List.rtakeWhile_concat_neg _ _ _ htoolFree]
    rfl

section Shown

variable {i : Nat} {messages : List InternalMsg} {parsed : ParsedResponse} {assistant : InternalMsg}
variable (hcall : (env.callProvider i messages).outcome = .ok (parsed, assistant))

include hcall

theorem shownText_of_streaming (hstreaming : env.config.streaming = true)
    : assistant.shownText = parsed.text := by
  obtain ⟨value, hask, rfl⟩ := env.callProvider_eq_ok hcall
  unfold askProvider at hask
  rw [if_pos hstreaming] at hask
  split at hask
  . cases hask
  . next stream _ =>
    cases hconsume : consumeStreamEvents env.serde stream with
    | error error =>
      rw [hconsume] at hask
      cases hask
    | ok consumed =>
      rw [hconsume] at hask
      cases hask
      unfold InternalMsg.shownText
      rw [blocks_buildAssistantMsg _ (content_of_consumeStreamEvents hconsume)
        (plain_streamedBlocks _ _ _), filterMap_text?_streamedBlocks]
      unfold nonEmpty
      split
      . next hempty => exact hempty.symm
      . rfl

theorem shownText_of_recorded {response : ChatResponse} (hstreaming : env.config.streaming = false)
    (hchat : env.provider.chat i (env.chatRequest messages) = .ok response)
    (hblocks : (buildAssistantMsg (env.uuid i 0) response.raw).blocks.filterMap ContentBlock.text?
      = response.content.filterMap ContentBlock.text?)
    : assistant.shownText = parsed.text := by
  obtain ⟨value, hask, rfl⟩ := env.callProvider_eq_ok hcall
  unfold askProvider at hask
  rw [hstreaming, if_neg Bool.false_ne_true, hchat] at hask
  cases hask
  unfold InternalMsg.shownText
  rw [hblocks]
  rfl

end Shown

/--
The final text of a run is what its closing answers say together: after a normal answer, exactly if no
truncated answer with a text was followed by a tool round; at the limit, exactly if the message recorded
last shows it. If this message shows what was parsed, then no other closing answer may have a text, nor
the last answer if it uses tools.
-/
theorem finalText_iff {messages : List InternalMsg} {iterations compactCount : Nat}
    {result : AgenticLoopResult}
    (h : (env.continueAgenticLoop messages iterations compactCount).outcome = .ok (.completed result))
    : let answers := env.answers (env.config.maxIterations - iterations)
        { messages, iterations, compactCount }
      (result.finalText = ProviderAnswer.joinedText (ProviderAnswer.closing answers)
          ↔ if ProviderAnswer.endsNormally answers then EarlierEmpty answers
            else ClosingShown messages answers)
        ∧ ∀ front last, answers = front ++ [last] → last.assistant.shownText = last.parsed.text
          → (ClosingShown messages answers
            ↔ if last.isToolFree then
                ∀ answer ∈ ProviderAnswer.closing front, answer.parsed.text = ""
              else
                last.parsed.text = "") := by
  intro answers
  constructor
  . obtain ⟨-, htext⟩ := iterate_completed h
    rw [htext]
    change (if ProviderAnswer.endsNormally answers then String.join ([] ++ toolFreeTexts answers)
      else lastShown messages answers) = _ ↔ _
    split
    . exact join_toolFreeTexts_iff answers
    . rfl
  . intro front last hanswers hshown
    rw [hanswers]
    exact closingShown_iff hshown

def textResponse (text : String) (stopReason : StopReason) : ChatResponse where
  content := [.text text]
  stopReason := stopReason
  usage := none
  raw := .object [("content", .array [(ContentBlock.text text).toValue])]

def answering (first : ChatResponse) (rest : List ChatResponse) : LoopEnv :=
  { LoopEnv.withTools [] with
    provider := { Provider.offline with
      chat i _ := .ok (((first :: rest)[i]?).getD ((first :: rest).getLast?.getD first)) } }

instance (answers : List ProviderAnswer) : Decidable (EarlierEmpty answers) :=
  inferInstanceAs (Decidable (∀ answer ∈ _, _))

instance (messages : List InternalMsg) (answers : List ProviderAnswer)
    : Decidable (ClosingShown messages answers) :=
  inferInstanceAs (Decidable (_ = _))

theorem finalText_iff_truncatedOnce
    : let env := answering (textResponse "a" .maxTokens) [textResponse "b" .endTurn]
      let state : LoopState := { messages := [], iterations := 0, compactCount := 0 }
      ∃ result, (env.continueAgenticLoop [] 0 0).outcome = .ok (.completed result)
        ∧ result.finalText
          = ProviderAnswer.joinedText (ProviderAnswer.closing (env.answers 10 state)) := by
  intro env state
  obtain ⟨result, h⟩
      : ∃ result, (env.continueAgenticLoop [] 0 0).outcome = .ok (.completed result) :=
    ⟨_, rfl⟩
  exact ⟨result, h, (finalText_iff env h).1.mpr (by decide +kernel)⟩

/-- A truncated answer, a tool use and a normal answer: the first text is said again. -/
theorem truncatedBeforeTools_finalText
    : let env := answering (textResponse "a" .maxTokens)
        [ { textResponse "" .toolUse with content := [.toolUse "t" "missing" .null] }
        , textResponse "b" .endTurn ]
      let state : LoopState := { messages := [], iterations := 0, compactCount := 0 }
      ∃ result, (env.continueAgenticLoop [] 0 0).outcome = .ok (.completed result)
        ∧ result.finalText = "ab"
        ∧ ProviderAnswer.joinedText (ProviderAnswer.closing (env.answers 10 state)) = "b" := by
  intro env state
  exact ⟨_, rfl, by decide +kernel, by decide +kernel⟩

end LoopEnv

end AnimaAgent
