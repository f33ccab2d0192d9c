import AnimaAgent.Library.Placeholders
import AnimaAgent.Orchestrator.FinalResult

namespace AnimaAgent

def llmJudgePrompt (originalRequest responseText : String) (template : Option String) : String :=
  let preview := String.ofList (responseText.toList.take 500)
  match template with
  | some tmpl =>
    Text.replace "\x7breply_preview\x7d" preview (Text.replace "\x7brequest\x7d" originalRequest tmpl)
  | none =>
    "你是需求完成度评估器。判断以下 AI 回复是否完整满足了用户的原始请求。\n\n用户请求：" ++ originalRequest
      ++ "\n\nAI 回复摘要（前 500 字）：" ++ preview
      ++ "\n\n只回复 JSON：\x7b\"satisfied\": true/false, \"reason\": \"一句话原因\"\x7d"

def buildQuestionFollowupPrompt (originalUserRequest : String) (question : PendingQuestion)
    (template : Option String)
    : String :=
  let optionsStr := ", ".intercalate question.options
  match template with
  | some tmpl =>
    Text.replace "\x7boptions\x7d" optionsStr
      (Text.replace "\x7bquestion\x7d" question.prompt
        (Text.replace "\x7brequest\x7d" originalUserRequest tmpl))
  | none =>
    let optionsDisplay := if question.options.isEmpty then "" else "\n可选项: " ++ optionsStr
    "用户原始请求: " ++ originalUserRequest ++ "\n\n上游提出了一个问题: " ++ question.prompt ++ optionsDisplay
      ++ "\n\n请根据用户原始请求的上下文，尝试推断出合理答案并继续执行。"
      ++ "如果确实无法推断，请返回结构化 question 给用户。"

def buildResultFollowupPrompt (originalUserRequest responseText instruction : String)
    (template : Option String)
    : String :=
  let preview := String.ofList (responseText.toList.take 300)
  match template with
  | some tmpl =>
    Text.replace "\x7binstruction\x7d" instruction
      (Text.replace "\x7bresult_preview\x7d" preview
        (Text.replace "\x7brequest\x7d" originalUserRequest tmpl))
  | none =>
    "用户原始请求: " ++ originalUserRequest ++ "\n\n上一轮结果摘要: " ++ preview ++ "\n\n" ++ instruction

def OrchestratorEnvironment.missingContextPrompt (env : OrchestratorEnvironment)
    (plan : OrchestrationPlan) (loweredTasks : List LoweredTask) (subtaskResults : Value)
    (promptTemplate : String)
    : String :=
  let joined := "\n\n".intercalate (env.resultSummaries loweredTasks subtaskResults)
  Text.replace "\x7bresults\x7d" joined
    (Text.replace "\x7brequest\x7d" plan.originalRequest promptTemplate)

namespace PromptTemplate

/-- A placeholder of the templates; its name is not part of what comes behind it. -/
abbrev Slot :=
  Placeholder '\x7b'

namespace Slot

def request : Slot where
  body := "request\x7d".toList
  not_mem := by decide

def replyPreview : Slot where
  body := "reply_preview\x7d".toList
  not_mem := by decide

def results : Slot where
  body := "results\x7d".toList
  not_mem := by decide

def question : Slot where
  body := "question\x7d".toList
  not_mem := by decide

def options : Slot where
  body := "options\x7d".toList
  not_mem := by decide

def resultPreview : Slot where
  body := "result_preview\x7d".toList
  not_mem := by decide

def instruction : Slot where
  body := "instruction\x7d".toList
  not_mem := by decide

end Slot

abbrev Values := List (Slot × List Char)

def fill (values : Values) (template : String) : String :=
  String.ofList (Placeholder.fill values template.toList)

/-- Filling in the earlier placeholders brings about no more places of a later one. -/
def Clean (values : Values) (template : String) : Prop :=
  Placeholder.Clean values template.toList

def judgeValues (originalRequest responseText : String) : Values :=
  [(Slot.request, originalRequest.toList), (Slot.replyPreview, responseText.toList.take 500)]

def questionFollowupValues (originalUserRequest : String) (question : PendingQuestion) : Values :=
  [(Slot.request, originalUserRequest.toList), (Slot.question, question.prompt.toList),
    (Slot.options, (", ".intercalate question.options).toList)]

def resultFollowupValues (originalUserRequest responseText instruction : String) : Values :=
  [(Slot.request, originalUserRequest.toList), (Slot.resultPreview, responseText.toList.take 300),
    (Slot.instruction, instruction.toList)]

def missingContextValues (env : OrchestratorEnvironment) (plan : OrchestrationPlan)
    (loweredTasks : List LoweredTask) (subtaskResults : Value)
    : Values :=
  [(Slot.request, plan.originalRequest.toList),
    (Slot.results, ("\n\n".intercalate (env.resultSummaries loweredTasks subtaskResults)).toList)]

theorem replaceFrom_eq (p : Slot) (value : List Char) (skip : Nat) (text : List Char)
    : Text.replaceFrom p.text value skip text
        = Placeholder.fillFrom (fun c => [c]) [(p, value)] skip text := by
  induction text generalizing skip with
  | nil => cases skip <;> rfl
  | cons c rest ih =>
    cases skip with
    | succ skip => exact ih skip
    | zero =>
      rw [Text.replaceFrom, Placeholder.fillFrom, Placeholder.first, List.find?_singleton]
      split
      . rw [ih]
        rfl
      . rw [ih]
        rfl

theorem replace_eq (p : Slot) (value text : List Char)
    : Text.replace (String.ofList p.text) (String.ofList value) (String.ofList text)
        = String.ofList (p.replace value text) := by
  have hne : (String.ofList p.text).isEmpty = false := by
    rw [← Bool.not_eq_true, String.isEmpty_iff]
    intro hempty
    exact List.cons_ne_nil _ _ (String.ofList_eq_empty_iff.mp hempty)
  unfold Text.replace
  rw [hne, if_neg Bool.false_ne_true, String.toList_ofList, String.toList_ofList,
    String.toList_ofList, replaceFrom_eq]
  rfl

section Prompts

variable (env : OrchestratorEnvironment) (plan : OrchestrationPlan) (loweredTasks : List LoweredTask)
variable (subtaskResults : Value) (originalRequest responseText instruction template : String)
variable (question : PendingQuestion)

theorem llmJudgePrompt_eq
    : llmJudgePrompt originalRequest responseText (some template)
        = String.ofList
          (Placeholder.fillInTurn (judgeValues originalRequest responseText) template.toList) := by
  unfold llmJudgePrompt judgeValues Placeholder.fillInTurn
  simp only [List.foldl_cons, List.foldl_nil, ← replace_eq, String.ofList_toList]
  rfl

theorem missingContextPrompt_eq
    : env.missingContextPrompt plan loweredTasks subtaskResults template
        = String.ofList
          (Placeholder.fillInTurn (missingContextValues env plan loweredTasks subtaskResults)
            template.toList) := by
  unfold OrchestratorEnvironment.missingContextPrompt missingContextValues Placeholder.fillInTurn
  simp only [List.foldl_cons, List.foldl_nil, ← replace_eq, String.ofList_toList]
  rfl

theorem buildQuestionFollowupPrompt_eq
    : buildQuestionFollowupPrompt originalRequest question (some template)
        = String.ofList
          (Placeholder.fillInTurn (questionFollowupValues originalRequest question)
            template.toList) := by
  unfold buildQuestionFollowupPrompt questionFollowupValues Placeholder.fillInTurn
  simp only [List.foldl_cons, List.foldl_nil, ← replace_eq, String.ofList_toList]
  rfl

theorem buildResultFollowupPrompt_eq
    : buildResultFollowupPrompt originalRequest responseText instruction (some template)
        = String.ofList
          (Placeholder.fillInTurn (resultFollowupValues originalRequest responseText instruction)
            template.toList) := by
  unfold buildResultFollowupPrompt resultFollowupValues Placeholder.fillInTurn
  simp only [List.foldl_cons, List.foldl_nil, ← replace_eq, String.ofList_toList]
  rfl

end Prompts

section Filled

variable {values : Values} {template : String}

theorem ofList_fillInTurn_eq (hapart : (values.map Prod.fst).Pairwise Placeholder.Apart)
    (hclean : Clean values template)
    : String.ofList (Placeholder.fillInTurn values template.toList) = fill values template := by
  rw [Placeholder.fillInTurn_of_clean hapart hclean]
  rfl

theorem ofList_fillInTurn_eq_iff {p : Slot} {value : List Char}
    (hapart : ((values ++ [(p, value)]).map Prod.fst).Pairwise Placeholder.Apart)
    (hclean : Clean values template)
    : String.ofList (Placeholder.fillInTurn (values ++ [(p, value)]) template.toList)
          = fill (values ++ [(p, value)]) template
        ↔ Clean (values ++ [(p, value)]) template := by
  unfold fill
  rw [String.ofList_inj]
  exact Placeholder.fillInTurn_append_iff hapart hclean

theorem ofList_fillInTurn_pair_iff {p q : Slot} (u v : List Char) (hapart : p.Apart q)
    : String.ofList (Placeholder.fillInTurn [(p, u), (q, v)] template.toList)
          = fill [(p, u), (q, v)] template
        ↔ Clean [(p, u), (q, v)] template := by
  have hpairwise : (([(p, u)] ++ [(q, v)]).map Prod.fst).Pairwise Placeholder.Apart := by
    simpa using hapart
  exact ofList_fillInTurn_eq_iff hpairwise (Placeholder.clean_singleton p u)

theorem ofList_fillInTurn_triple {p q r : Slot} (u v w : List Char)
    (hapart : [p, q, r].Pairwise Placeholder.Apart)
    : (Clean [(p, u), (q, v), (r, w)] template
        → String.ofList (Placeholder.fillInTurn [(p, u), (q, v), (r, w)] template.toList)
          = fill [(p, u), (q, v), (r, w)] template)
      ∧ (Clean [(p, u), (q, v)] template
        → String.ofList (Placeholder.fillInTurn [(p, u), (q, v), (r, w)] template.toList)
          = fill [(p, u), (q, v), (r, w)] template
        → Clean [(p, u), (q, v), (r, w)] template) := by
  constructor
  . exact ofList_fillInTurn_eq hapart
  . intro hearlier
    exact (@ofList_fillInTurn_eq_iff [(p, u), (q, v)] template r w hapart hearlier).mp

end Filled

/--
The prompts of the judge and of the orchestrator have all placeholders of their template filled in at
once exactly when no place of the second one comes about by filling in the first. The follow-ups have
three placeholders, and what comes about for the second may by chance be undone by the third.
-/
theorem prompts_filledAtOnce_iff (env : OrchestratorEnvironment) (plan : OrchestrationPlan)
    (loweredTasks : List LoweredTask) (subtaskResults : Value)
    (originalRequest responseText instruction : String) (question : PendingQuestion)
    (template : String)
    : (llmJudgePrompt originalRequest responseText (some template)
            = fill (judgeValues originalRequest responseText) template
          ↔ Clean (judgeValues originalRequest responseText) template)
        ∧ (env.missingContextPrompt plan loweredTasks subtaskResults template
            = fill (missingContextValues env plan loweredTasks subtaskResults) template
          ↔ Clean (missingContextValues env plan loweredTasks subtaskResults) template)
        ∧ ((Clean (questionFollowupValues originalRequest question) template
            → buildQuestionFollowupPrompt originalRequest question (some template)
              = fill (questionFollowupValues originalRequest question) template)
          ∧ (Clean (questionFollowupValues originalRequest question).dropLast template
            → buildQuestionFollowupPrompt originalRequest question (some template)
              = fill (questionFollowupValues originalRequest question) template
            → Clean (questionFollowupValues originalRequest question) template))
        ∧ ((Clean (resultFollowupValues originalRequest responseText instruction) template
            → buildResultFollowupPrompt originalRequest responseText instruction (some template)
              = fill (resultFollowupValues originalRequest responseText instruction) template)
          ∧ (Clean (resultFollowupValues originalRequest responseText instruction).dropLast template
            → buildResultFollowupPrompt originalRequest responseText instruction (some template)
              = fill (resultFollowupValues originalRequest responseText instruction) template
            → Clean (resultFollowupValues originalRequest responseText instruction) template)) := by
  rw [llmJudgePrompt_eq, missingContextPrompt_eq, buildQuestionFollowupPrompt_eq,
    buildResultFollowupPrompt_eq]
  refine ⟨?_, ?_, ?_, ?_⟩
  . exact ofList_fillInTurn_pair_iff _ _ (by decide)
  . exact ofList_fillInTurn_pair_iff _ _ (by decide)
  . exact ofList_fillInTurn_triple _ _ _ (by decide)
  . exact ofList_fillInTurn_triple _ _ _ (by decide)

/-- A request that names the placeholder of the reply has the reply put in its place. -/
theorem requestNamesReply_not_filledAtOnce
    : ¬∀ originalRequest responseText template,
        llmJudgePrompt originalRequest responseText (some template)
          = fill (judgeValues originalRequest responseText) template := by
  intro h
  have hprompt : llmJudgePrompt "\x7breply_preview\x7d" "ok"
      (some "\x7brequest\x7d / \x7breply_preview\x7d") = "ok / ok" := by
    decide +kernel
  have hfill : fill (judgeValues "\x7breply_preview\x7d" "ok")
      "\x7brequest\x7d / \x7breply_preview\x7d" = "\x7breply_preview\x7d / ok" := by
    decide +kernel
  have heq := h "\x7breply_preview\x7d" "ok" "\x7brequest\x7d / \x7breply_preview\x7d"
  rw [hprompt, hfill] at heq
  exact absurd heq (by decide +kernel)

end PromptTemplate

end AnimaAgent
