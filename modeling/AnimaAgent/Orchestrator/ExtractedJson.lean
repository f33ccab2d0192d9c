import AnimaAgent.Execution.PromptTemplates
import AnimaAgent.Library.Brackets

/-!
This module contains how an object or an array is found in a response of the model. The judge of a result
looks for the first closing brace, the orchestrator counts the brackets; both look into strings as well.
-/

namespace AnimaAgent

open Brackets (Closed beforeClosing)
open String (utf8Len)
open Text (SlicePanic)

def ChatResponse.text (response : ChatResponse) : String :=
  "\n".intercalate (response.content.filterMap (fun
    | .text text => some text
    | _ => none))

section Extract

variable (opening closing : Char)

def closingOffset : List Char → Int → Nat → Option Nat
  | [], _, _ => none
  | c :: cs, depth, i =>
    if c = opening then
      closingOffset cs (depth + 1) (i + c.utf8Size)
    else if c = closing then
      if depth - 1 = 0 then some i else closingOffset cs (depth - 1) (i + c.utf8Size)
    else
      closingOffset cs depth (i + c.utf8Size)

/--
The text from the first opening bracket to the one that closes it. The depth, an `i32`, does not overflow
on a text of fewer than 2^31 brackets.
-/
def extractBracketed (text : String) : Except SlicePanic (Option String) :=
  match Text.find opening text with
  | none => .ok none
  | some start => do
    let rest ← Text.sliceFrom text start
    match closingOffset opening closing rest.toList 0 0 with
    | none => return none
    | some i =>
      let extracted ← Text.slice text start (start + i + 1)
      return some extracted

end Extract

def extractJsonObject (text : String) : Except SlicePanic (Option String) :=
  extractBracketed '\x7b' '\x7d' text

def extractJsonArray (text : String) : Except SlicePanic (Option String) :=
  extractBracketed '[' ']' text

def extractJudgedObject (text : String) : Except SlicePanic (Option String) :=
  match Text.find '\x7b' text with
  | none => .ok none
  | some start => do
    let rest ← Text.sliceFrom text start
    match Text.find '\x7d' rest with
    | none => return none
    | some i =>
      let extracted ← Text.slice text start (start + i + 1)
      return some extracted

def satisfiedField (object : Value) : Option Bool :=
  (object.get "satisfied").bind Value.asBool

section Judge

variable (serde : SerdeJson)

def judgedVerdict (text : String) : Except SlicePanic (Option Bool) := do
  match ← extractJudgedObject text with
  | none => return none
  | some object => return (serde.fromStr object).toOption.bind satisfiedField

def judgeRequest (originalRequest responseText : String) (template : Option String) : ChatRequest where
  messages := [
    { role := .user, content := [.text (llmJudgePrompt originalRequest responseText template)] }]
  maxTokens := some 128
  metadata := .object []

/-- The verdict of the provider, after `calls` requests; it has none if it fails. -/
def llmJudgeRequirement (provider : Provider) (calls : Nat) (originalRequest responseText : String)
    (template : Option String)
    : Except SlicePanic (Option Bool) :=
  match provider.chat calls (judgeRequest originalRequest responseText template) with
  | .error _ => .ok none
  | .ok response => judgedVerdict serde response.text

end Judge

/-- A text that begins with the one bracket and ends with the other one, as an object or an array does. -/
def Bracketed (opening closing : Char) (text : String) : Prop :=
  ∃ inner, text.toList = opening :: inner ++ [closing]

section Extracted

variable {opening closing : Char}

theorem closingOffset_eq (cs : List Char) (depth : Int) (i : Nat)
    : closingOffset opening closing cs depth i
        = (beforeClosing opening closing cs depth).map (fun front => i + utf8Len front) := by
  induction cs generalizing depth i with
  | nil => rfl
  | cons c cs ih =>
    have hnext : ∀ depth', closingOffset opening closing cs depth' (i + c.utf8Size)
        = ((beforeClosing opening closing cs depth').map (c :: ·)).map
          (fun front => i + utf8Len front) := by
      intro depth'
      rw [ih, Option.map_map]
      congr 1
      funext front
      simp only [Function.comp_apply, String.utf8Len_cons]
      omega
    rw [closingOffset, beforeClosing]
    split
    . exact hnext _
    . split
      . split
        . rfl
        . exact hnext _
      . exact hnext _

theorem slice_bracket (hsize : closing.utf8Size = 1) (prose front rest : List Char)
    : Text.slice (String.ofList (prose ++ (front ++ closing :: rest))) (utf8Len prose)
          (utf8Len prose + utf8Len front + 1)
        = .ok (String.ofList (front ++ [closing])) := by
  have hslice := Text.slice_append prose (front ++ [closing]) rest
  rw [String.utf8Len_append, String.utf8Len_cons, String.utf8Len_nil, hsize, ← Nat.add_assoc,
    List.append_assoc, List.append_assoc, List.singleton_append] at hslice
  simpa using hslice

theorem extractBracketed_eq (hsize : closing.utf8Size = 1) {prose : List Char} (hprose : opening ∉ prose)
    (text : List Char)
    : extractBracketed opening closing (String.ofList (prose ++ opening :: text))
        = .ok ((beforeClosing opening closing (opening :: text) 0).map
            (fun front => String.ofList (front ++ [closing]))) := by
  unfold extractBracketed
  rw [Text.find_append text hprose]
  dsimp only
  rw [Text.sliceFrom_append]
  change (match closingOffset opening closing (String.ofList (opening :: text)).toList 0 0 with
    | none => pure none
    | some i => _) = _
  rw [String.toList_ofList, closingOffset_eq]
  cases hfront : beforeClosing opening closing (opening :: text) 0 with
  | none => rfl
  | some front =>
    obtain ⟨rest, hrest⟩ := Brackets.eq_append_of_beforeClosing hfront
    rw [Option.map_some, hrest, Nat.zero_add]
    dsimp only
    rw [slice_bracket hsize prose front rest]
    rfl

theorem extractBracketed_isOk (hsize : closing.utf8Size = 1) (text : String)
    : ∃ extracted, extractBracketed opening closing text = .ok extracted := by
  cases hfind : Text.find opening text with
  | none => exact ⟨none, by rw [extractBracketed, hfind]⟩
  | some start =>
    obtain ⟨prose, rest, rfl, hprose, _⟩ := Text.find_eq_some hfind
    exact ⟨_, extractBracketed_eq hsize hprose rest⟩

theorem extractBracketed_exact_iff (hsize : closing.utf8Size = 1) (hne : opening ≠ closing)
    {prose text : String} (hprose : opening ∉ prose.toList) (htext : Bracketed opening closing text)
    (rest : String)
    : extractBracketed opening closing (prose ++ text ++ rest) = .ok (some text)
        ↔ Closed opening closing text.toList := by
  obtain ⟨inner, hinner⟩ := htext
  have hall : prose ++ text ++ rest
      = String.ofList (prose.toList ++ opening :: (inner ++ [closing] ++ rest.toList)) := by
    rw [← String.toList_inj]
    simp [hinner]
  rw [hall, extractBracketed_eq hsize hprose, hinner, List.cons_append,
    ← Brackets.beforeClosing_iff_closed hne (inner ++ [closing]) rest.toList]
  rw [Except.ok.injEq, Option.map_eq_some_iff]
  apply exists_congr
  intro front
  rw [← String.toList_inj, String.toList_ofList, hinner]
  rfl

theorem extractJudgedObject_eq {prose front : List Char} (hprose : '\x7b' ∉ prose)
    (hfront : '\x7d' ∉ front) (rest : List Char)
    : extractJudgedObject (String.ofList (prose ++ '\x7b' :: (front ++ '\x7d' :: rest)))
        = .ok (some (String.ofList ('\x7b' :: front ++ ['\x7d']))) := by
  have hopen : '\x7d' ∉ '\x7b' :: front := by
    intro hmem
    exact hfront ((List.mem_cons.mp hmem).resolve_left (by decide))
  unfold extractJudgedObject
  rw [Text.find_append _ hprose]
  dsimp only
  rw [Text.sliceFrom_append]
  change (match Text.find '\x7d' (String.ofList (('\x7b' :: front) ++ '\x7d' :: rest)) with
    | none => pure none
    | some i => _) = _
  rw [Text.find_append rest hopen]
  dsimp only
  rw [← List.cons_append, slice_bracket (by decide) prose ('\x7b' :: front) rest]
  rfl

theorem extractJudgedObject_exact_iff {prose object : String} (hprose : '\x7b' ∉ prose.toList)
    (hobject : Bracketed '\x7b' '\x7d' object) (rest : String)
    : extractJudgedObject (prose ++ object ++ rest) = .ok (some object)
        ↔ '\x7d' ∉ object.toList.dropLast := by
  obtain ⟨inner, hinner⟩ := hobject
  have hobject : object = String.ofList ('\x7b' :: inner ++ ['\x7d']) := by
    rw [← hinner, String.ofList_toList]
  have hlast : object.toList.dropLast = '\x7b' :: inner := by
    rw [hinner, List.dropLast_concat]
  rw [hlast, List.mem_cons, not_or, and_iff_right (by decide)]
  constructor
  . intro h hmem
    obtain ⟨front, behind, rfl, hfront⟩ := List.eq_append_cons_of_mem hmem
    have hall : prose ++ object ++ rest = String.ofList (prose.toList
        ++ '\x7b' :: (front ++ '\x7d' :: (behind ++ ['\x7d'] ++ rest.toList))) := by
      rw [← String.toList_inj]
      simp [hinner]
    rw [hall, extractJudgedObject_eq hprose hfront, hobject, Except.ok.injEq, Option.some.injEq,
      String.ofList_inj] at h
    have hlength := congrArg List.length h
    simp at hlength
  . intro hnone
    have hall : prose ++ object ++ rest
        = String.ofList (prose.toList ++ '\x7b' :: (inner ++ '\x7d' :: rest.toList)) := by
      rw [← String.toList_inj]
      simp [hinner]
    rw [hall, extractJudgedObject_eq hprose hnone, ← hobject]

end Extracted

/-- In front of the closing brace of an object, no other brace is closed. -/
def FlatObject (object : String) : Prop :=
  '\x7d' ∉ object.toList.dropLast

/--
Of a reply with one object behind its prose, the judge takes exactly the object, and its verdict, if and
only if the object is flat; the other extraction takes it if and only if its braces are balanced.
-/
theorem judgedObject_exact_iff (serde : SerdeJson) {prose object rest : String}
    {fields : List (String × Value)} (hprose : '\x7b' ∉ prose.toList)
    (hobject : Bracketed '\x7b' '\x7d' object) (hserde : serde.fromStr object = .ok (.object fields))
    {provider : Provider} {calls : Nat} {originalRequest responseText : String}
    {template : Option String} {response : ChatResponse}
    (hresponse : provider.chat calls (judgeRequest originalRequest responseText template)
      = .ok response)
    (hreply : response.text = prose ++ object ++ rest)
    : (extractJudgedObject response.text = .ok (some object) ↔ FlatObject object)
        ∧ (extractJsonObject response.text = .ok (some object)
          ↔ Closed '\x7b' '\x7d' object.toList)
        ∧ (FlatObject object
          → llmJudgeRequirement serde provider calls originalRequest responseText template
            = .ok (satisfiedField (.object fields))) := by
  rw [hreply]
  have hflat := extractJudgedObject_exact_iff hprose hobject rest
  refine ⟨hflat, extractBracketed_exact_iff (by decide) (by decide) hprose hobject rest, ?_⟩
  intro h
  unfold llmJudgeRequirement
  rw [hresponse]
  dsimp only
  unfold judgedVerdict
  rw [hreply, hflat.mpr h]
  change Except.ok ((serde.fromStr object).toOption.bind satisfiedField) = _
  rw [hserde]
  rfl

def ChatResponse.ofText (reply : String) : ChatResponse where
  content := [.text reply]
  stopReason := .endTurn
  usage := none
  raw := .null

def Provider.replying (reply : String) : Provider where
  chat _ _ := .ok (.ofText reply)
  chatStream _ _ := .ok []

def flatVerdict : Value :=
  .object [("satisfied", .bool true)]

theorem judgedObject_exact_iff_flatVerdict
    : extractJudgedObject ("Verdict: " ++ flatVerdict.render ++ ".") = .ok (some flatVerdict.render)
        ∧ llmJudgeRequirement (.ofValues [flatVerdict])
            (.replying ("Verdict: " ++ flatVerdict.render ++ ".")) 0 "build a shop" "done" none
          = .ok (some true) := by
  have hflat : FlatObject flatVerdict.render := by
    unfold FlatObject
    decide +kernel
  have hobject : Bracketed '\x7b' '\x7d' flatVerdict.render :=
    ⟨"\"satisfied\":true".toList, by decide +kernel⟩
  have hserde : (SerdeJson.ofValues [flatVerdict]).fromStr flatVerdict.render = .ok flatVerdict := by
    decide +kernel
  have hexact := @judgedObject_exact_iff (.ofValues [flatVerdict]) "Verdict: " flatVerdict.render "."
    [("satisfied", .bool true)] (by decide +kernel) hobject hserde
    (.replying ("Verdict: " ++ flatVerdict.render ++ ".")) 0 "build a shop" "done" none _ rfl
    (by decide +kernel)
  have htext : (ChatResponse.ofText ("Verdict: " ++ flatVerdict.render ++ ".")).text
      = "Verdict: " ++ flatVerdict.render ++ "." := by
    decide +kernel
  rw [htext] at hexact
  exact ⟨hexact.1.mpr hflat, hexact.2.2 hflat⟩

def nestedVerdict : Value :=
  .object [("detail", .object []), ("satisfied", .bool true)]

def braceQuestion : Value :=
  .object [("needs_question", .bool true), ("prompt", .string "end with a \x7d ?")]

/-- The judge stops at the brace of the detail and has no verdict; the inference stops in the string. -/
theorem nestedVerdict_not_exact
    : extractJudgedObject nestedVerdict.render ≠ .ok (some nestedVerdict.render)
        ∧ llmJudgeRequirement (.ofValues [nestedVerdict]) (.replying nestedVerdict.render) 0
            "build a shop" "done" none
          = .ok none
        ∧ satisfiedField nestedVerdict = some true
        ∧ extractJsonObject braceQuestion.render ≠ .ok (some braceQuestion.render) := by
  decide +kernel

theorem extractJsonArray_exact_iff {prose array : String} (hprose : '[' ∉ prose.toList)
    (harray : Bracketed '[' ']' array) (rest : String)
    : extractJsonArray (prose ++ array ++ rest) = .ok (some array) ↔ Closed '[' ']' array.toList := by
  exact extractBracketed_exact_iff (by decide) (by decide) hprose harray rest

def twoNames : Value :=
  .array [.object [("dependencies", .array [.string "b"]), ("name", .string "a")],
    .object [("name", .string "b")]]

theorem extractJsonArray_exact_iff_twoNames
    : extractJsonArray ("Plan: " ++ twoNames.render ++ " [2 steps]") = .ok (some twoNames.render)
        ∧ Closed '[' ']' twoNames.render.toList := by
  have hextract : extractJsonArray ("Plan: " ++ twoNames.render ++ " [2 steps]")
      = .ok (some twoNames.render) := by
    decide +kernel
  have harray : Bracketed '[' ']' twoNames.render :=
    ⟨twoNames.render.toList.tail.dropLast, by decide +kernel⟩
  exact ⟨hextract, (extractJsonArray_exact_iff (by decide +kernel) harray " [2 steps]").mp hextract⟩

def bracketInName : Value :=
  .array [.object [("name", .string "a]")]]

theorem bracketInName_not_exact
    : extractJsonArray bracketInName.render ≠ .ok (some bracketInName.render) := by
  decide +kernel

end AnimaAgent
