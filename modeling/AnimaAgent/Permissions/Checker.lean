import AnimaAgent.Library.Newest
import AnimaAgent.Support.Value

namespace AnimaAgent

inductive PermissionRiskLevel where
  | low
  | high
  deriving DecidableEq

structure PermissionRequest where
  toolName : String
  prompt : String
  options : List String
  riskLevel : PermissionRiskLevel
  requiresUserConfirmation : Bool
  rawInput : Value
  inputPreview : String
  deriving DecidableEq

inductive PermissionDecision where
  | allow
  | deny (reason : String)
  | ask (request : PermissionRequest)
  deriving DecidableEq

structure PermissionRule where
  toolPattern : String
  decision : PermissionDecision
  priority : UInt32
  deriving DecidableEq

inductive PermissionMode where
  | allowAll
  | denyAll
  | ruleBased
  deriving DecidableEq

/-- The rules stand in the order of falling priority that `add_rule` gives them. -/
structure PermissionChecker where
  mode : PermissionMode
  rules : List PermissionRule := []
  policy : Option (String → Value → PermissionDecision) := none

def toolMatches (pattern toolName : String) : Bool :=
  if pattern == "*" then
    true
  else
    match pattern.toList.getLast? with
    | some '*' => pattern.toList.dropLast.isPrefixOf toolName.toList
    | _ => pattern == toolName

def classifyRiskLevel (toolName : String) : PermissionRiskLevel :=
  match toolName with
  | "bash_exec" | "file_write" | "file_edit" => .high
  | _ => .low

section Serde

variable (serde : SerdeJson)

def buildInputPreview (input : Value) : String :=
  let serialized := (serde.toString input).toList
  if serialized.length > 200 then
    String.ofList (serialized.take 200 ++ ['…'])
  else
    String.ofList serialized

def defaultPermissionRequest (toolName : String) (input : Value) : PermissionRequest where
  toolName := toolName
  prompt := "允许工具 '" ++ toolName ++ "' 使用当前参数执行吗？"
  options := ["allow", "deny"]
  riskLevel := classifyRiskLevel toolName
  requiresUserConfirmation := true
  rawInput := input
  inputPreview := buildInputPreview serde input

namespace PermissionChecker

def hasPermission (checker : PermissionChecker) (toolName : String) (input : Value)
    : PermissionDecision :=
  match checker.mode with
  | .allowAll => .allow
  | .denyAll => .deny "deny-all mode"
  | .ruleBased =>
    match checker.rules.find? (fun rule => toolMatches rule.toolPattern toolName) with
    | some rule => rule.decision
    | none =>
      match checker.policy with
      | some policy => policy toolName input
      | none => .ask (defaultPermissionRequest serde toolName input)

end PermissionChecker

end Serde

structure PermissionRuleConfig where
  toolPattern : String
  decision : String
  priority : UInt32 := 10
  deriving DecidableEq

structure PermissionConfig where
  mode : String := "rule_based"
  rules : List PermissionRuleConfig :=
    [{ toolPattern := "read*", decision := "allow" },
      { toolPattern := "list*", decision := "allow" },
      { toolPattern := "glob*", decision := "allow" },
      { toolPattern := "grep*", decision := "allow" }]

def PermissionChecker.addRule (checker : PermissionChecker) (rule : PermissionRule)
    : PermissionChecker :=
  { checker with
    rules := Newest.sorted (fun rule => rule.priority.toNat) (checker.rules ++ [rule]) }

def PermissionRuleConfig.rule? (rule : PermissionRuleConfig) : Option PermissionRule :=
  match rule.decision with
  | "allow" =>
    some { toolPattern := rule.toolPattern, decision := .allow, priority := rule.priority }
  | "deny" =>
    some
      { toolPattern := rule.toolPattern
        decision := .deny ("denied by config: " ++ rule.toolPattern)
        priority := rule.priority }
  | _ => none

namespace PermissionConfig

variable (config : PermissionConfig)

def permissionMode : PermissionMode :=
  match config.mode with
  | "allow_all" => .allowAll
  | "deny_all" => .denyAll
  | _ => .ruleBased

def checker : PermissionChecker :=
  config.rules.foldl
    (fun checker rule =>
      match rule.rule? with
      | some rule => checker.addRule rule
      | none => checker)
    { mode := config.permissionMode }

def concerns (toolName : String) (rule : PermissionRuleConfig) : Bool :=
  (rule.decision = "allow" || rule.decision = "deny") && toolMatches rule.toolPattern toolName

def Governs (toolName : String) (rule : PermissionRuleConfig) : Prop :=
  Newest.First (fun rule => rule.priority.toNat) (concerns toolName) config.rules rule

structure Decides (serde : SerdeJson) (toolName : String) (input : Value)
    (decision : PermissionDecision)
    : Prop where
  allow : decision = .allow ↔ ∃ rule, config.Governs toolName rule ∧ rule.decision = "allow"
  deny : ∀ reason, decision = .deny reason
    ↔ ∃ rule, config.Governs toolName rule ∧ rule.decision = "deny"
      ∧ reason = "denied by config: " ++ rule.toolPattern
  ask : ∀ request, decision = .ask request
    ↔ request = defaultPermissionRequest serde toolName input
      ∧ ∀ rule ∈ config.rules, concerns toolName rule = false

variable {config} {toolName : String}

theorem checker_eq (config : PermissionConfig)
    : config.checker
        = { mode := config.permissionMode
            rules := Newest.sorted (fun rule => rule.priority.toNat)
              (config.rules.filterMap PermissionRuleConfig.rule?) } := by
  have hfold : ∀ (rules : List PermissionRuleConfig) (added : List PermissionRule),
      rules.foldl
          (fun checker rule =>
            match rule.rule? with
            | some rule => PermissionChecker.addRule checker rule
            | none => checker)
          ({ mode := config.permissionMode, rules := added } : PermissionChecker)
        = { mode := config.permissionMode
            rules := (rules.filterMap PermissionRuleConfig.rule?).foldl
              (fun added rule => Newest.sorted (fun rule => rule.priority.toNat) (added ++ [rule]))
              added } := by
    intro rules
    induction rules with
    | nil => exact fun _ => rfl
    | cons rule rules ih =>
      intro added
      rw [List.foldl_cons, List.filterMap_cons]
      cases rule.rule? with
      | none => exact ih added
      | some added' => exact ih _
  have hsorted := Newest.foldl_sorted (fun rule : PermissionRule => rule.priority.toNat) []
    (config.rules.filterMap PermissionRuleConfig.rule?)
  have hnil : Newest.sorted (fun rule : PermissionRule => rule.priority.toNat) [] = [] :=
    List.mergeSort_nil
  rw [List.nil_append, hnil] at hsorted
  rw [← hsorted]
  exact hfold config.rules []

theorem rule?_cases (rule : PermissionRuleConfig)
    : (rule.decision = "allow"
          ∧ rule.rule? = some
            { toolPattern := rule.toolPattern, decision := .allow, priority := rule.priority })
        ∨ (rule.decision = "deny"
          ∧ rule.rule? = some
            { toolPattern := rule.toolPattern
              decision := .deny ("denied by config: " ++ rule.toolPattern)
              priority := rule.priority })
        ∨ (rule.decision ≠ "allow" ∧ rule.decision ≠ "deny" ∧ rule.rule? = none) := by
  unfold PermissionRuleConfig.rule?
  split
  . next heq => exact .inl ⟨heq, rfl⟩
  . next heq => exact .inr (.inl ⟨heq, rfl⟩)
  . next hallow hdeny => exact .inr (.inr ⟨hallow, hdeny, rfl⟩)

theorem any_rule? (toolName : String) (rule : PermissionRuleConfig)
    : rule.rule?.any (fun rule => toolMatches rule.toolPattern toolName) = concerns toolName rule := by
  unfold concerns
  obtain ⟨hdecision, hrule⟩ | ⟨hdecision, hrule⟩ | ⟨hallow, hdeny, hrule⟩ := rule?_cases rule
  . rw [hrule, hdecision]
    rfl
  . rw [hrule, hdecision]
    rfl
  . rw [hrule, decide_eq_false hallow, decide_eq_false hdeny]
    rfl

theorem find_rules (toolName : String)
    : config.checker.rules.find? (fun rule => toolMatches rule.toolPattern toolName)
        = ((Newest.sorted (fun rule => rule.priority.toNat) config.rules).find?
          (concerns toolName)).bind PermissionRuleConfig.rule? := by
  have hpriority : ∀ (rule : PermissionRuleConfig) (rule' : PermissionRule),
      rule.rule? = some rule' → rule'.priority.toNat = rule.priority.toNat := by
    intro rule rule' h
    obtain ⟨_, hrule⟩ | ⟨_, hrule⟩ | ⟨_, _, hrule⟩ := rule?_cases rule <;>
      rw [hrule] at h <;> cases h <;> rfl
  rw [checker_eq]
  dsimp only
  rw [Newest.sorted_filterMap hpriority, List.find?_filterMap]
  simp only [any_rule?]

section Decides

variable (serde : SerdeJson) (input : Value) {rule : PermissionRuleConfig}

theorem Governs.asksNot (h : config.Governs toolName rule)
    : ¬∀ rule ∈ config.rules, concerns toolName rule = false := by
  intro hnone
  have hfound := Newest.find_sorted_iff.mpr h
  have hmem := (Newest.mem_sorted _).mp (List.mem_of_find?_eq_some hfound)
  exact Bool.false_ne_true ((hnone rule hmem).symm.trans h.1)

theorem decides_of_none (h : ∀ rule ∈ config.rules, concerns toolName rule = false)
    : config.Decides serde toolName input (.ask (defaultPermissionRequest serde toolName input)) := by
  constructor
  case allow =>
    exact iff_of_false PermissionDecision.noConfusion (fun ⟨_, hgoverns, _⟩ => hgoverns.asksNot h)
  case deny =>
    exact fun _ =>
      iff_of_false PermissionDecision.noConfusion (fun ⟨_, hgoverns, _⟩ => hgoverns.asksNot h)
  case ask =>
    intro request
    rw [and_iff_left h]
    exact ⟨fun h => (PermissionDecision.ask.inj h).symm, fun h => congrArg _ h.symm⟩

theorem decides_of_allow (h : config.Governs toolName rule) (hdecision : rule.decision = "allow")
    : config.Decides serde toolName input .allow := by
  constructor
  case allow => exact iff_of_true rfl ⟨rule, h, hdecision⟩
  case deny =>
    refine fun _ => iff_of_false PermissionDecision.noConfusion (fun ⟨rule', h', hdeny, _⟩ => ?_)
    rw [h'.unique h, hdecision] at hdeny
    exact absurd hdeny (by decide)
  case ask => exact fun _ => iff_of_false PermissionDecision.noConfusion (fun hask => h.asksNot hask.2)

theorem decides_of_deny (h : config.Governs toolName rule) (hdecision : rule.decision = "deny")
    : config.Decides serde toolName input (.deny ("denied by config: " ++ rule.toolPattern)) := by
  constructor
  case allow =>
    refine iff_of_false PermissionDecision.noConfusion (fun ⟨rule', h', hallow⟩ => ?_)
    rw [h'.unique h, hdecision] at hallow
    exact absurd hallow (by decide)
  case deny =>
    intro reason
    constructor
    . intro hreason
      exact ⟨rule, h, hdecision, (PermissionDecision.deny.inj hreason).symm⟩
    . rintro ⟨rule', h', _, rfl⟩
      rw [h'.unique h]
  case ask => exact fun _ => iff_of_false PermissionDecision.noConfusion (fun hask => h.asksNot hask.2)

end Decides

theorem hasPermission_decides (serde : SerdeJson) {config : PermissionConfig}
    (hallow : config.mode ≠ "allow_all") (hdeny : config.mode ≠ "deny_all") (toolName : String)
    (input : Value)
    : config.Decides serde toolName input
        (config.checker.hasPermission serde toolName input) := by
  have hmode : config.checker.mode = .ruleBased := by
    rw [checker_eq]
    dsimp only
    unfold permissionMode
    split
    . next heq => exact absurd heq hallow
    . next heq => exact absurd heq hdeny
    . rfl
  have hpolicy : config.checker.policy = none := by rw [checker_eq]
  unfold PermissionChecker.hasPermission
  rw [hmode, find_rules, hpolicy]
  dsimp only
  cases hfind : (Newest.sorted (fun rule => rule.priority.toNat) config.rules).find?
      (concerns toolName) with
  | none =>
    apply decides_of_none
    intro rule hmem
    exact Bool.eq_false_iff.mpr
      (List.find?_eq_none.mp hfind rule ((Newest.mem_sorted _).mpr hmem))
  | some rule =>
    have hgoverns : config.Governs toolName rule := Newest.find_sorted_iff.mp hfind
    rw [Option.bind_some]
    obtain ⟨hdecision, hrule⟩ | ⟨hdecision, hrule⟩ | ⟨_, _, hrule⟩ := rule?_cases rule
    . rw [hrule]
      exact decides_of_allow serde input hgoverns hdecision
    . rw [hrule]
      exact decides_of_deny serde input hgoverns hdecision
    . have hconcerns := hgoverns.1
      rw [← any_rule?, hrule] at hconcerns
      cases hconcerns

theorem hasPermission_decides_fileRead
    : ({} : PermissionConfig).Decides .small "file_read" .null
          (({} : PermissionConfig).checker.hasPermission .small "file_read" .null)
        ∧ ∀ rule ∈ ({} : PermissionConfig).rules, concerns "file_read" rule = false :=
  ⟨hasPermission_decides .small (by decide) (by decide) "file_read" .null, by decide⟩

end PermissionConfig

end AnimaAgent
