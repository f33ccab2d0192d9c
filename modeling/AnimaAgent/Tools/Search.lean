import AnimaAgent.Library.Buffers
import AnimaAgent.Support.Text
import AnimaAgent.Tools.Types

namespace AnimaAgent

structure FileName where
  display : String
  isUtf8 : Bool
  deriving DecidableEq

/-- What a path leads to. A file may be unreadable as text, a directory that is unreadable is empty. -/
inductive FsNode where
  | file (content : Option String)
  | dir (entries : List (FileName × FsNode))
  | other

/-- The expressions that are accepted and what they match, the files, and the paths that a glob yields. -/
structure SearchEnvironment where
  regex : String → Except String (String → Bool)
  node : String → Option FsNode
  glob : String → Except String (List (Except String String))

/-- What a search has found, as far as it is listed, and whether it says that it is cut off. -/
structure SearchReport where
  listed : List String
  truncated : Bool
  deriving DecidableEq

def SearchReport.toResult (nothing notice : String) (report : SearchReport) : ToolResult :=
  if report.listed.isEmpty then
    .text nothing
  else
    .text ("\n".intercalate report.listed ++ if report.truncated then notice else "")

namespace FileName

def toStr (name : FileName) : Option String :=
  if name.isUtf8 then some name.display else none

def isSkipped (name : FileName) : Bool :=
  name.toStr.any (fun s => s.toList.head? == some '.' || s == "node_modules" || s == "target")

def joinTo (dir : String) (name : FileName) : String :=
  if dir.toList.getLast? = some '/' then dir ++ name.display else dir ++ "/" ++ name.display

end FileName

namespace GrepSearchTool

def maxMatches : Nat := 500

structure Query where
  isMatch : String → Bool
  globFilter : Option (String → Bool)
  contextLines : UInt64

/-- A line that matches, with the path of its file, the lines around it and its index. -/
structure Match where
  path : String
  lines : List String
  index : Nat
  line : String

def padLeft (width : Nat) (s : String) : String :=
  String.ofList (List.replicate (width - s.length) ' ') ++ s

def contextLine (index : Nat) (entry : String × Nat) : String :=
  (if entry.2 = index then ">" else " ") ++ " " ++ padLeft 4 (toString (entry.2 + 1)) ++ " | "
    ++ entry.1 ++ "\n"

/-- The text for a match; the end of its context is computed in `usize`. -/
def Match.block (contextLines : UInt64) (found : Match) : String :=
  let start := found.index - contextLines.toNat
  let stop := min ((found.index + contextLines.toNat + 1) % 2 ^ 64) found.lines.length
  let head := found.path ++ ":" ++ toString (found.index + 1) ++ ":"
  if 0 < contextLines then
    head ++ "\n"
      ++ String.join (((found.lines.zipIdx.take stop).drop start).map (contextLine found.index))
  else
    head ++ found.line

section Walk

variable (query : Query)

def searchLines (path : String) (lines : List String)
    : Nat → List String → List String → List String
  | _, [], results => results
  | index, line :: rest, results =>
    if maxMatches ≤ results.length then
      results
    else
      let results :=
        if query.isMatch line then
          results ++ [Match.block query.contextLines { path, lines, index, line }]
        else
          results
      searchLines path lines (index + 1) rest results

def searchFile (path : String) (content : Option String) (results : List String) : List String :=
  match content with
  | none => results
  | some content => searchLines query path (Text.lines content) 0 (Text.lines content) results

def Query.accepts (name : FileName) : Bool :=
  query.globFilter.all (fun isMatch => isMatch (name.toStr.getD ""))

mutual

def walkDir (dir : String) : List (FileName × FsNode) → List String → List String
  | [], results => results
  | (name, node) :: rest, results =>
    if maxMatches ≤ results.length then
      results
    else if name.isSkipped then
      walkDir dir rest results
    else
      walkDir dir rest (walkEntry (name.joinTo dir) name node results)

def walkEntry (path : String) (name : FileName) : FsNode → List String → List String
  | .dir entries, results => walkDir path entries results
  | .file content, results =>
    if query.accepts name then searchFile query path content results else results
  | .other, results => results

end

end Walk

variable (env : SearchEnvironment)

def globToRegex (glob : String) : Except String (String → Bool) :=
  let special := ['.', '+', '(', ')', '\x7b', '\x7d', '[', ']', '^', '$', '|', '\\']
  let translate := fun c =>
    if c = '*' then
      ['.', '*']
    else if c = '?' then
      ['.']
    else if c ∈ special then
      ['\\', c]
    else
      [c]
  (env.regex ("^" ++ String.ofList (glob.toList.flatMap translate) ++ "$")).mapError
    ("failed to build glob regex: " ++ ·)

def validateInput (input : Value) : Except String Unit := do
  let some pattern := (input.get "pattern").bind Value.asStr
    | throw "missing required field: 'pattern' (string)"
  let _ ← (env.regex pattern).mapError ("invalid regex: " ++ ·)
  match input.get "include_context" with
  | none => pure ()
  | some context =>
    let some lines := context.asI64 | throw "'include_context' must be an integer"
    if lines < 0 then throw "'include_context' must be >= 0"

def pattern (input : Value) : String :=
  ((input.get "pattern").bind Value.asStr).getD ""

def searchPath (input : Value) : String :=
  ((input.get "path").bind Value.asStr).getD "."

def query (input : Value) : Except ToolError Query := do
  let isMatch ← (env.regex (pattern input)).mapError (.internal <| "regex compile error: " ++ ·)
  let globFilter ← match (input.get "glob").bind Value.asStr with
    | none => pure none
    | some glob =>
      some <$> (globToRegex env glob).mapError (.internal <| "glob filter error: " ++ ·)
  pure {
    isMatch := isMatch
    globFilter := globFilter
    contextLines := ((input.get "include_context").bind Value.asU64).getD 0 }

def search (query : Query) (path : String) : FsNode → Option (List String)
  | .file content => some (searchFile query path content [])
  | .dir entries => some (walkDir query path entries [])
  | .other => none

def report (results : List String) : SearchReport where
  listed := if maxMatches < results.length then results.take maxMatches else results
  truncated := decide (maxMatches < results.length)

def toResult (input : Value) : SearchReport → ToolResult :=
  SearchReport.toResult ("no matches found for pattern '" ++ pattern input ++ "'")
    ("\n\n(truncated at " ++ toString maxMatches ++ " matches)")

def call (input : Value) (_ : ToolContext) : Except ToolError ToolResult := do
  let query ← query env input
  match (env.node (searchPath input)).bind (search query (searchPath input)) with
  | none => pure (.error ("path '" ++ searchPath input ++ "' does not exist"))
  | some results => pure (toResult input (report results))

def tool : Tool where
  name := "grep_search"
  validateInput := validateInput env
  call := call env

end GrepSearchTool

namespace GlobSearchTool

def maxResults : Nat := 1000

variable (env : SearchEnvironment)

def pattern (input : Value) : String :=
  ((input.get "pattern").bind Value.asStr).getD ""

def fullPattern (input : Value) : String :=
  match (input.get "path").bind Value.asStr with
  | some base => base ++ "/" ++ pattern input
  | none => pattern input

def validateInput (input : Value) : Except String Unit := do
  let some pattern := (input.get "pattern").bind Value.asStr
    | throw "missing required field: 'pattern' (string)"
  if Text.trim pattern = "" then throw "'pattern' must not be empty"
  let _ ← (env.glob (fullPattern input)).mapError ("invalid glob pattern: " ++ ·)

def collect (paths : List String) : List (Except String String) → SearchReport
  | [] => { listed := paths, truncated := false }
  | .ok path :: rest =>
    let paths := paths ++ [path]
    if maxResults ≤ paths.length then { listed := paths, truncated := true } else collect paths rest
  | .error _ :: rest => collect paths rest

def toResult (input : Value) : SearchReport → ToolResult :=
  SearchReport.toResult ("no files matched pattern '" ++ fullPattern input ++ "'")
    ("\n\n(truncated at " ++ toString maxResults ++ " results)")

def call (input : Value) (_ : ToolContext) : Except ToolError ToolResult := do
  let entries ← (env.glob (fullPattern input)).mapError (.internal <| "glob error: " ++ ·)
  pure (toResult input (collect [] entries))

def tool : Tool where
  name := "glob_search"
  validateInput := validateInput env
  call := call env

end GlobSearchTool

namespace GrepSearchTool

variable (query : Query)

def matchesInFile (path : String) : Option String → List Match
  | none => []
  | some content =>
    (Text.lines content).zipIdx.filterMap (fun entry =>
      if query.isMatch entry.1 then
        some { path, lines := Text.lines content, index := entry.2, line := entry.1 }
      else
        none)

mutual

def matchesBelow (dir : String) : List (FileName × FsNode) → List Match
  | [] => []
  | (name, node) :: rest =>
    (if name.isSkipped then [] else matchesAt (name.joinTo dir) name node) ++ matchesBelow dir rest

def matchesAt (path : String) (name : FileName) : FsNode → List Match
  | .dir entries => matchesBelow path entries
  | .file content => if query.accepts name then matchesInFile query path content else []
  | .other => []

end

def allMatches (path : String) : FsNode → List Match
  | .file content => matchesInFile query path content
  | .dir entries => matchesBelow query path entries
  | .other => []

inductive FileBelow : String → List (FileName × FsNode) → String → Option String → Prop where
  | here {dir : String} {entries : List (FileName × FsNode)} {name : FileName}
      {content : Option String} (hmem : (name, .file content) ∈ entries)
      (hname : name.isSkipped = false) (hglob : query.accepts name = true)
      : FileBelow dir entries (name.joinTo dir) content
  | nested {dir : String} {entries children : List (FileName × FsNode)} {name : FileName}
      {path : String} {content : Option String} (hmem : (name, .dir children) ∈ entries)
      (hname : name.isSkipped = false) (h : FileBelow (name.joinTo dir) children path content)
      : FileBelow dir entries path content

variable {query}

theorem mem_matchesInFile_iff {path : String} {content : Option String} {found : Match}
    : found ∈ matchesInFile query path content
        ↔ found.path = path ∧ content.map Text.lines = some found.lines
          ∧ found.lines[found.index]? = some found.line ∧ query.isMatch found.line = true := by
  cases content with
  | none => simp [matchesInFile]
  | some content =>
    unfold matchesInFile
    rw [List.mem_filterMap, Option.map_some, Option.some_inj]
    constructor
    . rintro ⟨entry, hentry, hfound⟩
      split at hfound
      . next hmatch =>
        cases hfound
        exact ⟨rfl, rfl, List.mem_zipIdx_iff_getElem?.mp hentry, hmatch⟩
      . cases hfound
    . rintro ⟨rfl, hlines, hline, hmatch⟩
      refine ⟨(found.line, found.index), ?_, ?_⟩
      . rw [hlines]
        exact List.mem_zipIdx_iff_getElem?.mpr hline
      . rw [if_pos hmatch, hlines]

theorem fileBelow_cons_iff {dir path : String} {name : FileName} {node : FsNode}
    {rest : List (FileName × FsNode)} {content : Option String}
    : FileBelow query dir ((name, node) :: rest) path content
        ↔ name.isSkipped = false
            ∧ (node = .file content ∧ query.accepts name = true ∧ path = name.joinTo dir
              ∨ ∃ children, node = .dir children
                ∧ FileBelow query (name.joinTo dir) children path content)
          ∨ FileBelow query dir rest path content := by
  constructor
  . intro h
    cases h with
    | here hmem hname hglob =>
      obtain heq | hmem := List.mem_cons.mp hmem
      . cases heq
        exact .inl ⟨hname, .inl ⟨rfl, hglob, rfl⟩⟩
      . exact .inr (.here hmem hname hglob)
    | nested hmem hname h =>
      obtain heq | hmem := List.mem_cons.mp hmem
      . cases heq
        exact .inl ⟨hname, .inr ⟨_, rfl, h⟩⟩
      . exact .inr (.nested hmem hname h)
  . rintro (⟨hname, ⟨rfl, hglob, rfl⟩ | ⟨children, rfl, h⟩⟩ | h)
    . exact .here List.mem_cons_self hname hglob
    . exact .nested List.mem_cons_self hname h
    . cases h with
      | here hmem hname hglob => exact .here (List.mem_cons_of_mem _ hmem) hname hglob
      | nested hmem hname h => exact .nested (List.mem_cons_of_mem _ hmem) hname h

theorem not_fileBelow_nil {dir path : String} {content : Option String}
    : ¬FileBelow query dir [] path content := by
  intro h
  cases h with
  | here hmem _ _ => cases hmem
  | nested hmem _ _ => cases hmem

theorem path_eq_of_mem {path : String} {content : Option String} {found : Match}
    (h : found ∈ matchesInFile query path content)
    : found.path = path := by
  exact (mem_matchesInFile_iff.mp h).1

mutual

theorem mem_matchesBelow_iff {found : Match} : ∀ (dir : String) (entries : List (FileName × FsNode)),
    found ∈ matchesBelow query dir entries
      ↔ ∃ content, FileBelow query dir entries found.path content
        ∧ found ∈ matchesInFile query found.path content
  | dir, [] => by
    refine iff_of_false List.not_mem_nil ?_
    rintro ⟨content, h, -⟩
    exact not_fileBelow_nil h
  | dir, (name, node) :: rest => by
    have hrest := @mem_matchesBelow_iff found dir rest
    have hfirst := @mem_matchesAt_iff found (name.joinTo dir) name node
    rw [matchesBelow, List.mem_append, hrest]
    simp only [fileBelow_cons_iff, or_and_right, exists_or]
    apply or_congr_left
    cases name.isSkipped with
    | true => simp
    | false =>
      rw [if_neg Bool.false_ne_true, hfirst]
      constructor
      . rintro (⟨content, hnode, hglob, hin⟩ | ⟨children, hnode, content, h, hin⟩)
        . have hpath := path_eq_of_mem hin
          exact ⟨content, ⟨rfl, .inl ⟨hnode, hglob, hpath⟩⟩, hpath ▸ hin⟩
        . exact ⟨content, ⟨rfl, .inr ⟨children, hnode, h⟩⟩, hin⟩
      . rintro ⟨content, ⟨-, ⟨hnode, hglob, hpath⟩ | ⟨children, hnode, h⟩⟩, hin⟩
        . exact .inl ⟨content, hnode, hglob, hpath ▸ hin⟩
        . exact .inr ⟨children, hnode, content, h, hin⟩

theorem mem_matchesAt_iff {found : Match} : ∀ (path : String) (name : FileName) (node : FsNode),
    found ∈ matchesAt query path name node
      ↔ (∃ content, node = .file content ∧ query.accepts name = true
          ∧ found ∈ matchesInFile query path content)
        ∨ ∃ children, node = .dir children ∧ ∃ content,
          FileBelow query path children found.path content
            ∧ found ∈ matchesInFile query found.path content
  | path, name, .dir entries => by
    have hchildren := @mem_matchesBelow_iff found path entries
    simp only [matchesAt, hchildren]
    simp
  | path, name, .file content => by
    simp only [matchesAt]
    cases query.accepts name with
    | true => simp
    | false => simp
  | path, name, .other => by
    simp [matchesAt]

end

theorem fills_searchLines (path : String) (lines : List String) (index : Nat) (rest : List String)
    : Filled.Fills maxMatches
        (((rest.zipIdx index).filterMap (fun entry =>
          if query.isMatch entry.1 then
            some { path, lines, index := entry.2, line := entry.1 }
          else
            none)).map (Match.block query.contextLines))
        (searchLines query path lines index rest) := by
  induction rest generalizing index with
  | nil => exact Filled.fills_nil
  | cons line rest ih =>
    rw [List.zipIdx_cons, List.filterMap_cons]
    change Filled.Fills _ _ (fun results =>
      if maxMatches ≤ results.length then
        results
      else
        searchLines query path lines (index + 1) rest
          (if query.isMatch line then
            results ++ [Match.block query.contextLines { path, lines, index, line }]
          else
            results))
    dsimp only
    cases query.isMatch line with
    | true => exact (ih (index + 1)).cons _
    | false => exact (ih (index + 1)).guarded

theorem fills_searchFile (path : String) (content : Option String)
    : Filled.Fills maxMatches
        ((matchesInFile query path content).map (Match.block query.contextLines))
        (searchFile query path content) := by
  cases content with
  | none => exact Filled.fills_nil
  | some content => exact fills_searchLines path (Text.lines content) 0 (Text.lines content)

mutual

theorem fills_walkDir : ∀ (dir : String) (entries : List (FileName × FsNode)),
    Filled.Fills maxMatches
      ((matchesBelow query dir entries).map (Match.block query.contextLines))
      (walkDir query dir entries)
  | dir, [] => by
    exact Filled.fills_nil
  | dir, (name, node) :: rest => by
    have hrest := fills_walkDir dir rest
    have hfirst := fills_walkEntry (name.joinTo dir) name node
    rw [matchesBelow, List.map_append]
    change Filled.Fills _ _ (fun results =>
      if maxMatches ≤ results.length then
        results
      else if name.isSkipped then
        walkDir query dir rest results
      else
        walkDir query dir rest (walkEntry query (name.joinTo dir) name node results))
    cases name.isSkipped with
    | true => exact hrest.guarded
    | false => exact (hfirst.append hrest).guarded

theorem fills_walkEntry : ∀ (path : String) (name : FileName) (node : FsNode),
    Filled.Fills maxMatches
      ((matchesAt query path name node).map (Match.block query.contextLines))
      (walkEntry query path name node)
  | path, name, .dir entries => by
    exact fills_walkDir path entries
  | path, name, .file content => by
    rw [matchesAt]
    change Filled.Fills _ _ (fun results =>
      if query.accepts name then searchFile query path content results else results)
    cases query.accepts name with
    | true => exact fills_searchFile path content
    | false => exact Filled.fills_nil
  | path, name, .other => by
    exact Filled.fills_nil

end

theorem report_eq {path : String} {node : FsNode} {results : List String}
    (h : search query path node = some results)
    : report results
        = { listed := ((allMatches query path node).map (Match.block query.contextLines)).take maxMatches
            truncated := false } := by
  have hresults : results
      = ((allMatches query path node).map (Match.block query.contextLines)).take maxMatches := by
    cases node with
    | file content =>
      cases h
      exact fills_searchFile path content [] (Nat.zero_le _)
    | dir entries =>
      cases h
      exact fills_walkDir path entries [] (Nat.zero_le _)
    | other => cases h
  have hlength : ¬maxMatches < results.length := by
    rw [hresults, not_lt]
    exact List.length_take_le _ _
  unfold report
  rw [if_neg hlength, decide_eq_false hlength, hresults]

theorem abridges_report_iff {path : String} {node : FsNode} {results : List String}
    (h : search query path node = some results)
    : Filled.Abridges maxMatches ((allMatches query path node).map (Match.block query.contextLines))
          (report results).listed (report results).truncated
        ↔ (allMatches query path node).length ≤ maxMatches := by
  rw [report_eq h, Filled.abridges_take_iff, List.length_map]
  simp

end GrepSearchTool

namespace GlobSearchTool

/-- The paths that the glob yields, without the entries that could not be read. -/
def foundPaths (entries : List (Except String String)) : List String :=
  entries.filterMap Except.toOption

theorem collect_eq {paths : List String} (hpaths : paths.length < maxResults)
    (entries : List (Except String String))
    : collect paths entries
        = { listed := (paths ++ foundPaths entries).take maxResults
            truncated := decide (maxResults ≤ (paths ++ foundPaths entries).length) } := by
  induction entries generalizing paths with
  | nil =>
    unfold collect foundPaths
    rw [List.filterMap_nil, List.append_nil, List.take_of_length_le hpaths.le,
      decide_eq_false hpaths.not_ge]
  | cons entry rest ih =>
    unfold collect
    cases entry with
    | error e => exact ih hpaths
    | ok path =>
      have hfound : paths ++ foundPaths (.ok path :: rest) = (paths ++ [path]) ++ foundPaths rest := by
        rw [List.append_assoc]
        rfl
      rw [hfound]
      dsimp only
      split
      . next hfull =>
        have hlength : (paths ++ [path]).length ≤ maxResults := by
          rw [List.length_append, List.length_singleton]
          omega
        have hmore : maxResults ≤ (paths ++ [path] ++ foundPaths rest).length := by
          rw [List.length_append]
          omega
        rw [List.take_append_of_le_length hfull, List.take_of_length_le hlength, decide_eq_true hmore]
      . next hroom => exact ih (not_le.mp hroom)

theorem abridges_collect_iff (entries : List (Except String String))
    : Filled.Abridges maxResults (foundPaths entries) (collect [] entries).listed
          (collect [] entries).truncated
        ↔ (foundPaths entries).length ≠ maxResults := by
  rw [collect_eq (by decide), List.nil_append, Filled.abridges_take_iff, decide_eq_true_iff]
  omega

end GlobSearchTool

/--
The search for text never says that it left out matches, and the search for files also says so if there
are just as many as it lists. Otherwise both list what they should.
-/
theorem searches_abridge_iff (env : SearchEnvironment) (input : Value) (context : ToolContext)
    : (∀ query node results, GrepSearchTool.query env input = .ok query
        → env.node (GrepSearchTool.searchPath input) = some node
        → GrepSearchTool.search query (GrepSearchTool.searchPath input) node = some results
        → let found := GrepSearchTool.allMatches query (GrepSearchTool.searchPath input) node
          let report := GrepSearchTool.report results
          (GrepSearchTool.tool env).call input context = .ok (GrepSearchTool.toResult input report)
            ∧ (Filled.Abridges GrepSearchTool.maxMatches
                (found.map (GrepSearchTool.Match.block query.contextLines)) report.listed
                report.truncated
              ↔ found.length ≤ GrepSearchTool.maxMatches))
      ∧ ∀ entries, env.glob (GlobSearchTool.fullPattern input) = .ok entries
        → let found := GlobSearchTool.foundPaths entries
          let report := GlobSearchTool.collect [] entries
          (GlobSearchTool.tool env).call input context = .ok (GlobSearchTool.toResult input report)
            ∧ (Filled.Abridges GlobSearchTool.maxResults found report.listed report.truncated
              ↔ found.length ≠ GlobSearchTool.maxResults) := by
  constructor
  . intro query node results hquery hnode hsearch
    refine ⟨?_, GrepSearchTool.abridges_report_iff hsearch⟩
    change GrepSearchTool.call env input context = _
    unfold GrepSearchTool.call
    rw [hquery, hnode]
    change (match GrepSearchTool.search query (GrepSearchTool.searchPath input) node with
      | none => _
      | some results => _) = _
    rw [hsearch]
    rfl
  . intro entries hglob
    refine ⟨?_, GlobSearchTool.abridges_collect_iff entries⟩
    change GlobSearchTool.call env input context = _
    unfold GlobSearchTool.call
    rw [hglob]
    rfl

def blankLines (n : Nat) : FsNode :=
  .file (some (String.ofList (List.replicate n '\n')))

def numberedFiles (n : Nat) : List (Except String String) :=
  (List.range n).map (fun i => .ok (toString i))

def smallEnvironment : SearchEnvironment where
  regex _ := .ok (fun _ => true)
  node _ := some (.file (some "\n\n"))
  glob _ := .ok (numberedFiles 2)

def anyLine : GrepSearchTool.Query where
  isMatch _ := true
  globFilter := none
  contextLines := 0

def anyLineInput : Value :=
  .object [("pattern", .string "x*")]

theorem searches_abridge_iff_small
    : let context := { sessionId := "session", traceId := "trace", metadata := .null }
      let grep := GrepSearchTool.report (GrepSearchTool.searchFile anyLine "." (some "\n\n") [])
      let glob := GlobSearchTool.collect [] (numberedFiles 2)
      ((GrepSearchTool.tool smallEnvironment).call anyLineInput context
            = .ok (GrepSearchTool.toResult anyLineInput grep)
          ∧ (Filled.Abridges GrepSearchTool.maxMatches
              ((GrepSearchTool.allMatches anyLine "." (.file (some "\n\n"))).map
                (GrepSearchTool.Match.block 0)) grep.listed grep.truncated
            ↔ (GrepSearchTool.allMatches anyLine "." (.file (some "\n\n"))).length
              ≤ GrepSearchTool.maxMatches))
        ∧ (GlobSearchTool.tool smallEnvironment).call anyLineInput context
            = .ok (GlobSearchTool.toResult anyLineInput glob)
          ∧ (Filled.Abridges GlobSearchTool.maxResults
              (GlobSearchTool.foundPaths (numberedFiles 2)) glob.listed glob.truncated
            ↔ (GlobSearchTool.foundPaths (numberedFiles 2)).length ≠ GlobSearchTool.maxResults) :=
  ⟨(searches_abridge_iff smallEnvironment anyLineInput _).1 anyLine _ _ rfl rfl rfl,
    (searches_abridge_iff smallEnvironment anyLineInput _).2 (numberedFiles 2) rfl⟩

theorem lines_replicate (n : Nat)
    : Text.lines (String.ofList (List.replicate n '\n')) = List.replicate n "" := by
  unfold Text.lines
  rw [String.toList_ofList]
  induction n with
  | zero => rfl
  | succ n ih =>
    rw [List.replicate_succ, List.replicate_succ, ← ih]
    rfl

theorem length_allMatches_blankLines (path : String) (n : Nat)
    : (GrepSearchTool.allMatches anyLine path (blankLines n)).length = n := by
  have hlines := lines_replicate n
  change ((Text.lines (String.ofList (List.replicate n '\n'))).zipIdx.filterMap (fun entry =>
    some (GrepSearchTool.Match.mk path (Text.lines (String.ofList (List.replicate n '\n'))) entry.2
      entry.1))).length = n
  rw [hlines, List.filterMap_eq_map', List.length_map, List.length_zipIdx, List.length_replicate]

theorem length_foundPaths_numberedFiles (n : Nat)
    : (GlobSearchTool.foundPaths (numberedFiles n)).length = n := by
  unfold GlobSearchTool.foundPaths numberedFiles
  rw [List.filterMap_map]
  change ((List.range n).filterMap (fun i => some (toString i))).length = n
  rw [List.filterMap_eq_map', List.length_map, List.length_range]

/-- Of 501 lines one is left out without notice, and of 1000 files none is left out in spite of it. -/
theorem searches_not_abridge
    : (¬∀ query path node results, GrepSearchTool.search query path node = some results
        → Filled.Abridges GrepSearchTool.maxMatches
          ((GrepSearchTool.allMatches query path node).map
            (GrepSearchTool.Match.block query.contextLines))
          (GrepSearchTool.report results).listed (GrepSearchTool.report results).truncated)
      ∧ ¬∀ entries, Filled.Abridges GlobSearchTool.maxResults (GlobSearchTool.foundPaths entries)
        (GlobSearchTool.collect [] entries).listed (GlobSearchTool.collect [] entries).truncated := by
  constructor
  . intro h
    have hshort := (GrepSearchTool.abridges_report_iff rfl).mp (h anyLine "a" (blankLines 501) _ rfl)
    rw [length_allMatches_blankLines] at hshort
    revert hshort
    decide
  . intro h
    exact (GlobSearchTool.abridges_collect_iff _).mp (h (numberedFiles 1000))
      (length_foundPaths_numberedFiles 1000)

end AnimaAgent
