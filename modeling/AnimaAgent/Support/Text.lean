import Mathlib.Data.List.Infix
import Mathlib.Data.String.Basic

namespace AnimaAgent.Text

/-- `char::is_whitespace`. -/
def isWhitespace (c : Char) : Bool :=
  let n := c.toNat
  (9 ≤ n && n ≤ 13) || n == 0x20 || n == 0x85 || n == 0xa0 || n == 0x1680
    || (0x2000 ≤ n && n ≤ 0x200a) || n == 0x2028 || n == 0x2029 || n == 0x202f || n == 0x205f
    || n == 0x3000

def trim (s : String) : String :=
  String.ofList ((s.toList.dropWhile isWhitespace).reverse.dropWhile isWhitespace).reverse

/-- `str::trim_end`. -/
def trimEnd (s : String) : String :=
  String.ofList (s.toList.reverse.dropWhile isWhitespace).reverse

theorem mem_dropWhile {c : Char} {cs : List Char} (hmem : c ∈ cs) (hc : isWhitespace c = false)
    : c ∈ cs.dropWhile isWhitespace := by
  rw [← List.takeWhile_append_dropWhile (p := isWhitespace) (l := cs), List.mem_append] at hmem
  refine hmem.resolve_left ?_
  intro htake
  exact Bool.false_ne_true (hc.symm.trans (List.all_eq_true.mp List.all_takeWhile c htake))

theorem mem_trim {s : String} {c : Char} (hmem : c ∈ s.toList) (hc : isWhitespace c = false)
    : c ∈ (trim s).toList := by
  unfold trim
  rw [String.toList_ofList, List.mem_reverse]
  exact mem_dropWhile (List.mem_reverse.mpr (mem_dropWhile hmem hc)) hc

theorem trim_ne {s t : String} {c : Char} (hmem : c ∈ s.toList) (hc : isWhitespace c = false)
    (hnot : c ∉ t.toList)
    : trim s ≠ t := by
  rintro rfl
  exact hnot (mem_trim hmem hc)

theorem join_eq_empty_iff {texts : List String}
    : String.join texts = "" ↔ ∀ text ∈ texts, text = "" := by
  induction texts with
  | nil => simp
  | cons text rest ih => rw [String.join_cons, String.append_eq_empty_iff, ih, List.forall_mem_cons]

/-- `str::strip_prefix`. -/
def stripPrefix (lead s : String) : Option String :=
  (s.toList.dropPrefix? lead.toList).map String.ofList

theorem stripPrefix_append (lead s : String) : stripPrefix lead (lead ++ s) = some s := by
  unfold stripPrefix
  rw [String.toList_append, List.dropPrefix?_append_of_beq s.toList BEq.rfl, Option.map_some,
    String.ofList_toList]

theorem stripPrefix_eq_some_iff {lead s rest : String}
    : stripPrefix lead s = some rest ↔ s = lead ++ rest := by
  constructor
  . unfold stripPrefix
    intro h
    obtain ⟨chars, hdrop, rfl⟩ := Option.map_eq_some_iff.mp h
    obtain ⟨lead', hs, hlead⟩ := List.dropPrefix?_eq_some_iff.mp hdrop
    rw [String.ext_iff, hs, eq_of_beq hlead, String.toList_append, String.toList_ofList]
  . rintro rfl
    exact stripPrefix_append lead rest

/-- `str::contains`. -/
def contains (needle s : String) : Bool :=
  decide (needle.toList <:+: s.toList)

/-- The text from behind the next `skip` characters, with the value for every place of the pattern. -/
def replaceFrom (pattern value : List Char) : Nat → List Char → List Char
  | _, [] => []
  | skip + 1, _ :: rest => replaceFrom pattern value skip rest
  | 0, c :: rest =>
    if pattern.isPrefixOf (c :: rest) then
      value ++ replaceFrom pattern value (pattern.length - 1) rest
    else
      c :: replaceFrom pattern value 0 rest

/-- `str::replace`; an empty pattern has a place in front of every character and one at the end. -/
def replace (pattern value s : String) : String :=
  if pattern.isEmpty then
    value ++ String.ofList (s.toList.flatMap (fun c => c :: value.toList))
  else
    String.ofList (replaceFrom pattern.toList value.toList 0 s.toList)

/-- `str::to_ascii_lowercase`. -/
def toAsciiLowercase (s : String) : String :=
  String.ofList (s.toList.map Char.toLower)

/-- `str::eq_ignore_ascii_case`. -/
def eqIgnoreAsciiCase (s t : String) : Bool :=
  toAsciiLowercase s == toAsciiLowercase t

/-- The lines of the rest of a text, of which some characters are already read. -/
def linesFrom (line : List Char) : List Char → List String
  | [] => if line.isEmpty then [] else [String.ofList line]
  | c :: rest =>
    if c = '\n' then
      String.ofList (if line.getLast? = some '\r' then line.dropLast else line) :: linesFrom [] rest
    else
      linesFrom (line ++ [c]) rest

/-- `str::lines`; a line may end with a carriage return and a line feed. -/
def lines (s : String) : List String :=
  linesFrom [] s.toList

section Offsets

open String (utf8Len utf8Len_append utf8Len_cons utf8Len_nil)

/-- `str::len`. -/
def len (s : String) : Nat :=
  utf8Len s.toList

/-- A string is sliced at a byte offset beyond its end or within a character. -/
structure SlicePanic where
  offset : Nat
  deriving DecidableEq

/-- The characters in front of a byte offset, and the ones behind it. -/
def splitAtByte : Nat → List Char → Option (List Char × List Char)
  | 0, cs => some ([], cs)
  | _ + 1, [] => none
  | n + 1, c :: cs =>
    if c.utf8Size ≤ n + 1 then
      (splitAtByte (n + 1 - c.utf8Size) cs).map (fun (front, rest) => (c :: front, rest))
    else
      none

/-- `str::is_char_boundary`. -/
def isCharBoundary (s : String) (offset : Nat) : Bool :=
  (splitAtByte offset s.toList).isSome

/-- `&s[..stop]`. -/
def sliceTo (s : String) (stop : Nat) : Except SlicePanic String :=
  match splitAtByte stop s.toList with
  | some (front, _) => .ok (String.ofList front)
  | none => .error ⟨stop⟩

/-- `&s[start..]`. -/
def sliceFrom (s : String) (start : Nat) : Except SlicePanic String :=
  match splitAtByte start s.toList with
  | some (_, rest) => .ok (String.ofList rest)
  | none => .error ⟨start⟩

/-- `&s[start..stop]`. -/
def slice (s : String) (start stop : Nat) : Except SlicePanic String := do
  let front ← sliceTo s stop
  sliceFrom front start

/-- `str::find` of a character. -/
def find (c : Char) (s : String) : Option Nat :=
  if c ∈ s.toList then some (utf8Len (s.toList.takeWhile (· != c))) else none

theorem splitAtByte_append (front rest : List Char)
    : splitAtByte (utf8Len front) (front ++ rest) = some (front, rest) := by
  induction front with
  | nil => rw [utf8Len_nil, List.nil_append, splitAtByte]
  | cons c front ih =>
    obtain ⟨n, hn⟩ := Nat.exists_eq_succ_of_ne_zero (Nat.ne_of_gt c.utf8Size_pos)
    have hlength : utf8Len (c :: front) = utf8Len front + n + 1 := by
      rw [utf8Len_cons, hn]
      rfl
    have hrest : utf8Len front + n + 1 - c.utf8Size = utf8Len front := by omega
    rw [hlength, List.cons_append, splitAtByte, if_pos (by omega), hrest, ih]
    rfl

theorem sliceTo_append (front rest : List Char)
    : sliceTo (String.ofList (front ++ rest)) (utf8Len front) = .ok (String.ofList front) := by
  rw [sliceTo, String.toList_ofList, splitAtByte_append]

theorem sliceFrom_append (front rest : List Char)
    : sliceFrom (String.ofList (front ++ rest)) (utf8Len front) = .ok (String.ofList rest) := by
  rw [sliceFrom, String.toList_ofList, splitAtByte_append]

theorem slice_append (front middle rest : List Char)
    : slice (String.ofList (front ++ middle ++ rest)) (utf8Len front) (utf8Len front + utf8Len middle)
        = .ok (String.ofList middle) := by
  unfold slice
  rw [← utf8Len_append, sliceTo_append]
  exact sliceFrom_append front middle

theorem sliceTo_isOk_iff (s : String) (stop : Nat)
    : (∃ front, sliceTo s stop = .ok front) ↔ isCharBoundary s stop = true := by
  unfold sliceTo isCharBoundary
  cases splitAtByte stop s.toList with
  | none => simp
  | some split => simp

theorem find_append {c : Char} {front : List Char} (rest : List Char) (hfront : c ∉ front)
    : find c (String.ofList (front ++ c :: rest)) = some (utf8Len front) := by
  unfold find
  rw [String.toList_ofList, if_pos (by simp), List.takeWhile_append_of_pos]
  . simp
  . intro d hd
    simpa using fun heq : d = c => hfront (heq ▸ hd)

theorem find_eq_some {c : Char} {s : String} {offset : Nat} (h : find c s = some offset)
    : ∃ front rest, s = String.ofList (front ++ c :: rest) ∧ c ∉ front ∧ offset = utf8Len front := by
  have hmem : c ∈ s.toList := by
    by_contra hnot
    rw [find, if_neg hnot] at h
    cases h
  obtain ⟨front, rest, hs, hfront⟩ := List.eq_append_cons_of_mem hmem
  have hs : s = String.ofList (front ++ c :: rest) := by rw [← hs, String.ofList_toList]
  rw [hs, find_append rest hfront] at h
  exact ⟨front, rest, hs, hfront, (Option.some.inj h).symm⟩

end Offsets

end AnimaAgent.Text
