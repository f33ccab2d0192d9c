import AnimaAgent.Context.Storage
import AnimaAgent.Library.Escapes
import AnimaAgent.Support.Text

/-!
This module contains the names of the files that contexts are stored in. A key is read back from the name
of its file unless it contains, between suitable characters, one of the words for the characters that
cannot stand in a file name.
-/

namespace AnimaAgent

def filenameToKey (filename : String) : String :=
  Text.replace "_COLON_" ":" (Text.replace "_BSLASH_" "\\" (Text.replace "_SLASH_" "/" filename))

def FileStorage.keysMatching {ν : Type} (l2 : FileStorage ν) (lead : String) : List String :=
  (l2.files.keys.map filenameToKey).filter (fun key => lead.toList.isPrefixOf key.toList)

inductive FileCall (ν : Type) where
  | set (now : UInt64) (key : String) (value : ν) (ttlMs : Option UInt64)
  | delete (key : String)

namespace FileCall

variable {ν : Type}

def key : FileCall ν → String
  | .set _ key _ _ => key
  | .delete key => key

def perform (reread : ν → Option ν) (l2 : FileStorage ν) : FileCall ν → FileStorage ν
  | .set now key value ttlMs => l2.setEntry reread .working now key value ttlMs
  | .delete key => (l2.deleteEntry .working key).2

def store (keys : List String) : FileCall ν → List String
  | .set _ key _ _ => if key ∈ keys then keys else keys ++ [key]
  | .delete key => keys.filter (fun other => decide (other ≠ key))

end FileCall

/-- The keys of these calls have files of their own, which are listed under the keys themselves. -/
structure KeepsApart {ν : Type} (reread : ν → Option ν) (calls : List (FileCall ν)) : Prop where
  apart : ∀ a ∈ calls.map FileCall.key, ∀ b ∈ calls.map FileCall.key,
    keyToFilename a = keyToFilename b → a = b
  readBack : ∀ key ∈ calls.map FileCall.key, filenameToKey (keyToFilename key) = key
  listed : ∀ lead, (calls.foldl (FileCall.perform reread) .new).keysMatching lead
    = (calls.foldl FileCall.store []).filter (fun key => lead.toList.isPrefixOf key.toList)

namespace FileNames

def slash : Escape '_' where
  char := '/'
  body := "SLASH".toList
  char_ne := by decide
  mark_not_mem := by decide
  char_not_mem := by decide

def backslash : Escape '_' where
  char := '\\'
  body := "BSLASH".toList
  char_ne := by decide
  mark_not_mem := by decide
  char_not_mem := by decide

def colon : Escape '_' where
  char := ':'
  body := "COLON".toList
  char_ne := by decide
  mark_not_mem := by decide
  char_not_mem := by decide

end FileNames

/-- One of the words stands in the key where it is taken for the character that it spells. -/
def Misreadable (key : String) : Prop :=
  Escape.Stands ['_', ':', '\\'] ['_', ':', '\\', '/'] "SLASH".toList key.toList
    ∨ Escape.Stands ['_', ':'] ['_', ':', '\\'] "BSLASH".toList key.toList
    ∨ Escape.Stands ['_'] ['_', ':'] "COLON".toList key.toList

namespace FileNames

variable {key : String}

theorem replaceFrom_eq_unescape (e : Escape '_') (skip : Nat) (s : List Char)
    : Text.replaceFrom e.token [e.char] skip s = e.unescape skip s := by
  induction s generalizing skip with
  | nil =>
    cases skip with
    | zero => rfl
    | succ skip => rfl
  | cons x s ih =>
    cases skip with
    | zero =>
      rw [Text.replaceFrom, Escape.unescape, ih, ih]
      rfl
    | succ skip => exact ih skip

theorem keyToFilename_eq (key : String)
    : keyToFilename key
        = String.ofList (Escape.escapeAll [slash, backslash, colon] key.toList) := by
  have hreplace (e : Escape '_') (c : Char) (token : String) (hc : c = e.char)
      (htoken : token.toList = e.token) (s : List Char)
      : replaceChar c token (String.ofList s) = String.ofList (e.escape s) := by
    rw [replaceChar, String.toList_ofList, htoken, hc]
    rfl
  calc keyToFilename key
    _ = keyToFilename (String.ofList key.toList) := by rw [String.ofList_toList]
    _ = String.ofList (colon.escape (backslash.escape (slash.escape key.toList))) := by
      rw [keyToFilename, hreplace slash '/' "_SLASH_" rfl rfl,
        hreplace backslash '\\' "_BSLASH_" rfl rfl, hreplace colon ':' "_COLON_" rfl rfl]
    _ = String.ofList (slash.escape (backslash.escape (colon.escape key.toList))) := by
      rw [Escape.escape_comm slash backslash (by decide) (by decide) (by decide),
        Escape.escape_comm slash colon (by decide) (by decide) (by decide),
        Escape.escape_comm backslash colon (by decide) (by decide) (by decide)]

theorem filenameToKey_eq (s : List Char)
    : filenameToKey (String.ofList s)
        = String.ofList (Escape.unescapeAll [slash, backslash, colon] s) := by
  have hreplace (e : Escape '_') (token char : String) (htoken : token.toList = e.token)
      (hchar : char.toList = [e.char]) (s : List Char)
      : Text.replace token char (String.ofList s) = String.ofList (e.unescape 0 s) := by
    have hne : token.isEmpty = false := by
      refine Bool.eq_false_iff.mpr fun h => ?_
      rw [String.isEmpty_iff.mp h] at htoken
      cases htoken
    rw [Text.replace, hne, if_neg Bool.false_ne_true, String.toList_ofList, htoken, hchar,
      replaceFrom_eq_unescape]
  rw [filenameToKey, hreplace slash "_SLASH_" "/" rfl rfl,
    hreplace backslash "_BSLASH_" "\\" rfl rfl, hreplace colon "_COLON_" ":" rfl rfl]
  rfl

def shape (c : Char) (x : Char) : List Bool :=
  if x = c then [true]
  else if x = '\\' then List.replicate 8 false
  else if x = ':' then List.replicate 7 false
  else [false]

theorem shows_shape (e : Escape '_') : e.Shows (shape e.char) := by
  refine ⟨if_pos rfl, fun x hx => ?_⟩
  unfold shape
  rw [if_neg hx]
  split
  . exact ⟨_, rfl⟩
  . split
    . exact ⟨_, rfl⟩
    . exact ⟨_, rfl⟩

theorem misreadable_iff
    : Misreadable key
        ↔ slash.Misread (backslash.escape (colon.escape key.toList))
          ∨ backslash.Misread (colon.escape key.toList) ∨ colon.Misread key.toList := by
  rw [Escape.misread_iff_stands, Escape.misread_iff_stands, Escape.misread_iff_stands,
    Escape.stands_escape_iff (by decide) (by decide) (by decide)
      (Escape.forall_apart_of_all (by decide)) (Escape.forall_apart_of_all (by decide)),
    Escape.stands_escape_iff (by decide) (by decide) (by decide)
      (Escape.forall_apart_of_all (by decide)) (Escape.forall_apart_of_all (by decide)),
    Escape.stands_escape_iff (by decide) (by decide) (by decide)
      (Escape.forall_apart_of_all (by decide)) (Escape.forall_apart_of_all (by decide))]
  exact Iff.rfl

theorem filenameToKey_keyToFilename_iff (key : String)
    : filenameToKey (keyToFilename key) = key ↔ ¬Misreadable key := by
  have hblind : ∀ e ∈ [backslash, colon], e.Blind (shape '/') := by
    intro e he
    simp only [List.mem_cons, List.not_mem_nil, or_false] at he
    rcases he with rfl | rfl
    . rfl
    . rfl
  have hblind' : ∀ e ∈ [colon], e.Blind (shape '\\') := by
    intro e he
    cases List.mem_singleton.mp he
    rfl
  rw [keyToFilename_eq, filenameToKey_eq, misreadable_iff, not_or, not_or]
  have hlist (s : List Char) : String.ofList s = key ↔ s = key.toList := by
    constructor
    . rintro rfl
      exact String.toList_ofList.symm
    . rintro rfl
      exact String.ofList_toList
  rw [hlist, Escape.unescapeAll_escapeAll_iff (shows_shape slash) hblind,
    Escape.unescapeAll_escapeAll_iff (shows_shape backslash) hblind',
    Escape.unescapeAll_escapeAll_iff (shows_shape colon) (fun _ h => absurd h List.not_mem_nil)]
  exact and_congr_right fun _ => and_congr_right fun _ => and_iff_left rfl

section Calls

variable {ν : Type} {reread : ν → Option ν} {keys : List String} {l2 : FileStorage ν}

theorem keys_removeFile (l2 : FileStorage ν) (name : String)
    : (l2.removeFile .working name).2.files.keys
        = l2.files.keys.filter (fun other => decide (other ≠ name)) := by
  unfold FileStorage.removeFile
  split
  . exact IndexMap.keys_shiftRemove l2.files name
  . next h =>
    have hnot : name ∉ l2.files.keys := fun hmem => h ⟨hmem, rfl⟩
    refine (List.filter_eq_self.mpr fun other hother => decide_eq_true ?_).symm
    rintro rfl
    exact hnot hother

theorem keys_perform {call : FileCall ν} {names : List String}
    (hapart : ∀ a ∈ keys, ∀ b ∈ keys, keyToFilename a = keyToFilename b → a = b)
    (hcall : call.key ∈ keys) (hnames : names ⊆ keys)
    (hfiles : l2.files.keys = names.map keyToFilename)
    : (call.perform reread l2).files.keys = (call.store names).map keyToFilename
        ∧ call.store names ⊆ keys := by
  cases call with
  | set now key value ttlMs =>
    have hiff : keyToFilename key ∈ names.map keyToFilename ↔ key ∈ names := by
      constructor
      . intro h
        obtain ⟨other, hother, hname⟩ := List.mem_map.mp h
        rwa [← hapart other (hnames hother) key hcall hname]
      . exact List.mem_map_of_mem
    have hperform : ((FileCall.set now key value ttlMs).perform reread l2).files.keys
        = if keyToFilename key ∈ l2.files.keys then l2.files.keys
          else l2.files.keys ++ [keyToFilename key] :=
      IndexMap.keys_insert l2.files _ _
    have hstore : (FileCall.set now key value ttlMs).store names
        = if key ∈ names then names else names ++ [key] := rfl
    rw [hperform, hfiles, hstore]
    by_cases hkey : key ∈ names
    . rw [if_pos (hiff.mpr hkey), if_pos hkey]
      exact ⟨rfl, hnames⟩
    . rw [if_neg (fun h => hkey (hiff.mp h)), if_neg hkey, List.map_append]
      exact ⟨rfl, List.append_subset.mpr ⟨hnames, List.cons_subset.mpr ⟨hcall, List.nil_subset _⟩⟩⟩
  | delete key =>
    have hperform : ((FileCall.delete key).perform reread l2).files.keys
        = l2.files.keys.filter (fun other => decide (other ≠ keyToFilename key)) :=
      keys_removeFile l2 (keyToFilename key)
    refine ⟨?_, fun other hother => hnames (List.mem_of_mem_filter hother)⟩
    rw [hperform, hfiles, List.filter_map]
    refine congrArg (List.map keyToFilename) (List.filter_congr fun other hother => ?_)
    have hiff : keyToFilename other = keyToFilename key ↔ other = key :=
      ⟨hapart other (hnames hother) key hcall, congrArg keyToFilename⟩
    simp only [Function.comp_apply, ne_eq, hiff]

theorem keys_foldl_perform (calls : List (FileCall ν))
    (hapart : ∀ a ∈ keys, ∀ b ∈ keys, keyToFilename a = keyToFilename b → a = b)
    (hcalls : ∀ call ∈ calls, call.key ∈ keys) {names : List String} (hnames : names ⊆ keys)
    (hfiles : l2.files.keys = names.map keyToFilename)
    : (calls.foldl (FileCall.perform reread) l2).files.keys
          = (calls.foldl FileCall.store names).map keyToFilename
        ∧ calls.foldl FileCall.store names ⊆ keys := by
  induction calls generalizing l2 names with
  | nil => exact ⟨hfiles, hnames⟩
  | cons call calls ih =>
    obtain ⟨hfiles', hnames'⟩ := keys_perform hapart (hcalls call List.mem_cons_self) hnames hfiles
    exact ih (fun other hother => hcalls other (List.mem_cons_of_mem call hother)) hnames' hfiles'

end Calls

end FileNames

theorem keepsApart_iff {ν : Type} (reread : ν → Option ν) (calls : List (FileCall ν))
    : KeepsApart reread calls ↔ ∀ key ∈ calls.map FileCall.key, ¬Misreadable key := by
  constructor
  . intro h key hkey
    exact (FileNames.filenameToKey_keyToFilename_iff key).mp (h.readBack key hkey)
  . intro h
    have hread : ∀ key ∈ calls.map FileCall.key, filenameToKey (keyToFilename key) = key :=
      fun key hkey => (FileNames.filenameToKey_keyToFilename_iff key).mpr (h key hkey)
    have hapart : ∀ a ∈ calls.map FileCall.key, ∀ b ∈ calls.map FileCall.key,
        keyToFilename a = keyToFilename b → a = b := by
      intro a ha b hb heq
      rw [← hread a ha, heq, hread b hb]
    obtain ⟨hfiles, hsub⟩ := @FileNames.keys_foldl_perform ν reread _ .new calls hapart
      (fun call hcall => List.mem_map_of_mem hcall) [] (List.nil_subset _) rfl
    refine ⟨hapart, hread, fun lead => ?_⟩
    have hkeys : (calls.foldl FileCall.store []).map (fun key => filenameToKey (keyToFilename key))
        = calls.foldl FileCall.store [] :=
      (List.map_congr_left fun key hkey => hread key (hsub hkey)).trans (List.map_id' _)
    rw [FileStorage.keysMatching, hfiles, List.map_map]
    exact congrArg (List.filter _) hkeys

theorem slash_not_keepsApart : ¬∀ calls : List (FileCall Nat), KeepsApart some calls := by
  intro h
  have hapart := (h [.set 0 "a/b" 1 none, .set 1 "a_SLASH_b" 2 none]).apart "a/b" (by decide)
    "a_SLASH_b" (by decide) (by decide)
  exact absurd hapart (by decide)

end AnimaAgent
