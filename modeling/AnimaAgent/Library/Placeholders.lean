import Mathlib.Data.List.Infix

/-!
This module contains texts with placeholders, which are filled in all at once or one after the other.
The second way looks for the later placeholders also in what was filled in for the earlier ones.
-/

/-- A placeholder begins with a symbol that it has nowhere else. -/
structure Placeholder {α : Type} (opener : α) where
  body : List α
  not_mem : opener ∉ body

namespace Placeholder

variable {α β γ : Type} {o : α}

def text (p : Placeholder o) : List α :=
  o :: p.body

theorem text_append (p : Placeholder o) (rest : List α) : p.text ++ rest = o :: (p.body ++ rest) := by
  rfl

def Apart (p q : Placeholder o) : Prop :=
  ¬p.text <+: q.text ∧ ¬q.text <+: p.text

theorem Apart.symm {p q : Placeholder o} (h : Apart p q) : Apart q p :=
  And.symm h

theorem Apart.not_begins {p q : Placeholder o} (h : Apart p q) (rest : List α)
    : ¬p.text <+: q.text ++ rest := by
  intro hbegins
  obtain hle | hle := Nat.le_total p.text.length q.text.length
  . exact h.1 (List.prefix_of_prefix_length_le hbegins (List.prefix_append _ _) hle)
  . exact h.2 (List.prefix_of_prefix_length_le (List.prefix_append _ _) hbegins hle)

/-- A text in which one of the placeholders is still open. -/
inductive Piece (α : Type) where
  | symbol (c : α)
  | slot
  deriving DecidableEq

namespace Piece

/-- What a piece stands for when the open placeholder has the value. -/
def spell (value : List α) : Piece α → List α
  | symbol c => [c]
  | slot => value

theorem flatMap_spell_symbol (value : List α) (c : α) (pieces : List (Piece α))
    : (symbol c :: pieces).flatMap (spell value) = c :: pieces.flatMap (spell value) := by
  rfl

theorem flatMap_spell_slot (value : List α) (pieces : List (Piece α))
    : (slot :: pieces).flatMap (spell value) = value ++ pieces.flatMap (spell value) := by
  rfl

theorem flatMap_spell_map_symbol (value text : List α)
    : (text.map Piece.symbol).flatMap (spell value) = text := by
  induction text with
  | nil => rfl
  | cons c text ih =>
    rw [List.map_cons, List.flatMap_cons, ih]
    rfl

end Piece

open Piece

theorem begins_flatMap_spell (p : Placeholder o) (value : List α) (pieces : List (Piece α))
    {symbols : List α} (hnot : o ∉ symbols)
    (h : symbols <+: pieces.flatMap (spell p.text))
    : symbols <+: pieces.flatMap (spell value) := by
  induction symbols generalizing pieces with
  | nil => exact List.nil_prefix
  | cons c symbols ih =>
    cases pieces with
    | nil => exact h
    | cons piece pieces =>
      cases piece with
      | symbol d =>
        rw [flatMap_spell_symbol] at h ⊢
        obtain ⟨rfl, hrest⟩ := List.cons_prefix_cons.mp h
        exact List.cons_prefix_cons.mpr
          ⟨rfl, ih pieces (fun hmem => hnot (List.mem_cons_of_mem _ hmem)) hrest⟩
      | slot =>
        have heq : c = o := (List.cons_prefix_cons.mp h).1
        exact absurd (heq ▸ List.mem_cons_self ..) hnot

variable [DecidableEq α]

def first (bindings : List (Placeholder o × List β)) (text : List α)
    : Option (Placeholder o × List β) :=
  bindings.find? (fun binding => binding.1.text.isPrefixOf text)

/-- The text from behind the next `skip` symbols, with a value for each placeholder. -/
def fillFrom (emit : α → List β) (bindings : List (Placeholder o × List β)) : Nat → List α → List β
  | _, [] => []
  | skip + 1, _ :: rest => fillFrom emit bindings skip rest
  | 0, c :: rest =>
    match first bindings (c :: rest) with
    | some binding => binding.2 ++ fillFrom emit bindings binding.1.body.length rest
    | none => emit c ++ fillFrom emit bindings 0 rest

/-- All placeholders of the text are filled in at once, and every other symbol is put as it is told. -/
def fillWith (emit : α → List β) (bindings : List (Placeholder o × List β)) (text : List α)
    : List β :=
  fillFrom emit bindings 0 text

def occurrences (p : Placeholder o) : List α → Nat
  | [] => 0
  | c :: rest => (if p.text <+: c :: rest then 1 else 0) + occurrences p rest

section Fill

variable {emit : α → List β} {bindings : List (Placeholder o × List β)}

theorem fillFrom_eq (skip : Nat) (text : List α)
    : fillFrom emit bindings skip text = fillWith emit bindings (text.drop skip) := by
  induction text generalizing skip with
  | nil => cases skip <;> rfl
  | cons c rest ih =>
    cases skip with
    | zero => rfl
    | succ skip => exact ih skip

@[simp]
theorem fillWith_nil : fillWith emit bindings [] = [] := by
  rfl

theorem first_eq_some {text : List α} {binding : Placeholder o × List β}
    (h : first bindings text = some binding)
    : binding ∈ bindings ∧ ∃ rest, text = binding.1.text ++ rest := by
  have hbegins := List.find?_some h
  rw [List.isPrefixOf_iff_prefix] at hbegins
  obtain ⟨rest, hrest⟩ := hbegins
  exact ⟨List.mem_of_find?_eq_some h, rest, hrest.symm⟩

theorem first_eq_none_iff {text : List α}
    : first bindings text = none ↔ ∀ binding ∈ bindings, ¬binding.1.text <+: text := by
  unfold first
  simp only [List.find?_eq_none, List.isPrefixOf_iff_prefix]

theorem fillWith_of_none {c : α} {rest : List α} (h : first bindings (c :: rest) = none)
    : fillWith emit bindings (c :: rest) = emit c ++ fillWith emit bindings rest := by
  unfold fillWith
  rw [fillFrom, h]

theorem fillWith_of_some {binding : Placeholder o × List β} {rest : List α}
    (h : first bindings (binding.1.text ++ rest) = some binding)
    : fillWith emit bindings (binding.1.text ++ rest) = binding.2 ++ fillWith emit bindings rest := by
  unfold text at h ⊢
  rw [List.cons_append] at h ⊢
  unfold fillWith
  rw [fillFrom, h]
  dsimp only
  rw [fillFrom_eq, List.drop_left]
  rfl

theorem fillWith_append_of_not_mem {text : List α} (hnot : o ∉ text) (rest : List α)
    : fillWith emit bindings (text ++ rest) = text.flatMap emit ++ fillWith emit bindings rest := by
  induction text with
  | nil => rfl
  | cons c text ih =>
    have hne : first bindings (c :: (text ++ rest)) = none := by
      rw [first_eq_none_iff]
      intro binding _ hbegins
      apply hnot
      rw [(List.cons_prefix_cons.mp hbegins).1]
      exact List.mem_cons_self ..
    rw [List.cons_append, fillWith_of_none hne, ih fun hmem => hnot (List.mem_cons_of_mem _ hmem)]
    simp

theorem text_induction (bindings : List (Placeholder o × List β)) {P : List α → Prop} (hnil : P [])
    (hsome : ∀ binding rest, binding ∈ bindings
      → first bindings (binding.1.text ++ rest) = some binding → P rest → P (binding.1.text ++ rest))
    (hnone : ∀ c rest, first bindings (c :: rest) = none → P rest → P (c :: rest))
    (text : List α)
    : P text := by
  induction hlength : text.length using Nat.strong_induction_on generalizing text with
  | _ n ih =>
    cases text with
    | nil => exact hnil
    | cons c rest =>
      subst hlength
      cases h : first bindings (c :: rest) with
      | some binding =>
        obtain ⟨hmem, behind, hbehind⟩ := first_eq_some h
        rw [hbehind] at h ⊢
        refine hsome binding behind hmem h (ih behind.length ?_ behind rfl)
        rw [hbehind, List.length_append]
        exact Nat.lt_add_of_pos_left (Nat.succ_pos _)
      | none => exact hnone c rest h (ih rest.length (Nat.lt_succ_self _) rest rfl)

theorem flatMap_fillWith (f : β → List γ) (text : List α)
    : (fillWith emit bindings text).flatMap f
        = fillWith (fun c => (emit c).flatMap f)
          (bindings.map (fun binding => (binding.1, binding.2.flatMap f))) text := by
  have hfirst : ∀ text, first (bindings.map (fun binding => (binding.1, binding.2.flatMap f))) text
      = (first bindings text).map (fun binding => (binding.1, binding.2.flatMap f)) := by
    intro text
    exact List.find?_map
  induction text using text_induction bindings with
  | hnil => rfl
  | hsome binding rest hmem h ih =>
    rw [fillWith_of_some h, List.flatMap_append, ih]
    have hmapped := hfirst (binding.1.text ++ rest)
    rw [h] at hmapped
    exact (@fillWith_of_some _ _ _ _ _ _ (binding.1, binding.2.flatMap f) rest hmapped).symm
  | hnone c rest h ih =>
    have hmapped := hfirst (c :: rest)
    rw [h] at hmapped
    rw [fillWith_of_none h, List.flatMap_append, ih, fillWith_of_none hmapped]

end Fill

section Occurrences

variable (p : Placeholder o)

theorem occurrences_append_of_not_mem {text : List α} (hnot : o ∉ text) (rest : List α)
    : occurrences p (text ++ rest) = occurrences p rest := by
  induction text with
  | nil => rfl
  | cons c text ih =>
    have hne : ¬p.text <+: c :: (text ++ rest) := by
      intro hbegins
      apply hnot
      rw [(List.cons_prefix_cons.mp hbegins).1]
      exact List.mem_cons_self ..
    rw [List.cons_append, occurrences, if_neg hne, Nat.zero_add]
    exact ih fun hmem => hnot (List.mem_cons_of_mem _ hmem)

theorem occurrences_text_append (rest : List α)
    : occurrences p (p.text ++ rest) = 1 + occurrences p rest := by
  have hbegins : p.text <+: o :: (p.body ++ rest) := List.prefix_append p.text rest
  rw [text_append, occurrences, if_pos hbegins, occurrences_append_of_not_mem p p.not_mem]

theorem occurrences_text_append_of_ne {q : Placeholder o} {rest : List α}
    (h : ¬p.text <+: q.text ++ rest)
    : occurrences p (q.text ++ rest) = occurrences p rest := by
  rw [text_append] at h ⊢
  rw [occurrences, if_neg h, Nat.zero_add, occurrences_append_of_not_mem p q.not_mem]

end Occurrences

instance (p q : Placeholder o) : Decidable (Apart p q) :=
  inferInstanceAs (Decidable (_ ∧ _))

/-- All placeholders of the text are filled in at once, each by its value. -/
def fill (bindings : List (Placeholder o × List α)) (text : List α) : List α :=
  fillWith (fun c => [c]) bindings text

theorem fill_no_bindings (text : List α) : fill ([] : List (Placeholder o × List α)) text = text := by
  induction text with
  | nil => rfl
  | cons c text ih =>
    have hnone : first ([] : List (Placeholder o × List α)) (c :: text) = none := rfl
    unfold fill at ih ⊢
    rw [fillWith_of_none hnone, ih]
    rfl

def replace (p : Placeholder o) (value : List α) (text : List α) : List α :=
  fill [(p, value)] text

section Replace

variable (p : Placeholder o) (value : List α)

theorem replace_nil : replace p value [] = [] := by
  rfl

theorem replace_text_append (rest : List α)
    : replace p value (p.text ++ rest) = value ++ replace p value rest := by
  refine @fillWith_of_some _ _ _ _ _ _ (p, value) rest ?_
  unfold first
  rw [List.find?_cons_of_pos]
  exact List.isPrefixOf_iff_prefix.mpr (List.prefix_append _ _)

theorem replace_cons_of_not {c : α} {rest : List α} (h : ¬p.text <+: c :: rest)
    : replace p value (c :: rest) = c :: replace p value rest := by
  apply fillWith_of_none
  rw [first_eq_none_iff]
  intro binding hmem
  cases List.mem_singleton.mp hmem
  exact h

theorem length_replace (text : List α)
    : (replace p value text).length + occurrences p text * p.text.length
        = text.length + occurrences p text * value.length := by
  induction text using text_induction [(p, value)] with
  | hnil => simp [replace_nil, occurrences]
  | hsome binding rest hmem h ih =>
    cases List.mem_singleton.mp hmem
    dsimp only
    rw [replace_text_append, occurrences_text_append, List.length_append, List.length_append,
      Nat.add_mul, Nat.add_mul]
    omega
  | hnone c rest h ih =>
    have hne := first_eq_none_iff.mp h (p, value) (List.mem_singleton.mpr rfl)
    rw [replace_cons_of_not p value hne, occurrences, if_neg hne, List.length_cons, List.length_cons,
      Nat.zero_add]
    omega

end Replace

section Slots

variable (p : Placeholder o) (value : List α) (pieces : List (Piece α))

theorem length_flatMap_spell
    : (pieces.flatMap (spell value)).length + pieces.count .slot * p.text.length
        = (pieces.flatMap (spell p.text)).length + pieces.count .slot * value.length := by
  induction pieces with
  | nil => simp
  | cons piece pieces ih =>
    cases piece with
    | symbol c =>
      rw [flatMap_spell_symbol, flatMap_spell_symbol, List.count_cons_of_ne (by simp),
        List.length_cons, List.length_cons]
      omega
    | slot =>
      rw [flatMap_spell_slot, flatMap_spell_slot, List.count_cons_self, Nat.add_mul, Nat.add_mul,
        List.length_append, List.length_append]
      omega

theorem count_slot_le
    : pieces.count .slot ≤ occurrences p (pieces.flatMap (spell p.text)) := by
  induction pieces with
  | nil => exact Nat.le_refl _
  | cons piece pieces ih =>
    cases piece with
    | symbol c =>
      rw [flatMap_spell_symbol, List.count_cons_of_ne (by simp), occurrences]
      omega
    | slot =>
      rw [flatMap_spell_slot, List.count_cons_self, occurrences_text_append]
      omega

theorem replace_flatMap_spell
    (h : occurrences p (pieces.flatMap (spell p.text)) = pieces.count .slot)
    : replace p value (pieces.flatMap (spell p.text)) = pieces.flatMap (spell value) := by
  induction pieces with
  | nil => rfl
  | cons piece pieces ih =>
    have hle := count_slot_le p pieces
    cases piece with
    | symbol c =>
      rw [flatMap_spell_symbol, List.count_cons_of_ne (by simp), occurrences] at h
      have hne : ¬p.text <+: c :: pieces.flatMap (spell p.text) := by
        intro hbegins
        rw [if_pos hbegins] at h
        omega
      rw [if_neg hne, Nat.zero_add] at h
      rw [flatMap_spell_symbol, flatMap_spell_symbol, replace_cons_of_not p value hne, ih h]
    | slot =>
      rw [flatMap_spell_slot, List.count_cons_self, occurrences_text_append] at h
      rw [flatMap_spell_slot, flatMap_spell_slot, replace_text_append, ih (by omega)]

theorem eq_text_of_replace
    (h : replace p value (pieces.flatMap (spell p.text)) = pieces.flatMap (spell value))
    (hne : occurrences p (pieces.flatMap (spell p.text)) ≠ pieces.count .slot)
    : value = p.text := by
  have hlength : value.length = p.text.length := by
    have hreplace := length_replace p value (pieces.flatMap (spell p.text))
    have hspell := length_flatMap_spell p value pieces
    have hle := count_slot_le p pieces
    rw [h] at hreplace
    obtain ⟨extra, hextra⟩ := Nat.exists_eq_add_of_le hle
    rw [hextra, Nat.add_mul, Nat.add_mul] at hreplace
    have hpos : 0 < extra := by omega
    have hsame : extra * value.length = extra * p.text.length := by omega
    exact Nat.eq_of_mul_eq_mul_left hpos hsame
  induction pieces with
  | nil => exact absurd rfl hne
  | cons piece pieces ih =>
    cases piece with
    | slot =>
      rw [flatMap_spell_slot, flatMap_spell_slot, replace_text_append] at h
      rw [flatMap_spell_slot, occurrences_text_append, List.count_cons_self, Nat.add_comm] at hne
      exact ih (List.append_cancel_left h) fun heq => hne (by rw [heq])
    | symbol c =>
      rw [flatMap_spell_symbol, flatMap_spell_symbol] at h
      rw [flatMap_spell_symbol, List.count_cons_of_ne (by simp), occurrences] at hne
      by_cases hbegins : p.text <+: c :: pieces.flatMap (spell p.text)
      . -- the place begins with the symbol, and what follows is there in both texts
        obtain ⟨hc, hbody⟩ := List.cons_prefix_cons.mp hbegins
        obtain ⟨rest, hrest⟩ := hbegins
        have hkept : p.text <+: c :: pieces.flatMap (spell value) :=
          List.cons_prefix_cons.mpr ⟨hc, begins_flatMap_spell p value pieces p.not_mem hbody⟩
        rw [← hrest, replace_text_append] at h
        obtain ⟨rest', hrest'⟩ := hkept
        rw [← hrest'] at h
        exact (List.append_inj h hlength).1
      . rw [if_neg hbegins, Nat.zero_add] at hne
        rw [replace_cons_of_not p value hbegins] at h
        exact ih (List.cons.inj h).2 hne

end Slots

/-- The text with one placeholder left open while the others are filled in. -/
def openPieces (bindings : List (Placeholder o × List α)) (p : Placeholder o) (text : List α)
    : List (Piece α) :=
  fillWith (fun c => [.symbol c])
    (bindings.map (fun binding => (binding.1, binding.2.map .symbol)) ++ [(p, [.slot])]) text

section OpenPieces

variable (bindings : List (Placeholder o × List α)) (p : Placeholder o) (text : List α)

theorem flatMap_openPieces (value : List α)
    : (openPieces bindings p text).flatMap (spell value) = fill (bindings ++ [(p, value)]) text := by
  have hbindings : (bindings.map (fun binding => (binding.1, binding.2.map Piece.symbol))).map
        (fun binding => (binding.1, binding.2.flatMap (spell value)))
      = bindings := by
    rw [List.map_map]
    refine (List.map_congr_left ?_).trans (List.map_id bindings)
    intro binding _
    exact Prod.ext rfl (flatMap_spell_map_symbol value binding.2)
  unfold openPieces fill
  rw [flatMap_fillWith, List.map_append, hbindings]
  simp [spell]

theorem fill_append_text : fill (bindings ++ [(p, p.text)]) text = fill bindings text := by
  have hfirst : ∀ text, first (bindings ++ [(p, p.text)]) text
      = (first bindings text).or (first [(p, p.text)] text) := by
    intro text
    exact List.find?_append
  unfold fill
  induction text using text_induction (bindings ++ [(p, p.text)]) with
  | hnil => rfl
  | hsome binding rest hmem h ih =>
    rw [fillWith_of_some h, ih]
    rw [hfirst] at h
    cases hearlier : first bindings (binding.1.text ++ rest) with
    | some earlier =>
      rw [hearlier] at h
      cases h
      exact (fillWith_of_some hearlier).symm
    | none =>
      rw [hearlier] at h
      obtain ⟨hlast, _⟩ := first_eq_some h
      cases List.mem_singleton.mp hlast
      dsimp only at hearlier ⊢
      rw [text_append] at hearlier
      rw [text_append, text_append, fillWith_of_none hearlier, fillWith_append_of_not_mem p.not_mem]
      simp
  | hnone c rest h ih =>
    have hearlier := hfirst (c :: rest)
    rw [h] at hearlier
    rw [fillWith_of_none h, fillWith_of_none (Option.or_eq_none_iff.mp hearlier.symm).1, ih]

theorem count_openPieces (hapart : ∀ binding ∈ bindings, Apart p binding.1)
    : (openPieces bindings p text).count .slot = occurrences p text := by
  unfold openPieces
  induction text using text_induction
    (bindings.map (fun binding => (binding.1, binding.2.map Piece.symbol)) ++ [(p, [.slot])]) with
  | hnil => rfl
  | hsome binding rest hmem h ih =>
    rw [fillWith_of_some h, List.count_append, ih]
    rcases List.mem_append.mp hmem with hearlier | hlast
    . obtain ⟨earlier, hbound, rfl⟩ := List.mem_map.mp hearlier
      rw [occurrences_text_append_of_ne p ((hapart earlier hbound).not_begins rest),
        List.count_eq_zero.mpr (by simp), Nat.zero_add]
    . cases List.mem_singleton.mp hlast
      rw [occurrences_text_append]
      rfl
  | hnone c rest h ih =>
    have hne := first_eq_none_iff.mp h (p, [.slot])
      (List.mem_append_right _ (List.mem_singleton.mpr rfl))
    rw [fillWith_of_none h, List.count_append, ih, occurrences, if_neg hne]
    rfl

theorem replace_fill_iff (hapart : ∀ binding ∈ bindings, Apart p binding.1) (value : List α)
    : replace p value (fill bindings text) = fill (bindings ++ [(p, value)]) text
        ↔ occurrences p (fill bindings text) = occurrences p text ∨ value = p.text := by
  have hopen : (openPieces bindings p text).flatMap (spell p.text) = fill bindings text := by
    rw [flatMap_openPieces, fill_append_text]
  have hcount := count_openPieces bindings p text hapart
  constructor
  . intro h
    by_cases heq : occurrences p (fill bindings text) = occurrences p text
    . exact .inl heq
    . rw [← hopen, ← flatMap_openPieces] at h
      rw [← hopen, ← hcount] at heq
      exact .inr (eq_text_of_replace p value _ h heq)
  . rintro (heq | rfl)
    . rw [← hopen, ← hcount] at heq
      rw [← flatMap_openPieces, ← hopen]
      exact replace_flatMap_spell p value _ heq
    . have hsame := fill_append_text [] p (fill bindings text)
      rw [List.nil_append, fill_no_bindings] at hsame
      rw [fill_append_text]
      exact hsame

end OpenPieces

def fillInTurn (bindings : List (Placeholder o × List α)) (text : List α) : List α :=
  bindings.foldl (fun text binding => replace binding.1 binding.2 text) text

/--
Filling in the placeholders before it brings about no more places of a placeholder, or it stands for
itself.
-/
def Clean (bindings : List (Placeholder o × List α)) (text : List α) : Prop :=
  ∀ earlier p value, earlier ++ [(p, value)] <+: bindings
    → occurrences p (fill earlier text) = occurrences p text ∨ value = p.text

section InTurn

variable {bindings : List (Placeholder o × List α)} {text : List α}

theorem clean_nil : Clean ([] : List (Placeholder o × List α)) text := by
  intro earlier p value hbegins
  simp at hbegins

theorem clean_append_iff (p : Placeholder o) (value : List α)
    : Clean (bindings ++ [(p, value)]) text
        ↔ Clean bindings text
          ∧ (occurrences p (fill bindings text) = occurrences p text ∨ value = p.text) := by
  constructor
  . intro h
    refine ⟨?_, h bindings p value (List.prefix_refl _)⟩
    intro earlier q value' hbegins
    exact h earlier q value' (hbegins.trans (List.prefix_append _ _))
  . rintro ⟨hearlier, hlast⟩ earlier q value' hbegins
    rcases List.prefix_concat_iff.mp hbegins with heq | hbegins
    . obtain ⟨rfl, hbinding⟩ := List.append_inj' heq rfl
      cases hbinding
      exact hlast
    . exact hearlier earlier q value' hbegins

theorem clean_singleton (p : Placeholder o) (value : List α) : Clean [(p, value)] text := by
  refine (clean_append_iff p value).mpr ⟨clean_nil, .inl ?_⟩
  rw [fill_no_bindings]

theorem fillInTurn_append (p : Placeholder o) (value : List α)
    : fillInTurn (bindings ++ [(p, value)]) text = replace p value (fillInTurn bindings text) := by
  exact List.foldl_append ..

theorem fillInTurn_of_clean (hapart : (bindings.map Prod.fst).Pairwise Apart)
    (h : Clean bindings text)
    : fillInTurn bindings text = fill bindings text := by
  induction bindings using List.reverseRecOn with
  | nil => exact (fill_no_bindings text).symm
  | append_singleton bindings binding ih =>
    obtain ⟨p, value⟩ := binding
    obtain ⟨hearlier, hlast⟩ := (clean_append_iff p value).mp h
    rw [List.map_append, List.pairwise_append] at hapart
    rw [fillInTurn_append, ih hapart.1 hearlier, replace_fill_iff]
    . exact hlast
    . intro earlier hmem
      exact (hapart.2.2 earlier.1 (List.mem_map_of_mem hmem) p (by simp)).symm

theorem fillInTurn_append_iff {p : Placeholder o} {value : List α}
    (hapart : ((bindings ++ [(p, value)]).map Prod.fst).Pairwise Apart)
    (h : Clean bindings text)
    : fillInTurn (bindings ++ [(p, value)]) text = fill (bindings ++ [(p, value)]) text
        ↔ Clean (bindings ++ [(p, value)]) text := by
  rw [clean_append_iff, List.map_append, List.pairwise_append] at *
  rw [fillInTurn_append, fillInTurn_of_clean hapart.1 h, replace_fill_iff]
  . exact (and_iff_right h).symm
  . intro earlier hmem
    exact (hapart.2.2 earlier.1 (List.mem_map_of_mem hmem) p (by simp)).symm

end InTurn

end Placeholder
