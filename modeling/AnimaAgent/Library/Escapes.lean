import Mathlib.Data.List.Infix

/-!
This module contains escapes that spell a symbol by a word between two marks. The first word of this kind
that is found from the left is read back as the symbol, whoever has written it.
-/

/-- The symbol that is spelled, and the word that it is spelled by. -/
structure Escape {α : Type} (mark : α) where
  char : α
  body : List α
  char_ne : char ≠ mark
  mark_not_mem : mark ∉ body
  char_not_mem : char ∉ body

namespace Escape

variable {α : Type} [DecidableEq α] {mark : α} (e : Escape mark)

def token : List α :=
  mark :: (e.body ++ [mark])

def piece (x : α) : List α :=
  if x = e.char then e.token else [x]

def escape (s : List α) : List α :=
  s.flatMap e.piece

/-- The text from behind the next `skip` symbols, with the symbol for every word. -/
def unescape : Nat → List α → List α
  | _, [] => []
  | skip + 1, _ :: rest => unescape skip rest
  | 0, x :: rest =>
    if e.token.isPrefixOf (x :: rest) then e.char :: unescape (e.token.length - 1) rest
    else x :: unescape 0 rest

/-- The text has a word that is read back, or one that becomes one together with an escape. -/
def Misread (s : List α) : Prop :=
  mark :: (e.body ++ [mark]) <:+: s ∨ mark :: (e.body ++ [e.char]) <:+: s

def origins (x : α) : List α :=
  if x = mark then [mark, e.char] else [x]

variable {e} {s : List α}

theorem escape_cons_self (s : List α) : e.escape (e.char :: s) = e.token ++ e.escape s := by
  exact congrArg (· ++ e.escape s) (if_pos rfl)

theorem escape_cons_of_ne {x : α} (h : x ≠ e.char) (s : List α)
    : e.escape (x :: s) = x :: e.escape s := by
  exact congrArg (· ++ e.escape s) (if_neg h)

theorem char_not_mem_escape (s : List α) : e.char ∉ e.escape s := by
  intro hmem
  obtain ⟨x, -, hx⟩ := List.mem_flatMap.mp hmem
  unfold piece token at hx
  split at hx
  . simp [e.char_ne, e.char_not_mem] at hx
  . next hne => exact hne (List.mem_singleton.mp hx).symm

theorem unescape_skip (skipped rest : List α)
    : e.unescape skipped.length (skipped ++ rest) = e.unescape 0 rest := by
  induction skipped with
  | nil => rfl
  | cons x skipped ih => exact ih

theorem unescape_token (rest : List α)
    : e.unescape 0 (e.token ++ rest) = e.char :: e.unescape 0 rest := by
  have hlength : e.token.length - 1 = (e.body ++ [mark]).length := by
    rw [token, List.length_cons, Nat.add_sub_cancel]
  have hbegins : e.token.isPrefixOf (mark :: (e.body ++ [mark] ++ rest)) = true :=
    List.isPrefixOf_iff_prefix.mpr ⟨rest, rfl⟩
  change e.unescape 0 (mark :: (e.body ++ [mark] ++ rest)) = _
  rw [unescape, if_pos hbegins, hlength, unescape_skip]

theorem unescape_of_not_begins {x : α} {rest : List α} (h : ¬e.token <+: x :: rest)
    : e.unescape 0 (x :: rest) = x :: e.unescape 0 rest := by
  rw [unescape, if_neg (fun hbegins => h (List.isPrefixOf_iff_prefix.mp hbegins))]

theorem escape_unescape {s : List α} (h : e.char ∉ s) : e.escape (e.unescape 0 s) = s := by
  induction hlength : s.length using Nat.strong_induction_on generalizing s with
  | _ n ih =>
    cases s with
    | nil => rfl
    | cons x rest =>
      by_cases hbegins : e.token <+: x :: rest
      . obtain ⟨rest', hrest⟩ := hbegins
        rw [← hrest] at h hlength ⊢
        have hlt : rest'.length < n := by
          rw [← hlength, List.length_append, token, List.length_cons]
          omega
        rw [unescape_token, escape_cons_self,
          ih rest'.length hlt (fun hmem => h (List.mem_append_right _ hmem)) rfl]
      . rw [unescape_of_not_begins hbegins, escape_cons_of_ne (fun heq => h (heq ▸ List.mem_cons_self)),
          ih rest.length (by rw [← hlength]; exact Nat.lt_succ_self _)
            (fun hmem => h (List.mem_cons_of_mem _ hmem)) rfl]

section Words

variable {w : List α} {x y : α}

theorem word_begins_escape_iff (hmark : mark ∉ w) (hchar : e.char ∉ w) (hy : y ≠ e.char) (s : List α)
    : w ++ [y] <+: e.escape s ↔ ∃ y' ∈ e.origins y, w ++ [y'] <+: s := by
  induction w generalizing s with
  | nil =>
    cases s with
    | nil => simp [escape]
    | cons a s =>
      by_cases ha : a = e.char
      . subst ha
        rw [escape_cons_self]
        by_cases hmarked : y = mark
        . simp [token, origins, hmarked]
        . simp [token, origins, hmarked, hy]
      . rw [escape_cons_of_ne ha]
        by_cases hmarked : y = mark
        . subst hmarked
          simp [origins, ha, eq_comm]
        . simp [origins, hmarked]
  | cons b w ih =>
    have hb : b ≠ mark := fun h => hmark (h ▸ List.mem_cons_self)
    have hb' : b ≠ e.char := fun h => hchar (h ▸ List.mem_cons_self)
    have hrest := ih (fun h => hmark (List.mem_cons_of_mem b h))
      (fun h => hchar (List.mem_cons_of_mem b h))
    cases s with
    | nil => simp [escape]
    | cons a s =>
      by_cases ha : a = e.char
      . subst ha
        rw [escape_cons_self]
        simp [token, List.cons_prefix_cons, hb, hb']
      . rw [escape_cons_of_ne ha]
        simp only [List.cons_append, List.cons_prefix_cons, hrest]
        constructor
        . rintro ⟨rfl, y', hy', hword⟩
          exact ⟨y', hy', rfl, hword⟩
        . rintro ⟨y', hy', rfl, hword⟩
          exact ⟨rfl, y', hy', hword⟩

end Words

theorem unescape_escape_iff (s : List α) : e.unescape 0 (e.escape s) = s ↔ ¬e.Misread s := by
  induction s with
  | nil =>
    refine iff_of_true rfl ?_
    rintro (h | h)
    . exact absurd (List.eq_nil_of_infix_nil h) nofun
    . exact absurd (List.eq_nil_of_infix_nil h) nofun
  | cons a s ih =>
    unfold Misread at ih ⊢
    rw [List.infix_cons_iff, List.infix_cons_iff]
    by_cases ha : a = e.char
    . have hne : mark ≠ a := fun h => e.char_ne (ha ▸ h.symm)
      rw [ha, escape_cons_self, unescape_token, List.cons.injEq, and_iff_right rfl, ih]
      rw [ha] at hne
      simp [List.cons_prefix_cons, hne]
    . rw [escape_cons_of_ne ha]
      have hbegins : e.token <+: a :: e.escape s
          ↔ mark :: (e.body ++ [mark]) <+: a :: s ∨ mark :: (e.body ++ [e.char]) <+: a :: s := by
        rw [token, List.cons_prefix_cons, List.cons_prefix_cons, List.cons_prefix_cons,
          word_begins_escape_iff e.mark_not_mem e.char_not_mem e.char_ne.symm, ← and_or_left]
        simp [origins]
      by_cases hmisread : e.token <+: a :: e.escape s
      . refine iff_of_false ?_ ?_
        . obtain ⟨rest, hrest⟩ := hmisread
          rw [← hrest, unescape_token]
          intro h
          exact ha (List.cons.inj h).1.symm
        . intro h
          rcases hbegins.mp hmisread with hword | hword
          . exact h (.inl (.inl hword))
          . exact h (.inr (.inl hword))
      . rw [unescape_of_not_begins hmisread, List.cons.injEq, and_iff_right rfl, ih]
        rw [hbegins] at hmisread
        tauto

section Places

variable {w : List α} {x y : α}

theorem mem_origins_iff {x' : α} : x' ∈ e.origins x ↔ x' = x ∨ x = mark ∧ x' = e.char := by
  unfold origins
  split
  . next h => simp [h]
  . next h => simp [h]

omit [DecidableEq α] in
theorem infix_append_iff_of_not_mem {bs rest word : List α} (hx : x ∉ bs)
    : x :: word <:+: bs ++ rest ↔ x :: word <:+: rest := by
  induction bs with
  | nil => exact Iff.rfl
  | cons b bs ih =>
    have hb : x ≠ b := fun h => hx (h ▸ List.mem_cons_self)
    rw [List.cons_append, List.infix_cons_iff, ih (fun h => hx (List.mem_cons_of_mem b h)),
      List.cons_prefix_cons]
    simp [hb]

omit [DecidableEq α] in
theorem not_word_begins_token {bs rest : List α} (hmark : mark ∉ w) (hbs : mark ∉ bs) (hy : y ∉ bs)
    (hne : w ≠ bs)
    : ¬w ++ [y] <+: bs ++ mark :: rest := by
  induction w generalizing bs with
  | nil =>
    cases bs with
    | nil => exact absurd rfl hne
    | cons b bs =>
      intro h
      obtain ⟨rfl, -⟩ := List.cons_prefix_cons.mp h
      exact hy List.mem_cons_self
  | cons a w ih =>
    cases bs with
    | nil =>
      intro h
      obtain ⟨rfl, -⟩ := List.cons_prefix_cons.mp h
      exact hmark List.mem_cons_self
    | cons b bs =>
      intro h
      obtain ⟨rfl, hrest⟩ := List.cons_prefix_cons.mp h
      refine ih (fun h => hmark (List.mem_cons_of_mem _ h)) (fun h => hbs (List.mem_cons_of_mem _ h))
        (fun h => hy (List.mem_cons_of_mem _ h)) (fun h => hne (congrArg (a :: ·) h)) hrest

theorem infix_escape_iff (hmark : mark ∉ w) (hchar : e.char ∉ w) (hne : w ≠ e.body)
    (hx : x ≠ e.char) (hx' : x ∉ e.body) (hy : y ≠ e.char) (hy' : y ∉ e.body) (s : List α)
    : x :: (w ++ [y]) <:+: e.escape s
        ↔ ∃ x' ∈ e.origins x, ∃ y' ∈ e.origins y, x' :: (w ++ [y']) <:+: s := by
  induction s with
  | nil =>
    refine iff_of_false (fun h => absurd (List.eq_nil_of_infix_nil h) nofun) ?_
    rintro ⟨x', -, y', -, h⟩
    exact absurd (List.eq_nil_of_infix_nil h) nofun
  | cons a s ih =>
    have hbegins := word_begins_escape_iff hmark hchar hy s
    by_cases ha : a = e.char
    . subst ha
      have hbody : ¬w ++ [y] <+: e.body ++ mark :: e.escape s :=
        not_word_begins_token hmark e.mark_not_mem hy' hne
      rw [escape_cons_self, token, List.cons_append, List.append_assoc, List.singleton_append,
        List.infix_cons_iff, infix_append_iff_of_not_mem hx', List.infix_cons_iff,
        List.cons_prefix_cons, List.cons_prefix_cons, hbegins, ih]
      simp only [List.infix_cons_iff, List.cons_prefix_cons]
      constructor
      . rintro (⟨-, h⟩ | ⟨rfl, y', hy', h⟩ | ⟨x', hx', y', hy', h⟩)
        . exact absurd h hbody
        . exact ⟨e.char, mem_origins_iff.mpr (.inr ⟨rfl, rfl⟩), y', hy', .inl ⟨rfl, h⟩⟩
        . exact ⟨x', hx', y', hy', .inr h⟩
      . rintro ⟨x', hx', y', hy', ⟨rfl, h⟩ | h⟩
        . rcases mem_origins_iff.mp hx' with heq | ⟨hmarked, -⟩
          . exact absurd heq.symm hx
          . exact .inr (.inl ⟨hmarked, y', hy', h⟩)
        . exact .inr (.inr ⟨x', hx', y', hy', h⟩)
    . rw [escape_cons_of_ne ha, List.infix_cons_iff, List.cons_prefix_cons, hbegins, ih]
      simp only [List.infix_cons_iff, List.cons_prefix_cons]
      constructor
      . rintro (⟨rfl, y', hy', h⟩ | ⟨x', hx', y', hy', h⟩)
        . exact ⟨x, mem_origins_iff.mpr (.inl rfl), y', hy', .inl ⟨rfl, h⟩⟩
        . exact ⟨x', hx', y', hy', .inr h⟩
      . rintro ⟨x', hx', y', hy', ⟨rfl, h⟩ | h⟩
        . rcases mem_origins_iff.mp hx' with heq | ⟨-, hchar'⟩
          . exact .inl ⟨heq.symm, y', hy', h⟩
          . exact absurd hchar' ha
        . exact .inr ⟨x', hx', y', hy', h⟩

end Places

section Several

/-- A reading that does not tell a symbol from the word that spells it. -/
def Blind {β : Type} (e : Escape mark) (f : α → List β) : Prop :=
  f e.char = e.token.flatMap f

theorem flatMap_escape {β : Type} {f : α → List β} (hf : e.Blind f) (s : List α)
    : (e.escape s).flatMap f = s.flatMap f := by
  induction s with
  | nil => rfl
  | cons a s ih =>
    by_cases ha : a = e.char
    . rw [ha, escape_cons_self, List.flatMap_append, ih, List.flatMap_cons, hf]
    . rw [escape_cons_of_ne ha, List.flatMap_cons, List.flatMap_cons, ih]

theorem flatMap_unescape {β : Type} {f : α → List β} (hf : e.Blind f) (s : List α)
    : (e.unescape 0 s).flatMap f = s.flatMap f := by
  induction hlength : s.length using Nat.strong_induction_on generalizing s with
  | _ n ih =>
    cases s with
    | nil => rfl
    | cons x rest =>
      by_cases hbegins : e.token <+: x :: rest
      . obtain ⟨rest', hrest⟩ := hbegins
        rw [← hrest] at hlength ⊢
        have hlt : rest'.length < n := by
          rw [← hlength, List.length_append, token, List.length_cons]
          omega
        rw [unescape_token, List.flatMap_cons, ih rest'.length hlt rest' rfl, List.flatMap_append, hf]
      . rw [unescape_of_not_begins hbegins, List.flatMap_cons, List.flatMap_cons,
          ih rest.length (by rw [← hlength]; exact Nat.lt_succ_self _) rest rfl]

/-- A reading that shows where the symbol stands. -/
structure Shows (e : Escape mark) (f : α → List Bool) : Prop where
  char : f e.char = [true]
  other : ∀ x, x ≠ e.char → ∃ rest, f x = false :: rest

theorem eq_of_escape_eq {f : α → List Bool} (hf : e.Shows f) {s t : List α}
    (hescape : e.escape s = e.escape t) (hshape : s.flatMap f = t.flatMap f)
    : s = t := by
  induction s generalizing t with
  | nil =>
    cases t with
    | nil => rfl
    | cons b t =>
      by_cases hb : b = e.char
      . rw [hb, escape_cons_self] at hescape
        cases hescape
      . rw [escape_cons_of_ne hb] at hescape
        cases hescape
  | cons a s ih =>
    cases t with
    | nil =>
      by_cases ha : a = e.char
      . rw [ha, escape_cons_self] at hescape
        cases hescape
      . rw [escape_cons_of_ne ha] at hescape
        cases hescape
    | cons b t =>
      rw [List.flatMap_cons, List.flatMap_cons] at hshape
      by_cases ha : a = e.char
      . by_cases hb : b = e.char
        . rw [ha, hb, escape_cons_self, escape_cons_self] at hescape
          rw [ha, hb] at hshape
          rw [ha, hb, ih (List.append_cancel_left hescape) (List.append_cancel_left hshape)]
        . obtain ⟨rest, hrest⟩ := hf.other b hb
          rw [ha, hf.char, hrest] at hshape
          cases hshape
      . by_cases hb : b = e.char
        . obtain ⟨rest, hrest⟩ := hf.other a ha
          rw [hb, hf.char, hrest] at hshape
          cases hshape
        . rw [escape_cons_of_ne ha, escape_cons_of_ne hb] at hescape
          obtain ⟨rfl, hrest⟩ := List.cons.inj hescape
          rw [ih hrest (List.append_cancel_left hshape)]

def escapeAll (es : List (Escape mark)) (s : List α) : List α :=
  es.foldr escape s

def unescapeAll (es : List (Escape mark)) (s : List α) : List α :=
  es.foldl (fun s e => e.unescape 0 s) s

theorem flatMap_escapeAll {β : Type} {f : α → List β} {es : List (Escape mark)}
    (hf : ∀ e ∈ es, e.Blind f) (s : List α)
    : (escapeAll es s).flatMap f = s.flatMap f := by
  induction es with
  | nil => rfl
  | cons e es ih =>
    exact (flatMap_escape (hf e List.mem_cons_self) _).trans
      (ih fun e' he' => hf e' (List.mem_cons_of_mem e he'))

theorem flatMap_unescapeAll {β : Type} {f : α → List β} {es : List (Escape mark)}
    (hf : ∀ e ∈ es, e.Blind f) (s : List α)
    : (unescapeAll es s).flatMap f = s.flatMap f := by
  induction es generalizing s with
  | nil => rfl
  | cons e es ih =>
    exact (ih (fun e' he' => hf e' (List.mem_cons_of_mem e he')) _).trans
      (flatMap_unescape (hf e List.mem_cons_self) s)

theorem unescapeAll_escapeAll_iff {f : α → List Bool} {es : List (Escape mark)} (hshows : e.Shows f)
    (hblind : ∀ e' ∈ es, e'.Blind f) (s : List α)
    : unescapeAll (e :: es) (escapeAll (e :: es) s) = s
        ↔ ¬e.Misread (escapeAll es s) ∧ unescapeAll es (escapeAll es s) = s := by
  rw [← unescape_escape_iff]
  constructor
  . intro h
    have hfirst : e.unescape 0 (e.escape (escapeAll es s)) = escapeAll es s := by
      refine eq_of_escape_eq hshows (escape_unescape (char_not_mem_escape _)) ?_
      rw [flatMap_escapeAll hblind, ← flatMap_unescapeAll hblind]
      exact congrArg (List.flatMap f) h
    refine ⟨hfirst, ?_⟩
    calc unescapeAll es (escapeAll es s)
      _ = unescapeAll es (e.unescape 0 (e.escape (escapeAll es s))) := by rw [hfirst]
      _ = s := h
  . rintro ⟨hfirst, hrest⟩
    calc unescapeAll es (e.unescape 0 (e.escape (escapeAll es s)))
      _ = unescapeAll es (escapeAll es s) := by rw [hfirst]
      _ = s := hrest

end Several

section Commuting

theorem escape_append (s t : List α) : e.escape (s ++ t) = e.escape s ++ e.escape t := by
  exact List.flatMap_append

theorem escape_of_not_mem (h : e.char ∉ s) : e.escape s = s := by
  induction s with
  | nil => rfl
  | cons a s ih =>
    rw [escape_cons_of_ne (fun heq => h (heq ▸ List.mem_cons_self)),
      ih (fun hmem => h (List.mem_cons_of_mem a hmem))]

theorem escape_comm (e e' : Escape mark) (hne : e.char ≠ e'.char) (h : e'.char ∉ e.token)
    (h' : e.char ∉ e'.token) (s : List α)
    : e'.escape (e.escape s) = e.escape (e'.escape s) := by
  induction s with
  | nil => rfl
  | cons a s ih =>
    by_cases ha : a = e.char
    . rw [ha, escape_cons_self, escape_append, escape_of_not_mem h, escape_cons_of_ne hne,
        escape_cons_self, ih]
    . by_cases ha' : a = e'.char
      . rw [ha', escape_cons_self, escape_append, escape_of_not_mem h', escape_cons_of_ne hne.symm,
          escape_cons_self, ih]
      . rw [escape_cons_of_ne ha, escape_cons_of_ne ha', escape_cons_of_ne ha', escape_cons_of_ne ha, ih]

end Commuting

section Standing

/-- The word stands between one of the symbols before it and one of those behind it. -/
def Stands (before behind w s : List α) : Prop :=
  ∃ x ∈ before, ∃ y ∈ behind, x :: (w ++ [y]) <:+: s

omit [DecidableEq α] in
theorem misread_iff_stands : e.Misread s ↔ Stands [mark] [mark, e.char] e.body s := by
  simp [Misread, Stands]

theorem forall_apart_of_all {symbols : List α}
    (h : symbols.all (fun x => decide (x ≠ e.char ∧ x ∉ e.body)) = true)
    : ∀ x ∈ symbols, x ≠ e.char ∧ x ∉ e.body := by
  intro x hx
  exact of_decide_eq_true (List.all_eq_true.mp h x hx)

theorem stands_escape_iff {before behind w : List α} (hmark : mark ∉ w) (hchar : e.char ∉ w)
    (hne : w ≠ e.body) (hbefore : ∀ x ∈ before, x ≠ e.char ∧ x ∉ e.body)
    (hbehind : ∀ y ∈ behind, y ≠ e.char ∧ y ∉ e.body) (s : List α)
    : Stands before behind w (e.escape s)
        ↔ Stands (before.flatMap e.origins) (behind.flatMap e.origins) w s := by
  unfold Stands
  simp only [List.mem_flatMap]
  constructor
  . rintro ⟨x, hx, y, hy, h⟩
    obtain ⟨x', hx', y', hy', h'⟩ := (infix_escape_iff hmark hchar hne (hbefore x hx).1
      (hbefore x hx).2 (hbehind y hy).1 (hbehind y hy).2 s).mp h
    exact ⟨x', ⟨x, hx, hx'⟩, y', ⟨y, hy, hy'⟩, h'⟩
  . rintro ⟨x', ⟨x, hx, hx'⟩, y', ⟨y, hy, hy'⟩, h'⟩
    exact ⟨x, hx, y, hy, (infix_escape_iff hmark hchar hne (hbefore x hx).1
      (hbefore x hx).2 (hbehind y hy).1 (hbehind y hy).2 s).mpr ⟨x', hx', y', hy', h'⟩⟩

end Standing

end Escape
