import Mathlib.Data.List.Nodup
import Mathlib.Data.List.Perm.Subperm

/-!
This module contains runs in stages. The items of a stage are started one after the other, each one when
the one before it is finished, or all at once. An item may end its stage when it is finished, and the
item that is finished last in a stage may stop the run.
-/

namespace Stages

variable {α : Type}

/-- The items up to the first one with the property, which is included. -/
def through (p : α → Bool) : List α → List α
  | [] => []
  | a :: rest => if p a then [a] else a :: through p rest

section Through

variable {p : α → Bool} {l before after : List α} {a : α}

theorem through_cons_of_pos (rest : List α) (h : p a = true) : through p (a :: rest) = [a] := by
  rw [through, if_pos h]

theorem through_cons_of_neg (rest : List α) (h : p a = false)
    : through p (a :: rest) = a :: through p rest := by
  rw [through, h]
  rfl

theorem through_append (h : ∀ b ∈ before, p b = false) (after : List α)
    : through p (before ++ after) = before ++ through p after := by
  induction before with
  | nil => rfl
  | cons b before ih =>
    rw [List.cons_append, through_cons_of_neg _ (h b (List.mem_cons_self ..)),
      ih (fun c hc => h c (List.mem_cons_of_mem _ hc)), List.cons_append]

theorem through_eq_self (h : ∀ b ∈ l, p b = false) : through p l = l := by
  have happend := through_append h []
  rw [List.append_nil] at happend
  rw [happend]
  exact List.append_nil l

theorem forall_of_through_eq (h : through p l = before ++ a :: after)
    : (∀ b ∈ before, p b = false) ∧ ∃ after', l = before ++ a :: after' := by
  induction l generalizing before with
  | nil =>
    rw [through] at h
    exact absurd h.symm (by simp)
  | cons c l ih =>
    cases hc : p c with
    | true =>
      rw [through_cons_of_pos _ hc] at h
      cases before with
      | nil =>
        cases h
        exact ⟨nofun, l, rfl⟩
      | cons b before => exact absurd (congrArg List.length h) (by simp)
    | false =>
      rw [through_cons_of_neg _ hc] at h
      cases before with
      | nil =>
        obtain ⟨rfl, _⟩ := List.cons.inj h
        exact ⟨nofun, l, rfl⟩
      | cons b before =>
        rw [List.cons_append] at h
        obtain ⟨rfl, htail⟩ := List.cons.inj h
        obtain ⟨hbefore, after', rfl⟩ := ih htail
        refine ⟨?_, after', rfl⟩
        intro d hd
        obtain rfl | hd := List.mem_cons.mp hd
        . exact hc
        . exact hbefore d hd

theorem through_eq_of_forall (h : ∀ b ∈ before, p b = false) (a : α) (after : List α)
    : ∃ after', through p (before ++ a :: after) = before ++ a :: after' := by
  rw [through_append h]
  cases ha : p a with
  | true => exact ⟨[], by rw [through_cons_of_pos _ ha]⟩
  | false => exact ⟨through p after, by rw [through_cons_of_neg _ ha]⟩

theorem mem_through_iff
    : a ∈ through p l ↔ ∃ before after, l = before ++ a :: after ∧ ∀ b ∈ before, p b = false := by
  constructor
  . intro h
    obtain ⟨before, after, h⟩ := List.append_of_mem h
    obtain ⟨hbefore, after', hl⟩ := forall_of_through_eq h
    exact ⟨before, after', hl, hbefore⟩
  . rintro ⟨before, after, rfl, hbefore⟩
    obtain ⟨after', h⟩ := through_eq_of_forall hbefore a after
    rw [h]
    exact List.mem_append_right _ (List.mem_cons_self ..)

theorem through_initial (p : α → Bool) (l : List α) : through p l <+: l := by
  induction l with
  | nil => exact List.prefix_refl []
  | cons a l ih =>
    cases ha : p a with
    | true =>
      rw [through_cons_of_pos _ ha]
      exact List.cons_prefix_cons.mpr ⟨rfl, List.nil_prefix⟩
    | false =>
      rw [through_cons_of_neg _ ha]
      exact List.cons_prefix_cons.mpr ⟨rfl, ih⟩

theorem through_eq_append_singleton (hmem : a ∈ through p l) (ha : p a = true)
    : ∃ before, through p l = before ++ [a] := by
  obtain ⟨before, after, rfl, hbefore⟩ := mem_through_iff.mp hmem
  exact ⟨before, by rw [through_append hbefore, through_cons_of_pos _ ha]⟩

theorem eq_nil_of_through_eq (h : through p l = before ++ a :: after) (ha : p a = true)
    : after = [] := by
  obtain ⟨hbefore, after', rfl⟩ := forall_of_through_eq h
  rw [through_append hbefore, through_cons_of_pos _ ha] at h
  exact ((List.cons.inj (List.append_cancel_left h)).2).symm

theorem through_ne_nil (h : l ≠ []) : through p l ≠ [] := by
  cases l with
  | nil => exact absurd rfl h
  | cons a l =>
    cases ha : p a with
    | true => simp [through_cons_of_pos _ ha]
    | false => simp [through_cons_of_neg _ ha]

theorem through_eq_self_iff : through p l = l ↔ ∀ b ∈ l.dropLast, p b = false := by
  constructor
  . intro h b hb
    have hsplit : through p l = l.dropLast ++ [l.getLast (fun hnil => by simp [hnil] at hb)] := by
      rw [h, List.dropLast_append_getLast]
    exact (forall_of_through_eq hsplit).1 b hb
  . intro h
    cases hl : l with
    | nil => rfl
    | cons a rest =>
      rw [← hl]
      have hne : l ≠ [] := by
        rw [hl]
        exact List.cons_ne_nil _ _
      rw [← List.dropLast_append_getLast hne]
      obtain ⟨after, hthrough⟩ := through_eq_of_forall h (l.getLast hne) []
      have hprefix := through_initial p (l.dropLast ++ [l.getLast hne])
      rw [hthrough] at hprefix ⊢
      have hlength := hprefix.length_le
      simp only [List.length_append, List.length_cons, List.length_nil] at hlength
      rw [List.eq_nil_of_length_eq_zero (by omega : after.length = 0)]

end Through

theorem flatMap_eq_append_cons {β : Type} {f : α → List β} {l : List α} {x : β}
    {before after : List β} (h : l.flatMap f = before ++ x :: after)
    : ∃ earlier a later before' after', l = earlier ++ a :: later ∧ f a = before' ++ x :: after'
        ∧ before = earlier.flatMap f ++ before' := by
  induction l generalizing before with
  | nil => exact absurd h.symm (by simp)
  | cons a l ih =>
    rw [List.flatMap_cons] at h
    obtain ⟨rest, hbefore, hrest⟩ | ⟨rest, hfirst, hrest⟩ := List.append_eq_append_iff.mp h
    . obtain ⟨earlier, b, later, before', after', rfl, hb, rfl⟩ := ih hrest
      exact ⟨a :: earlier, b, later, before', after', rfl, hb, by
        rw [hbefore, List.flatMap_cons, List.append_assoc]⟩
    . cases rest with
      | nil =>
        rw [List.nil_append] at hrest
        obtain ⟨earlier, b, later, before', after', rfl, hb, hearlier⟩ := ih (hrest.symm.trans
          (List.nil_append _).symm)
        refine ⟨a :: earlier, b, later, before', after', rfl, hb, ?_⟩
        rw [List.flatMap_cons, List.append_assoc, ← hearlier, hfirst]
        simp
      | cons y rest =>
        obtain ⟨rfl, _⟩ := List.cons.inj hrest
        exact ⟨[], a, l, before, rest, rfl, hfirst, rfl⟩

inductive Step (α : Type) where
  | started (stage : Nat) (item : α)
  | finished (stage : Nat) (item : α)

def Step.finished? : Step α → Option α
  | started .. => none
  | finished _ item => some item

structure Stage (α : Type) where
  index : Nat
  parallel : Bool
  items : List α

section Run

variable (ends stops : α → Bool)

def Stage.steps (s : Stage α) : List (Step α) :=
  if s.parallel then
    s.items.map (.started s.index) ++ (through ends s.items).map (.finished s.index)
  else
    (through ends s.items).flatMap (fun a => [.started s.index a, .finished s.index a])

def Stage.stopsRun (s : Stage α) : Bool :=
  (through ends s.items).getLast?.any stops

def reached (stages : List (Stage α)) : List (Stage α) :=
  through (Stage.stopsRun ends stops) stages

def run (stages : List (Stage α)) : List (Step α) :=
  (reached ends stops stages).flatMap (Stage.steps ends)

end Run

section Steps

variable {ends stops : α → Bool} {s : Stage α} {stages : List (Stage α)} {i : Nat} {a : α}

theorem started_mem_steps_iff
    : .started i a ∈ s.steps ends
        ↔ i = s.index ∧ a ∈ if s.parallel then s.items else through ends s.items := by
  unfold Stage.steps
  split
  . simp [eq_comm, and_comm]
  . simp [and_comm]

theorem finished_mem_steps_iff
    : .finished i a ∈ s.steps ends ↔ i = s.index ∧ a ∈ through ends s.items := by
  unfold Stage.steps
  split
  . simp [eq_comm, and_comm]
  . simp [and_comm]

theorem filterMap_finished?_map_started (i : Nat) (l : List α)
    : (l.map (Step.started i)).filterMap Step.finished? = [] := by
  rw [List.filterMap_map]
  exact List.filterMap_eq_nil_iff.mpr (fun _ _ => rfl)

theorem filterMap_finished?_steps (s : Stage α)
    : (s.steps ends).filterMap Step.finished? = through ends s.items := by
  unfold Stage.steps
  split
  . rw [List.filterMap_append, filterMap_finished?_map_started, List.filterMap_map]
    exact List.filterMap_some
  . rw [List.filterMap_flatMap]
    exact List.flatMap_singleton' _

theorem finished_mem_run_iff
    : .finished i a ∈ run ends stops stages
        ↔ ∃ s ∈ reached ends stops stages, i = s.index ∧ a ∈ through ends s.items := by
  unfold run
  rw [List.mem_flatMap]
  simp only [finished_mem_steps_iff]

theorem steps_ne_nil (h : s.items ≠ []) : ∃ b, .started s.index b ∈ s.steps ends := by
  have hstarts : (if s.parallel then s.items else through ends s.items) ≠ [] := by
    split
    . exact h
    . exact through_ne_nil h
  obtain ⟨b, hb⟩ := List.exists_mem_of_ne_nil _ hstarts
  exact ⟨b, started_mem_steps_iff.mpr ⟨rfl, hb⟩⟩

/-- What is finished in front of the start of an item: in a serial stage the items in front of it. -/
def FinishedBefore (s : Stage α) (earlier : List α) (before : List (Step α)) : Prop :=
  ∀ j b, .finished j b ∈ before ↔ s.parallel = false ∧ j = s.index ∧ b ∈ earlier

theorem finishedBefore_of_steps_eq {before after : List (Step α)}
    (h : s.steps ends = before ++ .started i a :: after)
    : ∃ earlier later, s.items = earlier ++ a :: later
        ∧ (s.parallel = true ∨ ∀ b ∈ earlier, ends b = false) ∧ FinishedBefore s earlier before := by
  unfold Stage.steps at h
  cases hparallel : s.parallel with
  | true =>
    rw [if_pos hparallel] at h
    have hfinished : .started i a ∉ (through ends s.items).map (Step.finished s.index) := by
      simp
    obtain ⟨rest, _, hrest⟩ | ⟨rest, hstarts, hrest⟩ := List.append_eq_append_iff.mp h
    . exact absurd (hrest ▸ List.mem_append_right _ (List.mem_cons_self ..)) hfinished
    . cases rest with
      | nil =>
        rw [List.nil_append] at hrest
        exact absurd (hrest ▸ List.mem_cons_self ..) hfinished
      | cons x rest =>
        obtain ⟨rfl, _⟩ := List.cons.inj hrest
        obtain ⟨earlier, others, hitems, rfl, hothers⟩ := List.map_eq_append_iff.mp hstarts
        obtain ⟨b, later, rfl, hb, _⟩ := List.map_eq_cons_iff.mp hothers
        obtain ⟨_, rfl⟩ := Step.started.inj hb
        refine ⟨earlier, later, hitems, .inl rfl, ?_⟩
        intro j c
        simp [hparallel]
  | false =>
    rw [hparallel, if_neg Bool.false_ne_true] at h
    obtain ⟨earlier, b, later, before', after', hthrough, hb, rfl⟩ := flatMap_eq_append_cons h
    obtain ⟨hearlier, later', hitems⟩ := forall_of_through_eq hthrough
    have hbefore' : before' = [] ∧ b = a := by
      obtain ⟨rfl, hb⟩ | ⟨rest, rfl, hrest⟩ := List.cons_eq_append_iff.mp hb
      . obtain ⟨hb, _⟩ := List.cons.inj hb
        exact ⟨rfl, (Step.started.inj hb).2⟩
      . have hmem : Step.started i a ∈ [Step.finished s.index b] := by
          rw [hrest]
          exact List.mem_append_right _ (List.mem_cons_self ..)
        simp at hmem
    obtain ⟨rfl, rfl⟩ := hbefore'
    refine ⟨earlier, later', hitems, .inr hearlier, ?_⟩
    intro j c
    simp [and_comm, hparallel]

theorem steps_eq_of_items_eq {earlier later : List α} (hitems : s.items = earlier ++ a :: later)
    (hearlier : s.parallel = true ∨ ∀ b ∈ earlier, ends b = false)
    : ∃ before after, s.steps ends = before ++ .started s.index a :: after
        ∧ FinishedBefore s earlier before := by
  unfold Stage.steps FinishedBefore
  cases hparallel : s.parallel with
  | true =>
    refine ⟨earlier.map (.started s.index), later.map (.started s.index)
      ++ (through ends s.items).map (.finished s.index), ?_, ?_⟩
    . rw [if_pos rfl, hitems, List.map_append, List.map_cons, List.append_assoc, List.cons_append]
    . simp
  | false =>
    obtain ⟨later', hthrough⟩ :=
      through_eq_of_forall (hearlier.resolve_left (by simp [hparallel])) a later
    rw [hitems, hthrough, List.flatMap_append, List.flatMap_cons]
    refine ⟨_, _, rfl, ?_⟩
    simp [and_comm]

end Steps

def Unended (ends : α → Bool) (stages : List (Stage α)) : Prop :=
  ∀ s ∈ stages, ∀ a ∈ s.items, ends a = false

/--
Each item is started when the ones that it needs are finished, and when an item ends its stage nothing
of a later stage is started.
-/
structure InOrder (ends stops : α → Bool) (needs : α → α → Prop) (stages : List (Stage α))
    : Prop where
  needed : ∀ before i a after, run ends stops stages = before ++ .started i a :: after
    → ∀ b, needs a b → ∃ j, .finished j b ∈ before
  held : ∀ i a j b, .finished i a ∈ run ends stops stages → ends a = true
    → .started j b ∈ run ends stops stages → j ≤ i

/--
As long as nothing has ended its stage, each item that is started needs only items of earlier stages
and, in a serial stage, items in front of it, and one that ends its stage without stopping the run is in
the last stage.
-/
structure Orderly (ends stops : α → Bool) (needs : α → α → Prop) (stages : List (Stage α))
    : Prop where
  needed : ∀ before s after earlier a later, stages = before ++ s :: after → Unended ends before
    → s.items = earlier ++ a :: later → (s.parallel = true ∨ ∀ b ∈ earlier, ends b = false)
    → ∀ b, needs a b → (∃ t ∈ before, b ∈ t.items) ∨ (s.parallel = false ∧ b ∈ earlier)
  held : ∀ before s after earlier a later, stages = before ++ s :: after → Unended ends before
    → s.items = earlier ++ a :: later → (∀ b ∈ earlier, ends b = false) → ends a = true
    → stops a = false → after = []

section Order

variable {ends stops : α → Bool} {needs : α → α → Prop} {s : Stage α}
  {stages before after : List (Stage α)} {a : α} (hstops : ∀ a, stops a = true → ends a = true)

theorem stopsRun_eq (hmem : a ∈ through ends s.items) (ha : ends a = true)
    : s.stopsRun ends stops = stops a := by
  obtain ⟨earlier, hthrough⟩ := through_eq_append_singleton hmem ha
  unfold Stage.stopsRun
  rw [hthrough, List.getLast?_concat, Option.any_some]

theorem getLast?_of_last (hmem : a ∈ through ends s.items) (hends : ends a = true)
    (hreached : reached ends stops stages = before ++ [s])
    : ((run ends stops stages).filterMap Step.finished?).getLast? = some a := by
  obtain ⟨earlier, hthrough⟩ := through_eq_append_singleton hmem hends
  unfold run
  rw [hreached, List.flatMap_append, List.flatMap_singleton, List.filterMap_append,
    filterMap_finished?_steps, hthrough, ← List.append_assoc, List.getLast?_concat]

section Stops

include hstops

theorem stopsRun_of_unended (h : ∀ b ∈ s.items, ends b = false)
    : s.stopsRun ends stops = false := by
  unfold Stage.stopsRun
  rw [through_eq_self h]
  cases hlast : s.items.getLast? with
  | none => rfl
  | some b =>
    have hb := h b (List.mem_of_getLast? hlast)
    rw [Option.any_some]
    cases hstop : stops b with
    | false => rfl
    | true => rw [hstops b hstop] at hb; exact hb

theorem reached_of_unended (h : Unended ends before) (s : Stage α) (after : List (Stage α))
    : ∃ after', reached ends stops (before ++ s :: after) = before ++ s :: after' := by
  exact through_eq_of_forall (fun t ht => stopsRun_of_unended hstops (h t ht)) s after

theorem stops_of_finished_before {i j : Nat} {b : α} {earlier later : List (Step α)}
    (h : run ends stops stages = earlier ++ .started i a :: later)
    (hb : .finished j b ∈ earlier)
    : stops b = false := by
  obtain ⟨before, s, after, before', after', hreached, hsteps, rfl⟩ := flatMap_eq_append_cons h
  cases hstop : stops b with
  | false => rfl
  | true =>
    have hends := hstops b hstop
    obtain hb | hb := List.mem_append.mp hb
    . obtain ⟨t, ht, hb⟩ := List.mem_flatMap.mp hb
      have hrun : t.stopsRun ends stops = stops b :=
        stopsRun_eq (finished_mem_steps_iff.mp hb).2 hends
      rw [(forall_of_through_eq hreached).1 t ht, hstop] at hrun
      exact hrun.symm
    . obtain ⟨items, _, _, hitems, hbefore⟩ := finishedBefore_of_steps_eq hsteps
      obtain ⟨hserial, _, hmem⟩ := (hbefore j b).mp hb
      rw [hitems.resolve_left (by simp [hserial]) b hmem] at hends
      cases hends

end Stops

theorem Orderly.unended (h : Orderly ends stops needs stages)
    (hreached : reached ends stops stages = before ++ s :: after)
    : Unended ends before := by
  obtain ⟨hbefore, after', hstages⟩ := forall_of_through_eq hreached
  by_contra hnot
  have hany : ∃ t ∈ before, (t.items.any ends) = true := by
    unfold Unended at hnot
    simp only [not_forall] at hnot
    obtain ⟨t, ht, b, hb, hends⟩ := hnot
    exact ⟨t, ht, List.any_eq_true.mpr ⟨b, hb, by simpa using hends⟩⟩
  obtain ⟨t, hfind⟩ := Option.isSome_iff_exists.mp (List.find?_isSome.mpr hany)
  obtain ⟨ht, first, rest, rfl, hfirst⟩ := List.find?_eq_some_iff_append.mp hfind
  obtain ⟨b, hfindItem⟩ := Option.isSome_iff_exists.mp
    (List.find?_isSome.mpr (List.any_eq_true.mp ht))
  obtain ⟨hb, earlier, later, hitems, hearlier⟩ := List.find?_eq_some_iff_append.mp hfindItem
  have hmem : b ∈ through ends t.items :=
    mem_through_iff.mpr ⟨earlier, later, hitems, fun c hc => by simpa using hearlier c hc⟩
  have hstop : stops b = false := by
    have hrun : t.stopsRun ends stops = stops b := stopsRun_eq hmem hb
    rw [← hrun]
    exact hbefore t (List.mem_append_right _ (List.mem_cons_self ..))
  have hnil := h.held first t (rest ++ s :: after') earlier b later
    (by rw [hstages, List.append_assoc, List.cons_append])
    (fun u hu c hc => by
      have hunended := hfirst u hu
      simp only [Bool.not_eq_true', List.any_eq_false] at hunended
      simpa using hunended c hc)
    hitems (fun c hc => by simpa using hearlier c hc) hb hstop
  simp at hnil

theorem index_le_of_last (hindex : stages.Pairwise (fun s t => s.index < t.index))
    (hreached : reached ends stops stages = before ++ [s]) {j : Nat} {b : α}
    (hstarted : .started j b ∈ run ends stops stages)
    : j ≤ s.index := by
  obtain ⟨_, after', hstages⟩ := forall_of_through_eq hreached
  obtain ⟨t, ht, hb⟩ := List.mem_flatMap.mp hstarted
  obtain ⟨rfl, _⟩ := started_mem_steps_iff.mp hb
  rw [hreached] at ht
  obtain ht | ht := List.mem_append.mp ht
  . rw [hstages] at hindex
    exact Nat.le_of_lt ((List.pairwise_append.mp hindex).2.2 t ht s (List.mem_cons_self ..))
  . exact Nat.le_of_eq (congrArg Stage.index (List.mem_singleton.mp ht))

theorem reached_of_stops (hmem : a ∈ through ends s.items) (hends : ends a = true)
    (ha : stops a = true) (hreached : reached ends stops stages = before ++ s :: after)
    : after = [] := by
  exact eq_nil_of_through_eq hreached (by rw [stopsRun_eq hmem hends]; exact ha)

theorem getLast?_of_stops {i : Nat} (hstops : ∀ a, stops a = true → ends a = true)
    (h : .finished i a ∈ run ends stops stages) (ha : stops a = true)
    : ((run ends stops stages).filterMap Step.finished?).getLast? = some a := by
  obtain ⟨s, hs, _, hmem⟩ := finished_mem_run_iff.mp h
  obtain ⟨before, after, hreached⟩ := List.append_of_mem hs
  rw [reached_of_stops hmem (hstops a ha) ha hreached] at hreached
  exact getLast?_of_last hmem (hstops a ha) hreached

theorem index_le_of_stops (hstops : ∀ a, stops a = true → ends a = true)
    (hindex : stages.Pairwise (fun s t => s.index < t.index)) {i j : Nat} {b : α}
    (h : .finished i a ∈ run ends stops stages) (ha : stops a = true)
    (hstarted : .started j b ∈ run ends stops stages)
    : j ≤ i := by
  obtain ⟨s, hs, rfl, hmem⟩ := finished_mem_run_iff.mp h
  obtain ⟨before, after, hreached⟩ := List.append_of_mem hs
  have hafter := reached_of_stops hmem (hstops a ha) ha hreached
  rw [hafter] at hreached
  exact index_le_of_last hindex hreached hstarted

theorem Orderly.reached_of_ends (h : Orderly ends stops needs stages)
    (hmem : a ∈ through ends s.items) (hends : ends a = true)
    (hreached : reached ends stops stages = before ++ s :: after)
    : after = [] := by
  cases hstop : stops a with
  | true => exact reached_of_stops hmem hends hstop hreached
  | false =>
    obtain ⟨_, after', hstages⟩ := forall_of_through_eq hreached
    obtain ⟨earlier, later, hitems, hearlier⟩ := mem_through_iff.mp hmem
    have hnil := h.held before s after' earlier a later hstages (h.unended hreached) hitems
      hearlier hends hstop
    have hprefix := through_initial (Stage.stopsRun ends stops) stages
    unfold reached at hreached
    rw [hreached, hstages, hnil] at hprefix
    have hlength := hprefix.length_le
    simp only [List.length_append, List.length_cons, List.length_nil] at hlength
    exact List.eq_nil_of_length_eq_zero (by omega)

theorem Orderly.getLast?_of_ends (h : Orderly ends stops needs stages) {i : Nat}
    (hfinished : .finished i a ∈ run ends stops stages) (hends : ends a = true)
    : ((run ends stops stages).filterMap Step.finished?).getLast? = some a := by
  obtain ⟨s, hs, _, hmem⟩ := finished_mem_run_iff.mp hfinished
  obtain ⟨before, after, hreached⟩ := List.append_of_mem hs
  exact getLast?_of_last hmem hends (h.reached_of_ends hmem hends hreached ▸ hreached)

theorem inOrder_of_orderly (hindex : stages.Pairwise (fun s t => s.index < t.index))
    (h : Orderly ends stops needs stages)
    : InOrder ends stops needs stages := by
  constructor
  . intro before i a after hrun b hneeds
    obtain ⟨earlierStages, s, laterStages, before', after', hreached, hsteps, rfl⟩ :=
      flatMap_eq_append_cons hrun
    obtain ⟨_, later', hstages⟩ := forall_of_through_eq hreached
    have hunended := h.unended hreached
    obtain ⟨earlier, later, hitems, hearlier, hbefore⟩ := finishedBefore_of_steps_eq hsteps
    obtain ⟨t, ht, hb⟩ | ⟨hserial, hb⟩ := h.needed earlierStages s later' earlier a later hstages
      hunended hitems hearlier b hneeds
    . refine ⟨t.index, List.mem_append_left _ (List.mem_flatMap.mpr ⟨t, ht, ?_⟩)⟩
      apply finished_mem_steps_iff.mpr
      exact ⟨rfl, by rw [through_eq_self (hunended t ht)]; exact hb⟩
    . exact ⟨s.index, List.mem_append_right _ ((hbefore s.index b).mpr ⟨hserial, rfl, hb⟩)⟩
  . intro i a j b hfinished hends hstarted
    obtain ⟨s, hs, rfl, ha⟩ := finished_mem_run_iff.mp hfinished
    obtain ⟨before, after, hreached⟩ := List.append_of_mem hs
    rw [h.reached_of_ends ha hends hreached] at hreached
    exact index_le_of_last hindex hreached hstarted

theorem run_eq_append_started (hstops : ∀ a, stops a = true → ends a = true)
    (hstages : stages = before ++ s :: after) (hunended : Unended ends before)
    {earlier later : List α} (hitems : s.items = earlier ++ a :: later)
    (hearlier : s.parallel = true ∨ ∀ b ∈ earlier, ends b = false)
    : ∃ before' after', run ends stops stages
          = (before.flatMap (Stage.steps ends) ++ before') ++ .started s.index a :: after'
        ∧ FinishedBefore s earlier before' := by
  obtain ⟨later', hreached⟩ := reached_of_unended hstops hunended s after
  obtain ⟨before', after', hsteps, hbefore⟩ := steps_eq_of_items_eq hitems hearlier
  refine ⟨before', after' ++ later'.flatMap (Stage.steps ends), ?_, hbefore⟩
  unfold run
  rw [hstages, hreached, List.flatMap_append, List.flatMap_cons, hsteps]
  simp

theorem orderly_of_inOrder (hstops : ∀ a, stops a = true → ends a = true)
    (hindex : stages.Pairwise (fun s t => s.index < t.index))
    (hitems : ∀ s ∈ stages, s.items ≠ []) (h : InOrder ends stops needs stages)
    : Orderly ends stops needs stages := by
  constructor
  . intro before s after earlier a later hstages hunended hsplit hearlier b hneeds
    obtain ⟨before', after', hrun, hbefore⟩ :=
      run_eq_append_started hstops hstages hunended hsplit hearlier
    obtain ⟨j, hj⟩ := h.needed _ _ _ _ hrun b hneeds
    obtain hj | hj := List.mem_append.mp hj
    . obtain ⟨t, ht, hb⟩ := List.mem_flatMap.mp hj
      exact .inl ⟨t, ht, (through_initial ends t.items).subset (finished_mem_steps_iff.mp hb).2⟩
    . obtain ⟨hserial, _, hb⟩ := (hbefore j b).mp hj
      exact .inr ⟨hserial, hb⟩
  . intro before s after earlier a later hstages hunended hsplit hearlier hends hstop
    have hmem : a ∈ through ends s.items := mem_through_iff.mpr ⟨earlier, later, hsplit, hearlier⟩
    have hcontinues : s.stopsRun ends stops = stops a := stopsRun_eq hmem hends
    rw [hstop] at hcontinues
    cases after with
    | nil => rfl
    | cons t after =>
      have hall : ∀ u ∈ before ++ [s], u.stopsRun ends stops = false := by
        intro u hu
        obtain hu | hu := List.mem_append.mp hu
        . exact stopsRun_of_unended hstops (hunended u hu)
        . rw [List.mem_singleton.mp hu]
          exact hcontinues
      obtain ⟨after', hreached⟩ := through_eq_of_forall hall t after
      rw [List.append_assoc, List.singleton_append, ← hstages] at hreached
      have hs : s ∈ reached ends stops stages := by
        unfold reached
        rw [hreached]
        simp
      have ht : t ∈ reached ends stops stages := by
        unfold reached
        rw [hreached]
        simp
      have hne := hitems t (by rw [hstages]; simp)
      obtain ⟨b, hb⟩ : ∃ b, .started t.index b ∈ t.steps ends := steps_ne_nil hne
      have hle := h.held s.index a t.index b (finished_mem_run_iff.mpr ⟨s, hs, rfl, hmem⟩) hends
        (List.mem_flatMap.mpr ⟨t, ht, hb⟩)
      rw [hstages] at hindex
      have hlt := (List.pairwise_cons.mp (List.pairwise_append.mp hindex).2.1).1 t
        (List.mem_cons_self ..)
      omega

end Order

section Complete

variable {ends stops : α → Bool} {stages : List (Stage α)}

theorem filterMap_finished?_run
    : (run ends stops stages).filterMap Step.finished?
        = (reached ends stops stages).flatMap (fun s => through ends s.items) := by
  unfold run
  rw [List.filterMap_flatMap]
  exact List.flatMap_congr (fun s _ => filterMap_finished?_steps s)

theorem not_finished_before {i j : Nat} {a : α} {before after : List (Step α)}
    (hnodup : (stages.flatMap Stage.items).Nodup)
    (h : run ends stops stages = before ++ .started i a :: after)
    : .finished j a ∉ before := by
  obtain ⟨first, s, rest, before', after', hreached, hsteps, rfl⟩ := flatMap_eq_append_cons h
  obtain ⟨_, rest', hstages⟩ := forall_of_through_eq hreached
  obtain ⟨earlier, later, hitems, _, hbefore⟩ := finishedBefore_of_steps_eq hsteps
  rw [hstages, List.flatMap_append, List.flatMap_cons, hitems] at hnodup
  obtain ⟨_, hrest, hdisjoint⟩ := List.nodup_append.mp hnodup
  intro hmem
  obtain hmem | hmem := List.mem_append.mp hmem
  . obtain ⟨t, ht, hfinished⟩ := List.mem_flatMap.mp hmem
    have ha := (through_initial ends t.items).subset (finished_mem_steps_iff.mp hfinished).2
    exact hdisjoint a (List.mem_flatMap.mpr ⟨t, ht, ha⟩) a (by simp) rfl
  . have ha := ((hbefore j a).mp hmem).2.2
    obtain ⟨hsplit, _⟩ := List.nodup_append.mp hrest
    exact (List.nodup_append.mp hsplit).2.2 a ha a (List.mem_cons_self ..) rfl

/--
The stages are run through: at most the last item of a stage ends it, and at most the last stage stops
the run.
-/
structure RunsThrough (ends stops : α → Bool) (stages : List (Stage α)) : Prop where
  items : ∀ s ∈ stages, ∀ a ∈ s.items.dropLast, ends a = false
  stages : ∀ s ∈ stages.dropLast, ∀ a ∈ s.items.getLast?, stops a = false

theorem sublist_flatMap_through (stopsStage : Stage α → Bool) (stages : List (Stage α))
    : ((through stopsStage stages).flatMap (fun s => through ends s.items)).Sublist
        (stages.flatMap Stage.items) := by
  induction stages with
  | nil => exact List.Sublist.refl _
  | cons s stages ih =>
    have hfirst := (through_initial ends s.items).sublist
    cases hstop : stopsStage s with
    | true =>
      rw [through_cons_of_pos _ hstop, List.flatMap_cons, List.flatMap_cons]
      exact hfirst.append (List.nil_sublist _)
    | false =>
      rw [through_cons_of_neg _ hstop, List.flatMap_cons, List.flatMap_cons]
      exact hfirst.append ih

theorem nodup_finished (hnodup : (stages.flatMap Stage.items).Nodup)
    : ((run ends stops stages).filterMap Step.finished?).Nodup := by
  rw [filterMap_finished?_run]
  exact hnodup.sublist (sublist_flatMap_through _ stages)

theorem flatMap_through_eq_iff (hitems : ∀ s ∈ stages, s.items ≠ []) (stopsStage : Stage α → Bool)
    : (through stopsStage stages).flatMap (fun s => through ends s.items)
          = stages.flatMap Stage.items
        ↔ through stopsStage stages = stages ∧ ∀ s ∈ stages, through ends s.items = s.items := by
  constructor
  . intro h
    induction stages with
    | nil => exact ⟨rfl, nofun⟩
    | cons s stages ih =>
      have hrest := fun t ht => hitems t (List.mem_cons_of_mem s ht)
      have hprefix := through_initial ends s.items
      have hfirst := hprefix.length_le
      rw [List.flatMap_cons] at h
      cases hstop : stopsStage s with
      | true =>
        rw [through_cons_of_pos _ hstop, List.flatMap_cons, List.flatMap_nil, List.append_nil] at h
        have hlength := congrArg List.length h
        rw [List.length_append] at hlength
        have hnil : stages = [] := by
          cases stages with
          | nil => rfl
          | cons t stages =>
            have hne := List.length_pos_iff.mpr (hrest t (List.mem_cons_self ..))
            rw [List.flatMap_cons, List.length_append] at hlength
            omega
        subst hnil
        refine ⟨through_cons_of_pos _ hstop, ?_⟩
        intro t ht
        rw [List.mem_singleton.mp ht]
        exact hprefix.eq_of_length_le (by omega)
      | false =>
        rw [through_cons_of_neg _ hstop, List.flatMap_cons] at h
        have hshorter := (@sublist_flatMap_through α ends stopsStage stages).length_le
        have hlength := congrArg List.length h
        rw [List.length_append, List.length_append] at hlength
        obtain ⟨heq, hflat⟩ := List.append_inj h (by omega)
        obtain ⟨hstages, hall⟩ := ih hrest hflat
        refine ⟨by rw [through_cons_of_neg _ hstop, hstages], ?_⟩
        intro t ht
        obtain rfl | ht := List.mem_cons.mp ht
        . exact heq
        . exact hall t ht
  . rintro ⟨hstages, hall⟩
    rw [hstages]
    exact List.flatMap_congr hall

theorem stopsRun_eq_any (s : Stage α) (h : through ends s.items = s.items)
    : s.stopsRun ends stops = s.items.getLast?.any stops := by
  unfold Stage.stopsRun
  rw [h]

theorem runsThrough_iff
    : RunsThrough ends stops stages
        ↔ reached ends stops stages = stages ∧ ∀ s ∈ stages, through ends s.items = s.items := by
  unfold reached
  rw [through_eq_self_iff]
  have hany : ∀ s ∈ stages, through ends s.items = s.items
      → (s.stopsRun ends stops = false ↔ ∀ a ∈ s.items.getLast?, stops a = false) := by
    intro s _ h
    rw [stopsRun_eq_any s h]
    cases s.items.getLast? with
    | none => simp
    | some a => simp
  constructor
  . rintro ⟨hitems, hstages⟩
    have hall := fun s hs => through_eq_self_iff.mpr (hitems s hs)
    exact ⟨fun s hs => (hany s (List.dropLast_subset _ hs)
      (hall s (List.dropLast_subset _ hs))).mpr (hstages s hs), hall⟩
  . rintro ⟨hstages, hall⟩
    exact ⟨fun s hs => through_eq_self_iff.mp (hall s hs), fun s hs =>
      (hany s (List.dropLast_subset _ hs) (hall s (List.dropLast_subset _ hs))).mp
        (hstages s hs)⟩

theorem forall_finished_iff (hnodup : (stages.flatMap Stage.items).Nodup)
    (hitems : ∀ s ∈ stages, s.items ≠ [])
    : (∀ s ∈ stages, ∀ a ∈ s.items, ∃ i, .finished i a ∈ run ends stops stages)
        ↔ RunsThrough ends stops stages := by
  have hmem : ∀ a, (∃ i, .finished i a ∈ run ends stops stages)
      ↔ a ∈ (reached ends stops stages).flatMap (fun s => through ends s.items) := by
    intro a
    rw [List.mem_flatMap]
    constructor
    . rintro ⟨i, h⟩
      obtain ⟨s, hs, _, ha⟩ := finished_mem_run_iff.mp h
      exact ⟨s, hs, ha⟩
    . rintro ⟨s, hs, ha⟩
      exact ⟨s.index, finished_mem_run_iff.mpr ⟨s, hs, rfl, ha⟩⟩
  rw [runsThrough_iff, reached, ← flatMap_through_eq_iff hitems]
  constructor
  . intro h
    refine (sublist_flatMap_through _ stages).eq_of_length_le ?_
    apply List.Subperm.length_le
    apply hnodup.subperm
    intro a ha
    obtain ⟨s, hs, ha⟩ := List.mem_flatMap.mp ha
    exact (hmem a).mp (h s hs a ha)
  . intro h s hs a ha
    rw [hmem, reached, h]
    exact List.mem_flatMap.mpr ⟨s, hs, ha⟩

end Complete

end Stages
