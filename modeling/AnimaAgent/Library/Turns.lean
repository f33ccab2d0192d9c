import Mathlib.Data.List.Induction
import Mathlib.Data.List.Nodup
import Mathlib.Data.List.Perm.Subperm
import Mathlib.Data.List.Rotate

/-!
This module contains turns that are given to some of those who wait, one at a time. If nobody is passed
over twice by the same other one, everybody gets one turn of as many as there are waiting. Those who
get turns may stand in a circle: the positions are numbers, and one goes up from a start and round.
-/

namespace Circle

/-- From the start, one comes to the first position before one comes to the second. -/
def Before (start first second : Nat) : Prop :=
  (start < first ∧ (first < second ∨ second ≤ start))
    ∨ (first ≤ start ∧ first < second ∧ second ≤ start)

variable {start a b c : Nat}

theorem Before.asymm (h : Before start a b) : ¬ Before start b a := by
  unfold Before at *
  omega

theorem Before.advance (hab : Before start a b) (hbc : Before start b c) : Before a b c := by
  unfold Before at *
  omega

theorem Before.trans (hab : Before start a b) (hbc : Before start b c) : Before start a c := by
  unfold Before at *
  omega

theorem before_start (hne : a ≠ start) : Before start a start := by
  unfold Before
  omega

theorem Before.of_lt (hab : start < a) (hbc : a < b) : Before start a b := by
  unfold Before
  omega

theorem Before.beyond {bound : Nat} (h : Before start a b) (hstart : start < bound)
    (ha : a < bound) (hb : bound ≤ b) (hc : bound ≤ c)
    : Before start a c := by
  unfold Before at *
  omega

section Sublist

variable {κ : Type} [DecidableEq κ] {keys chosen : List κ}

theorem pairwise_idxOf_lt (hnodup : keys.Nodup) (hsub : chosen.Sublist keys)
    : chosen.Pairwise (fun a b => keys.idxOf a < keys.idxOf b) := by
  refine List.Pairwise.sublist hsub ?_
  rw [List.pairwise_iff_getElem]
  intro i j hi hj hij
  rw [hnodup.idxOf_getElem i hi, hnodup.idxOf_getElem j hj]
  exact hij

theorem idxOf_head_lt (hnodup : keys.Nodup) (hsub : chosen.Sublist keys) {first a : κ}
    (hfirst : chosen[0]? = some first) (ha : a ∈ chosen) (hne : a ≠ first)
    : keys.idxOf first < keys.idxOf a := by
  cases chosen with
  | nil => cases ha
  | cons b rest =>
    cases hfirst
    obtain rfl | hrest := List.mem_cons.mp ha
    . exact absurd rfl hne
    . exact (List.pairwise_cons.mp (pairwise_idxOf_lt hnodup hsub)).1 a hrest

theorem before_of_next (hnodup : keys.Nodup) (hsub : chosen.Sublist keys) {last next a : κ} {i : Nat}
    (hlast : chosen[i]? = some last) (hnext : chosen[(i + 1) % chosen.length]? = some next)
    (ha : a ∈ chosen) (hne : a ≠ next)
    : Before (keys.idxOf last) (keys.idxOf next) (keys.idxOf a) := by
  obtain ⟨hi, rfl⟩ := List.getElem?_eq_some_iff.mp hlast
  obtain ⟨j, hj, rfl⟩ := List.getElem_of_mem ha
  have hlt := List.pairwise_iff_getElem.mp (pairwise_idxOf_lt hnodup hsub)
  have hle : ∀ k l (hk : k < chosen.length) (hl : l < chosen.length), k ≤ l
      → keys.idxOf chosen[k] ≤ keys.idxOf chosen[l] := by
    intro k l hk hl hkl
    obtain rfl | hkl := Nat.eq_or_lt_of_le hkl
    . exact Nat.le_refl _
    . exact Nat.le_of_lt (hlt k l hk hl hkl)
  by_cases hend : i + 1 < chosen.length
  . rw [Nat.mod_eq_of_lt hend, List.getElem?_eq_getElem hend, Option.some.injEq] at hnext
    subst hnext
    refine .inl ⟨hlt i (i + 1) hi hend (Nat.lt_succ_self i), ?_⟩
    obtain hji | hij := Nat.lt_or_ge i j
    . refine .inl (hlt (i + 1) j hend hj ?_)
      have hjne : j ≠ i + 1 := fun h => hne (by subst h; rfl)
      omega
    . exact .inr (hle j i hj hi hij)
  . have hwrap : i + 1 = chosen.length := by omega
    rw [hwrap, Nat.mod_self, List.getElem?_eq_getElem (Nat.zero_lt_of_lt hi),
      Option.some.injEq] at hnext
    subst hnext
    have hjne : j ≠ 0 := fun h => hne (by subst h; rfl)
    refine .inr ⟨hle 0 i _ hi (Nat.zero_le i), hlt 0 j _ hj (by omega), hle j i hj hi (by omega)⟩

end Sublist

section Places

variable {α : Type}

theorem turns_perm (places : List α) (start : Nat)
    : ((List.range places.length).map (fun k => places[(start + k) % places.length]?)).Perm
        (places.map some) := by
  have hrotate : (List.range places.length).map (fun k => places[(start + k) % places.length]?)
      = (places.rotate start).map some := by
    apply List.ext_getElem?
    intro k
    rw [List.getElem?_map, List.getElem?_map]
    by_cases hk : k < places.length
    . rw [List.getElem?_range hk, List.getElem?_rotate hk, Option.map_some, Nat.add_comm start k]
      have hplace : (k + start) % places.length < places.length :=
        Nat.mod_lt _ (Nat.zero_lt_of_lt hk)
      rw [List.getElem?_eq_getElem hplace, Option.map_some]
    . rw [List.getElem?_eq_none, List.getElem?_eq_none]
      . rfl
      . rw [List.length_rotate]
        exact Nat.le_of_not_lt hk
      . rw [List.length_range]
        exact Nat.le_of_not_lt hk
  rw [hrotate]
  exact (List.rotate_perm places start).map some

end Places

end Circle

/-- Somebody may have been served, or nobody although some were waiting. -/
structure Turn (κ : Type) where
  waiting : List κ
  served : Option κ
  deriving DecidableEq

namespace Turns

variable {κ : Type}

/-- `c` was waiting when `a` had a turn, and has had none since. -/
def PassedOver (turns : List (Turn κ)) (c a : κ) : Prop :=
  ∃ earlier turn later, turns = earlier ++ turn :: later ∧ turn.served = some a ∧ c ∈ turn.waiting
    ∧ c ≠ a ∧ ∀ turn ∈ later, turn.served ≠ some c

/-- Nobody who waits is passed over by one who has passed them over before. -/
def NeverTwice (turns : List (Turn κ)) : Prop :=
  ∀ earlier turn later, turns = earlier ++ turn :: later
    → ∀ a, turn.served = some a → ∀ c ∈ turn.waiting, c ≠ a → ¬ PassedOver earlier c a

theorem not_passedOver_nil (c a : κ) : ¬ PassedOver [] c a := by
  rintro ⟨earlier, turn, later, h, _⟩
  exact List.append_ne_nil_of_right_ne_nil earlier (List.cons_ne_nil turn later) h.symm

theorem passedOver_concat {turns : List (Turn κ)} {turn : Turn κ} {c a : κ}
    (h : PassedOver (turns ++ [turn]) c a)
    : (turn.served = some a ∧ c ∈ turn.waiting ∧ c ≠ a)
      ∨ (turn.served ≠ some c ∧ PassedOver turns c a) := by
  obtain ⟨earlier, turn', later, heq, hserved, hwaiting, hne, hlater⟩ := h
  cases later using List.reverseRecOn with
  | nil =>
    obtain ⟨rfl, hlast⟩ := List.append_inj' heq rfl
    cases hlast
    exact .inl ⟨hserved, hwaiting, hne⟩
  | append_singleton later last =>
    rw [← List.cons_append, ← List.append_assoc] at heq
    obtain ⟨rfl, hlast⟩ := List.append_inj' heq rfl
    cases hlast
    refine .inr ⟨hlater turn (List.mem_append_right _ (List.mem_singleton_self _)), ?_⟩
    exact ⟨earlier, turn', later, rfl, hserved, hwaiting, hne,
      fun turn hmem => hlater turn (List.mem_append_left _ hmem)⟩

theorem neverTwice_nil : NeverTwice ([] : List (Turn κ)) := by
  intro earlier turn later h
  exact absurd h.symm (List.append_ne_nil_of_right_ne_nil earlier (List.cons_ne_nil turn later))

theorem NeverTwice.concat {turns : List (Turn κ)} {turn : Turn κ} (h : NeverTwice turns)
    (hturn : ∀ a, turn.served = some a → ∀ c ∈ turn.waiting, c ≠ a → ¬ PassedOver turns c a)
    : NeverTwice (turns ++ [turn]) := by
  intro earlier turn' later heq
  cases later using List.reverseRecOn with
  | nil =>
    obtain ⟨rfl, hlast⟩ := List.append_inj' heq rfl
    cases hlast
    exact hturn
  | append_singleton later last =>
    rw [← List.cons_append, ← List.append_assoc] at heq
    obtain ⟨rfl, _⟩ := List.append_inj' heq rfl
    exact h earlier turn' later rfl

variable [DecidableEq κ]

theorem NeverTwice.nodup_window {before window after : List (Turn κ)} {waiting : List κ}
    (h : NeverTwice (before ++ window ++ after)) (hnodup : waiting.Nodup)
    (hwaiting : ∀ turn ∈ window, ∀ c ∈ waiting, c ∈ turn.waiting)
    (hserved : ∀ turn ∈ window, turn.served.isSome)
    (hlength : window.length ≤ waiting.length)
    : (window.map Turn.served).Nodup := by
  induction window using List.reverseRecOn generalizing after with
  | nil => exact List.nodup_nil
  | append_singleton window turn ih =>
    rw [List.length_append, List.length_singleton] at hlength
    have hturn : turn ∈ window ++ [turn] :=
      List.mem_append_right _ (List.mem_singleton_self _)
    have hrest : (window.map Turn.served).Nodup := by
      refine @ih (turn :: after) ?_ ?_ ?_ (by omega)
      . simpa using h
      . exact fun turn hmem => hwaiting turn (List.mem_append_left _ hmem)
      . exact fun turn hmem => hserved turn (List.mem_append_left _ hmem)
    rw [List.map_append, List.map_singleton, List.nodup_append]
    refine ⟨hrest, List.nodup_singleton _, ?_⟩
    rintro a ha b hb rfl
    rw [List.mem_singleton] at hb
    -- somebody who waits has not had a turn yet
    obtain ⟨c, hc, hnot⟩ : ∃ c ∈ waiting, some c ∉ window.map Turn.served := by
      by_contra hall
      have hsub : waiting.map some ⊆ window.map Turn.served := by
        intro served hmem
        obtain ⟨c, hc, rfl⟩ := List.mem_map.mp hmem
        by_contra hnot
        exact hall ⟨c, hc, hnot⟩
      have hle := ((hnodup.map (fun _ _ => Option.some.inj)).subperm hsub).length_le
      rw [List.length_map, List.length_map] at hle
      omega
    obtain ⟨who, hwho⟩ := Option.isSome_iff_exists.mp (hserved turn hturn)
    have hne : c ≠ who := by
      rintro rfl
      exact hnot (by rw [← hwho, ← hb]; exact ha)
    obtain ⟨first, hfirst, hsame⟩ := List.mem_map.mp ha
    obtain ⟨earlier, later, rfl⟩ := List.append_of_mem hfirst
    refine h (before ++ (earlier ++ first :: later)) turn after (by simp) who hwho c
      (hwaiting turn hturn c hc) hne ?_
    refine ⟨before ++ earlier, first, later, by simp, by rw [hsame, hb, hwho], ?_, hne, ?_⟩
    . exact hwaiting first (List.mem_append_left _ hfirst) c hc
    . intro other hmem heq
      refine hnot (List.mem_map.mpr ⟨other, ?_, heq⟩)
      exact List.mem_append_right _ (List.mem_cons_of_mem _ hmem)

theorem NeverTwice.window_perm {before window after : List (Turn κ)} {waiting : List κ}
    (h : NeverTwice (before ++ window ++ after)) (hnodup : waiting.Nodup)
    (hwaiting : ∀ turn ∈ window, ∀ c, c ∈ turn.waiting ↔ c ∈ waiting)
    (hserved : ∀ turn ∈ window, turn.waiting ≠ [] → ∃ c ∈ turn.waiting, turn.served = some c)
    (hlength : window.length = waiting.length)
    : (window.map Turn.served).Perm (waiting.map some) := by
  have hsome : ∀ turn ∈ window, ∃ c ∈ waiting, turn.served = some c := by
    intro turn hmem
    obtain ⟨c, hc⟩ := List.exists_mem_of_length_pos (hlength ▸ List.length_pos_of_mem hmem)
    have hne := List.ne_nil_of_mem ((hwaiting turn hmem c).mpr hc)
    obtain ⟨who, hwho, hserved⟩ := hserved turn hmem hne
    exact ⟨who, (hwaiting turn hmem who).mp hwho, hserved⟩
  have hwindow := h.nodup_window hnodup (fun turn hmem c => (hwaiting turn hmem c).mpr)
    (fun turn hmem => Option.isSome_iff_exists.mpr ((hsome turn hmem).imp fun _ h => h.2))
    (by omega)
  have hsub : window.map Turn.served ⊆ waiting.map some := by
    intro served hmem
    obtain ⟨turn, hturn, rfl⟩ := List.mem_map.mp hmem
    obtain ⟨c, hc, hserved⟩ := hsome turn hturn
    exact hserved ▸ List.mem_map_of_mem hc
  refine (hwindow.subperm hsub).perm_of_length_le ?_
  rw [List.length_map, List.length_map]
  omega

end Turns
