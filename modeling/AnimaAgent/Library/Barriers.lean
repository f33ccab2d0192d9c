import Mathlib.Data.List.Basic

/-!
This module contains sequences of events of which every key sees its own events and the barriers. Two
sequences that look the same to every key are interleavings of each other; then so are their parts
between the barriers.
-/

/-- What the keys see of an event; a barrier is seen by all of them, and as a barrier. -/
structure Barriers (κ α β : Type) where
  seen : κ → α → Option β
  isBarrier : α → Bool
  isSeenBarrier : β → Bool
  any_seen : ∀ key event, (seen key event).any isSeenBarrier = isBarrier event

namespace Barriers

variable {κ α β : Type} (barriers : Barriers κ α β)

def own (key : κ) (events : List α) : List β :=
  events.filterMap (barriers.seen key)

def Interleaved (xs ys : List α) : Prop :=
  ∀ key, barriers.own key xs = barriers.own key ys

theorem own_append (key : κ) (xs ys : List α)
    : barriers.own key (xs ++ ys) = barriers.own key xs ++ barriers.own key ys := by
  exact List.filterMap_append

theorem countP_own (key : κ) (events : List α)
    : (barriers.own key events).countP barriers.isSeenBarrier
        = events.countP barriers.isBarrier := by
  unfold own
  rw [List.countP_filterMap]
  apply List.countP_congr
  intro event _
  rw [← barriers.any_seen key event]
  cases barriers.seen key event <;> rfl

theorem exists_split_of_lt_countP {p : α → Bool} {xs : List α} {n : Nat} (h : n < xs.countP p)
    : ∃ before x after, xs = before ++ x :: after ∧ p x = true ∧ before.countP p = n := by
  induction xs generalizing n with
  | nil => exact absurd h (Nat.not_lt_zero n)
  | cons y ys ih =>
    by_cases hy : p y = true
    . rw [List.countP_cons_of_pos hy] at h
      cases n with
      | zero => exact ⟨[], y, ys, rfl, hy, rfl⟩
      | succ n =>
        obtain ⟨before, x, after, rfl, hx, hcount⟩ := ih (Nat.lt_of_succ_lt_succ h)
        refine ⟨y :: before, x, after, rfl, hx, ?_⟩
        rw [List.countP_cons_of_pos hy, hcount]
    . rw [List.countP_cons_of_neg hy] at h
      obtain ⟨before, x, after, rfl, hx, hcount⟩ := ih h
      refine ⟨y :: before, x, after, rfl, hx, ?_⟩
      rw [List.countP_cons_of_neg hy, hcount]

theorem split_unique {p : β → Bool} {xs xs' ys ys' : List β} {a b : β}
    (h : xs ++ a :: ys = xs' ++ b :: ys') (ha : p a = true) (hb : p b = true)
    (hcount : xs.countP p = xs'.countP p)
    : xs = xs' := by
  induction xs generalizing xs' with
  | nil =>
    cases xs' with
    | nil => rfl
    | cons x' xs' =>
      obtain ⟨rfl, _⟩ := List.cons.inj h
      rw [List.countP_cons_of_pos ha] at hcount
      exact absurd hcount (Nat.succ_ne_zero _).symm
  | cons x xs ih =>
    cases xs' with
    | nil =>
      obtain ⟨rfl, _⟩ := List.cons.inj h
      rw [List.countP_cons_of_pos hb] at hcount
      exact absurd hcount (Nat.succ_ne_zero _)
    | cons x' xs' =>
      obtain ⟨rfl, htail⟩ := List.cons.inj h
      rw [List.countP_cons, List.countP_cons] at hcount
      rw [ih htail (Nat.add_right_cancel hcount)]

variable {barriers}

theorem exists_seen {event : α} (h : barriers.isBarrier event = true) (key : κ)
    : ∃ x, barriers.seen key event = some x ∧ barriers.isSeenBarrier x = true := by
  have hany := barriers.any_seen key event
  rw [h] at hany
  cases hseen : barriers.seen key event with
  | none =>
    rw [hseen] at hany
    cases hany
  | some x =>
    rw [hseen] at hany
    exact ⟨x, rfl, hany⟩

theorem Interleaved.before {xs ys zs : List α} {barrier : α}
    (h : barriers.Interleaved zs (xs ++ barrier :: ys)) (key : κ)
    (hbarrier : barriers.isBarrier barrier = true)
    : ∃ xs' barrier' ys', zs = xs' ++ barrier' :: ys' ∧ barriers.isBarrier barrier' = true
        ∧ barriers.Interleaved xs' xs := by
  have hcount : zs.countP barriers.isBarrier = (xs ++ barrier :: ys).countP barriers.isBarrier := by
    rw [← barriers.countP_own key zs, ← barriers.countP_own key (xs ++ barrier :: ys), h key]
  have hlt : xs.countP barriers.isBarrier < zs.countP barriers.isBarrier := by
    rw [hcount, List.countP_append, List.countP_cons_of_pos hbarrier]
    omega
  obtain ⟨xs', barrier', ys', rfl, hbarrier', hxs⟩ := exists_split_of_lt_countP hlt
  refine ⟨xs', barrier', ys', rfl, hbarrier', ?_⟩
  intro key
  obtain ⟨b, hb, hb'⟩ := exists_seen hbarrier key
  obtain ⟨b', hb'', hb'''⟩ := exists_seen hbarrier' key
  have hkey := h key
  unfold own at hkey
  rw [List.filterMap_append, List.filterMap_append, List.filterMap_cons_some hb,
    List.filterMap_cons_some hb''] at hkey
  apply split_unique hkey hb''' hb'
  rw [← own, ← own, countP_own, countP_own, hxs]

end Barriers
