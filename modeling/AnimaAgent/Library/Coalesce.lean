import Mathlib.Algebra.GroupWithZero.Nat
import Mathlib.Data.List.Basic

/-!
This module contains the list fold that merges an element into the last one whenever the two belong
together.
-/

namespace Coalesce

variable {α : Type _} (together : α → α → Bool) (merge : α → α → α)

/-- Merge `x` into the last element of `acc`, or append it. -/
def push (acc : List α) (x : α) : List α :=
  match acc.getLast? with
  | some last =>
    if together last x then
      acc.dropLast ++ [merge last x]
    else
      acc ++ [x]
  | none => acc ++ [x]

/-- The fold of `push`, with the element under construction in front of the rest. -/
def coalesce (a : α) : List α → List α
  | [] => [a]
  | x :: xs =>
    if together a x then
      coalesce (merge a x) xs
    else
      a :: coalesce x xs

@[simp]
theorem push_nil (x : α) : push together merge [] x = [x] := by
  rfl

@[simp]
theorem push_append_singleton (acc : List α) (a x : α)
    : push together merge (acc ++ [a]) x
        = if together a x then acc ++ [merge a x] else acc ++ [a] ++ [x] := by
  simp [push]

theorem foldl_push_append_singleton (acc : List α) (a : α) (xs : List α)
    : xs.foldl (push together merge) (acc ++ [a]) = acc ++ coalesce together merge a xs := by
  induction xs generalizing acc a with
  | nil => rfl
  | cons x xs ih =>
    rw [List.foldl_cons, push_append_singleton, coalesce]
    split
    . rw [ih]
    . rw [ih, List.append_assoc, List.singleton_append]

theorem foldl_push_cons (a : α) (xs : List α)
    : (a :: xs).foldl (push together merge) [] = coalesce together merge a xs := by
  rw [List.foldl_cons, push_nil]
  exact foldl_push_append_singleton together merge [] a xs

theorem coalesce_eq_singleton (hmerge : ∀ a x y, together a y → together (merge a x) y) (a : α)
    (xs : List α) (h : ∀ x ∈ xs, together a x)
    : coalesce together merge a xs = [xs.foldl merge a] := by
  induction xs generalizing a with
  | nil => rfl
  | cons x xs ih =>
    rw [coalesce, if_pos (h x (List.mem_cons_self ..)), List.foldl_cons]
    apply ih
    intro y hmem
    exact hmerge a x y (h y (List.mem_cons_of_mem x hmem))

theorem exists_coalesce_eq_cons (hmerge : ∀ b a x, together b (merge a x) = together b a) (a : α)
    (xs : List α)
    : ∃ head rest, coalesce together merge a xs = head :: rest
        ∧ (∀ b, together b head = together b a)
        ∧ (head :: rest).IsChain (fun b y => together b y = false) := by
  induction xs generalizing a with
  | nil => exact ⟨a, [], rfl, fun _ => rfl, .singleton a⟩
  | cons x xs ih =>
    rw [coalesce]
    split
    . obtain ⟨head, rest, heq, hhead, hchain⟩ := ih (merge a x)
      exact ⟨head, rest, heq, fun b => (hhead b).trans (hmerge b a x), hchain⟩
    . next h =>
      obtain ⟨head, rest, heq, hhead, hchain⟩ := ih x
      refine ⟨a, head :: rest, by rw [heq], fun _ => rfl, List.isChain_cons_cons.mpr ⟨?_, hchain⟩⟩
      rw [hhead]
      simpa using h

section Weight

variable {together merge}
variable {w : α → Nat} {V G : α → Prop}
variable (hvalid : ∀ a x, V a → V x → together a x → V (merge a x))
variable (hbad : ∀ a x, V a → V x → together a x → ¬(G a ∧ G x)
  → w a + w x < w (merge a x))
variable (hgood : ∀ a x, together a x → G a → G x → w (merge a x) = w a + w x)

include hvalid hbad hgood in
theorem sum_le_sum_coalesce (a : α) (xs : List α) (ha : V a) (hxs : ∀ x ∈ xs, V x)
    : ((a :: xs).map w).sum ≤ ((coalesce together merge a xs).map w).sum := by
  induction xs generalizing a with
  | nil => exact Nat.le_refl _
  | cons x xs ih =>
    have hx : V x := hxs x (List.mem_cons_self ..)
    have hxs' : ∀ y ∈ xs, V y := fun y hy => hxs y (List.mem_cons_of_mem x hy)
    rw [coalesce]
    split
    . next h =>
      have hle : w a + w x ≤ w (merge a x) := by
        by_cases hg : G a ∧ G x
        . exact Nat.le_of_eq (hgood a x h hg.1 hg.2).symm
        . exact Nat.le_of_lt (hbad a x ha hx h hg)
      have := ih (merge a x) (hvalid a x ha hx h) hxs'
      simp only [List.map_cons, List.sum_cons] at this ⊢
      omega
    . have := ih x hx hxs'
      simp only [List.map_cons, List.sum_cons] at this ⊢
      omega

include hvalid hbad hgood in
theorem sum_coalesce_eq_iff_isChain
    (hmerge : ∀ a x, together a x → G a → G x → G (merge a x))
    (hlast : ∀ a x y, together a x → together (merge a x) y = together x y)
    (a : α) (xs : List α) (ha : V a) (hxs : ∀ x ∈ xs, V x)
    : ((coalesce together merge a xs).map w).sum = ((a :: xs).map w).sum
        ↔ (a :: xs).IsChain (fun b y => together b y → G b ∧ G y) := by
  induction xs generalizing a with
  | nil => simp [coalesce]
  | cons x xs ih =>
    have hx : V x := hxs x (List.mem_cons_self ..)
    have hxs' : ∀ y ∈ xs, V y := fun y hy => hxs y (List.mem_cons_of_mem x hy)
    rw [coalesce, List.isChain_cons_cons]
    split
    . next h =>
      by_cases hg : G a ∧ G x
      . have ih := ih (merge a x) (hvalid a x ha hx h) hxs'
        have hw := hgood a x h hg.1 hg.2
        have hchain : (merge a x :: xs).IsChain (fun b y => together b y → G b ∧ G y)
            ↔ (x :: xs).IsChain (fun b y => together b y → G b ∧ G y) := by
          cases xs with
          | nil => simp
          | cons y ys =>
            simp only [List.isChain_cons_cons, hlast a x y h, hmerge a x h hg.1 hg.2, hg.2]
        rw [← hchain, ← ih]
        simp only [List.map_cons, List.sum_cons, hw, h, hg, forall_const, true_and,
          and_self]
        omega
      . have hlt := hbad a x ha hx h hg
        have hle := sum_le_sum_coalesce hvalid hbad hgood (merge a x) xs (hvalid a x ha hx h) hxs'
        simp only [List.map_cons, List.sum_cons] at hle ⊢
        constructor
        . omega
        . intro hchain
          exact absurd (hchain.1 h) hg
    . next h =>
      have ih := ih x hx hxs'
      rw [← ih]
      simp only [List.map_cons, List.sum_cons, h, Bool.false_eq_true, false_implies, true_and,
        Nat.add_left_cancel_iff]

end Weight

end Coalesce
