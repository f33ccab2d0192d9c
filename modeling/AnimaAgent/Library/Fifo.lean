import Mathlib.Data.List.Basic
import Mathlib.Data.List.Count

/-!
This module contains first-in first-out queues, one for each key: what has entered under a key is what
has left under it, followed by what is still waiting.
-/

namespace Fifo

variable {κ α : Type} [DecidableEq κ] (key : α → κ)

def put (waiting : κ → List α) (a : α) : κ → List α :=
  fun k => if k = key a then waiting k ++ [a] else waiting k

def take (waiting : κ → List α) (k : κ) : κ → List α :=
  fun k' => if k' = k then (waiting k').tail else waiting k'

def under (k : κ) (as : List α) : List α :=
  as.filter (fun a => decide (key a = k))

def leave (k : κ) (as : List α) : List α :=
  as.eraseP (fun a => decide (key a = k))

def Conserved (entered left : List α) (waiting : κ → List α) : Prop :=
  ∀ k, under key k entered = under key k left ++ waiting k

variable {key} {entered left : List α} {waiting : κ → List α}

theorem under_append (k : κ) (as bs : List α)
    : under key k (as ++ bs) = under key k as ++ under key k bs := by
  exact List.filter_append as bs

theorem under_singleton (k : κ) (a : α)
    : under key k [a] = if k = key a then [a] else [] := by
  unfold under
  rw [List.filter_singleton]
  by_cases hkey : key a = k
  . simp [hkey]
  . have hne : k ≠ key a := fun h => hkey h.symm
    simp [hkey, hne]

theorem count_under [DecidableEq α] (a : α) (as : List α)
    : (under key (key a) as).count a = as.count a := by
  exact List.count_filter (decide_eq_true rfl)

theorem under_cons (k : κ) (a : α) (as : List α)
    : under key k (a :: as) = if key a = k then a :: under key k as else under key k as := by
  unfold under
  rw [List.filter_cons]
  simp only [decide_eq_true_eq]

theorem leave_cons (k : κ) (a : α) (as : List α)
    : leave key k (a :: as) = if key a = k then as else a :: leave key k as := by
  unfold leave
  rw [List.eraseP_cons, cond_eq_ite]
  simp only [decide_eq_true_eq]

theorem under_leave (k : κ) (as : List α)
    : (fun k' => under key k' (leave key k as)) = take (fun k' => under key k' as) k := by
  funext k'
  unfold take
  dsimp only
  induction as with
  | nil => simp [leave, under]
  | cons a as ih =>
    rw [leave_cons, under_cons]
    by_cases hkey : key a = k
    . rw [if_pos hkey]
      split
      . next hk => rw [if_pos (hkey.trans hk.symm), List.tail_cons]
      . next hk => rw [if_neg (fun h => hk (h.symm.trans hkey))]
    . rw [if_neg hkey, under_cons, ih]
      split
      . next hk => rw [if_neg (fun h => hkey (hk.trans h)), if_neg (fun h => hkey (hk.trans h))]
      . rfl

theorem perm_leave {k : κ} {a : α} {as : List α} (h : (under key k as).head? = some a)
    : as.Perm (a :: leave key k as) := by
  induction as with
  | nil => cases h
  | cons b as ih =>
    rw [under_cons] at h
    rw [leave_cons]
    split at h
    . next hkey =>
      cases h
      rw [if_pos hkey]
    . next hkey =>
      rw [if_neg hkey]
      exact ((ih h).cons b).trans (.swap a b _)

theorem conserved_nil : Conserved key [] [] (fun _ => []) := by
  intro k
  rfl

theorem Conserved.key_eq (h : Conserved key entered left waiting) {k : κ} {a : α}
    (ha : a ∈ waiting k)
    : key a = k := by
  have hmem : a ∈ under key k entered := by
    rw [h k]
    exact List.mem_append_right _ ha
  exact of_decide_eq_true (List.mem_filter.mp hmem).2

theorem Conserved.put (h : Conserved key entered left waiting) (a : α)
    : Conserved key (entered ++ [a]) left (put key waiting a) := by
  intro k
  rw [under_append, h k, under_singleton, Fifo.put]
  split
  . rw [List.append_assoc]
  . rw [List.append_nil]

theorem Conserved.take (h : Conserved key entered left waiting) {k : κ} {a : α}
    (ha : (waiting k).head? = some a)
    : Conserved key entered (left ++ [a]) (take waiting k) := by
  have hkey := h.key_eq (List.mem_of_head? ha)
  intro k'
  rw [h k', under_append, under_singleton, hkey, Fifo.take]
  split
  . next heq =>
    rw [heq, List.append_assoc, List.singleton_append, List.cons_head?_tail ha]
  . rw [List.append_nil]

theorem Conserved.perm [DecidableEq α] (h : Conserved key entered left waiting) {all : List α}
    (hall : ∀ k, under key k all = waiting k)
    : entered.Perm (left ++ all) := by
  rw [List.perm_iff_count]
  intro a
  have hkey := congrArg (List.count a) (h (key a))
  rw [← hall, List.count_append, count_under, count_under, count_under] at hkey
  rw [hkey, List.count_append]

end Fifo
