import Mathlib.Data.List.Basic

/-!
This module contains counts of values by buckets. A value falls into the first bucket whose bound it does
not exceed, or into the last bucket, which has no bound.
-/

namespace Buckets

variable {α : Type} [LE α] [DecidableLE α]

def bucket (bounds : List α) (value : α) : Nat :=
  bounds.findIdx (fun bound => decide (value ≤ bound))

/-- How many of the values fall into the bucket at `i`. -/
def count (bounds values : List α) (i : Nat) : Nat :=
  values.countP (fun value => decide (bucket bounds value = i))

/-- How many of the values fall into one of the first `i` buckets. -/
def countBelow (bounds values : List α) (i : Nat) : Nat :=
  values.countP (fun value => decide (bucket bounds value < i))

def countUpTo (values : List α) (bound : α) : Nat :=
  values.countP (fun value => decide (value ≤ bound))

variable {bounds values : List α}

theorem bucket_le_length (value : α) : bucket bounds value ≤ bounds.length := by
  exact List.findIdx_le_length

theorem bucket_le_iff [Std.IsPreorder α] (hbounds : bounds.Pairwise (· ≤ ·)) {i : Nat}
    (hi : i < bounds.length) (value : α)
    : bucket bounds value ≤ i ↔ value ≤ bounds[i] := by
  constructor
  . intro hle
    have hlt : bucket bounds value < bounds.length := Nat.lt_of_le_of_lt hle hi
    have hfound : value ≤ bounds[bucket bounds value] :=
      of_decide_eq_true (List.findIdx_getElem (w := hlt))
    obtain heq | hbelow := Nat.eq_or_lt_of_le hle
    . simpa only [heq] using hfound
    . have hordered := List.pairwise_iff_getElem.mp hbounds _ i hlt hi hbelow
      exact Std.IsPreorder.le_trans _ _ _ hfound hordered
  . intro hvalue
    by_contra hlt
    have hnot := List.not_of_lt_findIdx (Nat.lt_of_not_le hlt)
    exact of_decide_eq_false hnot hvalue

theorem countBelow_zero : countBelow bounds values 0 = 0 := by
  exact List.countP_eq_zero.mpr (fun _ _ h => Nat.not_lt_zero _ (of_decide_eq_true h))

theorem countBelow_succ (i : Nat)
    : countBelow bounds values (i + 1) = countBelow bounds values i + count bounds values i := by
  unfold countBelow count
  induction values with
  | nil => rfl
  | cons value rest ih =>
    rw [List.countP_cons, List.countP_cons, List.countP_cons, ih]
    simp only [decide_eq_true_eq]
    split <;> split <;> split <;> omega

theorem countBelow_succ_eq [Std.IsPreorder α] (hbounds : bounds.Pairwise (· ≤ ·)) {i : Nat}
    (hi : i < bounds.length)
    : countBelow bounds values (i + 1) = countUpTo values bounds[i] := by
  unfold countBelow countUpTo
  congr 1
  funext value
  rw [decide_eq_decide, Nat.lt_succ_iff]
  exact bucket_le_iff hbounds hi value

theorem countBelow_all : countBelow bounds values (bounds.length + 1) = values.length := by
  refine List.countP_eq_length.mpr ?_
  intro value _
  exact decide_eq_true (Nat.lt_succ_of_le (bucket_le_length value))

theorem count_append (value : α) (i : Nat)
    : count bounds (values ++ [value]) i
        = count bounds values i + if bucket bounds value = i then 1 else 0 := by
  unfold count
  rw [List.countP_append, List.countP_singleton]
  simp only [decide_eq_true_eq]

theorem countUpTo_mono [Std.IsPreorder α] (values : List α) {bound bound' : α} (h : bound ≤ bound')
    : countUpTo values bound ≤ countUpTo values bound' := by
  refine List.countP_mono_left ?_
  intro value _ hvalue
  exact decide_eq_true (Std.IsPreorder.le_trans _ _ _ (of_decide_eq_true hvalue) h)

theorem countUpTo_le_length (values : List α) (bound : α)
    : countUpTo values bound ≤ values.length := by
  exact List.countP_le_length

end Buckets
