import Mathlib.Data.List.Basic

/-!
This module contains positions in a list that entries are removed from: when a position that was noted
before still separates the same entries.
-/

namespace Positions

variable {α β : Type}

def kept (p : α → Bool) (l : List α) (i : Nat) : Nat :=
  ((l.take i).filter p).length

/-- The entries of `m` behind `c` are the ones that are behind `c'` when only `p` is kept. -/
def Stands (p m : α → Bool) (l : List α) (c c' : Nat) : Prop :=
  ∀ i x, l[i]? = some x → m x = true → (c ≤ i ↔ c' ≤ kept p l i)

variable {p m : α → Bool} {l : List α} {c c' : Nat}

theorem stands_nil : Stands p m [] c c' := by
  intro i x hx
  cases hx

theorem stands_cons_iff {x : α}
    : Stands p m (x :: l) c c'
        ↔ (m x = true → (c = 0 ↔ c' = 0))
          ∧ Stands p m l (c - 1) (if p x then c' - 1 else c') := by
  have hkept : ∀ i, kept p (x :: l) (i + 1) = (if p x then 1 else 0) + kept p l i := by
    intro i
    unfold kept
    rw [List.take_succ_cons, List.filter_cons]
    split
    . rw [List.length_cons, Nat.add_comm]
    . rw [Nat.zero_add]
  have hstep : ∀ i, (c ≤ i + 1 ↔ c' ≤ kept p (x :: l) (i + 1))
      ↔ (c - 1 ≤ i ↔ (if p x then c' - 1 else c') ≤ kept p l i) := by
    intro i
    rw [hkept]
    split
    . omega
    . omega
  constructor
  . intro h
    refine ⟨fun hx => ?_, fun i y hy hmy => (hstep i).mp (h (i + 1) y hy hmy)⟩
    have hfirst := h 0 x rfl hx
    have hzero : kept p (x :: l) 0 = 0 := rfl
    omega
  . rintro ⟨hfirst, hrest⟩ i y hy hmy
    cases i with
    | zero =>
      cases hy
      have hfirst := hfirst hmy
      have hzero : kept p (x :: l) 0 = 0 := rfl
      omega
    | succ i => exact (hstep i).mpr (hrest i y hy hmy)

theorem map_filter_drop_eq_iff (f : α → β) (hkept : ∀ x, m x = true → p x = true)
    : (((l.filter p).drop c').filter m).map f = ((l.drop c).filter m).map f
        ↔ Stands p m l c c' := by
  have hsame : ∀ l : List α, (l.filter p).filter m = l.filter m := by
    intro l
    rw [List.filter_filter]
    apply List.filter_congr
    intro x _
    cases hm : m x with
    | false => rfl
    | true => rw [hkept x hm, Bool.and_self]
  induction l generalizing c c' with
  | nil => simp [stands_nil]
  | cons x l ih =>
    rw [stands_cons_iff]
    cases hm : m x with
    | false =>
      -- the entry is on neither side of the equation
      have hleft : (((x :: l).filter p).drop c').filter m
          = ((l.filter p).drop (if p x then c' - 1 else c')).filter m := by
        cases hp : p x with
        | false => rw [List.filter_cons_of_neg (by simp [hp]), if_neg (by simp)]
        | true =>
          rw [List.filter_cons_of_pos hp, if_pos rfl]
          cases c' with
          | zero => rw [List.drop_zero, List.filter_cons_of_neg (by simp [hm]), List.drop_zero]
          | succ k => rw [List.drop_succ_cons, Nat.add_sub_cancel]
      have hright : ((x :: l).drop c).filter m = (l.drop (c - 1)).filter m := by
        cases c with
        | zero => rw [List.drop_zero, List.filter_cons_of_neg (by simp [hm]), List.drop_zero]
        | succ j => rw [List.drop_succ_cons, Nat.add_sub_cancel]
      rw [hleft, hright]
      refine ih.trans ?_
      simp
    | true =>
      have hp := hkept x hm
      have hlength : ∀ k, (((l.filter p).drop k).filter m).length ≤ (l.filter m).length := by
        intro k
        rw [← hsame l]
        exact ((List.drop_sublist k _).filter m).length_le
      have hlength' : ∀ j, ((l.drop j).filter m).length ≤ (l.filter m).length :=
        fun j => ((List.drop_sublist j l).filter m).length_le
      rw [List.filter_cons_of_pos hp, if_pos hp]
      cases c with
      | zero =>
        rw [List.drop_zero, List.filter_cons_of_pos hm]
        cases c' with
        | zero =>
          rw [List.drop_zero, List.filter_cons_of_pos hm, hsame, Nat.zero_sub]
          refine iff_of_true rfl ⟨fun _ => Iff.rfl, ih.mp ?_⟩
          rw [List.drop_zero, List.drop_zero, hsame]
        | succ k =>
          refine iff_of_false ?_ (fun h => by simpa using h.1 rfl)
          intro heq
          have := congrArg List.length heq
          rw [List.drop_succ_cons, List.length_map, List.length_map, List.length_cons] at this
          have := hlength k
          omega
      | succ j =>
        rw [List.drop_succ_cons, Nat.add_sub_cancel]
        cases c' with
        | zero =>
          refine iff_of_false ?_ (fun h => by simpa using h.1 rfl)
          intro heq
          have := congrArg List.length heq
          rw [List.drop_zero, List.filter_cons_of_pos hm, hsame, List.length_map, List.length_map,
            List.length_cons] at this
          have := hlength' j
          omega
        | succ k =>
          rw [List.drop_succ_cons, Nat.add_sub_cancel]
          refine ih.trans ?_
          simp

end Positions
