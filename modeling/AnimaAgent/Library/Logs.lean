import Mathlib.Data.List.Basic

/-!
This module contains logs, which list the newest event first, with counts of the events since the last one
of some kind; and what is read after several writes: what was written last, or else what was there before.
-/

namespace Logs

variable {ε : Type} (stops counts : ε → Bool)

/-- How many events count, among those that are newer than the last one that stops. -/
def countSince (log : List ε) : Nat :=
  (log.takeWhile (fun event => !stops event)).countP counts

variable {stops counts} {event : ε} (log : List ε)

@[simp]
theorem countSince_nil : countSince stops counts [] = 0 := by
  rfl

theorem countSince_cons_of_stops (h : stops event = true)
    : countSince stops counts (event :: log) = 0 := by
  unfold countSince
  rw [List.takeWhile_cons_of_neg (by rw [h]; exact Bool.noConfusion), List.countP_nil]

theorem countSince_cons_of_counts (h : stops event = false) (hcounts : counts event = true)
    : countSince stops counts (event :: log) = countSince stops counts log + 1 := by
  unfold countSince
  rw [List.takeWhile_cons_of_pos (by rw [h]; rfl), List.countP_cons_of_pos hcounts]

theorem countSince_cons_of_not_counts (h : stops event = false) (hcounts : counts event = false)
    : countSince stops counts (event :: log) = countSince stops counts log := by
  unfold countSince
  rw [List.takeWhile_cons_of_pos (by rw [h]; rfl),
    List.countP_cons_of_neg (by rw [hcounts]; exact Bool.noConfusion)]

end Logs

namespace Writes

variable {σ α β : Type}

def lastWrite (write : α → Option β) (l : List α) : Option β :=
  (l.filterMap write).getLast?

theorem lastWrite_eq_some {write : α → Option β} {l : List α} {b : β} (h : lastWrite write l = some b)
    : ∃ before a after, l = before ++ a :: after ∧ write a = some b
        ∧ ∀ c ∈ after, write c = none := by
  obtain ⟨earlier, hsplit⟩ := List.getLast?_eq_some_iff.mp h
  obtain ⟨before, rest, rfl, _, hrest⟩ := List.filterMap_eq_append_iff.mp hsplit
  obtain ⟨skipped, a, after, rfl, _, ha, hafter⟩ := List.filterMap_eq_cons_iff.mp hrest
  refine ⟨before ++ skipped, a, after, by rw [List.append_assoc], ha, ?_⟩
  exact List.filterMap_eq_nil_iff.mp hafter

theorem lastWrite_eq_none_iff {write : α → Option β} {l : List α}
    : lastWrite write l = none ↔ ∀ a ∈ l, write a = none := by
  unfold lastWrite
  rw [List.getLast?_eq_none_iff, List.filterMap_eq_nil_iff]

theorem read_foldl {step : σ → α → σ} {read : σ → Option β} {write : α → Option β}
    (hstep : ∀ s a, read (step s a) = (write a).or (read s)) (l : List α) (s : σ)
    : read (l.foldl step s) = (lastWrite write l).or (read s) := by
  unfold lastWrite
  induction l generalizing s with
  | nil => rfl
  | cons a l ih =>
    rw [List.foldl_cons, ih, hstep, ← Option.or_assoc]
    cases hwrite : write a with
    | none => rw [List.filterMap_cons_none hwrite, Option.or_none]
    | some b =>
      rw [List.filterMap_cons_some hwrite, ← List.singleton_append, List.getLast?_append]
      rfl

end Writes
