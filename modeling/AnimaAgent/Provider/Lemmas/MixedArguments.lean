import AnimaAgent.Provider.Lemmas.OpenAiCompat

namespace AnimaAgent.OpenAiCompatProvider

def timed : List UInt64 → List Fragment → List (Nat × Fragment)
  | _, [] => []
  | seen, f :: fs =>
    ((seenWith seen f.index).length, f) :: timed (seenWith seen f.index) fs

def startedIndices (fs : List Fragment) : List UInt64 :=
  (firstFragments [] fs).map Fragment.index

/-- While `n` calls have started, with `n` greater than `slot`, the arguments are those of `chosen n`. -/
def mixed (slot : Nat) (chosen : Nat → UInt64) (fs : List (Nat × Fragment)) : String :=
  String.join ((fs.filter (fun entry => slot < entry.1 ∧ entry.2.index = chosen entry.1)).map
    (fun entry => entry.2.arguments))

def Chosen (started : List UInt64) (slot : Nat) (chosen : Nat → UInt64) : Prop :=
  ∀ n, slot < n → n ≤ started.length → chosen n ∈ started.take n

theorem mixed_cons (slot : Nat) (chosen : Nat → UInt64) (n : Nat) (f : Fragment)
    (fs : List (Nat × Fragment))
    : mixed slot chosen ((n, f) :: fs)
        = (if slot < n ∧ f.index = chosen n then f.arguments else "") ++ mixed slot chosen fs := by
  unfold mixed
  rw [List.filter_cons]
  dsimp only
  by_cases h : slot < n ∧ f.index = chosen n
  . rw [if_pos (decide_eq_true h), if_pos h, List.map_cons, String.join_cons]
  . rw [if_neg (by simpa using h), if_neg h, String.empty_append]

theorem seen_append_firstFragments (seen : List UInt64) (f : Fragment) (fs : List Fragment)
    : seen.reverse ++ (firstFragments seen (f :: fs)).map Fragment.index
        = (seenWith seen f.index).reverse
          ++ (firstFragments (seenWith seen f.index) fs).map Fragment.index := by
  unfold seenWith
  rw [firstFragments]
  split
  . rfl
  . next h =>
    unfold seenWith
    rw [if_neg h, List.map_cons, List.reverse_cons, List.append_assoc]
    rfl

section OneIndex

variable {first : Fragment} {rest : List Fragment}
variable (h : ∀ f ∈ first :: rest, f.index = first.index)

include h

theorem seenWith_of_one_index {f : Fragment} (hmem : f ∈ first :: rest)
    : seenWith [first.index] f.index = [first.index] := by
  unfold seenWith
  rw [h f hmem, if_pos (by simp)]

theorem firstFragments_of_one_index : firstFragments [] (first :: rest) = [first] := by
  have hnone : ∀ fs, (∀ f ∈ fs, f ∈ first :: rest) → firstFragments [first.index] fs = [] := by
    intro fs hfs
    induction fs with
    | nil => rfl
    | cons f fs ih =>
      rw [firstFragments, h f (hfs f (List.mem_cons_self ..)), if_pos (by simp)]
      exact ih fun g hg => hfs g (List.mem_cons_of_mem _ hg)
  exact congrArg (List.cons first) (hnone rest fun f hf => List.mem_cons_of_mem _ hf)

theorem mixed_of_one_index {chosen : Nat → UInt64} (hchosen : chosen 1 = first.index)
    : mixed 0 chosen (timed [] (first :: rest))
        = String.join ((first :: rest).map Fragment.arguments) := by
  have hall : ∀ fs, (∀ f ∈ fs, f ∈ first :: rest)
      → mixed 0 chosen (timed [first.index] fs) = String.join (fs.map Fragment.arguments) := by
    intro fs hfs
    induction fs with
    | nil => rfl
    | cons f fs ih =>
      have hmem := hfs f (List.mem_cons_self ..)
      rw [timed, mixed_cons, seenWith_of_one_index h hmem,
        if_pos ⟨Nat.zero_lt_one, (h f hmem).trans hchosen.symm⟩,
        ih fun g hg => hfs g (List.mem_cons_of_mem _ hg), List.map_cons, String.join_cons]
  rw [timed, mixed_cons, List.map_cons, String.join_cons]
  rw [if_pos ⟨Nat.zero_lt_one, hchosen.symm⟩]
  exact congrArg _ (hall rest fun f hf => List.mem_cons_of_mem _ hf)

end OneIndex

theorem position_eq_some_iff {order : List UInt64 → List UInt64} {seen : List UInt64}
    (hnodup : (order seen).Nodup) {index : UInt64} {pos : Nat}
    : position order seen index = some pos ↔ (order seen)[pos]? = some index := by
  unfold position
  rw [List.findIdx?_eq_some_iff_getElem, List.getElem?_eq_some_iff]
  constructor
  . rintro ⟨h, hindex, _⟩
    exact ⟨h, beq_iff_eq.mp hindex⟩
  . rintro ⟨h, rfl⟩
    refine ⟨h, beq_self_eq_true _, ?_⟩
    intro j hlt hj
    have := hnodup.getElem_inj_iff.mp (beq_iff_eq.mp hj)
    omega

section Routed

variable {order : List UInt64 → List UInt64} {started : List UInt64} {slot : Nat}
variable {chosen : Nat → UInt64}

def PutsAt (order : List UInt64 → List UInt64) (started : List UInt64) (slot : Nat)
    (chosen : Nat → UInt64)
    : Prop :=
  ∀ n index, n ≤ started.length
    → (position order (started.take n).reverse index = some slot ↔ slot < n ∧ index = chosen n)

theorem PutsAt.routed_eq (h : PutsAt order started slot chosen) (seen : List UInt64)
    (fs : List Fragment)
    (hstarted : seen.reverse ++ (firstFragments seen fs).map Fragment.index = started)
    : routed order seen slot fs = mixed slot chosen (timed seen fs) := by
  induction fs generalizing seen with
  | nil => rfl
  | cons f fs ih =>
    rw [seen_append_firstFragments] at hstarted
    have hseen : (started.take (seenWith seen f.index).length).reverse = seenWith seen f.index := by
      rw [← hstarted, ← List.length_reverse, List.take_left, List.reverse_reverse]
    have hle : (seenWith seen f.index).length ≤ started.length := by
      rw [← hstarted, List.length_append, List.length_reverse]
      exact Nat.le_add_right _ _
    have hiff := h _ f.index hle
    rw [hseen] at hiff
    rw [routed, timed, mixed_cons, ih _ hstarted]
    congr 1
    exact if_congr hiff rfl rfl

theorem exists_putsAt_of_order (horder : IterationOrder order) (hnodup : started.Nodup)
    (slot : Nat)
    : ∃ chosen, Chosen started slot chosen ∧ PutsAt order started slot chosen := by
  have hperm : ∀ n, (order (started.take n).reverse).Perm (started.take n) :=
    fun n => (horder _).trans (List.reverse_perm _)
  refine ⟨fun n => (order (started.take n).reverse)[slot]?.getD 0, ?_, ?_⟩
  . intro n hslot hle
    have hlt : slot < (order (started.take n).reverse).length := by
      rw [(hperm n).length_eq, List.length_take]
      omega
    dsimp only
    rw [List.getElem?_eq_getElem hlt, Option.getD_some]
    exact (hperm n).mem_iff.mp (List.getElem_mem hlt)
  . intro n index hle
    have hlength : (order (started.take n).reverse).length = n := by
      rw [(hperm n).length_eq, List.length_take]
      omega
    rw [position_eq_some_iff ((hperm n).nodup_iff.mpr (hnodup.sublist (List.take_sublist ..)))]
    by_cases hslot : slot < n
    . have hlt := hlength.symm ▸ hslot
      dsimp only
      rw [List.getElem?_eq_getElem hlt, Option.getD_some, Option.some_inj, eq_comm]
      exact (and_iff_right hslot).symm
    . rw [List.getElem?_eq_none (by omega)]
      exact iff_of_false (by rintro ⟨⟩) (fun h => hslot h.1)

def chosenOrder (slot : Nat) (chosen : Nat → UInt64) (seen : List UInt64) : List UInt64 :=
  if slot < seen.length ∧ chosen seen.length ∈ seen then
    (seen.erase (chosen seen.length)).insertIdx slot (chosen seen.length)
  else
    seen

theorem iterationOrder_chosenOrder (slot : Nat) (chosen : Nat → UInt64)
    : IterationOrder (chosenOrder slot chosen) := by
  intro seen
  unfold chosenOrder
  split
  . next h =>
    have hlength := List.length_erase_of_mem h.2
    exact (List.perm_insertIdx _ _ (by omega)).trans (List.perm_cons_erase h.2).symm
  . exact List.Perm.refl seen

theorem putsAt_chosenOrder (hnodup : started.Nodup) (hchosen : Chosen started slot chosen)
    : PutsAt (chosenOrder slot chosen) started slot chosen := by
  intro n index hle
  have hlength : (started.take n).reverse.length = n := by
    rw [List.length_reverse, List.length_take]
    omega
  have hnodup' : (started.take n).reverse.Nodup :=
    List.nodup_reverse.mpr (hnodup.sublist (List.take_sublist ..))
  rw [position_eq_some_iff ((iterationOrder_chosenOrder slot chosen _).nodup_iff.mpr hnodup')]
  by_cases hslot : slot < n
  . have hmem : chosen n ∈ (started.take n).reverse :=
      List.mem_reverse.mpr (hchosen n hslot hle)
    have herase := List.length_erase_of_mem hmem
    unfold chosenOrder
    rw [hlength, if_pos ⟨hslot, hmem⟩, List.getElem?_insertIdx_self, if_pos (by omega),
      Option.some_inj, eq_comm]
    exact (and_iff_right hslot).symm
  . have hle' := (iterationOrder_chosenOrder slot chosen (started.take n).reverse).length_eq
    rw [List.getElem?_eq_none (by omega)]
    exact iff_of_false (by rintro ⟨⟩) (fun h => hslot h.1)

end Routed

theorem forall_routed_iff {fs : List Fragment} (hnodup : (startedIndices fs).Nodup) (slot : Nat)
    (P : String → Prop)
    : (∀ order, IterationOrder order → P (routed order [] slot fs))
        ↔ ∀ chosen, Chosen (startedIndices fs) slot chosen
          → P (mixed slot chosen (timed [] fs)) := by
  constructor
  . intro h chosen hchosen
    rw [← (putsAt_chosenOrder hnodup hchosen).routed_eq [] fs rfl]
    exact h _ (iterationOrder_chosenOrder slot chosen)
  . intro h order horder
    obtain ⟨chosen, hchosen, hputs⟩ := exists_putsAt_of_order horder hnodup slot
    rw [hputs.routed_eq [] fs rfl]
    exact h chosen hchosen

end AnimaAgent.OpenAiCompatProvider
