import Mathlib.Data.Finset.Card
import Mathlib.Data.Finset.Dedup
import Mathlib.Data.List.Sort
import Mathlib.Order.Basic

/-!
This module contains lists that are sorted with the largest key first, lists of which only the last items
are kept, maybe besides some that are pinned, and lists that are gathered item by item, each item in the
place where it was seen first.
-/

namespace Newest

variable {α κ : Type} [LinearOrder κ] (key : α → κ)

/-- The items with the largest key first; items with the same key stay in their order. -/
def sorted (items : List α) : List α :=
  items.mergeSort (fun a b => decide (key b ≤ key a))

def cut (limit : Nat) (items : List α) : List α :=
  items.take (items.length - limit)

def keep (limit : Nat) (items : List α) : List α :=
  items.drop (items.length - limit)

theorem sorted_perm (items : List α) : (sorted key items).Perm items := by
  exact List.mergeSort_perm items _

theorem order_trans (a b c : α) (hab : decide (key b ≤ key a) = true)
    (hbc : decide (key c ≤ key b) = true)
    : decide (key c ≤ key a) = true := by
  exact decide_eq_true ((of_decide_eq_true hbc).trans (of_decide_eq_true hab))

theorem order_total (a b : α) : (decide (key b ≤ key a) || decide (key a ≤ key b)) = true := by
  rw [Bool.or_eq_true, decide_eq_true_eq, decide_eq_true_eq]
  exact le_total (key b) (key a)

theorem pairwise_sorted (items : List α)
    : (sorted key items).Pairwise (fun a b => key b ≤ key a) := by
  have h := List.pairwise_mergeSort (order_trans key) (order_total key) items
  exact h.imp of_decide_eq_true

theorem sorted_cons_split (a : α) (items : List α)
    : let front := (sorted key items).filter (fun b => decide (key a < key b))
      let back := (sorted key items).filter (fun b => decide (key b ≤ key a))
      sorted key items = front ++ back ∧ sorted key (a :: items) = front ++ a :: back := by
  obtain ⟨front, back, hcons, hitems, hfront⟩ :=
    List.mergeSort_cons (order_trans key) (order_total key) a items
  have hsorted := pairwise_sorted key (a :: items)
  unfold sorted at hsorted ⊢
  rw [hcons] at hsorted
  have hlarger : ∀ b ∈ front, key a < key b := by
    intro b hmem
    have hb := hfront b hmem
    rw [Bool.not_eq_true', decide_eq_false_iff_not, not_le] at hb
    exact hb
  have hback : ∀ b ∈ back, key b ≤ key a :=
    (List.pairwise_cons.mp (List.pairwise_append.mp hsorted).2.1).1
  have hfilterFront : (front ++ back).filter (fun b => decide (key a < key b)) = front := by
    rw [List.filter_append, List.filter_eq_self.mpr (fun b hmem => decide_eq_true (hlarger b hmem)),
      List.filter_eq_nil_iff.mpr (fun b hmem h => (hback b hmem).not_gt (of_decide_eq_true h)),
      List.append_nil]
  have hfilterBack : (front ++ back).filter (fun b => decide (key b ≤ key a)) = back := by
    rw [List.filter_append, List.filter_eq_self.mpr (fun b hmem => decide_eq_true (hback b hmem)),
      List.filter_eq_nil_iff.mpr (fun b hmem h => (hlarger b hmem).not_ge (of_decide_eq_true h)),
      List.nil_append]
  dsimp only
  rw [hitems, hcons, hfilterFront, hfilterBack]
  exact ⟨rfl, rfl⟩

theorem filter_comm (p q : α → Bool) (items : List α)
    : (items.filter p).filter q = (items.filter q).filter p := by
  rw [List.filter_filter, List.filter_filter]
  exact List.filter_congr (fun _ _ => Bool.and_comm ..)

theorem sorted_filter (p : α → Bool) (items : List α)
    : sorted key (items.filter p) = (sorted key items).filter p := by
  induction items with
  | nil =>
    unfold sorted
    rw [List.filter_nil, List.mergeSort_nil, List.filter_nil]
  | cons a items ih =>
    obtain ⟨hitems, hcons⟩ := sorted_cons_split key a items
    rw [hcons, List.filter_append, List.filter_cons, List.filter_cons]
    split
    . rw [(sorted_cons_split key a (items.filter p)).2, ih, filter_comm p, filter_comm p]
    . rw [← List.filter_append, ← hitems, ih]

theorem mem_sorted {items : List α} {a : α} : a ∈ sorted key items ↔ a ∈ items := by
  exact (sorted_perm key items).mem_iff

theorem filter_key_sorted (items : List α) (k : κ)
    : (sorted key items).filter (fun a => decide (key a = k))
        = items.filter (fun a => decide (key a = k)) := by
  rw [← sorted_filter]
  unfold sorted
  apply List.mergeSort_of_pairwise
  apply List.pairwise_of_forall_mem_list
  intro a ha b hb
  have hka := of_decide_eq_true (List.mem_filter.mp ha).2
  have hkb := of_decide_eq_true (List.mem_filter.mp hb).2
  rw [hka, hkb]
  exact decide_eq_true le_rfl

variable {key}

theorem filter_append_filter_lt {items : List α}
    (h : items.Pairwise (fun a b => key b ≤ key a)) (k : κ)
    : items.filter (fun b => decide (k ≤ key b)) ++ items.filter (fun b => decide (key b < k))
        = items := by
  induction items with
  | nil => rfl
  | cons a items ih =>
    obtain ⟨ha, hitems⟩ := List.pairwise_cons.mp h
    by_cases hk : k ≤ key a
    . have hless : ¬decide (key a < k) = true := fun hlt => hk.not_gt (of_decide_eq_true hlt)
      rw [List.filter_cons, List.filter_cons, if_pos (decide_eq_true hk), if_neg hless,
        List.cons_append, ih hitems]
    . have hless : ∀ b ∈ items, key b < k := fun b hb => (ha b hb).trans_lt (not_le.mp hk)
      have hnone : items.filter (fun b => decide (k ≤ key b)) = [] := by
        rw [List.filter_eq_nil_iff]
        exact fun b hb hle => (hless b hb).not_ge (of_decide_eq_true hle)
      rw [List.filter_cons, List.filter_cons, if_neg (fun hle => hk (of_decide_eq_true hle)), hnone,
        if_pos (decide_eq_true (not_le.mp hk)),
        List.filter_eq_self.mpr (fun b hb => decide_eq_true (hless b hb)), List.nil_append]

theorem eq_of_filter_key_eq {items items' : List α}
    (h : items.Pairwise (fun a b => key b ≤ key a)) (h' : items'.Pairwise (fun a b => key b ≤ key a))
    (hsame : ∀ k, items.filter (fun a => decide (key a = k))
      = items'.filter (fun a => decide (key a = k)))
    : items = items' := by
  induction items generalizing items' with
  | nil =>
    symm
    rw [List.eq_nil_iff_forall_not_mem]
    intro b hb
    have hmem : b ∈ items'.filter (fun a => decide (key a = key b)) :=
      List.mem_filter.mpr ⟨hb, decide_eq_true rfl⟩
    rw [← hsame] at hmem
    cases hmem
  | cons a items ih =>
    have hmem : ∀ c, c ∈ a :: items ↔ c ∈ items' := by
      intro c
      have := congrArg (c ∈ ·) (hsame (key c))
      simpa only [List.mem_filter, decide_true, and_true, eq_iff_iff] using this
    cases items' with
    | nil => cases (hmem a).mp List.mem_cons_self
    | cons b items' =>
      obtain ⟨ha, hitems⟩ := List.pairwise_cons.mp h
      obtain ⟨hb, hitems'⟩ := List.pairwise_cons.mp h'
      have hkey : key a = key b := by
        apply le_antisymm
        . obtain heq | hin := List.mem_cons.mp ((hmem a).mp List.mem_cons_self)
          . rw [heq]
          . exact hb a hin
        . obtain heq | hin := List.mem_cons.mp ((hmem b).mpr List.mem_cons_self)
          . rw [heq]
          . exact ha b hin
      have hfirst := hsame (key a)
      rw [List.filter_cons, List.filter_cons, if_pos (decide_eq_true rfl),
        if_pos (decide_eq_true hkey.symm)] at hfirst
      obtain ⟨rfl, -⟩ := List.cons_eq_cons.mp hfirst
      congr 1
      apply ih hitems hitems'
      intro k
      have hk := hsame k
      rw [List.filter_cons, List.filter_cons] at hk
      split at hk
      . exact (List.cons_eq_cons.mp hk).2
      . exact hk

theorem map_sorted_reverse_eq_iff {β : Type} {f : α → β} {key' : β → κ}
    (hkey : ∀ a, key' (f a) = key a) {items : List α}
    (h : items.Pairwise (fun a b => key b ≤ key a))
    : (sorted key items.reverse).map f = items.map f
        ↔ ∀ k, ((items.map f).filter (fun b => decide (key' b = k))).reverse
          = (items.map f).filter (fun b => decide (key' b = k)) := by
  have hfilter : ∀ (l : List α) (k : κ), (l.map f).filter (fun b => decide (key' b = k))
      = (l.filter (fun a => decide (key a = k))).map f := by
    intro l k
    rw [List.filter_map]
    congr 1
    apply List.filter_congr
    intro a _
    rw [Function.comp_apply, hkey]
  have hsorted : ∀ k, ((sorted key items.reverse).map f).filter (fun b => decide (key' b = k))
      = ((items.map f).filter (fun b => decide (key' b = k))).reverse := by
    intro k
    rw [hfilter, hfilter, filter_key_sorted, List.filter_reverse, List.map_reverse]
  have hpairwise : ∀ {l : List α}, l.Pairwise (fun a b => key b ≤ key a)
      → (l.map f).Pairwise (fun a b => key' b ≤ key' a) := by
    intro l hl
    rw [List.pairwise_map]
    exact hl.imp (fun hle => by rw [hkey, hkey]; exact hle)
  constructor
  . intro heq k
    rw [← hsorted, heq]
  . intro hsame
    apply eq_of_filter_key_eq (hpairwise (pairwise_sorted key _)) (hpairwise h)
    intro k
    rw [hsorted, hsame]

theorem sorted_sorted_append (items more : List α)
    : sorted key (sorted key items ++ more) = sorted key (items ++ more) := by
  apply eq_of_filter_key_eq (pairwise_sorted key _) (pairwise_sorted key _)
  intro k
  rw [filter_key_sorted, filter_key_sorted, List.filter_append, List.filter_append, filter_key_sorted]

variable (key) in
theorem foldl_sorted (items more : List α)
    : more.foldl (fun items a => sorted key (items ++ [a])) (sorted key items)
        = sorted key (items ++ more) := by
  induction more generalizing items with
  | nil => rw [List.foldl_nil, List.append_nil]
  | cons a more ih =>
    rw [List.foldl_cons, sorted_sorted_append, ih, List.append_assoc, List.singleton_append]

variable (key) in
/-- The condition holds for the item, and no other such item has a larger key or the same one earlier. -/
def First (p : α → Bool) (items : List α) (a : α) : Prop :=
  p a = true ∧ ∃ before after, items = before ++ a :: after
    ∧ (∀ b ∈ before, p b = true → key b < key a) ∧ (∀ b ∈ after, p b = true → key b ≤ key a)

theorem First.unique {p : α → Bool} {items : List α} {a a' : α} (h : First key p items a)
    (h' : First key p items a')
    : a = a' := by
  obtain ⟨hpa, before, after, heq, hbefore, hafter⟩ := h
  obtain ⟨hpa', before', after', heq', hbefore', hafter'⟩ := h'
  rw [heq, List.append_eq_append_iff] at heq'
  obtain ⟨more, rfl, hmore⟩ | ⟨more, rfl, hmore⟩ := heq'
  . cases more with
    | nil =>
      cases hmore
      rfl
    | cons b more =>
      cases hmore
      exact absurd (hafter a' (List.mem_append_right _ List.mem_cons_self) hpa')
        (hbefore' a (List.mem_append_right _ List.mem_cons_self) hpa).not_ge
  . cases more with
    | nil =>
      cases hmore
      rfl
    | cons b more =>
      cases hmore
      exact absurd (hafter' a (List.mem_append_right _ List.mem_cons_self) hpa)
        (hbefore a' (List.mem_append_right _ List.mem_cons_self) hpa').not_ge

theorem find_sorted {p : α → Bool} {items : List α} {a : α}
    (h : (sorted key items).find? p = some a)
    : First key p items a := by
  obtain ⟨hpa, first, rest, heq, hfirst⟩ := List.find?_eq_some_iff_append.mp h
  have hle : ∀ b ∈ items, p b = true → key b ≤ key a := by
    intro b hb hpb
    replace hb : b ∈ sorted key items := (mem_sorted key).mpr hb
    rw [heq, List.mem_append, List.mem_cons] at hb
    obtain hb | rfl | hb := hb
    . have := hfirst b hb
      rw [hpb] at this
      cases this
    . exact le_refl _
    . have hsorted := pairwise_sorted key items
      rw [heq] at hsorted
      exact (List.pairwise_cons.mp (List.pairwise_append.mp hsorted).2.1).1 b hb
  have hfind : items.find? (fun b => decide (key b = key a) && p b) = some a := by
    rw [← List.head?_filter, ← List.filter_filter, List.filter_comm, ← filter_key_sorted,
      List.filter_comm, List.filter_filter, List.head?_filter, List.find?_eq_some_iff_append]
    refine ⟨by rw [hpa, decide_eq_true rfl, Bool.and_self], first, rest, heq, fun b hb => ?_⟩
    have := hfirst b hb
    rw [Bool.not_eq_true'] at this ⊢
    rw [this, Bool.and_false]
  obtain ⟨_, before, after, hitems, hbefore⟩ := List.find?_eq_some_iff_append.mp hfind
  refine ⟨hpa, before, after, hitems, ?_, ?_⟩
  . intro b hb hpb
    have hmem : b ∈ items := by
      rw [hitems]
      exact List.mem_append_left _ hb
    refine lt_of_le_of_ne (hle b hmem hpb) (fun hkey => ?_)
    have := hbefore b hb
    rw [hpb, decide_eq_true hkey] at this
    cases this
  . intro b hb hpb
    apply hle b _ hpb
    rw [hitems]
    exact List.mem_append_right _ (List.mem_cons_of_mem a hb)

theorem find_sorted_iff {p : α → Bool} {items : List α} {a : α}
    : (sorted key items).find? p = some a ↔ First key p items a := by
  constructor
  . exact find_sorted
  . intro h
    obtain ⟨hpa, before, after, hitems, _⟩ := id h
    cases hfind : (sorted key items).find? p with
    | none =>
      have hmem : a ∈ sorted key items := by
        rw [mem_sorted, hitems]
        exact List.mem_append_right _ List.mem_cons_self
      exact absurd hpa (List.find?_eq_none.mp hfind a hmem)
    | some b => rw [(find_sorted hfind).unique h]

theorem sorted_filterMap {β : Type} {key' : β → κ} {f : α → Option β} {items : List α}
    (h : ∀ a b, f a = some b → key' b = key a)
    : sorted key' (items.filterMap f) = (sorted key items).filterMap f := by
  have hfilter : ∀ (items : List α) (k : κ), (items.filterMap f).filter (fun b => decide (key' b = k))
      = (items.filter (fun a => decide (key a = k))).filterMap f := by
    intro items k
    rw [List.filter_filterMap, List.filterMap_filter]
    apply List.filterMap_congr
    intro a _
    cases hf : f a with
    | none => rw [Option.filter_none, ite_self]
    | some b => rw [Option.filter_some, h a b hf]
  apply eq_of_filter_key_eq (pairwise_sorted key' _)
  . rw [List.pairwise_filterMap]
    apply (pairwise_sorted key items).imp
    intro a b hle c hc d hd
    rw [h a c hc, h b d hd]
    exact hle
  . intro k
    rw [filter_key_sorted, hfilter, hfilter, filter_key_sorted]

variable (key) in
theorem sorted_append_singleton (items : List α) (a : α)
    : sorted key (items ++ [a])
        = (sorted key items).filter (fun b => decide (key a ≤ key b))
          ++ a :: (sorted key items).filter (fun b => decide (key b < key a)) := by
  have hsorted := pairwise_sorted key items
  apply eq_of_filter_key_eq (pairwise_sorted key _)
  . rw [List.pairwise_append, List.pairwise_cons]
    refine ⟨hsorted.filter _, ⟨?_, hsorted.filter _⟩, ?_⟩
    . intro b hb
      exact (of_decide_eq_true (List.mem_filter.mp hb).2).le
    . intro b hb c hc
      have hab := of_decide_eq_true (List.mem_filter.mp hb).2
      obtain rfl | hc := List.mem_cons.mp hc
      . exact hab
      . exact (of_decide_eq_true (List.mem_filter.mp hc).2).le.trans hab
  . intro k
    have hnone : ∀ p : α → Bool, (∀ b, key b = k → p b = false)
        → ((sorted key items).filter p).filter (fun b => decide (key b = k)) = [] := by
      intro p hp
      rw [List.filter_eq_nil_iff]
      intro b hb hkb
      have := hp b (of_decide_eq_true hkb)
      rw [(List.mem_filter.mp hb).2] at this
      cases this
    have hall : ∀ p : α → Bool, (∀ b, key b = k → p b = true)
        → ((sorted key items).filter p).filter (fun b => decide (key b = k))
          = items.filter (fun b => decide (key b = k)) := by
      intro p hp
      rw [filter_comm, filter_key_sorted, List.filter_eq_self]
      intro b hb
      exact hp b (of_decide_eq_true (List.mem_filter.mp hb).2)
    rw [filter_key_sorted, List.filter_append, List.filter_append, List.filter_cons, List.filter_nil,
      List.filter_cons]
    by_cases hk : k < key a
    . rw [hnone _ (fun b hb => decide_eq_false (hb ▸ hk.not_ge)),
        hall _ (fun b hb => decide_eq_true (hb ▸ hk)),
        if_neg (fun h => hk.ne' (of_decide_eq_true h)), if_neg (fun h => hk.ne' (of_decide_eq_true h)),
        List.append_nil, List.nil_append]
    . rw [hall _ (fun b hb => decide_eq_true (hb ▸ not_lt.mp hk)),
        hnone _ (fun b hb => decide_eq_false (hb ▸ hk))]

variable (key)

section Keep

variable (limit : Nat) (items : List α)

theorem cut_append_keep : cut limit items ++ keep limit items = items := by
  exact List.take_append_drop _ items

theorem length_keep : (keep limit items).length = min items.length limit := by
  unfold keep
  rw [List.length_drop]
  omega

theorem length_cut : (cut limit items).length = items.length - limit := by
  unfold cut
  rw [List.length_take]
  omega

theorem cut_eq_nil (h : items.length ≤ limit) : cut limit items = [] := by
  unfold cut
  rw [Nat.sub_eq_zero_of_le h, List.take_zero]

theorem keep_keep_append (items' : List α)
    : keep limit (keep limit items ++ items') = keep limit (items ++ items') := by
  unfold keep
  rw [List.drop_append, List.drop_append, List.drop_drop, List.length_append, List.length_append,
    List.length_drop]
  congr 2
  . omega
  . omega

theorem keep_sublist : (keep limit items).Sublist items := by
  exact List.drop_sublist _ items

variable {items}

theorem forall_cut_le_iff (hlimit : 0 < limit) (h : items.Pairwise (fun a b => key b ≤ key a))
    : (∀ a ∈ cut limit items, ∀ b ∈ keep limit items, key a ≤ key b)
        ↔ items.length ≤ limit ∨ ∀ a ∈ items, ∀ b ∈ items, key a = key b := by
  have hparts := cut_append_keep limit items
  constructor
  . intro hle
    by_cases hlength : items.length ≤ limit
    . exact .inl hlength
    . right
      have hcut := length_cut limit items
      have hkeep := length_keep limit items
      obtain ⟨first, hfirst⟩ := List.exists_mem_of_length_pos (l := cut limit items) (by omega)
      obtain ⟨last, hlast⟩ := List.exists_mem_of_length_pos (l := keep limit items) (by omega)
      rw [← hparts] at h ⊢
      obtain ⟨_, _, hcross⟩ := List.pairwise_append.mp h
      have heq : ∀ a ∈ cut limit items, ∀ b ∈ keep limit items, key a = key b :=
        fun a ha b hb => le_antisymm (hle a ha b hb) (hcross a ha b hb)
      have hall : ∀ a ∈ cut limit items ++ keep limit items, key a = key last := by
        intro a ha
        obtain ha | ha := List.mem_append.mp ha
        . exact heq a ha last hlast
        . exact (heq first hfirst a ha).symm.trans (heq first hfirst last hlast)
      exact fun a ha b hb => (hall a ha).trans (hall b hb).symm
  . rintro (hlength | hall) a ha b hb
    . rw [cut_eq_nil limit items hlength] at ha
      cases ha
    . exact (hall a (hparts ▸ List.mem_append_left _ ha) b
        (hparts ▸ List.mem_append_right _ hb)).le

theorem keep_filter_iff (p : α → Bool)
    : keep limit (items.filter p) = (keep limit items).filter p
        ↔ (∀ a ∈ cut limit items, p a = false) ∨ ∀ a ∈ keep limit items, p a = true := by
  have hparts : (cut limit items).filter p ++ (keep limit items).filter p = items.filter p := by
    rw [← List.filter_append, cut_append_keep]
  have hlength := congrArg List.length hparts
  rw [List.length_append] at hlength
  have hkept := List.length_filter_le p (keep limit items)
  have hkeep := length_keep limit items
  have hall : (∀ a ∈ keep limit items, p a = true)
      ↔ ((keep limit items).filter p).length = (keep limit items).length :=
    List.length_filter_eq_length_iff.symm
  have hnone : (∀ a ∈ cut limit items, p a = false) ↔ ((cut limit items).filter p).length = 0 := by
    rw [List.length_eq_zero_iff, List.filter_eq_nil_iff]
    simp only [Bool.not_eq_true]
  have hcut := length_cut limit items
  have hless := List.length_filter_le p (cut limit items)
  have hdrop : keep limit (items.filter p) = (keep limit items).filter p
      ↔ (items.filter p).length - limit = ((cut limit items).filter p).length := by
    constructor
    . intro h
      have hlen := congrArg List.length h
      rw [length_keep] at hlen
      omega
    . intro h
      change (items.filter p).drop ((items.filter p).length - limit) = _
      rw [h, ← hparts, List.drop_left]
  rw [hdrop, hall, hnone]
  omega

end Keep

section Pinned

variable (position : α → Nat) (pinned : α → Bool) (limit : Nat)

/-- Besides the pinned items, the last ones are kept, in their order. -/
structure KeepsRecent (items kept : List α) : Prop where
  inOrder : kept.Sublist items
  bounded : kept.length ≤ limit
  pins : ∀ a ∈ items, pinned a = true → a ∈ kept
  recent : ∀ a ∈ items, a ∉ kept → ∀ b ∈ kept, pinned b = false → position a < position b

variable {position pinned limit} {older recent kept : List α}

theorem length_le_of_pairwise_position {items items' : List α}
    (hpositions : items.Pairwise (fun a b => position a < position b)) (hsubset : items ⊆ items')
    : items.length ≤ items'.length := by
  have hnodup : items.Nodup := hpositions.imp (fun hlt heq => hlt.ne (congrArg position heq))
  exact (hnodup.subperm hsubset).length_le

theorem KeepsRecent.eq_append
    (hpositions : (older ++ recent).Pairwise (fun a b => position a < position b))
    (hlength : kept.length = (older.filter pinned).length + recent.length)
    (h : KeepsRecent position pinned limit (older ++ recent) kept)
    : kept = older.filter pinned ++ recent := by
  obtain ⟨holder, hrecent, hcross⟩ := List.pairwise_append.mp hpositions
  obtain ⟨k, k', rfl, hk, hk'⟩ := List.sublist_append_iff.mp h.inOrder
  rw [List.length_append] at hlength
  have hall : k' = recent := by
    by_contra hne
    have hless : k'.length < recent.length := by
      refine hk'.length_le.lt_of_ne ?_
      intro heq
      exact hne (hk'.eq_of_length heq)
    obtain ⟨x, hx, hxk'⟩ : ∃ x ∈ recent, x ∉ k' := by
      by_contra hnone
      push Not at hnone
      exact (length_le_of_pairwise_position hrecent hnone).not_gt hless
    have hxk : x ∉ k ++ k' := by
      rw [List.mem_append, not_or]
      refine ⟨?_, hxk'⟩
      intro hin
      exact (hcross x (hk.subset hin) x hx).ne rfl
    have hpins : ∀ b ∈ k, pinned b = true := by
      intro b hb
      by_contra hpinned
      have hlater := h.recent x (List.mem_append_right _ hx) hxk b (List.mem_append_left _ hb)
        (Bool.not_eq_true _ ▸ hpinned)
      exact (hcross b (hk.subset hb) x hx).not_gt hlater
    have hle := (hk.filter pinned).length_le
    rw [List.filter_eq_self.mpr hpins] at hle
    omega
  subst hall
  have hpinned : (older.filter pinned).length ≤ (k.filter pinned).length := by
    apply length_le_of_pairwise_position (holder.filter pinned)
    intro a ha
    obtain ⟨ha, hpinned⟩ := List.mem_filter.mp ha
    obtain hin | hin := List.mem_append.mp (h.pins a (List.mem_append_left _ ha) hpinned)
    . exact List.mem_filter.mpr ⟨hin, hpinned⟩
    . cases (hcross a ha a hin).ne rfl
  have hself : k.filter pinned = k := by
    apply List.filter_sublist.eq_of_length_le
    omega
  rw [← (hk.filter pinned).eq_of_length_le hpinned, hself]

theorem keepsRecent_append
    (hpositions : (older ++ recent).Pairwise (fun a b => position a < position b))
    (hlimit : (older.filter pinned).length + recent.length ≤ limit)
    : KeepsRecent position pinned limit (older ++ recent) (older.filter pinned ++ recent) := by
  constructor
  . exact List.filter_sublist.append_right recent
  . rw [List.length_append]
    exact hlimit
  . intro a ha hpinned
    obtain ha | ha := List.mem_append.mp ha
    . exact List.mem_append_left _ (List.mem_filter.mpr ⟨ha, hpinned⟩)
    . exact List.mem_append_right _ ha
  . intro a ha hout b hb hpinned
    have hinRecent : b ∈ recent := by
      obtain hin | hin := List.mem_append.mp hb
      . rw [(List.mem_filter.mp hin).2] at hpinned
        cases hpinned
      . exact hin
    obtain ha | ha := List.mem_append.mp ha
    . exact (List.pairwise_append.mp hpositions).2.2 a ha b hinRecent
    . cases hout (List.mem_append_right _ ha)

end Pinned

end Newest

namespace Distinct

variable {α : Type} [DecidableEq α]

def see (seen : List α) (a : α) : List α :=
  if a ∈ seen then seen else seen ++ [a]

theorem mem_see {seen : List α} {a b : α} : b ∈ see seen a ↔ b ∈ seen ∨ b = a := by
  unfold see
  split
  . next hseen =>
    refine (or_iff_left_of_imp ?_).symm
    rintro rfl
    exact hseen
  . rw [List.mem_append, List.mem_singleton]

theorem mem_foldl_see {seen items : List α} {b : α}
    : b ∈ items.foldl see seen ↔ b ∈ seen ∨ b ∈ items := by
  induction items generalizing seen with
  | nil => exact (or_iff_left List.not_mem_nil).symm
  | cons a items ih => rw [List.foldl_cons, ih, mem_see, or_assoc, List.mem_cons]

theorem nodup_see {seen : List α} (h : seen.Nodup) (a : α) : (see seen a).Nodup := by
  unfold see
  split
  . exact h
  . next hseen => exact List.Nodup.append h (List.nodup_singleton a) (by simpa using hseen)

theorem nodup_foldl_see {seen : List α} (h : seen.Nodup) (items : List α)
    : (items.foldl see seen).Nodup := by
  induction items generalizing seen with
  | nil => exact h
  | cons a items ih => exact ih (nodup_see h a)

theorem length_foldl_see (items : List α) : (items.foldl see []).length = items.toFinset.card := by
  rw [← List.toFinset_card_of_nodup (nodup_foldl_see List.nodup_nil items)]
  congr 1
  ext b
  rw [List.mem_toFinset, List.mem_toFinset, mem_foldl_see, or_iff_right List.not_mem_nil]

theorem see_filter (p : α → Bool) (seen : List α) (a : α)
    : (see seen a).filter p = if p a then see (seen.filter p) a else seen.filter p := by
  unfold see
  by_cases hp : p a
  . simp only [List.mem_filter, hp, and_true, if_true]
    split
    . rfl
    . rw [List.filter_append, List.filter_cons_of_pos hp, List.filter_nil]
  . rw [if_neg hp]
    split
    . rfl
    . rw [List.filter_append, List.filter_cons_of_neg hp, List.filter_nil, List.append_nil]

theorem foldl_see_filter (p : α → Bool) (seen items : List α)
    : (items.filter p).foldl see (seen.filter p) = (items.foldl see seen).filter p := by
  induction items generalizing seen with
  | nil => rfl
  | cons a items ih =>
    rw [List.foldl_cons, ← ih, see_filter, List.filter_cons]
    split
    . rfl
    . rfl

end Distinct
