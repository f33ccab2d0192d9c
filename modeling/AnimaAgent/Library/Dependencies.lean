import Mathlib.Data.List.Basic
import Mathlib.Logic.Relation

/-!
This module contains items that depend on each other, some of them on items that do not exist, orders
of the items, and groups of items one after the other.
-/

namespace Dependencies

variable {α : Type} (dependencies : α → Option (List α))

def DependsOn (a b : α) : Prop :=
  ∃ ds, dependencies a = some ds ∧ b ∈ ds ∧ (dependencies b).isSome

def OnCycle (a : α) : Prop :=
  Relation.TransGen (DependsOn dependencies) a a

/-- The dependencies of the item lead to existing items only, and never into a cycle. -/
inductive Resolvable : α → Prop where
  | intro {a : α} {ds : List α} (exists_ : dependencies a = some ds)
    (resolved : ∀ d ∈ ds, Resolvable d) : Resolvable a

variable {dependencies}

theorem Resolvable.exists_ready {a : α} (left : α → Prop) (h : Resolvable dependencies a)
    (ha : left a)
    : ∃ b ds, left b ∧ dependencies b = some ds ∧ ∀ d ∈ ds, Resolvable dependencies d ∧ ¬left d := by
  induction h with
  | intro hds hresolved ih =>
    rename_i a ds
    by_cases hleft : ∃ d ∈ ds, left d
    . obtain ⟨d, hmem, hd⟩ := hleft
      exact ih d hmem hd
    . refine ⟨a, ds, ha, hds, ?_⟩
      intro d hmem
      exact ⟨hresolved d hmem, fun hd => hleft ⟨d, hmem, hd⟩⟩

/-- Every item of the order comes after all items that it depends on. -/
def DependenciesFirst (dependencies : α → Option (List α)) (order : List α) : Prop :=
  ∀ earlier a later, order = earlier ++ a :: later → ∀ b, DependsOn dependencies a b → b ∈ earlier

theorem DependenciesFirst.nil : DependenciesFirst dependencies [] := by
  intro earlier a later horder
  cases earlier <;> cases horder

theorem DependenciesFirst.concat {order : List α} {a : α} (h : DependenciesFirst dependencies order)
    (ha : ∀ b, DependsOn dependencies a b → b ∈ order)
    : DependenciesFirst dependencies (order ++ [a]) := by
  intro earlier c later horder b hdepends
  -- the item is the last one exactly if nothing comes later
  obtain rfl | ⟨later, last, rfl⟩ := later.eq_nil_or_concat
  . obtain ⟨rfl, hlast⟩ := List.append_inj' horder rfl
    cases hlast
    exact ha b hdepends
  . rw [List.concat_eq_append, ← List.cons_append, ← List.append_assoc] at horder
    obtain ⟨rfl, _⟩ := List.append_inj' horder rfl
    exact h earlier c later rfl b hdepends

def Before (groups : List (List α)) (a b : α) : Prop :=
  ∃ (i j : Nat) (group group' : List α), i < j ∧ groups[i]? = some group ∧ groups[j]? = some group'
    ∧ a ∈ group ∧ b ∈ group'

theorem not_before_nil {a b : α} : ¬Before [] a b := by
  rintro ⟨i, j, group, group', _, hgroup, _⟩
  cases hgroup

theorem before_cons_iff {group : List α} {groups : List (List α)} {a b : α}
    : Before (group :: groups) a b ↔ (a ∈ group ∧ b ∈ groups.flatten) ∨ Before groups a b := by
  constructor
  . rintro ⟨i, j, first, second, hlt, hfirst, hsecond, ha, hb⟩
    cases j with
    | zero => exact absurd hlt (Nat.not_lt_zero i)
    | succ j =>
      cases i with
      | zero =>
        cases hfirst
        exact .inl ⟨ha, List.mem_flatten.mpr ⟨second, List.mem_of_getElem? hsecond, hb⟩⟩
      | succ i => exact .inr ⟨i, j, first, second, Nat.lt_of_succ_lt_succ hlt, hfirst, hsecond, ha, hb⟩
  . rintro (⟨ha, hb⟩ | ⟨i, j, first, second, hlt, hfirst, hsecond, ha, hb⟩)
    . obtain ⟨second, hmem, hb⟩ := List.mem_flatten.mp hb
      obtain ⟨j, hj⟩ := List.mem_iff_getElem?.mp hmem
      exact ⟨0, j + 1, group, second, Nat.succ_pos j, rfl, hj, ha, hb⟩
    . exact ⟨i + 1, j + 1, first, second, Nat.succ_lt_succ hlt, hfirst, hsecond, ha, hb⟩

end Dependencies
