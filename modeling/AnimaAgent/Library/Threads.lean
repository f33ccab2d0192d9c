import Mathlib.Data.List.Basic

/-!
This module contains threads that take turns on a state that they share. What is known of each thread
and of each two threads is kept if the thread that takes the step keeps it.
-/

structure Threads (σ τ : Type) where
  shared : σ
  threads : List τ

namespace Threads

variable {σ τ : Type}

/-- A step of the thread at `i`, which may be disabled. -/
def advance (act : σ → τ → Option (σ × τ)) (i : Nat) (s : Threads σ τ) : Option (Threads σ τ) :=
  s.threads[i]?.bind (fun thread =>
    (act s.shared thread).map (fun result =>
      { shared := result.1, threads := s.threads.set i result.2 }))

def start (thread : τ) (s : Threads σ τ) : Threads σ τ :=
  { s with threads := s.threads ++ [thread] }

/-- `alone` holds of every thread, and `apart` of every two. -/
structure Holds (alone : σ → τ → Prop) (apart : τ → τ → Prop) (s : Threads σ τ) : Prop where
  alone : ∀ thread ∈ s.threads, alone s.shared thread
  apart : ∀ (i j : Nat) a b, i ≠ j → s.threads[i]? = some a → s.threads[j]? = some b → apart a b

variable {s s' : Threads σ τ}

theorem advance_eq_some {act : σ → τ → Option (σ × τ)} {i : Nat}
    (h : s.advance act i = some s')
    : ∃ thread thread' shared', s.threads[i]? = some thread
        ∧ act s.shared thread = some (shared', thread')
        ∧ s' = { shared := shared', threads := s.threads.set i thread' } := by
  obtain ⟨thread, hi, h⟩ := Option.bind_eq_some_iff.mp h
  obtain ⟨⟨shared', thread'⟩, hact, rfl⟩ := Option.map_eq_some_iff.mp h
  exact ⟨thread, thread', shared', hi, hact, rfl⟩

theorem mem_set {i : Nat} {thread' b : τ} (h : b ∈ s.threads.set i thread')
    : b = thread' ∨ ∃ j, j ≠ i ∧ s.threads[j]? = some b := by
  obtain ⟨j, hj⟩ := List.mem_iff_getElem?.mp h
  by_cases heq : i = j
  . subst heq
    rw [List.getElem?_set_self'] at hj
    obtain ⟨_, _, rfl⟩ := Option.map_eq_some_iff.mp hj
    exact .inl rfl
  . rw [List.getElem?_set_ne heq] at hj
    exact .inr ⟨j, fun h => heq h.symm, hj⟩

theorem mem_set_of_ne {i j : Nat} {b : τ} (thread' : τ) (hne : j ≠ i) (h : s.threads[j]? = some b)
    : b ∈ s.threads.set i thread' := by
  apply List.mem_of_getElem? (i := j)
  rw [List.getElem?_set_ne hne.symm]
  exact h

theorem mem_set_self {i : Nat} {thread : τ} (thread' : τ) (h : s.threads[i]? = some thread)
    : thread' ∈ s.threads.set i thread' := by
  apply List.mem_of_getElem? (i := i)
  rw [List.getElem?_set_self', h]
  rfl

theorem exists_mem_set {P : τ → Prop} {i : Nat} {thread thread' : τ}
    (hi : s.threads[i]? = some thread) (hkeep : P thread → P thread') (h : ∃ b ∈ s.threads, P b)
    : ∃ b ∈ s.threads.set i thread', P b := by
  obtain ⟨b, hb, hP⟩ := h
  obtain ⟨j, hj⟩ := List.mem_iff_getElem?.mp hb
  by_cases heq : j = i
  . subst heq
    cases hi.symm.trans hj
    exact ⟨thread', mem_set_self thread' hi, hkeep hP⟩
  . exact ⟨b, mem_set_of_ne thread' heq hj, hP⟩

theorem countP_set {P : τ → Bool} {i : Nat} {thread : τ} (thread' : τ)
    (h : s.threads[i]? = some thread)
    : (s.threads.set i thread').countP P + (P thread).toNat = s.threads.countP P + (P thread').toNat := by
  obtain ⟨hi, rfl⟩ := List.getElem?_eq_some_iff.mp h
  rw [List.countP_set hi]
  have hle : (if P s.threads[i] then 1 else 0) ≤ s.threads.countP P := by
    split
    . next hP => exact List.countP_pos_iff.mpr ⟨_, List.getElem_mem hi, hP⟩
    . exact Nat.zero_le _
  cases hP : P s.threads[i] <;> cases hP' : P thread' <;> simp only [hP] at hle ⊢ <;>
    simp only [Bool.toNat_true, Bool.toNat_false, ite_true, Bool.false_eq_true, ite_false] at hle ⊢ <;>
    omega

theorem perm_flatMap_set {β : Type} (f : τ → List β) {i : Nat} {thread : τ} (thread' : τ)
    (h : s.threads[i]? = some thread)
    : ((s.threads.set i thread').flatMap f ++ f thread).Perm
        (s.threads.flatMap f ++ f thread') := by
  obtain ⟨hi, rfl⟩ := List.getElem?_eq_some_iff.mp h
  have hsplit : s.threads = s.threads.take i ++ s.threads[i] :: s.threads.drop (i + 1) := by
    rw [← List.drop_eq_getElem_cons hi, List.take_append_drop]
  rw [List.set_eq_take_append_cons_drop, if_pos hi]
  conv =>
    rhs
    arg 1
    rw [hsplit]
  simp only [List.flatMap_append, List.flatMap_cons]
  classical
  rw [List.perm_iff_count]
  intro b
  simp only [List.count_append]
  omega

section Rules

variable {alone : σ → τ → Prop} {apart : τ → τ → Prop}

theorem Holds.advance (h : s.Holds alone apart) (hsymm : ∀ a b, apart a b → apart b a) {i : Nat}
    {thread' : τ} {shared' : σ} (hself : alone shared' thread')
    (hothers : ∀ (j : Nat) b, j ≠ i → s.threads[j]? = some b → alone shared' b ∧ apart thread' b)
    : Holds alone apart { shared := shared', threads := s.threads.set i thread' } := by
  constructor
  . intro b hb
    obtain rfl | ⟨j, hne, hj⟩ := mem_set hb
    . exact hself
    . exact (hothers j b hne hj).1
  . intro j k a b hne hj hk
    dsimp only at hj hk
    rw [List.getElem?_set] at hj hk
    split at hj
    . next hij =>
      split at hk
      . next hik => exact absurd (hij.symm.trans hik) hne
      . next hik =>
        split at hj
        . cases hj
          exact (hothers k b (fun h => hik h.symm) hk).2
        . cases hj
    . next hij =>
      split at hk
      . next hik =>
        split at hk
        . cases hk
          exact hsymm _ _ (hothers j a (fun h => hij h.symm) hj).2
        . cases hk
      . exact h.apart j k a b hne hj hk

theorem Holds.share (h : s.Holds alone apart) {shared' : σ}
    (hall : ∀ thread ∈ s.threads, alone shared' thread)
    : Holds alone apart { s with shared := shared' } := by
  exact ⟨hall, h.apart⟩

theorem Holds.start (h : s.Holds alone apart) {thread : τ} (hself : alone s.shared thread)
    (hothers : ∀ b ∈ s.threads, apart thread b ∧ apart b thread)
    : Holds alone apart (s.start thread) := by
  have hget : ∀ (i : Nat) a, (s.threads ++ [thread])[i]? = some a
      → s.threads[i]? = some a ∨ (i = s.threads.length ∧ a = thread) := by
    intro i a ha
    rw [List.getElem?_append] at ha
    split at ha
    . exact .inl ha
    . rw [List.getElem?_singleton] at ha
      split at ha
      . cases ha
        exact .inr ⟨by omega, rfl⟩
      . cases ha
  constructor
  . intro b hb
    obtain hb | hb := List.mem_append.mp hb
    . exact h.alone b hb
    . cases List.mem_singleton.mp hb
      exact hself
  . intro i j a b hne hi hj
    rcases hget i a hi with hold | ⟨hlast, rfl⟩
    . rcases hget j b hj with hold' | ⟨_, rfl⟩
      . exact h.apart i j a b hne hold hold'
      . exact (hothers a (List.mem_of_getElem? hold)).2
    . rcases hget j b hj with hold' | ⟨hlast', _⟩
      . exact (hothers b (List.mem_of_getElem? hold')).1
      . exact absurd (hlast.trans hlast'.symm) hne

end Rules

end Threads
