import AnimaAgent.Library.Runs
import AnimaAgent.Library.Threads

/-!
This module contains threads that append to a shared log by reading it and writing it back. No entry is
lost exactly if no thread reads the log while another one is about to write it.
-/

/-- What a thread has to do with the log: what it has read and not yet written back, and has written. -/
structure Appender (α : Type) where
  begins : Bool
  taken : Option (List α)
  written : List α

namespace Appends

variable {α : Type}

/-- The steps of a thread, as far as they concern the log. -/
inductive Step (log : List α) (a : Appender α) : List α → Appender α → Prop
  | other {a' : Appender α} (hbegins : a.begins = false) (htaken : a'.taken = a.taken)
      (hwritten : a'.written = a.written)
    : Step log a log a'
  | read {a' : Appender α} (hbegins : a.begins = true) (hnone : a.taken = none)
      (htaken : a'.taken = some log) (hwritten : a'.written = a.written)
    : Step log a log a'
  | write {a' : Appender α} {seen : List α} {entry : α} (hbegins : a.begins = false)
      (hseen : a.taken = some seen) (htaken : a'.taken = none)
      (hwritten : a'.written = a.written ++ [entry])
    : Step log a (seen ++ [entry]) a'

section System

variable {σ τ : Type} (log : σ → List α) (appender : τ → Appender α) (base : List α)

def written (s : Threads σ τ) : List α :=
  s.threads.flatMap (fun thread => (appender thread).written)

/-- The log has every entry that was written exactly once, behind what it had at first. -/
def Complete (s : Threads σ τ) : Prop :=
  ∃ order, order.Perm (written appender s) ∧ log s.shared = base ++ order

/-- A thread that reads the log is the only one that is about to write it. -/
def Alone (s : Threads σ τ) (i : Nat) : Prop :=
  ∀ thread, s.threads[i]? = some thread → (appender thread).begins = true
    → ∀ other ∈ s.threads, (appender other).taken = none

/-- What holds as long as the threads take turns: whoever is about to write has seen the whole log. -/
structure Exact (s : Threads σ τ) : Prop where
  complete : Complete log appender base s
  threads : s.Holds
    (fun shared thread => ∀ seen, (appender thread).taken = some seen → seen = log shared)
    (fun a b => (appender a).taken = none ∨ (appender b).taken = none)

def total (s : Threads σ τ) : Nat :=
  base.length + (written appender s).length

/-- The log and what was read of it are never too long. -/
structure Bounded (s : Threads σ τ) : Prop where
  log_le : (log s.shared).length ≤ total appender base s
  taken_le : ∀ thread ∈ s.threads, ∀ seen, (appender thread).taken = some seen
    → seen.length ≤ total appender base s
      ∧ (seen.length = total appender base s → (log s.shared).length = total appender base s)

/-- An entry is lost, or will be when the threads have written. -/
def Lossy (s : Threads σ τ) : Prop :=
  (log s.shared).length < total appender base s
    ∨ (∃ thread ∈ s.threads, ∃ seen, (appender thread).taken = some seen
      ∧ seen.length < total appender base s)
    ∨ ∃ (i j : Nat) (a b : τ), i ≠ j ∧ s.threads[i]? = some a ∧ s.threads[j]? = some b
      ∧ (appender a).taken ≠ none ∧ (appender b).taken ≠ none

variable {log appender base} {s : Threads σ τ} {i : Nat} {shared' : σ} {thread thread' : τ}

theorem exists_step {act : σ → τ → Option (σ × τ)} {s' : Threads σ τ}
    (hact : ∀ shared thread shared' thread', act shared thread = some (shared', thread')
      → Step (log shared) (appender thread) (log shared') (appender thread'))
    (h : s.advance act i = some s')
    : ∃ thread thread' shared', s.threads[i]? = some thread
        ∧ Step (log s.shared) (appender thread) (log shared') (appender thread')
        ∧ s' = { shared := shared', threads := s.threads.set i thread' } := by
  obtain ⟨thread, thread', shared', hi, hstep, hs'⟩ := Threads.advance_eq_some h
  exact ⟨thread, thread', shared', hi, hact _ _ _ _ hstep, hs'⟩

section Totals

variable (appender base) (shared' thread') (hi : s.threads[i]? = some thread)

include hi

theorem written_set_perm
    : (written appender { shared := shared', threads := s.threads.set i thread' }
          ++ (appender thread).written).Perm
        (written appender s ++ (appender thread').written) := by
  exact Threads.perm_flatMap_set (fun thread => (appender thread).written) thread' hi

theorem total_set
    : total appender base { shared := shared', threads := s.threads.set i thread' }
          + (appender thread).written.length
        = total appender base s + (appender thread').written.length := by
  have hlength := (written_set_perm appender shared' thread' hi).length_eq
  rw [List.length_append, List.length_append] at hlength
  unfold total
  omega

theorem total_set_of_eq (h : (appender thread').written = (appender thread).written)
    : total appender base { shared := shared', threads := s.threads.set i thread' }
        = total appender base s := by
  have htotal := total_set appender base shared' thread' hi
  rw [h] at htotal
  omega

theorem total_set_of_append {entry : α}
    (h : (appender thread').written = (appender thread).written ++ [entry])
    : total appender base { shared := shared', threads := s.threads.set i thread' }
        = total appender base s + 1 := by
  have htotal := total_set appender base shared' thread' hi
  rw [h, List.length_append, List.length_singleton] at htotal
  omega

end Totals

theorem Lossy.keep (h : Lossy log appender base s) (hi : s.threads[i]? = some thread)
    (hlog : log shared' = log s.shared)
    (hwritten : (appender thread').written = (appender thread).written)
    (htaken : (appender thread).taken ≠ none → (appender thread').taken = (appender thread).taken)
    : Lossy log appender base { shared := shared', threads := s.threads.set i thread' } := by
  have htotal := total_set_of_eq appender base shared' thread' hi hwritten
  have hset : ∀ (j : Nat) a, s.threads[j]? = some a → (appender a).taken ≠ none
      → ∃ b, (s.threads.set i thread')[j]? = some b ∧ (appender b).taken = (appender a).taken := by
    intro j a hj ha
    by_cases heq : i = j
    . subst heq
      cases hi.symm.trans hj
      refine ⟨thread', ?_, htaken ha⟩
      rw [List.getElem?_set_self', hi]
      rfl
    . refine ⟨a, ?_, rfl⟩
      rw [List.getElem?_set_ne heq]
      exact hj
  unfold Lossy
  rw [htotal, hlog]
  obtain hlost | ⟨other, hother, seen, hseen, hlost⟩ | ⟨j, k, a, b, hne, hj, hk, ha, hb⟩ := h
  . exact .inl hlost
  . obtain ⟨j, hj⟩ := List.mem_iff_getElem?.mp hother
    obtain ⟨c, hc, hsame⟩ := hset j other hj (by rw [hseen]; exact Option.some_ne_none seen)
    exact .inr (.inl ⟨c, List.mem_of_getElem? hc, seen, hsame.trans hseen, hlost⟩)
  . obtain ⟨a', ha', hsame⟩ := hset j a hj ha
    obtain ⟨b', hb', hsame'⟩ := hset k b hk hb
    exact .inr (.inr ⟨j, k, a', b', hne, ha', hb', hsame ▸ ha, hsame' ▸ hb⟩)

section Steps

variable (hi : s.threads[i]? = some thread)
variable (hstep : Step (log s.shared) (appender thread) (log shared') (appender thread'))

include hi hstep

theorem Bounded.step (h : Bounded log appender base s)
    : Bounded log appender base { shared := shared', threads := s.threads.set i thread' } := by
  have hmem := List.mem_of_getElem? hi
  generalize hlog : log shared' = log' at hstep
  generalize happender : appender thread' = a' at hstep
  cases hstep with
  | other hbegins htaken hwritten =>
    subst happender
    have htotal := total_set_of_eq appender base shared' thread' hi hwritten
    constructor
    . rw [htotal, hlog]
      exact h.log_le
    . intro other hother seen hseen
      rw [htotal, hlog]
      obtain rfl | ⟨j, -, hj⟩ := Threads.mem_set hother
      . exact h.taken_le thread hmem seen (htaken ▸ hseen)
      . exact h.taken_le other (List.mem_of_getElem? hj) seen hseen
  | read hbegins hnone htaken hwritten =>
    subst happender
    have htotal := total_set_of_eq appender base shared' thread' hi hwritten
    constructor
    . rw [htotal, hlog]
      exact h.log_le
    . intro other hother seen hseen
      rw [htotal, hlog]
      obtain rfl | ⟨j, -, hj⟩ := Threads.mem_set hother
      . rw [htaken] at hseen
        cases hseen
        exact ⟨h.log_le, id⟩
      . exact h.taken_le other (List.mem_of_getElem? hj) seen hseen
  | write hbegins hseen' htaken hwritten =>
    subst happender
    have htotal := total_set_of_append appender base shared' thread' hi hwritten
    obtain ⟨hle, -⟩ := h.taken_le thread hmem _ hseen'
    constructor
    . rw [htotal, hlog, List.length_append, List.length_singleton]
      omega
    . intro other hother seen hseen
      rw [htotal]
      obtain rfl | ⟨j, -, hj⟩ := Threads.mem_set hother
      . rw [htaken] at hseen
        cases hseen
      . have hle' := (h.taken_le other (List.mem_of_getElem? hj) seen hseen).1
        exact ⟨by omega, by omega⟩

theorem Lossy.step (hbounded : Bounded log appender base s) (h : Lossy log appender base s)
    : Lossy log appender base { shared := shared', threads := s.threads.set i thread' } := by
  have hmem := List.mem_of_getElem? hi
  generalize hlog : log shared' = log' at hstep
  generalize happender : appender thread' = a' at hstep
  cases hstep with
  | write hbegins hseen htaken hwritten =>
    next seen entry =>
    subst happender
    have htotal := total_set_of_append appender base shared' thread' hi hwritten
    obtain ⟨hle, hfull⟩ := hbounded.taken_le thread hmem _ hseen
    unfold Lossy
    rw [htotal, hlog, List.length_append, List.length_singleton]
    obtain hlost | ⟨other, hother, seen', hseen', hlost⟩ | ⟨j, k, a, b, hne, hj, hk, ha, hb⟩ := h
    . left
      omega
    . obtain ⟨j, hj⟩ := List.mem_iff_getElem?.mp hother
      by_cases heq : j = i
      . subst heq
        cases hi.symm.trans hj
        cases hseen.symm.trans hseen'
        left
        omega
      . exact .inr (.inl ⟨other, Threads.mem_set_of_ne thread' heq hj, seen', hseen', by omega⟩)
    . have hshort : ∀ (m : Nat) c, m ≠ i → s.threads[m]? = some c → (appender c).taken ≠ none
          → ∃ other ∈ s.threads.set i thread', ∃ seen, (appender other).taken = some seen
            ∧ seen.length < total appender base s + 1 := by
        intro m c hm hc htaken
        obtain ⟨seen, hseen⟩ := Option.ne_none_iff_exists'.mp htaken
        have hle := (hbounded.taken_le c (List.mem_of_getElem? hc) seen hseen).1
        exact ⟨c, Threads.mem_set_of_ne thread' hm hc, seen, hseen, by omega⟩
      -- one of the two is not the thread that writes, and does not know of the entry
      by_cases heq : j = i
      . exact .inr (.inl (hshort k b (fun h => hne (heq.trans h.symm)) hk hb))
      . exact .inr (.inl (hshort j a heq hj ha))
  | other hbegins htaken hwritten =>
    subst happender
    exact h.keep hi hlog hwritten fun _ => htaken
  | read hbegins hnone htaken hwritten =>
    subst happender
    exact h.keep hi hlog hwritten fun htaken => absurd hnone htaken

theorem Exact.step (h : Exact log appender base s) (halone : Alone appender s i)
    : Exact log appender base { shared := shared', threads := s.threads.set i thread' } := by
  have hmem := List.mem_of_getElem? hi
  have hperm := written_set_perm appender shared' thread' hi
  obtain ⟨order, horder, hbase⟩ := h.complete
  have hsymm : ∀ a b : τ, (appender a).taken = none ∨ (appender b).taken = none
      → (appender b).taken = none ∨ (appender a).taken = none := fun a b => Or.symm
  generalize hlog : log shared' = log' at hstep
  generalize happender : appender thread' = a' at hstep
  cases hstep with
  | other hbegins htaken hwritten =>
    subst happender
    rw [hwritten] at hperm
    constructor
    . exact ⟨order, horder.trans ((List.perm_append_right_iff _).mp hperm).symm, hlog.trans hbase⟩
    . refine h.threads.advance hsymm ?_ ?_
      . intro seen hseen
        rw [hlog]
        exact h.threads.alone thread hmem seen (htaken ▸ hseen)
      . intro j b hne hj
        refine ⟨?_, ?_⟩
        . intro seen hseen
          rw [hlog]
          exact h.threads.alone b (List.mem_of_getElem? hj) seen hseen
        . rw [htaken]
          exact h.threads.apart i j thread b hne.symm hi hj
  | read hbegins hnone htaken hwritten =>
    subst happender
    rw [hwritten] at hperm
    have hothers := halone thread hi hbegins
    constructor
    . exact ⟨order, horder.trans ((List.perm_append_right_iff _).mp hperm).symm, hlog.trans hbase⟩
    . refine h.threads.advance hsymm ?_ ?_
      . intro seen hseen
        rw [htaken] at hseen
        cases hseen
        exact hlog.symm
      . intro j b hne hj
        have hb := hothers b (List.mem_of_getElem? hj)
        refine ⟨?_, .inr hb⟩
        intro seen hseen
        rw [hb] at hseen
        cases hseen
  | write hbegins hseen htaken hwritten =>
    next seen entry =>
    subst happender
    have hlast := h.threads.alone thread hmem seen hseen
    constructor
    . refine ⟨order ++ [entry], ?_, ?_⟩
      . have hswap : (written appender s ++ ((appender thread).written ++ [entry])).Perm
            (written appender s ++ [entry] ++ (appender thread).written) := by
          rw [List.append_assoc]
          exact List.perm_append_comm.append_left _
        rw [hwritten] at hperm
        have hafter := (List.perm_append_right_iff _).mp (hperm.trans hswap)
        exact (horder.append_right [entry]).trans hafter.symm
      . rw [hlast, hbase, List.append_assoc] at hlog
        exact hlog
    . refine h.threads.advance hsymm ?_ ?_
      . intro seen hseen
        rw [htaken] at hseen
        cases hseen
      . intro j b hne hj
        refine ⟨?_, .inl htaken⟩
        intro seen' hseen'
        obtain hnone | hnone := h.threads.apart i j thread b hne.symm hi hj
        . rw [hnone] at hseen
          cases hseen
        . rw [hnone] at hseen'
          cases hseen'

theorem lossy_of_not_alone (h : ¬Alone appender s i)
    : Lossy log appender base { shared := shared', threads := s.threads.set i thread' } := by
  unfold Alone at h
  simp only [not_forall] at h
  obtain ⟨thread₀, hi₀, hbegins, other, hother, htaken⟩ := h
  cases hi.symm.trans hi₀
  obtain ⟨j, hj⟩ := List.mem_iff_getElem?.mp hother
  generalize hlog : log shared' = log' at hstep
  generalize happender : appender thread' = a' at hstep
  cases hstep with
  | other hnot _ _ => rw [hnot] at hbegins; cases hbegins
  | write hnot _ _ _ => rw [hnot] at hbegins; cases hbegins
  | read _ hnone htaken' hwritten =>
    subst happender
    have hne : i ≠ j := by
      rintro rfl
      cases hi.symm.trans hj
      exact htaken hnone
    refine .inr (.inr ⟨i, j, thread', other, hne, ?_, ?_, ?_, htaken⟩)
    . rw [List.getElem?_set_self', hi]
      rfl
    . rw [List.getElem?_set_ne hne]
      exact hj
    . rw [htaken']
      exact Option.some_ne_none _

end Steps

theorem Lossy.not_complete (h : Lossy log appender base s)
    (hidle : ∀ thread ∈ s.threads, (appender thread).taken = none)
    : ¬Complete log appender base s := by
  rintro ⟨order, horder, hlog⟩
  obtain hlost | ⟨thread, hmem, seen, hseen, -⟩ | ⟨i, j, a, b, -, hi, -, ha, -⟩ := h
  . rw [hlog, List.length_append, horder.length_eq] at hlost
    exact absurd hlost (Nat.lt_irrefl _)
  . rw [hidle thread hmem] at hseen
    cases hseen
  . exact ha (hidle a (List.mem_of_getElem? hi))

section Run

variable {act : σ → τ → Option (σ × τ)} {s' : Threads σ τ} {schedule : List Nat}
variable (hact : ∀ shared thread shared' thread', act shared thread = some (shared', thread')
  → Step (log shared) (appender thread) (log shared') (appender thread'))

include hact

theorem Lossy.run (hbounded : Bounded log appender base s) (h : Lossy log appender base s)
    (hrun : Runs.run (fun s i => s.advance act i) s schedule = some s')
    : Bounded log appender base s' ∧ Lossy log appender base s' := by
  refine Runs.Always.run_eq_some (P := fun s => Bounded log appender base s ∧ Lossy log appender base s)
    (Runs.always_of_forall_step ?_ schedule ⟨hbounded, h⟩) hrun
  rintro t i t' ⟨hbounded, h⟩ hadvance
  obtain ⟨thread, thread', shared', hi, hstep, rfl⟩ := exists_step hact hadvance
  exact ⟨hbounded.step hi hstep, h.step hi hstep hbounded⟩

theorem complete_iff_guarded (hbounded : Bounded log appender base s) (h : Exact log appender base s)
    (hrun : Runs.run (fun s i => s.advance act i) s schedule = some s')
    (hidle : ∀ thread ∈ s'.threads, (appender thread).taken = none)
    : Complete log appender base s'
        ↔ Runs.Guarded (fun s i => s.advance act i) (Alone appender) s schedule := by
  constructor
  . intro hcomplete
    induction schedule generalizing s with
    | nil => trivial
    | cons i rest ih =>
      intro t hadvance
      rw [Runs.run_cons_of_some rest hadvance] at hrun
      obtain ⟨thread, thread', shared', hi, hstep, rfl⟩ := exists_step hact hadvance
      by_cases halone : Alone appender s i
      . exact ⟨halone, ih (hbounded.step hi hstep) (h.step hi hstep halone) hrun⟩
      . have hlossy : Lossy log appender base _ := lossy_of_not_alone hi hstep halone
        have hlast := hlossy.run hact (hbounded.step hi hstep) hrun
        exact absurd hcomplete (hlast.2.not_complete hidle)
  . intro hguarded
    have halways := Runs.always_of_guarded (P := Exact log appender base) ?_ h hguarded
    . exact (halways.run_eq_some hrun).complete
    . intro t i t' hexact halone hadvance
      obtain ⟨thread, thread', shared', hi, hstep, rfl⟩ := exists_step hact hadvance
      exact hexact.step hi hstep halone

end Run

theorem bounded_and_exact_of_idle
    (hidle : ∀ thread ∈ s.threads, (appender thread).taken = none ∧ (appender thread).written = [])
    : Bounded log appender (log s.shared) s ∧ Exact log appender (log s.shared) s := by
  have hwritten : written appender s = [] := by
    unfold written
    rw [List.flatMap_eq_nil_iff]
    exact fun thread hmem => (hidle thread hmem).2
  refine ⟨⟨Nat.le_add_right .., ?_⟩, ⟨⟨[], ?_, ?_⟩, ⟨?_, ?_⟩⟩⟩
  . intro thread hmem seen hseen
    rw [(hidle thread hmem).1] at hseen
    cases hseen
  . rw [hwritten]
  . rw [List.append_nil]
  . intro thread hmem seen hseen
    rw [(hidle thread hmem).1] at hseen
    cases hseen
  . intro i j a b _ hi _
    exact .inl (hidle a (List.mem_of_getElem? hi)).1

end System

end Appends
