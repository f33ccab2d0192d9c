import Mathlib.Data.List.Infix

/-!
This module contains systems that take steps, some of which are disabled in some states, and their
runs. A property that every guarded step keeps holds along every run whose steps all meet the guard; if
the guard is exact, it holds along no other run.
-/

namespace Runs

variable {σ α : Type} (step : σ → α → Option σ)

/-- The state that the actions lead to, if none of them is disabled. -/
def run : σ → List α → Option σ
  | s, [] => some s
  | s, a :: rest => (step s a).bind (fun s' => run s' rest)

def Always (P : σ → Prop) : σ → List α → Prop
  | s, [] => P s
  | s, a :: rest => P s ∧ ∀ s', step s a = some s' → Always P s' rest

/-- Every step of the run meets the guard, in the state before the step. -/
def Guarded (guard : σ → α → Prop) : σ → List α → Prop
  | _, [] => True
  | s, a :: rest => ∀ s', step s a = some s' → guard s a ∧ Guarded guard s' rest

instance decidableGuarded {guard : σ → α → Prop} [∀ s a, Decidable (guard s a)]
    : ∀ s actions, Decidable (Guarded step guard s actions)
  | _, [] => inferInstanceAs (Decidable True)
  | s, a :: rest =>
    have : ∀ s', Decidable (Guarded step guard s' rest) := fun s' => decidableGuarded s' rest
    inferInstanceAs (Decidable (∀ s' ∈ step s a, guard s a ∧ Guarded step guard s' rest))

variable {step}

@[simp]
theorem run_nil (s : σ) : run step s [] = some s := by
  rfl

theorem run_cons_of_some {s s' : σ} {a : α} (rest : List α) (h : step s a = some s')
    : run step s (a :: rest) = run step s' rest := by
  rw [run, h]
  rfl

theorem run_cons_of_none {s : σ} {a : α} (rest : List α) (h : step s a = none)
    : run step s (a :: rest) = none := by
  rw [run, h]
  rfl

theorem run_append (s : σ) (as bs : List α)
    : run step s (as ++ bs) = (run step s as).bind (fun s' => run step s' bs) := by
  induction as generalizing s with
  | nil => rfl
  | cons a rest ih =>
    rw [List.cons_append]
    cases h : step s a with
    | none =>
      rw [run_cons_of_none _ h, run_cons_of_none _ h]
      rfl
    | some s' => rw [run_cons_of_some _ h, run_cons_of_some _ h, ih]

theorem Always.head {P : σ → Prop} {s : σ} {actions : List α} (h : Always step P s actions)
    : P s := by
  cases actions with
  | nil => exact h
  | cons _ _ => exact h.1

theorem always_iff_forall_initial {P : σ → Prop} {s : σ} {actions : List α}
    : Always step P s actions
        ↔ ∀ earlier, earlier <+: actions → ∀ s', run step s earlier = some s' → P s' := by
  induction actions generalizing s with
  | nil =>
    constructor
    . intro h earlier hearlier s' hrun
      rw [List.prefix_nil] at hearlier
      subst hearlier
      cases hrun
      exact h
    . intro h
      exact h [] (List.prefix_refl _) s rfl
  | cons a rest ih =>
    constructor
    . rintro ⟨hs, h⟩ earlier hearlier s' hrun
      cases earlier with
      | nil =>
        cases hrun
        exact hs
      | cons b earlier =>
        obtain ⟨rfl, hrest⟩ := List.cons_prefix_cons.mp hearlier
        cases hstep : step s b with
        | none =>
          rw [run_cons_of_none _ hstep] at hrun
          cases hrun
        | some s'' =>
          rw [run_cons_of_some _ hstep] at hrun
          exact ih.mp (h s'' hstep) earlier hrest s' hrun
    . intro h
      refine ⟨h [] List.nil_prefix s rfl, ?_⟩
      intro s'' hstep
      apply ih.mpr
      intro earlier hearlier s' hrun
      refine h (a :: earlier) (List.cons_prefix_cons.mpr ⟨rfl, hearlier⟩) s' ?_
      rw [run_cons_of_some _ hstep]
      exact hrun

theorem Always.run_eq_some {P : σ → Prop} {s s' : σ} {actions : List α}
    (h : Always step P s actions) (hrun : run step s actions = some s')
    : P s' := by
  exact always_iff_forall_initial.mp h actions (List.prefix_refl _) s' hrun

theorem Always.mono {P Q : σ → Prop} (hPQ : ∀ s, P s → Q s) {s : σ} {actions : List α}
    (h : Always step P s actions)
    : Always step Q s actions := by
  rw [always_iff_forall_initial] at h ⊢
  exact fun earlier hearlier s' hrun => hPQ s' (h earlier hearlier s' hrun)

theorem Always.and {P Q : σ → Prop} {s : σ} {actions : List α} (h : Always step P s actions)
    (h' : Always step Q s actions)
    : Always step (fun s => P s ∧ Q s) s actions := by
  rw [always_iff_forall_initial] at *
  exact fun earlier hearlier s' hrun => ⟨h earlier hearlier s' hrun, h' earlier hearlier s' hrun⟩

theorem guarded_forall_iff {ι : Type} {guard : ι → σ → α → Prop} {s : σ} {actions : List α}
    : Guarded step (fun s a => ∀ x, guard x s a) s actions
        ↔ ∀ x, Guarded step (guard x) s actions := by
  induction actions generalizing s with
  | nil => exact iff_of_true trivial fun _ => trivial
  | cons a rest ih =>
    constructor
    . intro h x s' hstep
      obtain ⟨hguard, hrest⟩ := h s' hstep
      exact ⟨hguard x, ih.mp hrest x⟩
    . intro h s' hstep
      exact ⟨fun x => (h x s' hstep).1, ih.mpr fun x => (h x s' hstep).2⟩

theorem Guarded.append {guard : σ → α → Prop} {s t : σ} {as bs : List α}
    (h : Guarded step guard s (as ++ bs)) (hrun : run step s as = some t)
    : Guarded step guard s as ∧ Guarded step guard t bs := by
  induction as generalizing s with
  | nil =>
    cases hrun
    exact ⟨trivial, h⟩
  | cons a rest ih =>
    cases ha : step s a with
    | none =>
      rw [run_cons_of_none _ ha] at hrun
      cases hrun
    | some s' =>
      rw [run_cons_of_some _ ha] at hrun
      obtain ⟨hguard, hrest⟩ := h s' ha
      obtain ⟨has, hbs⟩ := ih hrest hrun
      refine ⟨?_, hbs⟩
      intro s'' ha'
      rw [ha] at ha'
      cases ha'
      exact ⟨hguard, has⟩

theorem always_of_guarded {P : σ → Prop} {guard : σ → α → Prop}
    (hstep : ∀ s a s', P s → guard s a → step s a = some s' → P s') {s : σ} {actions : List α}
    (hs : P s) (h : Guarded step guard s actions)
    : Always step P s actions := by
  induction actions generalizing s with
  | nil => exact hs
  | cons a rest ih =>
    refine ⟨hs, ?_⟩
    intro s' ha
    obtain ⟨hguard, hrest⟩ := h s' ha
    exact ih (hstep s a s' hs hguard ha) hrest

theorem always_of_forall_step {P : σ → Prop}
    (hstep : ∀ s a s', P s → step s a = some s' → P s') {s : σ} (actions : List α) (hs : P s)
    : Always step P s actions := by
  induction actions generalizing s with
  | nil => exact hs
  | cons a rest ih => exact ⟨hs, fun s' ha => ih (hstep s a s' hs ha)⟩

theorem exists_run_of_progress {I : σ → Prop} {f : σ → Nat}
    (hprogress : ∀ s, I s → ∃ a s', step s a = some s' ∧ I s' ∧ f s' = f s + 1) {s : σ}
    (hs : I s) (n : Nat)
    : ∃ actions s', run step s actions = some s' ∧ f s' = f s + n := by
  induction n generalizing s with
  | zero => exact ⟨[], s, rfl, rfl⟩
  | succ n ih =>
    obtain ⟨a, t, hstep, ht, hcount⟩ := hprogress s hs
    obtain ⟨rest, s', hrun, hrest⟩ := ih ht
    refine ⟨a :: rest, s', ?_, by omega⟩
    rw [run_cons_of_some _ hstep]
    exact hrun

theorem guarded_of_always {P I : σ → Prop} {A : α → Prop} {guard : σ → α → Prop}
    (hinvariant : ∀ s a s', I s → A a → step s a = some s' → I s')
    (hexact : ∀ s a s', I s → A a → P s → step s a = some s' → P s' → guard s a)
    {s : σ} {actions : List α} (hs : I s) (hactions : ∀ a ∈ actions, A a)
    (h : Always step P s actions)
    : Guarded step guard s actions := by
  induction actions generalizing s with
  | nil => trivial
  | cons a rest ih =>
    intro s' ha
    have hA := hactions a (List.mem_cons_self ..)
    have hrest := h.2 s' ha
    refine ⟨hexact s a s' hs hA h.1 ha hrest.head, ih (hinvariant s a s' hs hA ha) ?_ hrest⟩
    exact fun b hmem => hactions b (List.mem_cons_of_mem _ hmem)

theorem always_iff_guarded {P : σ → Prop} (I : σ → Prop) (A : α → Prop) {guard : σ → α → Prop}
    (hstep : ∀ s a s', I s → A a → P s → step s a = some s' → I s' ∧ (P s' ↔ guard s a))
    {s : σ} {actions : List α} (hs : I s) (hP : P s) (hactions : ∀ a ∈ actions, A a)
    : Always step P s actions ↔ Guarded step guard s actions := by
  induction actions generalizing s with
  | nil => exact iff_of_true hP trivial
  | cons a rest ih =>
    have hA := hactions a (List.mem_cons_self ..)
    have hrest : ∀ b ∈ rest, A b := fun b hmem => hactions b (List.mem_cons_of_mem _ hmem)
    constructor
    . intro halways s' ha
      obtain ⟨hI, hiff⟩ := hstep s a s' hs hA hP ha
      have hafter := halways.2 s' ha
      exact ⟨hiff.mp hafter.head, (ih hI hafter.head hrest).mp hafter⟩
    . intro hguarded
      refine ⟨hP, ?_⟩
      intro s' ha
      obtain ⟨hI, hiff⟩ := hstep s a s' hs hA hP ha
      obtain ⟨hguard, hafter⟩ := hguarded s' ha
      exact (ih hI (hiff.mpr hguard) hrest).mpr hafter

theorem always_iff_guarded_within {P Q : σ → Prop} {guard : σ → α → Prop}
    (hstep : ∀ s a s', P s → Q s' → step s a = some s' → (P s' ↔ guard s a)) {s : σ}
    {actions : List α} (hP : P s) (hQ : Always step Q s actions)
    : Always step P s actions ↔ Guarded step guard s actions := by
  induction actions generalizing s with
  | nil => exact iff_of_true hP trivial
  | cons a rest ih =>
    constructor
    . intro halways s' ha
      have hafter := halways.2 s' ha
      have hQ' := hQ.2 s' ha
      exact ⟨(hstep s a s' hP hQ'.head ha).mp hafter.head, (ih hafter.head hQ').mp hafter⟩
    . intro hguarded
      refine ⟨hP, ?_⟩
      intro s' ha
      obtain ⟨hguard, hafter⟩ := hguarded s' ha
      have hQ' := hQ.2 s' ha
      exact (ih ((hstep s a s' hP hQ'.head ha).mpr hguard) hQ').mpr hafter

theorem always_iff_always_and {P Q : σ → Prop}
    (hstep : ∀ s a s', P s → Q s → step s a = some s' → P s' → Q s') {s : σ} {actions : List α}
    (hs : Q s)
    : Always step P s actions ↔ Always step (fun s => P s ∧ Q s) s actions := by
  induction actions generalizing s with
  | nil => exact (and_iff_left hs).symm
  | cons a rest ih =>
    constructor
    . rintro ⟨hP, hrest⟩
      refine ⟨⟨hP, hs⟩, ?_⟩
      intro s' ha
      have hafter := hrest s' ha
      exact (ih (hstep s a s' hP hs ha hafter.head)).mp hafter
    . rintro ⟨⟨hP, _⟩, hrest⟩
      refine ⟨hP, ?_⟩
      intro s' ha
      have hafter := hrest s' ha
      exact (ih hafter.head.2).mpr hafter

end Runs
