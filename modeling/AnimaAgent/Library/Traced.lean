import Mathlib.Control.Monad.Writer

/-!
This module contains computations that may fail and that list the events they go through. A failure
keeps the events that led to it.
-/

/-- A computation with events `ε`, errors `δ` and result `α`. -/
abbrev Traced (ε δ : Type) (α : Type) : Type :=
  ExceptT δ (Writer (List ε)) α

namespace WriterT

variable {ε α β : Type}

@[simp]
theorem fst_pure (a : α) : (pure a : Writer (List ε) α).run.1 = a := by
  rfl

@[simp]
theorem snd_pure (a : α) : (pure a : Writer (List ε) α).run.2 = [] := by
  rfl

@[simp]
theorem fst_tell (events : List ε) : (tell events : Writer (List ε) PUnit).run.1 = ⟨⟩ := by
  rfl

@[simp]
theorem snd_tell (events : List ε) : (tell events : Writer (List ε) PUnit).run.2 = events := by
  rfl

@[simp]
theorem fst_bind (x : Writer (List ε) α) (f : α → Writer (List ε) β)
    : (x >>= f).run.1 = (f x.run.1).run.1 := by
  rfl

@[simp]
theorem snd_bind (x : Writer (List ε) α) (f : α → Writer (List ε) β)
    : (x >>= f).run.2 = x.run.2 ++ (f x.run.1).run.2 := by
  rfl

instance lawfulMonad_writer : LawfulMonad (Writer (List ε)) := by
  apply LawfulMonad.mk'
  . intro α x
    rfl
  . intro α β a f
    rfl
  . intro α β γ x f g
    exact WriterT.ext _ _ (Prod.ext rfl (List.append_assoc ..))
  . intro α β x y
    rfl
  . intro α β x y
    rfl
  . intro α β x y
    rfl
  . intro α β f x
    exact WriterT.ext _ _ (Prod.ext rfl (List.append_nil _))
  . intro α β f x
    rfl

theorem fst_mapM (f : α → Writer (List ε) β) (xs : List α)
    : (xs.mapM f).run.1 = xs.map (fun x => (f x).run.1) := by
  induction xs with
  | nil => rfl
  | cons x xs ih => rw [List.mapM_cons, fst_bind, fst_bind, fst_pure, ih, List.map_cons]

theorem snd_mapM (f : α → Writer (List ε) β) (xs : List α)
    : (xs.mapM f).run.2 = xs.flatMap (fun x => (f x).run.2) := by
  induction xs with
  | nil => rfl
  | cons x xs ih =>
    rw [List.mapM_cons, snd_bind, snd_bind, snd_pure, ih, List.append_nil, List.flatMap_cons]

end WriterT

namespace Traced

variable {ε ε' δ δ' α β : Type}

def outcome (x : Traced ε δ α) : Except δ α :=
  x.run.run.1

def events (x : Traced ε δ α) : List ε :=
  x.run.run.2

def emit (event : ε) : Traced ε δ Unit :=
  ExceptT.mk (WriterT.mk (.ok (), [event]))

def lift (x : Writer (List ε) α) : Traced ε δ α :=
  ExceptT.mk (WriterT.mk (.ok x.run.1, x.run.2))

def attempt (x : Traced ε δ α) : Writer (List ε) (Except δ α) :=
  WriterT.mk (x.outcome, x.events)

def mapBoth (f : ε → ε') (g : δ → δ') (x : Traced ε δ α) : Traced ε' δ' α :=
  ExceptT.mk (WriterT.mk (x.outcome.mapError g, x.events.map f))

/-- Change the events of a computation that cannot fail, and use it where one may. -/
def liftMap (f : ε → ε') (x : Writer (List ε) α) : Traced ε' δ α :=
  ExceptT.mk (WriterT.mk (.ok x.run.1, x.run.2.map f))

@[simp]
theorem outcome_pure (a : α) : (pure a : Traced ε δ α).outcome = .ok a := by
  rfl

@[simp]
theorem events_pure (a : α) : (pure a : Traced ε δ α).events = [] := by
  rfl

@[simp]
theorem outcome_throw (d : δ) : (throw d : Traced ε δ α).outcome = .error d := by
  rfl

@[simp]
theorem events_throw (d : δ) : (throw d : Traced ε δ α).events = [] := by
  rfl

@[simp]
theorem outcome_emit (event : ε) : (emit event : Traced ε δ Unit).outcome = .ok () := by
  rfl

@[simp]
theorem events_emit (event : ε) : (emit event : Traced ε δ Unit).events = [event] := by
  rfl

@[simp]
theorem outcome_lift (x : Writer (List ε) α) : (lift x : Traced ε δ α).outcome = .ok x.run.1 := by
  rfl

@[simp]
theorem events_lift (x : Writer (List ε) α) : (lift x : Traced ε δ α).events = x.run.2 := by
  rfl

@[simp]
theorem run_attempt_fst (x : Traced ε δ α) : x.attempt.run.1 = x.outcome := by
  rfl

@[simp]
theorem run_attempt_snd (x : Traced ε δ α) : x.attempt.run.2 = x.events := by
  rfl

@[simp]
theorem outcome_liftMap (f : ε → ε') (x : Writer (List ε) α)
    : (liftMap f x : Traced ε' δ α).outcome = .ok x.run.1 := by
  rfl

@[simp]
theorem events_liftMap (f : ε → ε') (x : Writer (List ε) α)
    : (liftMap f x : Traced ε' δ α).events = x.run.2.map f := by
  rfl

@[simp]
theorem outcome_mapBoth (f : ε → ε') (g : δ → δ') (x : Traced ε δ α)
    : (x.mapBoth f g).outcome = x.outcome.mapError g := by
  rfl

@[simp]
theorem events_mapBoth (f : ε → ε') (g : δ → δ') (x : Traced ε δ α)
    : (x.mapBoth f g).events = x.events.map f := by
  rfl

theorem run_bind (x : Traced ε δ α) (f : α → Traced ε δ β)
    : (x >>= f).run.run
        = match x.run.run with
          | (.ok a, events) => ((f a).outcome, events ++ (f a).events)
          | (.error d, events) => (.error d, events) := by
  have main : ∀ p : Except δ α × List ε,
      ((ExceptT.mk (WriterT.mk p) : Traced ε δ α) >>= f).run.run
        = match p with
          | (.ok a, events) => ((f a).outcome, events ++ (f a).events)
          | (.error d, events) => (.error d, events) := by
    rintro ⟨d | a, events⟩
    . have : events ++ [] = events := List.append_nil events
      exact congrArg (Prod.mk (Except.error d)) this
    . rfl
  exact main x.run.run

@[simp]
theorem outcome_bind (x : Traced ε δ α) (f : α → Traced ε δ β)
    : (x >>= f).outcome = x.outcome >>= fun a => (f a).outcome := by
  unfold outcome
  rw [run_bind]
  rcases x.run.run with ⟨d | a, events⟩ <;> rfl

theorem outcome_bind_of_ok {x : Traced ε δ α} {a : α} (f : α → Traced ε δ β) (h : x.outcome = .ok a)
    : (x >>= f).outcome = (f a).outcome := by
  rw [outcome_bind, h]
  rfl

theorem outcome_bind_of_error {x : Traced ε δ α} {d : δ} (f : α → Traced ε δ β)
    (h : x.outcome = .error d)
    : (x >>= f).outcome = .error d := by
  rw [outcome_bind, h]
  rfl

theorem events_bind (x : Traced ε δ α) (f : α → Traced ε δ β)
    : (x >>= f).events
        = x.events ++ match x.outcome with
          | .ok a => (f a).events
          | .error _ => [] := by
  unfold events outcome
  rw [run_bind]
  rcases x.run.run with ⟨d | a, events⟩
  . simp
  . rfl

theorem events_bind_of_ok {x : Traced ε δ α} {a : α} (f : α → Traced ε δ β) (h : x.outcome = .ok a)
    : (x >>= f).events = x.events ++ (f a).events := by
  rw [events_bind, h]

theorem events_bind_of_error {x : Traced ε δ α} {d : δ} (f : α → Traced ε δ β)
    (h : x.outcome = .error d)
    : (x >>= f).events = x.events := by
  rw [events_bind, h, List.append_nil]

theorem outcome_bind_eq_ok {x : Traced ε δ α} {f : α → Traced ε δ β} {b : β}
    : (x >>= f).outcome = .ok b ↔ ∃ a, x.outcome = .ok a ∧ (f a).outcome = .ok b := by
  rw [outcome_bind]
  cases h : x.outcome with
  | error d =>
    constructor
    . intro h'
      cases h'
    . rintro ⟨a, h', _⟩
      cases h'
  | ok a =>
    constructor
    . intro h'
      exact ⟨a, rfl, h'⟩
    . rintro ⟨a', h', hb⟩
      cases h'
      exact hb

theorem ext {x y : Traced ε δ α} (houtcome : x.outcome = y.outcome) (hevents : x.events = y.events)
    : x = y := by
  have : x.run.run = y.run.run := Prod.ext houtcome hevents
  exact this

theorem bind_congr_of_outcome {x : Traced ε δ α} {f g : α → Traced ε δ β}
    (h : ∀ a, x.outcome = .ok a → f a = g a)
    : x >>= f = x >>= g := by
  cases hx : x.outcome with
  | error d =>
    apply ext
    . rw [outcome_bind, outcome_bind, hx]
      rfl
    . rw [events_bind_of_error f hx, events_bind_of_error g hx]
  | ok a =>
    apply ext
    . rw [outcome_bind, outcome_bind, hx]
      exact congrArg outcome (h a hx)
    . rw [events_bind_of_ok f hx, events_bind_of_ok g hx, h a hx]

theorem forall_events_bind {P : ε → Prop} {x : Traced ε δ α} {f : α → Traced ε δ β}
    (hx : ∀ event ∈ x.events, P event)
    (hf : ∀ a, x.outcome = .ok a → ∀ event ∈ (f a).events, P event)
    : ∀ event ∈ (x >>= f).events, P event := by
  intro event hmem
  cases h : x.outcome with
  | error d =>
    rw [events_bind_of_error f h] at hmem
    exact hx event hmem
  | ok a =>
    rw [events_bind_of_ok f h, List.mem_append] at hmem
    rcases hmem with hmem | hmem
    . exact hx event hmem
    . exact hf a h event hmem

end Traced
