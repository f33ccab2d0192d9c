import Mathlib.Data.List.AList

/-!
This module contains maps that are filled by a sequence of actions: an action starts the value of a
key, updates it or does nothing. What such a map holds in the end is determined, key by key, by the
actions that follow the last start of the key.
-/

namespace Keyed

inductive Action (κ σ : Type) where
  | start (key : κ) (value : σ)
  | update (key : κ) (f : σ → σ)
  | skip

variable {κ σ : Type} [DecidableEq κ]

def step (m : AList (fun _ : κ => σ)) : Action κ σ → AList (fun _ : κ => σ)
  | .start key value => m.insert key value
  | .update key f =>
    match m.lookup key with
    | some value => m.insert key (f value)
    | none => m
  | .skip => m

def run (actions : List (Action κ σ)) (m : AList (fun _ : κ => σ)) : AList (fun _ : κ => σ) :=
  actions.foldl step m

/-- What the actions make of the value of a key, up to the next start of the key. -/
def own (key : κ) : List (Action κ σ) → σ → σ
  | [], value => value
  | .start key' _ :: rest, value => if key' = key then value else own key rest value
  | .update key' f :: rest, value => own key rest (if key' = key then f value else value)
  | .skip :: rest, value => own key rest value

def Action.starts (key : κ) : Action κ σ → Bool
  | .start key' _ => key' = key
  | _ => false

/-- A key that was started, with its value in the end and whether it was started once more. -/
structure Started (κ σ : Type) where
  key : κ
  value : σ
  restarted : Bool
  deriving DecidableEq

def started : List (Action κ σ) → List (Started κ σ)
  | [] => []
  | .start key value :: rest =>
    { key, value := own key rest value, restarted := rest.any (Action.starts key) } :: started rest
  | .update .. :: rest => started rest
  | .skip :: rest => started rest

/-- The starts that are not followed by another start of the same key. -/
def lasting (actions : List (Action κ σ)) : List (Started κ σ) :=
  (started actions).filter (fun s => !s.restarted)

theorem own_of_update {key key' : κ} {f : σ → σ} (rest : List (Action κ σ)) (value : σ)
    (h : key' ≠ key)
    : own key (.update key' f :: rest) value = own key rest value := by
  rw [own, if_neg h]

theorem mem_lasting_key_of_starts {key : κ} {actions : List (Action κ σ)}
    : (∃ s ∈ lasting actions, s.key = key) ↔ actions.any (Action.starts key) = true := by
  induction actions with
  | nil => simp [lasting, started]
  | cons action rest ih =>
    cases action with
    | start key' value =>
      unfold lasting started
      rw [List.filter_cons, List.any_cons, Bool.or_eq_true]
      change _ ↔ decide (key' = key) = true ∨ _
      rw [decide_eq_true_eq, ← ih]
      split
      . constructor
        . rintro ⟨s, hmem, rfl⟩
          rcases List.mem_cons.mp hmem with rfl | hmem
          . exact .inl rfl
          . exact .inr ⟨s, hmem, rfl⟩
        . rintro (rfl | ⟨s, hmem, hkey⟩)
          . exact ⟨_, List.mem_cons_self .., rfl⟩
          . exact ⟨s, List.mem_cons_of_mem _ hmem, hkey⟩
      . next hrestarted =>
        simp only [Bool.not_eq_true, Bool.not_eq_false'] at hrestarted
        constructor
        . exact fun h => .inr h
        . rintro (rfl | h)
          . exact ih.mpr hrestarted
          . exact h
    | update key' f => exact ih
    | skip => exact ih

theorem pairwise_lasting (actions : List (Action κ σ))
    : (lasting actions).Pairwise (fun s t => s.key ≠ t.key) := by
  induction actions with
  | nil => exact .nil
  | cons action rest ih =>
    cases action with
    | start key value =>
      unfold lasting started
      rw [List.filter_cons]
      split
      . next hrestarted =>
        refine .cons ?_ ih
        intro s hmem hkey
        have hstarts := mem_lasting_key_of_starts.mp ⟨s, hmem, hkey.symm⟩
        simp [hstarts] at hrestarted
      . exact ih
    | update key f => exact ih
    | skip => exact ih

theorem lookup_step_update (m : AList (fun _ : κ => σ)) (key key' : κ) (f : σ → σ)
    : (step m (.update key f)).lookup key'
        = if key' = key then (m.lookup key).map f else m.lookup key' := by
  rw [step]
  by_cases hkey : key' = key
  . subst hkey
    rw [if_pos rfl]
    cases hlookup : m.lookup key' with
    | none => exact hlookup
    | some value => exact AList.lookup_insert _
  . rw [if_neg hkey]
    split
    . exact AList.lookup_insert_ne hkey
    . rfl

theorem lookup_run_of_not_starts {key : κ} {actions : List (Action κ σ)}
    (h : actions.any (Action.starts key) = false) (m : AList (fun _ : κ => σ))
    : (run actions m).lookup key = (m.lookup key).map (own key actions) := by
  induction actions generalizing m with
  | nil =>
    change m.lookup key = (m.lookup key).map id
    rw [Option.map_id]
    rfl
  | cons action rest ih =>
    rw [List.any_cons, Bool.or_eq_false_iff] at h
    obtain ⟨haction, hrest⟩ := h
    change (run rest (step m action)).lookup key = _
    rw [ih hrest]
    cases action with
    | start key' value =>
      have hne : key' ≠ key := by simpa [Action.starts] using haction
      rw [step, AList.lookup_insert_ne hne.symm]
      congr 1
      funext value
      rw [own, if_neg hne]
    | update key' f =>
      rw [step]
      by_cases hkey : key' = key
      . subst hkey
        cases hlookup : m.lookup key' with
        | none =>
          dsimp only
          rw [hlookup]
          rfl
        | some value =>
          dsimp only
          rw [AList.lookup_insert, Option.map_some, Option.map_some, own, if_pos rfl]
      . have hlookup : (match m.lookup key' with
            | some value => m.insert key' (f value)
            | none => m).lookup key = m.lookup key := by
          split
          . exact AList.lookup_insert_ne (Ne.symm hkey)
          . rfl
        rw [hlookup]
        congr 1
        funext value
        rw [own_of_update rest value hkey]
    | skip => rfl

theorem lookup_run_of_mem_lasting {actions : List (Action κ σ)} {s : Started κ σ}
    (h : s ∈ lasting actions) (m : AList (fun _ : κ => σ))
    : (run actions m).lookup s.key = some s.value := by
  induction actions generalizing m with
  | nil => cases h
  | cons action rest ih =>
    change (run rest (step m action)).lookup s.key = _
    cases action with
    | start key value =>
      unfold lasting started at h
      rw [List.filter_cons] at h
      split at h
      . next hrestarted =>
        rcases List.mem_cons.mp h with rfl | h
        . dsimp only at hrestarted ⊢
          rw [lookup_run_of_not_starts (by simpa using hrestarted), step, AList.lookup_insert]
          rfl
        . exact ih h _
      . exact ih h _
    | update key f => exact ih h _
    | skip => exact ih h m

theorem lookup_run_empty {key : κ} {value : σ} {actions : List (Action κ σ)}
    : (run actions ∅).lookup key = some value
        ↔ ∃ s ∈ lasting actions, s.key = key ∧ s.value = value := by
  constructor
  . intro h
    cases hstarts : actions.any (Action.starts key) with
    | false =>
      rw [lookup_run_of_not_starts hstarts, AList.lookup_empty] at h
      cases h
    | true =>
      obtain ⟨s, hmem, rfl⟩ := mem_lasting_key_of_starts.mpr hstarts
      rw [lookup_run_of_mem_lasting hmem] at h
      cases h
      exact ⟨s, hmem, rfl, rfl⟩
  . rintro ⟨s, hmem, rfl, rfl⟩
    exact lookup_run_of_mem_lasting hmem ∅

def Started.entry (s : Started κ σ) : Sigma (fun _ : κ => σ) :=
  ⟨s.key, s.value⟩

theorem entries_run_perm (actions : List (Action κ σ))
    : (run actions ∅).entries.Perm ((lasting actions).map Started.entry) := by
  rw [List.perm_ext_iff_of_nodup]
  . rintro ⟨key, value⟩
    rw [← AList.mem_lookup_iff, Option.mem_def, lookup_run_empty, List.mem_map]
    constructor
    . rintro ⟨s, hmem, rfl, rfl⟩
      exact ⟨s, hmem, rfl⟩
    . rintro ⟨s, hmem, hentry⟩
      cases hentry
      exact ⟨s, hmem, rfl, rfl⟩
  . exact (run actions ∅).nodupKeys.nodup
  . apply List.Pairwise.map _ _ (pairwise_lasting actions)
    intro s t hne hentry
    exact hne (congrArg Sigma.fst hentry)

/-- The action starts nothing, and updates no key that the actions before have started. -/
def Action.Idle (before : List (Action κ σ)) : Action κ σ → Prop
  | .start .. => False
  | .update key _ => before.any (Action.starts key) = false
  | .skip => True

theorem Action.Idle.step_eq {before : List (Action κ σ)} {action : Action κ σ}
    (h : action.Idle before)
    : step (run before ∅) action = run before ∅ := by
  cases action with
  | start key value => exact absurd h id
  | update key f =>
    have hlookup := lookup_run_of_not_starts h (∅ : AList (fun _ : κ => σ))
    rw [AList.lookup_empty, Option.map_none] at hlookup
    rw [step, hlookup]
  | skip => rfl

theorem own_append_of_not_starts {key : κ} {as bs : List (Action κ σ)} (value : σ)
    (h : as.any (Action.starts key) = false)
    : own key (as ++ bs) value = own key bs (own key as value) := by
  induction as generalizing value with
  | nil => rfl
  | cons action rest ih =>
    rw [List.any_cons, Bool.or_eq_false_iff] at h
    cases action with
    | start key' value' =>
      have hne : key' ≠ key := by simpa [Action.starts] using h.1
      rw [List.cons_append, own, own, if_neg hne, if_neg hne]
      exact ih value h.2
    | update key' f => exact ih _ h.2
    | skip => exact ih value h.2

theorem own_of_updates_keep {β : Type} (g : σ → β) {key : κ} {xs : List (Action κ σ)}
    (h : ∀ f, Action.update key f ∈ xs → ∀ value, g (f value) = g value) (value : σ)
    : g (own key xs value) = g value := by
  induction xs generalizing value with
  | nil => rfl
  | cons action rest ih =>
    have ih := ih (fun f hmem => h f (List.mem_cons_of_mem action hmem))
    cases action with
    | start key' value' =>
      rw [own]
      split
      . rfl
      . exact ih value
    | update key' f =>
      rw [own, ih]
      split
      . next hkey =>
        subst hkey
        exact h f (List.mem_cons_self ..) value
      . rfl
    | skip => exact ih value

theorem started_append_of_no_starts {xs : List (Action κ σ)}
    (h : ∀ key value, Action.start key value ∉ xs) (rest : List (Action κ σ))
    : started (xs ++ rest) = started rest := by
  induction xs with
  | nil => rfl
  | cons action xs ih =>
    have ih := ih (fun key value hmem => h key value (List.mem_cons_of_mem action hmem))
    cases action with
    | start key value => exact absurd (List.mem_cons_self ..) (h key value)
    | update key f => exact ih
    | skip => exact ih

theorem started_ne_nil_of_mem {key : κ} {value : σ} {xs : List (Action κ σ)}
    (h : Action.start key value ∈ xs)
    : started xs ≠ [] := by
  induction xs with
  | nil => cases h
  | cons action xs ih =>
    cases action with
    | start key' value' => exact List.cons_ne_nil _ _
    | update key' f =>
      rcases List.mem_cons.mp h with h | h
      . cases h
      . exact ih h
    | skip =>
      rcases List.mem_cons.mp h with h | h
      . cases h
      . exact ih h

theorem any_starts_eq_false_iff {key : κ} {xs : List (Action κ σ)}
    : xs.any (Action.starts key) = false ↔ ∀ value, Action.start key value ∉ xs := by
  rw [List.any_eq_false]
  constructor
  . intro h value hmem
    exact h _ hmem (decide_eq_true rfl)
  . intro h action hmem hstarts
    cases action with
    | start key' value =>
      have hkey : key' = key := of_decide_eq_true hstarts
      subst hkey
      exact h value hmem
    | update key' f => cases hstarts
    | skip => cases hstarts

section Segments

/-- An action that starts nothing and updates no other key. -/
def Action.Quiet (key : κ) : Action κ σ → Prop
  | .start .. => False
  | .update key' _ => key' = key
  | .skip => True

variable {key : κ} {xs : List (Action κ σ)}

theorem started_append_of_quiet (h : ∀ action ∈ xs, action.Quiet key)
    (rest : List (Action κ σ))
    : started (xs ++ rest) = started rest := by
  induction xs with
  | nil => rfl
  | cons action xs ih =>
    have ih := ih (fun action' hmem => h action' (List.mem_cons_of_mem action hmem))
    cases action with
    | start key' value => exact absurd (h _ (List.mem_cons_self ..)) id
    | update key' f => exact ih
    | skip => exact ih

theorem any_starts_of_quiet (h : ∀ action ∈ xs, action.Quiet key) (key' : κ)
    : xs.any (Action.starts key') = false := by
  rw [List.any_eq_false]
  intro action hmem
  cases action with
  | start key'' value => exact absurd (h _ hmem) id
  | update key'' f => exact Bool.false_ne_true
  | skip => exact Bool.false_ne_true

theorem own_of_quiet {key' : κ} (hne : key' ≠ key) (h : ∀ action ∈ xs, action.Quiet key')
    (value : σ)
    : own key xs value = value := by
  induction xs with
  | nil => rfl
  | cons action xs ih =>
    have ih := ih (fun action' hmem => h action' (List.mem_cons_of_mem action hmem))
    have haction := h action (List.mem_cons_self ..)
    cases action with
    | start key'' value => exact absurd haction id
    | update key'' f =>
      have hkey : key'' = key' := haction
      rw [own_of_update xs value (by rw [hkey]; exact hne), ih]
    | skip => exact ih

def Action.On (key : κ) : Action κ σ → Prop
  | .start key' _ => key' = key
  | .update key' _ => key' = key
  | .skip => True

/-- Some actions on one key, of which only the first one may start it. -/
structure Segment (κ σ : Type) where
  key : κ
  first : Action κ σ
  rest : List (Action κ σ)
  first_on : first.On key
  rest_quiet : ∀ action ∈ rest, action.Quiet key

namespace Segment

def actions (s : Segment κ σ) : List (Action κ σ) :=
  s.first :: s.rest

def started? (s : Segment κ σ) : Option (Started κ σ) :=
  match s.first with
  | .start key value => some { key, value := own key s.rest value, restarted := false }
  | _ => none

theorem own_actions {s : Segment κ σ} (h : s.key ≠ key) (rest : List (Action κ σ)) (value : σ)
    : own key (s.actions ++ rest) value = own key rest value := by
  have hquiet : ∀ value, own key (s.rest ++ rest) value = own key rest value := by
    intro value
    rw [own_append_of_not_starts value (any_starts_of_quiet s.rest_quiet key),
      own_of_quiet h s.rest_quiet]
  have hfirst := s.first_on
  unfold actions
  rw [List.cons_append]
  cases haction : s.first with
  | start key' value' =>
    rw [haction] at hfirst
    rw [own, if_neg (by rw [show key' = s.key from hfirst]; exact h), hquiet]
  | update key' f =>
    rw [haction] at hfirst
    rw [own_of_update _ _ (by rw [show key' = s.key from hfirst]; exact h), hquiet]
  | skip => exact hquiet value

theorem any_starts_actions {s : Segment κ σ} (h : s.key ≠ key)
    : s.actions.any (Action.starts key) = false := by
  have hfirst := s.first_on
  unfold actions
  rw [List.any_cons, any_starts_of_quiet s.rest_quiet, Bool.or_false]
  cases haction : s.first with
  | start key' value' =>
    rw [haction] at hfirst
    exact decide_eq_false (by rw [show key' = s.key from hfirst]; exact h)
  | update key' f => rfl
  | skip => rfl

variable {segments : List (Segment κ σ)}

theorem own_flatMap_actions (h : ∀ s ∈ segments, s.key ≠ key) (value : σ)
    : own key (segments.flatMap actions) value = value := by
  induction segments with
  | nil => rfl
  | cons s segments ih =>
    rw [List.flatMap_cons, own_actions (h s (List.mem_cons_self ..))]
    exact ih (fun s' hmem => h s' (List.mem_cons_of_mem s hmem))

theorem any_starts_flatMap_actions (h : ∀ s ∈ segments, s.key ≠ key)
    : (segments.flatMap actions).any (Action.starts key) = false := by
  rw [List.any_flatMap, List.any_eq_false]
  intro s hmem
  rw [any_starts_actions (h s hmem)]
  exact Bool.false_ne_true

theorem started_flatMap_actions (h : segments.Pairwise (fun s t => s.key ≠ t.key))
    : started (segments.flatMap actions) = segments.filterMap started? := by
  induction segments with
  | nil => rfl
  | cons s segments ih =>
    rw [List.pairwise_cons] at h
    obtain ⟨hs, hsegments⟩ := h
    have hrest : started (s.rest ++ segments.flatMap actions) = segments.filterMap started? := by
      rw [started_append_of_quiet s.rest_quiet, ih hsegments]
    have hfirst := s.first_on
    rw [List.flatMap_cons, List.filterMap_cons]
    unfold actions started?
    rw [List.cons_append]
    cases haction : s.first with
    | start key value =>
      rw [haction] at hfirst
      have hkey : s.key = key := Eq.symm hfirst
      have hs : ∀ t ∈ segments, t.key ≠ key := by
        intro t hmem
        rw [← hkey]
        exact (hs t hmem).symm
      have hquiet := s.rest_quiet
      rw [hkey] at hquiet
      have hstarts := any_starts_flatMap_actions hs
      have hown := own_flatMap_actions hs (own key s.rest value)
      unfold actions at hstarts hown hrest
      rw [started, hrest, List.any_append, any_starts_of_quiet hquiet, hstarts,
        own_append_of_not_starts value (any_starts_of_quiet hquiet key), hown]
      rfl
    | update key f => exact hrest
    | skip => exact hrest

end Segment

theorem own_append_skips (actions : List (Action κ σ)) (n : Nat) (value : σ)
    : own key (actions ++ List.replicate n .skip) value = own key actions value := by
  induction actions generalizing value with
  | nil =>
    induction n with
    | zero => rfl
    | succ n ih => exact ih
  | cons action actions ih =>
    cases action with
    | start key' value' =>
      rw [List.cons_append, own, own, ih]
    | update key' f => exact ih _
    | skip => exact ih value

theorem started_append_skips (actions : List (Action κ σ)) (n : Nat)
    : started (actions ++ List.replicate n .skip) = started actions := by
  have hskips : ∀ action ∈ List.replicate n (Action.skip : Action κ σ), ∀ key, action.Quiet key := by
    intro action hmem key
    rw [List.eq_of_mem_replicate hmem]
    trivial
  induction actions with
  | nil =>
    induction n with
    | zero => rfl
    | succ n ih =>
      apply ih
      intro action hmem
      exact hskips action (List.mem_cons_of_mem _ hmem)
  | cons action actions ih =>
    cases action with
    | start key value =>
      rw [List.cons_append, started, started, ih, own_append_skips, List.any_append,
        any_starts_of_quiet (fun action hmem => hskips action hmem key), Bool.or_false]
    | update key f => exact ih
    | skip => exact ih

end Segments

end Keyed
