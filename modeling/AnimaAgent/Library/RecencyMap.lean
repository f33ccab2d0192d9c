import Mathlib.Data.Set.Card

/-!
This module contains maps whose entries expire and whose least recently used entry makes room for a new
one. Such a map is described by the log of what has happened to it, the latest event first.
-/

namespace RecencyMap

inductive Cause where
  | deleted
  | expired
  | evicted

/-- `expired` tells the times at which the value is no longer returned. -/
inductive Event (κ ν τ : Type) where
  | stored (key : κ) (value : ν) (expired : τ → Bool)
  | read (key : κ)
  | removed (key : κ) (cause : Cause)

inductive Call (κ ν τ : Type) where
  | get (now : τ) (key : κ)
  | set (key : κ) (value : ν) (expired : τ → Bool)
  | delete (key : κ)

inductive Answer (ν : Type) where
  | read (value : Option ν)
  | stored (value : ν)
  | deleted (found : Bool)

variable {κ ν τ : Type} [DecidableEq κ]

/-- The value that was stored last under the key, unless the key was removed since. -/
def held : List (Event κ ν τ) → κ → Option (ν × (τ → Bool))
  | [], _ => none
  | .stored key value expired :: log, other =>
    if other = key then some (value, expired) else held log other
  | .read _ :: log, other => held log other
  | .removed key _ :: log, other => if other = key then none else held log other

/-- When the key was stored or read last, counted in events; 0 if it never was. -/
def usedAt : List (Event κ ν τ) → κ → Nat
  | [], _ => 0
  | .stored key _ _ :: log, other => if other = key then log.length + 1 else usedAt log other
  | .read key :: log, other => if other = key then log.length + 1 else usedAt log other
  | .removed _ _ :: log, other => usedAt log other

/-- The number of keys that the map holds. -/
noncomputable def size (log : List (Event κ ν τ)) : Nat :=
  Set.ncard { key | (held log key).isSome }

/-- What a call answers and what it adds to the log of a map that has room for `bound` keys. -/
inductive Step (bound : Nat) : List (Event κ ν τ) → Call κ ν τ → Answer ν
    → List (Event κ ν τ) → Prop where
  | miss {log now key} (h : held log key = none)
    : Step bound log (.get now key) (.read none) log
  | lapse {log now key value expired} (h : held log key = some (value, expired))
    (hexpired : expired now = true)
    : Step bound log (.get now key) (.read none) (.removed key .expired :: log)
  | hit {log now key value expired} (h : held log key = some (value, expired))
    (hfresh : expired now = false)
    : Step bound log (.get now key) (.read (some value)) (.read key :: log)
  | overwrite {log key value expired} (h : (held log key).isSome)
    : Step bound log (.set key value expired) (.stored value) (.stored key value expired :: log)
  | insert {log key value expired} (h : held log key = none) (hroom : size log < bound)
    : Step bound log (.set key value expired) (.stored value) (.stored key value expired :: log)
  | evict {log key value expired victim} (h : held log key = none) (hfull : size log = bound)
    (hvictim : (held log victim).isSome)
    (hleast : ∀ other, (held log other).isSome → other ≠ victim
      → usedAt log victim < usedAt log other)
    : Step bound log (.set key value expired) (.stored value)
        (.stored key value expired :: .removed victim .evicted :: log)
  | delete {log key}
    : Step bound log (.delete key) (.deleted (held log key).isSome)
        (.removed key .deleted :: log)

/-- The answers of consecutive calls, and the log after them. -/
inductive Run (bound : Nat) : List (Event κ ν τ) → List (Call κ ν τ) → List (Answer ν)
    → List (Event κ ν τ) → Prop where
  | nil {log} : Run bound log [] [] log
  | cons {log log' log'' call calls answer answers} (hstep : Step bound log call answer log')
    (hrest : Run bound log' calls answers log'')
    : Run bound log (call :: calls) (answer :: answers) log''

theorem usedAt_le_length (log : List (Event κ ν τ)) (key : κ) : usedAt log key ≤ log.length := by
  induction log with
  | nil => exact Nat.le_refl 0
  | cons event rest ih =>
    rw [List.length_cons]
    cases event with
    | stored _ _ _ | read _ =>
      unfold usedAt
      split
      . exact Nat.le_refl _
      . exact Nat.le_succ_of_le ih
    | removed _ _ => exact Nat.le_succ_of_le ih

theorem pairwise_append_latest {used used' : κ → Nat} {n : Nat} {key : κ} {keys : List κ}
    (hused : ∀ other, used' other = if other = key then n + 1 else used other)
    (hle : ∀ other, used other ≤ n) (h : keys.Pairwise (fun a b => used a < used b))
    : (keys.filter (fun other => other != key) ++ [key]).Pairwise
        (fun a b => used' a < used' b) := by
  have hkept : ∀ other ∈ keys.filter (fun other => other != key), used' other = used other := by
    intro other hmem
    rw [hused, if_neg (bne_iff_ne.mp (List.mem_filter.mp hmem).2)]
  rw [List.pairwise_append]
  refine ⟨?_, List.pairwise_singleton .., ?_⟩
  . refine (h.filter _).imp_of_mem ?_
    intro a b ha hb hlt
    rw [hkept a ha, hkept b hb]
    exact hlt
  . intro a ha b hb
    rw [hkept a ha, List.mem_singleton.mp hb, hused, if_pos rfl]
    exact Nat.lt_succ_of_le (hle a)

theorem pairwise_append_used {log log' : List (Event κ ν τ)} {key : κ} {keys : List κ}
    (hused : ∀ other, usedAt log' other = if other = key then log.length + 1 else usedAt log other)
    (h : keys.Pairwise (fun a b => usedAt log a < usedAt log b))
    : (keys.filter (fun other => other != key) ++ [key]).Pairwise
        (fun a b => usedAt log' a < usedAt log' b) := by
  exact pairwise_append_latest hused (usedAt_le_length log) h

end RecencyMap
