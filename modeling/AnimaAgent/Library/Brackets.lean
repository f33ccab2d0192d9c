import Mathlib.Data.List.Infix
import Mathlib.Data.Int.Cast.Basic

/-!
This module contains texts with one kind of brackets, and the search for the bracket that closes the first
one by counting.
-/

namespace Brackets

variable {α : Type} [DecidableEq α] (opening closing : α)

/-- Everything that is opened in the text is closed at its end, and not before. -/
structure Closed (text : List α) : Prop where
  all : text.count opening = text.count closing
  pending : ∀ front, front <+: text → front ≠ [] → front ≠ text
    → front.count opening ≠ front.count closing

/-- What stands in front of the closing bracket at which the depth becomes 0. -/
def beforeClosing : List α → Int → Option (List α)
  | [], _ => none
  | x :: xs, depth =>
    if x = opening then
      (beforeClosing xs (depth + 1)).map (x :: ·)
    else if x = closing then
      if depth - 1 = 0 then some [] else (beforeClosing xs (depth - 1)).map (x :: ·)
    else
      (beforeClosing xs depth).map (x :: ·)

/-- In a text that follows others, the depth at its start counts as well. -/
structure ClosedFrom (depth : Int) (text : List α) : Prop where
  all : depth + text.count opening = text.count closing
  pending : ∀ front, front <+: text → front ≠ text
    → depth + front.count opening ≠ front.count closing

variable {opening closing}

theorem eq_append_of_beforeClosing {text front : List α} {depth : Int}
    (h : beforeClosing opening closing text depth = some front)
    : ∃ rest, text = front ++ closing :: rest := by
  induction text generalizing front depth with
  | nil => cases h
  | cons x text ih =>
    have hmap : ∀ depth', (beforeClosing opening closing text depth').map (x :: ·) = some front
        → ∃ rest, x :: text = front ++ closing :: rest := by
      intro depth' hmap
      obtain ⟨tail, htail, rfl⟩ := Option.map_eq_some_iff.mp hmap
      obtain ⟨rest, hrest⟩ := ih htail
      exact ⟨rest, congrArg (x :: ·) hrest⟩
    rw [beforeClosing] at h
    split at h
    . exact hmap _ h
    . split at h
      . next hclosing =>
        split at h
        . cases h
          exact ⟨text, hclosing ▸ rfl⟩
        . exact hmap _ h
      . exact hmap _ h

theorem closedFrom_nil_iff (depth : Int) : ClosedFrom opening closing depth [] ↔ depth = 0 := by
  constructor
  . intro h
    simpa using h.all
  . intro h
    refine ⟨by simpa using h, ?_⟩
    intro front hfront hne
    exact absurd (List.prefix_nil.mp hfront) hne

theorem closedFrom_cons_iff (depth depth' : Int) (x : α) (xs : List α)
    (hdepth : ∀ ys : List α, depth + (x :: ys).count opening - (x :: ys).count closing
      = depth' + ys.count opening - ys.count closing)
    : ClosedFrom opening closing depth (x :: xs)
        ↔ depth ≠ 0 ∧ ClosedFrom opening closing depth' xs := by
  constructor
  . intro h
    refine ⟨?_, ?_, ?_⟩
    . simpa using h.pending [] List.nil_prefix (List.cons_ne_nil x xs).symm
    . have := hdepth xs
      have := h.all
      omega
    . intro front hfront hne
      have := hdepth front
      have := h.pending (x :: front) (List.cons_prefix_cons.mpr ⟨rfl, hfront⟩)
        (fun heq => hne (List.cons.inj heq).2)
      omega
  . rintro ⟨hne, h⟩
    constructor
    . have := hdepth xs
      have := h.all
      omega
    . intro front hfront hproper
      obtain rfl | ⟨ys, rfl, hys⟩ := List.prefix_cons_iff.mp hfront
      . simpa using hne
      . have := hdepth ys
        have := h.pending ys hys (fun heq => hproper (heq ▸ rfl))
        omega

omit [DecidableEq α] in
theorem exists_map_cons_iff {x last : α} {text : List α} {found : Option (List α)}
    : (∃ front, found.map (x :: ·) = some front ∧ front ++ [last] = x :: text)
        ↔ ∃ front, found = some front ∧ front ++ [last] = text := by
  cases found with
  | none => simp
  | some front => simp

theorem beforeClosing_append_iff (hne : opening ≠ closing) (text rest : List α) (depth : Int)
    (hdepth : 0 < depth)
    : (∃ front, beforeClosing opening closing (text ++ rest) depth = some front
          ∧ front ++ [closing] = text)
        ↔ ClosedFrom opening closing depth text := by
  induction text generalizing depth with
  | nil =>
    rw [closedFrom_nil_iff]
    have hpositive : depth ≠ 0 := by omega
    simp [hpositive]
  | cons x text ih =>
    have hpositive : depth ≠ 0 := by omega
    have hmap := fun depth' => @exists_map_cons_iff α x closing text
      (beforeClosing opening closing (text ++ rest) depth')
    rw [List.cons_append, beforeClosing]
    by_cases hopening : x = opening
    . have hcons := @closedFrom_cons_iff α _ opening closing depth (depth + 1) x text (by
        intro ys
        rw [hopening, List.count_cons_self, List.count_cons_of_ne hne]
        omega)
      rw [if_pos hopening, hmap, ih (depth + 1) (by omega), hcons, and_iff_right hpositive]
    . rw [if_neg hopening]
      by_cases hclosing : x = closing
      . have hcons := @closedFrom_cons_iff α _ opening closing depth (depth - 1) x text (by
          intro ys
          rw [List.count_cons_of_ne hopening, hclosing, List.count_cons_self]
          omega)
        rw [if_pos hclosing, hcons, and_iff_right hpositive]
        by_cases hzero : depth - 1 = 0
        . -- the search ends here, so that the text must
          rw [if_pos hzero, hzero]
          cases text with
          | nil => simp [closedFrom_nil_iff, hclosing]
          | cons y text =>
            have hpending : ¬ClosedFrom opening closing 0 (y :: text) := by
              intro h
              exact h.pending [] List.nil_prefix (List.cons_ne_nil y text).symm (by simp)
            simp [hpending]
        . rw [if_neg hzero, hmap, ih (depth - 1) (by omega)]
      . have hcons := @closedFrom_cons_iff α _ opening closing depth depth x text (by
          intro ys
          rw [List.count_cons_of_ne hopening, List.count_cons_of_ne hclosing])
        rw [if_neg hclosing, hmap, ih depth hdepth, hcons, and_iff_right hpositive]

theorem beforeClosing_iff_closed (hne : opening ≠ closing) (inner rest : List α)
    : (∃ front, beforeClosing opening closing (opening :: inner ++ rest) 0 = some front
          ∧ front ++ [closing] = opening :: inner)
        ↔ Closed opening closing (opening :: inner) := by
  have hcount : ∀ ys : List α, (opening :: ys).count opening = ys.count opening + 1
      ∧ (opening :: ys).count closing = ys.count closing := by
    intro ys
    exact ⟨List.count_cons_self, List.count_cons_of_ne hne⟩
  rw [List.cons_append, beforeClosing, if_pos rfl, exists_map_cons_iff, Int.zero_add,
    beforeClosing_append_iff hne inner rest 1 (by decide)]
  constructor
  . intro h
    constructor
    . have := h.all
      have := hcount inner
      omega
    . intro front hfront hnonempty hproper
      obtain rfl | ⟨ys, rfl, hys⟩ := List.prefix_cons_iff.mp hfront
      . exact absurd rfl hnonempty
      . have := h.pending ys hys (fun heq => hproper (heq ▸ rfl))
        have := hcount ys
        omega
  . intro h
    constructor
    . have := h.all
      have := hcount inner
      omega
    . intro front hfront hproper
      have := h.pending (opening :: front) (List.cons_prefix_cons.mpr ⟨rfl, hfront⟩)
        (List.cons_ne_nil opening front) (fun heq => hproper (List.cons.inj heq).2)
      have := hcount front
      omega

end Brackets
