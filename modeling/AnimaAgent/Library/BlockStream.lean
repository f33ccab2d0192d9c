import Mathlib.Data.List.Basic

/-!
This module contains streams of signals about one message that is made of blocks: the message is
started, blocks are opened, written to and closed in any order, and at last the message is summed up and
finished. At any time before that, the stream may be given up.
-/

namespace BlockStream

variable {ι : Type} [DecidableEq ι]

inductive Signal (ι : Type) where
  | start
  | openBlock (i : ι)
  | write (i : ι)
  | closeBlock (i : ι)
  | summary
  | finish
  | abort
  deriving DecidableEq

/-- What the signals so far make up. -/
inductive Shape (ι : Type) where
  | fresh
  | running (opened closed : List ι)
  | closing
  | finished
  | broken
  deriving DecidableEq

namespace Shape

/-- Every signal that is out of place breaks the stream. -/
def after : Shape ι → Signal ι → Shape ι
  | .fresh, .start => .running [] []
  | .running opened closed, .openBlock i =>
    if i ∈ opened ∨ i ∈ closed then .broken else .running (opened ++ [i]) closed
  | .running opened closed, .write i =>
    if i ∈ opened then .running opened closed else .broken
  | .running opened closed, .closeBlock i =>
    if i ∈ opened then .running (opened.filter (fun j => decide (j ≠ i))) (closed ++ [i])
    else .broken
  | .running [] _, .summary => .closing
  | .closing, .finish => .finished
  | .fresh, .abort | .running _ _, .abort => .finished
  | _, _ => .broken

def afterAll (shape : Shape ι) (signals : List (Signal ι)) : Shape ι :=
  signals.foldl after shape

theorem afterAll_append (shape : Shape ι) (earlier later : List (Signal ι))
    : shape.afterAll (earlier ++ later) = (shape.afterAll earlier).afterAll later := by
  exact List.foldl_append ..

theorem after_finished (signal : Signal ι) : after .finished signal = .broken := by
  cases signal <;> rfl

theorem after_broken (signal : Signal ι) : after .broken signal = .broken := by
  cases signal <;> rfl

theorem afterAll_broken (signals : List (Signal ι)) : afterAll .broken signals = .broken := by
  induction signals with
  | nil => rfl
  | cons signal signals ih =>
    unfold afterAll at ih ⊢
    rw [List.foldl_cons, after_broken, ih]

theorem eq_nil_of_finished {shape : Shape ι} {earlier later : List (Signal ι)}
    (hearlier : shape.afterAll earlier = .finished)
    (h : shape.afterAll (earlier ++ later) ≠ .broken)
    : later = [] := by
  cases later with
  | nil => rfl
  | cons signal later =>
    refine absurd ?_ h
    rw [afterAll_append, hearlier]
    unfold afterAll
    rw [List.foldl_cons, after_finished]
    exact afterAll_broken later

end Shape

end BlockStream
