import Mathlib.Data.List.Infix

/-!
This module contains buffers that hold a limited number of values. What does not fit in is lost: either
the values that come last, or those that came first. It also contains lists that are filled up to a
limit, and the notice that something was left out of them.
-/

/-- A buffer with what was put into it, and what became of the values that are not in it any more. -/
structure Buffer (α : Type) where
  sent : List α := []
  queue : List α := []
  delivered : List α := []
  lost : List α := []

namespace Buffer

variable {α : Type} (capacity : Nat)

def putEarliest (buffer : Buffer α) (a : α) : Buffer α :=
  { buffer with
    sent := buffer.sent ++ [a]
    queue := (buffer.queue ++ [a]).take capacity
    lost := buffer.lost ++ (buffer.queue ++ [a]).drop capacity }

def putLatest (buffer : Buffer α) (a : α) : Buffer α :=
  { buffer with
    sent := buffer.sent ++ [a]
    queue := (buffer.queue ++ [a]).drop (buffer.queue.length + 1 - capacity)
    lost := buffer.lost ++ (buffer.queue ++ [a]).take (buffer.queue.length + 1 - capacity) }

def deliver (buffer : Buffer α) : Buffer α :=
  { buffer with
    queue := buffer.queue.tail
    delivered := buffer.delivered ++ buffer.queue.head?.toList }

/-- The capacity and the order are kept, and each value is delivered, lost or still there. -/
structure Kept (buffer : Buffer α) : Prop where
  bounded : buffer.queue.length ≤ capacity
  inOrder : (buffer.delivered ++ buffer.queue).Sublist buffer.sent
  accounted : (buffer.delivered ++ buffer.lost ++ buffer.queue).Perm buffer.sent

/-- The queue is the latest of the values that were sent after the last one delivered. -/
def Latest (buffer : Buffer α) : Prop :=
  ∃ earlier fresh, buffer.sent = earlier ++ fresh
    ∧ earlier.getLast? = buffer.delivered.getLast?
    ∧ buffer.queue = fresh.drop (fresh.length - capacity)

variable {capacity} {buffer : Buffer α}

theorem kept_empty : Kept capacity ({} : Buffer α) := by
  exact ⟨Nat.zero_le capacity, List.Sublist.refl [], List.Perm.refl []⟩

theorem latest_empty : Latest capacity ({} : Buffer α) := by
  exact ⟨[], [], rfl, rfl, List.drop_nil.symm⟩

theorem Kept.putEarliest (h : buffer.Kept capacity) (a : α)
    : (buffer.putEarliest capacity a).Kept capacity where
  bounded := by
    exact List.length_take_le ..
  inOrder := by
    have hsub : ((buffer.queue ++ [a]).take capacity).Sublist (buffer.queue ++ [a]) :=
      List.take_sublist ..
    refine ((List.Sublist.refl buffer.delivered).append hsub).trans ?_
    rw [← List.append_assoc]
    exact h.inOrder.append (List.Sublist.refl [a])
  accounted := by
    have hsplit := List.take_append_drop capacity (buffer.queue ++ [a])
    have hold := h.accounted
    classical
    rw [List.perm_iff_count] at hold ⊢
    intro b
    have hcount := congrArg (List.count b) hsplit
    have hb := hold b
    simp only [Buffer.putEarliest, List.count_append] at hcount hb ⊢
    omega

theorem Kept.putLatest (h : buffer.Kept capacity) (a : α)
    : (buffer.putLatest capacity a).Kept capacity where
  bounded := by
    simp only [Buffer.putLatest, List.length_drop, List.length_append, List.length_singleton]
    omega
  inOrder := by
    have hsub : ((buffer.queue ++ [a]).drop (buffer.queue.length + 1 - capacity)).Sublist
        (buffer.queue ++ [a]) := List.drop_sublist ..
    refine ((List.Sublist.refl buffer.delivered).append hsub).trans ?_
    rw [← List.append_assoc]
    exact h.inOrder.append (List.Sublist.refl [a])
  accounted := by
    have hsplit := List.take_append_drop (buffer.queue.length + 1 - capacity) (buffer.queue ++ [a])
    have hold := h.accounted
    classical
    rw [List.perm_iff_count] at hold ⊢
    intro b
    have hcount := congrArg (List.count b) hsplit
    have hb := hold b
    simp only [Buffer.putLatest, List.count_append] at hcount hb ⊢
    omega

theorem Kept.deliver (h : buffer.Kept capacity) : buffer.deliver.Kept capacity := by
  have hmove : buffer.queue.head?.toList ++ buffer.queue.tail = buffer.queue := by
    cases buffer.queue with
    | nil => rfl
    | cons oldest rest => rfl
  refine ⟨?_, ?_, ?_⟩
  . exact (List.length_tail ▸ Nat.sub_le _ _).trans h.bounded
  . simp only [Buffer.deliver, List.append_assoc, hmove]
    exact h.inOrder
  . have hold := h.accounted
    classical
    rw [List.perm_iff_count] at hold ⊢
    intro b
    have hcount := congrArg (List.count b) hmove
    have hb := hold b
    simp only [Buffer.deliver, List.count_append] at hcount hb ⊢
    omega

theorem Latest.putLatest (h : buffer.Latest capacity) (a : α)
    : (buffer.putLatest capacity a).Latest capacity := by
  obtain ⟨earlier, fresh, hsent, hlast, hqueue⟩ := h
  refine ⟨earlier, fresh ++ [a], ?_, hlast, ?_⟩
  . exact (congrArg (· ++ [a]) hsent).trans (List.append_assoc ..)
  . have hpush : buffer.queue ++ [a] = (fresh ++ [a]).drop (fresh.length - capacity) := by
      rw [hqueue, List.drop_append_of_le_length (Nat.sub_le _ _)]
    have hlength : buffer.queue.length = fresh.length - (fresh.length - capacity) := by
      rw [hqueue, List.length_drop]
    simp only [Buffer.putLatest]
    rw [hpush, List.drop_drop, List.length_append, List.length_singleton]
    congr 1
    omega

theorem Latest.deliver (h : buffer.Latest capacity) : buffer.deliver.Latest capacity := by
  obtain ⟨earlier, fresh, hsent, hlast, hqueue⟩ := h
  cases hcases : buffer.queue with
  | nil =>
    refine ⟨earlier, fresh, hsent, ?_, ?_⟩
    . rw [hlast, Buffer.deliver, hcases]
      exact (congrArg List.getLast? (List.append_nil _)).symm
    . rw [Buffer.deliver, hcases]
      exact (hcases.symm.trans hqueue)
  | cons oldest rest =>
    have hdrop : fresh.drop (fresh.length - capacity) = oldest :: rest := hqueue.symm.trans hcases
    refine ⟨earlier ++ fresh.take (fresh.length - capacity) ++ [oldest], rest, ?_, ?_, ?_⟩
    . calc buffer.sent
        _ = earlier ++ (fresh.take (fresh.length - capacity)
              ++ fresh.drop (fresh.length - capacity)) := by rw [List.take_append_drop, hsent]
        _ = earlier ++ fresh.take (fresh.length - capacity) ++ [oldest] ++ rest := by
          rw [hdrop]
          simp only [List.append_assoc, List.singleton_append]
    . rw [Buffer.deliver, hcases, List.getLast?_concat]
      exact List.getLast?_concat.symm
    . have hlength := congrArg List.length hdrop
      rw [List.length_drop, List.length_cons] at hlength
      have hzero : rest.length - capacity = 0 := by omega
      rw [Buffer.deliver, hcases, hzero]
      rfl

end Buffer

namespace Filled

variable {α : Type} {limit : Nat}

/-- The procedure appends the items, as far as there is room for them. -/
def Fills (limit : Nat) (items : List α) (fill : List α → List α) : Prop :=
  ∀ start, start.length ≤ limit → fill start = (start ++ items).take limit

/-- What is listed of all items, and whether it is said that some are left out. -/
structure Abridges (limit : Nat) (all listed : List α) (noticed : Bool) : Prop where
  once : listed.Sublist all
  bounded : listed.length ≤ limit
  complete : all.length ≤ limit → listed = all
  noticed : noticed = true ↔ listed.length < all.length

variable {items items' : List α} {fill fill' : List α → List α}

theorem fills_nil : Fills limit ([] : List α) (fun start => start) := by
  intro start hstart
  rw [List.append_nil, List.take_of_length_le hstart]

theorem Fills.append (h : Fills limit items fill) (h' : Fills limit items' fill')
    : Fills limit (items ++ items') (fun start => fill' (fill start)) := by
  intro start hstart
  dsimp only
  rw [h start hstart, h' _ (List.length_take_le _ _), ← List.append_assoc]
  by_cases hfull : limit ≤ (start ++ items).length
  . have hfull' : limit ≤ ((start ++ items).take limit).length := by
      rw [List.length_take]
      omega
    rw [List.take_append_of_le_length hfull, List.take_append_of_le_length hfull', List.take_take,
      Nat.min_self]
  . rw [List.take_of_length_le (Nat.le_of_not_le hfull)]

theorem Fills.guarded (h : Fills limit items fill)
    : Fills limit items (fun start => if limit ≤ start.length then start else fill start) := by
  intro start hstart
  dsimp only
  split
  . next hfull => rw [List.take_append_of_le_length hfull, List.take_of_length_le hstart]
  . exact h start hstart

theorem Fills.cons (h : Fills limit items fill) (a : α)
    : Fills limit (a :: items)
        (fun start => if limit ≤ start.length then start else fill (start ++ [a])) := by
  intro start hstart
  dsimp only
  split
  . next hfull => rw [List.take_append_of_le_length hfull, List.take_of_length_le hstart]
  . next hroom =>
    have hlength : (start ++ [a]).length ≤ limit := by
      rw [List.length_append, List.length_singleton]
      omega
    rw [h _ hlength, List.append_assoc, List.singleton_append]

theorem abridges_take_iff (all : List α) (noticed : Bool)
    : Abridges limit all (all.take limit) noticed ↔ (noticed = true ↔ limit < all.length) := by
  have hless : (all.take limit).length < all.length ↔ limit < all.length := by
    rw [List.length_take]
    omega
  constructor
  . intro h
    exact h.noticed.trans hless
  . intro hnoticed
    exact {
      once := List.take_sublist limit all
      bounded := List.length_take_le limit all
      complete := fun hle => List.take_of_length_le hle
      noticed := hnoticed.trans hless.symm }

end Filled
