import Mathlib.Data.List.Basic
import SentraLab.Basic

/-!
# The event queue

Model of `recording/event_queue.rs`. `ArrayQueue` is crossbeam's bounded MPMC queue, taken
as a linearizable FIFO of fixed capacity: a push onto a full queue hands the value back.
Its length bound is a field, so no queue longer than its capacity can be built.

`EventQueue` adds the three relaxed counters. Here each operation is one step, the queue
operation together with its counter increment.
-/

namespace SentraLab.Recording

/-- `crossbeam::queue::ArrayQueue`: the queued values from head to tail. -/
structure ArrayQueue (α : Type) where
  capacity : Nat
  items : List α
  length_le : items.length ≤ capacity

namespace ArrayQueue

variable {α : Type}

/-- `ArrayQueue::new`. -/
def new (capacity : Nat) : ArrayQueue α := ⟨capacity, [], Nat.zero_le _⟩

/-- `ArrayQueue::push`: appended at the tail, or `Err(value)` when full. -/
def push (q : ArrayQueue α) (a : α) : Except α (ArrayQueue α) :=
  if h : q.items.length < q.capacity then
    .ok ⟨q.capacity, q.items ++ [a], by simpa using h⟩
  else .error a

/-- `ArrayQueue::pop`: the head and the rest, or `None` when empty. -/
def pop (q : ArrayQueue α) : Option (α × ArrayQueue α) :=
  match h : q.items with
  | [] => none
  | a :: rest => some (a, ⟨q.capacity, rest, by
      have := q.length_le; rw [h, List.length_cons] at this; omega⟩)

theorem push_eq_ok {q q' : ArrayQueue α} {a : α} (h : q.push a = .ok q') :
    q'.items = q.items ++ [a] := by
  unfold push at h
  split at h <;> cases h
  rfl

theorem pop_eq_some {q q' : ArrayQueue α} {a : α} (h : q.pop = some (a, q')) :
    q.items = a :: q'.items := by
  unfold pop at h
  split at h
  · cases h
  · cases h; assumption

theorem pop_eq_none {q : ArrayQueue α} (h : q.pop = none) : q.items = [] := by
  unfold pop at h
  split at h
  · assumption
  · cases h

end ArrayQueue

/-- `EventQueue`: the bounded queue and its push, pop and drop counters. -/
structure EventQueue (α : Type) where
  queue : ArrayQueue α
  pushCount : Nat
  popCount : Nat
  dropCount : Nat

/-- `QueueStats`. -/
structure QueueStats where
  pushCount : Nat
  popCount : Nat
  dropCount : Nat
  currentSize : Nat
  capacity : Nat
deriving DecidableEq, Repr

namespace EventQueue

variable {α : Type}

/-- `EventQueue::new`. -/
def new (capacity : Nat) : EventQueue α := ⟨ArrayQueue.new capacity, 0, 0, 0⟩

/-- `EventQueue::push`: on success `push_count += 1`; on a full queue `drop_count += 1` and
the event comes back as `Err(event)`. -/
def push (q : EventQueue α) (e : α) : EventQueue α × Except α Unit :=
  match q.queue.push e with
  | .ok q' => ({ q with queue := q', pushCount := q.pushCount + 1 }, .ok ())
  | .error e => ({ q with dropCount := q.dropCount + 1 }, .error e)

/-- `EventQueue::try_pop`: on success `pop_count += 1`. -/
def tryPop (q : EventQueue α) : Option α × EventQueue α :=
  match q.queue.pop with
  | some (e, q') => (some e, { q with queue := q', popCount := q.popCount + 1 })
  | none => (none, q)

/-- `EventQueue::stats`. -/
def stats (q : EventQueue α) : QueueStats :=
  ⟨q.pushCount, q.popCount, q.dropCount, q.queue.items.length, q.queue.capacity⟩

/-- The queued events, head first. -/
def items (q : EventQueue α) : List α := q.queue.items

/-- `push` either appends the event or leaves the queued events as they were, and says
which. -/
theorem push_items (q : EventQueue α) (e : α) :
    ((q.push e).2 = .ok () ∧ (q.push e).1.items = q.items ++ [e]) ∨
      ((q.push e).2 = .error e ∧ (q.push e).1.items = q.items) := by
  unfold push
  split
  · rename_i q' h; exact .inl ⟨rfl, ArrayQueue.push_eq_ok h⟩
  · rename_i e' h
    have : e' = e := by unfold ArrayQueue.push at h; split at h <;> cases h; rfl
    subst this; exact .inr ⟨rfl, rfl⟩

/-- `push` onto a queue with room succeeds. -/
theorem push_ok_of_lt (q : EventQueue α) (e : α) (h : q.items.length < q.queue.capacity) :
    (q.push e).2 = .ok () := by
  unfold push ArrayQueue.push
  rw [dif_pos (show q.queue.items.length < q.queue.capacity from h)]

@[simp] theorem push_capacity (q : EventQueue α) (e : α) :
    (q.push e).1.queue.capacity = q.queue.capacity := by
  unfold push
  split
  · rename_i h
    unfold ArrayQueue.push at h
    split at h <;> cases h
    rfl
  · rfl

@[simp] theorem tryPop_capacity (q : EventQueue α) :
    (q.tryPop).2.queue.capacity = q.queue.capacity := by
  unfold tryPop
  split
  · rename_i h
    unfold ArrayQueue.pop at h
    split at h <;> cases h
    rfl
  · rfl

/-- `try_pop` takes the head of the queued events, or finds none. -/
theorem tryPop_items (q : EventQueue α) :
    (∃ e rest, q.items = e :: rest ∧ (q.tryPop).1 = some e ∧ (q.tryPop).2.items = rest) ∨
      (q.items = [] ∧ q.tryPop = (none, q)) := by
  unfold tryPop
  split
  · rename_i e q' h
    exact .inl ⟨e, q'.items, ArrayQueue.pop_eq_some h, rfl, rfl⟩
  · rename_i h; exact .inr ⟨ArrayQueue.pop_eq_none h, rfl⟩

end EventQueue

end SentraLab.Recording
