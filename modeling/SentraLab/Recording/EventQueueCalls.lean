import SentraLab.Recording.EventQueue

/-!
# The event queue under concurrent calls

`EventQueue::push` and `try_pop` each make one `ArrayQueue` operation and then bump one
counter by a separate relaxed `fetch_add`. Under producers and consumers running at once a
call is two steps: its queue operation, after which the call owes an increment, and the
increment. `ArrayQueue` is linearizable, so its operation is one step, and `stats()` reads
the counters and the queue's length as they stand.

## Strategy

Whatever the interleaving, the successful pushes are the pops followed by the queued
events, and each counter together with the increments still owed to it counts its calls
(`CallInv`, kept by every step). Wherever no call owes an increment the counters are
exact, so `stats()` satisfies `push_count = pop_count + current_size` and
`push_count + drop_count` counts the `push` calls (`stats_of_quiescent`).
-/

namespace SentraLab.Recording

/-- The counter a call owes its increment to once its queue operation is done. -/
inductive Counter where
  | push
  | pop
  | drop
deriving DecidableEq, Repr

namespace EventQueue

variable {α : Type}

/-- The relaxed `fetch_add(1, Ordering::Relaxed)` on one counter. -/
def increment (q : EventQueue α) : Counter → EventQueue α
  | .push => { q with pushCount := q.pushCount + 1 }
  | .pop => { q with popCount := q.popCount + 1 }
  | .drop => { q with dropCount := q.dropCount + 1 }

@[simp] theorem increment_queue (q : EventQueue α) (c : Counter) :
    (q.increment c).queue = q.queue := by
  cases c <;> rfl

@[simp] theorem increment_items (q : EventQueue α) (c : Counter) :
    (q.increment c).items = q.items := by
  cases c <;> rfl

theorem increment_pushCount (q : EventQueue α) (c : Counter) :
    (q.increment c).pushCount = q.pushCount + if c = .push then 1 else 0 := by
  cases c <;> rfl

theorem increment_popCount (q : EventQueue α) (c : Counter) :
    (q.increment c).popCount = q.popCount + if c = .pop then 1 else 0 := by
  cases c <;> rfl

theorem increment_dropCount (q : EventQueue α) (c : Counter) :
    (q.increment c).dropCount = q.dropCount + if c = .drop then 1 else 0 := by
  cases c <;> rfl

end EventQueue

/-- An `EventQueue` shared by concurrent calls: the queue and its counters, the increments
owed by the calls past their queue operation, and three ghost fields: the events whose
`ArrayQueue::push` succeeded and those `ArrayQueue::pop` returned, each in order, and the
number of `push` calls that made their queue operation. -/
structure SharedQueue (α : Type) where
  queue : EventQueue α
  owed : List Counter
  pushed : List α
  popped : List α
  pushCalls : Nat

/-- A step of a run: the queue operation of a `push` or of a `try_pop` call, or the
increment of a call that owes one to counter `c`. -/
inductive QueueCall (α : Type) where
  | push (e : α)
  | tryPop
  | increment (c : Counter)

namespace SharedQueue

variable {α : Type}

/-- `EventQueue::new` with no call made. -/
def new (capacity : Nat) : SharedQueue α := ⟨.new capacity, [], [], [], 0⟩

/-- The queue operation of `push`: `ArrayQueue::push`, after which the call owes
`push_count` its increment, or `drop_count` when the queue was full. -/
def pushOp (s : SharedQueue α) (e : α) : SharedQueue α :=
  match s.queue.queue.push e with
  | .ok q =>
    { s with queue := { s.queue with queue := q }, owed := s.owed ++ [.push],
             pushed := s.pushed ++ [e], pushCalls := s.pushCalls + 1 }
  | .error _ => { s with owed := s.owed ++ [.drop], pushCalls := s.pushCalls + 1 }

/-- The queue operation of `try_pop`: `ArrayQueue::pop`, after which the call owes
`pop_count` its increment; on `None` the call returns owing nothing. -/
def popOp (s : SharedQueue α) : SharedQueue α :=
  match s.queue.queue.pop with
  | some (e, q) =>
    { s with queue := { s.queue with queue := q }, owed := s.owed ++ [.pop],
             popped := s.popped ++ [e] }
  | none => s

/-- One step; an increment is enabled when some call owes it. -/
def step (s : SharedQueue α) : QueueCall α → Option (SharedQueue α)
  | .push e => some (s.pushOp e)
  | .tryPop => some s.popOp
  | .increment c =>
    if c ∈ s.owed then some { s with queue := s.queue.increment c, owed := s.owed.erase c }
    else none

/-- Every interleaving of calls. -/
def anyCall : SharedQueue α → QueueCall α → Bool := fun _ _ => true

/-! ## What each step does -/

/-- The `push` queue operation appends the event and owes `push_count`, or changes nothing
but owing `drop_count`. -/
theorem pushOp_cases (s : SharedQueue α) (e : α) :
    ((s.pushOp e).queue.items = s.queue.items ++ [e] ∧ (s.pushOp e).owed = s.owed ++ [.push] ∧
      (s.pushOp e).pushed = s.pushed ++ [e]) ∨
    ((s.pushOp e).queue.items = s.queue.items ∧ (s.pushOp e).owed = s.owed ++ [.drop] ∧
      (s.pushOp e).pushed = s.pushed) := by
  unfold pushOp
  split
  · rename_i q h
    exact .inl ⟨ArrayQueue.push_eq_ok h, rfl, rfl⟩
  · exact .inr ⟨rfl, rfl, rfl⟩

theorem pushOp_frame (s : SharedQueue α) (e : α) :
    (s.pushOp e).queue.pushCount = s.queue.pushCount ∧
      (s.pushOp e).queue.popCount = s.queue.popCount ∧
      (s.pushOp e).queue.dropCount = s.queue.dropCount ∧ (s.pushOp e).popped = s.popped ∧
      (s.pushOp e).pushCalls = s.pushCalls + 1 ∧
      (s.pushOp e).queue.queue.capacity = s.queue.queue.capacity := by
  unfold pushOp
  split
  · rename_i q h
    unfold ArrayQueue.push at h
    split at h <;> cases h
    exact ⟨rfl, rfl, rfl, rfl, rfl, rfl⟩
  · exact ⟨rfl, rfl, rfl, rfl, rfl, rfl⟩

/-- The `try_pop` queue operation takes the head into the pops and owes `pop_count`, or
finds the queue empty and changes nothing. -/
theorem popOp_cases (s : SharedQueue α) :
    (∃ e, s.queue.items = e :: s.popOp.queue.items ∧ s.popOp.owed = s.owed ++ [.pop] ∧
      s.popOp.popped = s.popped ++ [e]) ∨ s.popOp = s := by
  unfold popOp
  split
  · rename_i e q h
    exact .inl ⟨e, ArrayQueue.pop_eq_some h, rfl, rfl⟩
  · exact .inr rfl

theorem popOp_frame (s : SharedQueue α) :
    s.popOp.queue.pushCount = s.queue.pushCount ∧ s.popOp.queue.popCount = s.queue.popCount ∧
      s.popOp.queue.dropCount = s.queue.dropCount ∧ s.popOp.pushed = s.pushed ∧
      s.popOp.pushCalls = s.pushCalls ∧
      s.popOp.queue.queue.capacity = s.queue.queue.capacity := by
  unfold popOp
  split
  · rename_i e q h
    unfold ArrayQueue.pop at h
    split at h <;> cases h
    exact ⟨rfl, rfl, rfl, rfl, rfl, rfl⟩
  · exact ⟨rfl, rfl, rfl, rfl, rfl, rfl⟩

/-- An owed increment taken off the list lowers the count of its own counter by one. -/
theorem count_erase_add {c : Counter} {l : List Counter} (h : c ∈ l) (k : Counter) :
    (l.erase c).count k + (if c = k then 1 else 0) = l.count k := by
  split
  · subst c
    have := List.count_pos_iff.mpr h
    rw [List.count_erase_self]
    omega
  · rw [List.count_erase_of_ne (Ne.symm ‹_›), Nat.add_zero]

/-! ## Over every interleaving -/

/-- What every interleaving keeps: the pops followed by the queued events are the
successful pushes; the push and pop counters, with the increments owed to them, count the
successful pushes and the pops; `push_count` and `drop_count`, with their owed
increments, count the `push` calls; and the capacity stays. -/
structure CallInv (capacity : Nat) (s : SharedQueue α) : Prop where
  accounted : s.popped ++ s.queue.items = s.pushed
  push_count : s.queue.pushCount + s.owed.count .push = s.pushed.length
  pop_count : s.queue.popCount + s.owed.count .pop = s.popped.length
  push_calls :
    s.queue.pushCount + s.queue.dropCount + s.owed.count .push + s.owed.count .drop =
      s.pushCalls
  capacity_eq : s.queue.queue.capacity = capacity

theorem callInv_new (capacity : Nat) : CallInv capacity (new capacity : SharedQueue α) :=
  ⟨rfl, rfl, rfl, rfl, rfl⟩

theorem CallInv.pushOp {capacity : Nat} {s : SharedQueue α} (h : CallInv capacity s)
    (e : α) : CallInv capacity (s.pushOp e) := by
  obtain ⟨hpc, hoc, hdc, hpop, hcalls, hcap⟩ := pushOp_frame s e
  have := h.push_calls
  rcases pushOp_cases s e with ⟨hi, ho, hp⟩ | ⟨hi, ho, hp⟩
  · refine ⟨by rw [hi, hp, hpop, ← List.append_assoc, h.accounted], ?_, ?_, ?_,
      hcap.trans h.capacity_eq⟩
    · simp only [hpc, ho, hp, List.count_append, List.count_singleton, List.length_append,
        ← h.push_count]
      rfl
    · simpa [hoc, ho, hpop, List.count_append] using h.pop_count
    · simp only [hpc, hdc, ho, hcalls, List.count_append, List.count_singleton]
      simp
      omega
  · refine ⟨by rw [hi, hp, hpop, h.accounted], ?_, ?_, ?_, hcap.trans h.capacity_eq⟩
    · simpa [hpc, ho, hp, List.count_append] using h.push_count
    · simpa [hoc, ho, hpop, List.count_append] using h.pop_count
    · simp only [hpc, hdc, ho, hcalls, List.count_append, List.count_singleton]
      simp
      omega

theorem CallInv.popOp {capacity : Nat} {s : SharedQueue α} (h : CallInv capacity s) :
    CallInv capacity s.popOp := by
  obtain ⟨hpc, hoc, hdc, hpush, hcalls, hcap⟩ := popOp_frame s
  rcases popOp_cases s with ⟨e, hi, ho, hp⟩ | heq
  · refine ⟨by rw [hp, hpush, List.append_assoc, List.singleton_append, ← hi, h.accounted],
      ?_, ?_, ?_, hcap.trans h.capacity_eq⟩
    · simpa [hpc, ho, hpush, List.count_append] using h.push_count
    · simp only [hoc, ho, hp, List.count_append, List.count_singleton, List.length_append,
        ← h.pop_count]
      rfl
    · simpa [hpc, hdc, ho, hcalls, List.count_append] using h.push_calls
  · rw [heq]; exact h

theorem CallInv.increment {capacity : Nat} {s : SharedQueue α} (h : CallInv capacity s)
    {c : Counter} (hc : c ∈ s.owed) :
    CallInv capacity { s with queue := s.queue.increment c, owed := s.owed.erase c } := by
  have hp := count_erase_add hc .push
  have hq := count_erase_add hc .pop
  have hd := count_erase_add hc .drop
  have := h.push_count
  have := h.pop_count
  have := h.push_calls
  refine ⟨by simpa using h.accounted, ?_, ?_, ?_, by simpa using h.capacity_eq⟩ <;>
    cases c <;>
    simp only [EventQueue.increment_pushCount, EventQueue.increment_popCount,
      EventQueue.increment_dropCount, reduceCtorEq, ↓reduceIte, Nat.add_zero] at hp hq hd ⊢ <;>
    omega

theorem CallInv.step {capacity : Nat} {s s' : SharedQueue α} {a : QueueCall α}
    (h : CallInv capacity s) (hs : s.step a = some s') : CallInv capacity s' := by
  cases a with
  | push e => cases hs; exact h.pushOp e
  | tryPop => cases hs; exact h.popOp
  | increment c =>
    simp only [SharedQueue.step] at hs
    split at hs <;> cases hs
    exact h.increment ‹_›

/-- Over every interleaving of `push` and `try_pop` calls on a queue of any capacity `c`,
in every state where no call is between its queue operation and its counter increment,
`stats()` has `push_count = pop_count + current_size`, `push_count + drop_count` equal to
the number of `push` calls made, and `current_size ≤ c = capacity`; and the events popped
are, in pop order, a prefix of the events pushed, in push order, none twice unless pushed
twice. -/
theorem stats_of_quiescent (c : Nat) {s : SharedQueue α} (hs : Reach step anyCall (new c) s)
    (hq : s.owed = []) :
    s.queue.stats.pushCount = s.queue.stats.popCount + s.queue.stats.currentSize ∧
      s.queue.stats.pushCount + s.queue.stats.dropCount = s.pushCalls ∧
      s.queue.stats.currentSize ≤ c ∧ s.queue.stats.capacity = c ∧
      s.popped <+: s.pushed ∧ (s.pushed.Nodup → s.popped.Nodup) := by
  have h := hs.induct (CallInv c) (callInv_new c) fun h _ hs => h.step hs
  have hpush := h.push_count
  have hpop := h.pop_count
  have hcalls := h.push_calls
  have hlen := congrArg List.length h.accounted
  simp only [hq, List.count_nil, Nat.add_zero, List.length_append] at hpush hpop hcalls hlen
  have hle := s.queue.queue.length_le
  rw [h.capacity_eq] at hle
  refine ⟨by simp only [EventQueue.stats]; unfold EventQueue.items at hlen; omega,
    by simpa [EventQueue.stats] using hcalls, hle, h.capacity_eq, ?_, ?_⟩
  · exact h.accounted ▸ List.prefix_append _ _
  · exact fun hn => hn.sublist (h.accounted ▸ List.sublist_append_left _ _)

/-- A push is counted after a pop of its event, then three pushes on a queue of two, one
dropped: once every increment is in, the counters add up. -/
theorem stats_of_quiescent_pop_counted_first :
    ∃ s, Reach step anyCall (new 2 : SharedQueue Nat) s ∧ s.owed = [] ∧
      s.pushed = [1, 2, 3] ∧ s.popped = [1] ∧ s.pushCalls = 4 ∧
      (s.queue.stats.pushCount = s.queue.stats.popCount + s.queue.stats.currentSize ∧
        s.queue.stats.pushCount + s.queue.stats.dropCount = s.pushCalls ∧
        s.queue.stats.currentSize ≤ 2 ∧ s.queue.stats.capacity = 2 ∧
        s.popped <+: s.pushed ∧ (s.pushed.Nodup → s.popped.Nodup)) := by
  obtain ⟨s, hs, h⟩ := reach_of_runSteps step anyCall (new 2 : SharedQueue Nat)
    [.push 1, .tryPop, .increment .pop, .increment .push, .push 2, .push 3, .push 4,
      .increment .drop, .increment .push, .increment .push]
    (fun s => s.owed.isEmpty && s.pushed == [1, 2, 3] && s.popped == [1] && s.pushCalls == 4)
    (by decide)
  simp only [Bool.and_eq_true, beq_iff_eq, List.isEmpty_iff] at h
  exact ⟨s, hs, h.1.1.1, h.1.1.2, h.1.2, h.2, stats_of_quiescent 2 hs h.1.1.1⟩

end SharedQueue

end SentraLab.Recording
