import SentraLab.Recording.Recorder

/-!
# Ordering and loss in the recorder

* `Inv`: every event whose push succeeded is, in push order, in a batch that a successful
  `write_batch` accepted, in the drain buffer, or still queued, and accepted batches carry
  increasing batch numbers. Every step keeps it (`Inv.step`), whatever fails, so it holds
  in every state of every run (`handed_batch_queue_eq_pushed`).
* The flush notification does not flush what the drain loop pops after it: the loop
  flushes only full batches, so an iteration that consumed a notification can end with a
  partial batch (`notified_iteration_keeps_partial_batch`), and `shutdown`, which aborts
  the task after that iteration, loses it (`shutdown_loses_recorded_event`).
* The drain buffer: `flush_batch` keeps the batch when it fails and the `while let` loop
  keeps adding to it, so while flushes fail the buffer, and the batch storage is finally
  handed, grow without bound (`failing_flushes_grow_batch`); when every flush succeeds the
  buffer stays below `batch_size` (`batch_bounded_of_flushesSucceed`).
-/

namespace SentraLab.Recording

namespace EventRecorder

variable {E : Type} (codec : Codec E)

/-! ## What each step changes -/

section FlushBatch

variable (r : EventRecorder E) (createdAt : Int) (fault : Option FlushFault)

@[simp] theorem flushBatch_queue : (r.flushBatch codec createdAt fault).queue = r.queue := by
  unfold flushBatch; split <;> [rfl; split <;> rfl]

@[simp] theorem flushBatch_pushed : (r.flushBatch codec createdAt fault).pushed = r.pushed := by
  unfold flushBatch; split <;> [rfl; split <;> rfl]

@[simp] theorem flushBatch_config : (r.flushBatch codec createdAt fault).config = r.config := by
  unfold flushBatch; split <;> [rfl; split <;> rfl]

/-- `flush_batch` either keeps the batch, at most taking a batch number, or hands it to a
successful `write_batch`, which took the next number. -/
theorem flushBatch_cases :
    ((r.flushBatch codec createdAt fault).batch = r.batch ∧
      (r.flushBatch codec createdAt fault).handed = r.handed ∧
      r.storage.batchCounter ≤ (r.flushBatch codec createdAt fault).storage.batchCounter) ∨
    ((r.flushBatch codec createdAt fault).batch = [] ∧
      (r.flushBatch codec createdAt fault).handed =
        r.handed ++ [((r.flushBatch codec createdAt fault).storage.batchCounter, r.batch)] ∧
      (r.flushBatch codec createdAt fault).storage.batchCounter = r.storage.batchCounter + 1) := by
  unfold flushBatch
  split
  · exact .inl ⟨rfl, rfl, le_rfl⟩
  · split <;> simp

end FlushBatch

/-! ## The push-order invariant -/

/-- Every event whose push succeeded is in exactly one place, in push order: in a batch a
successful `write_batch` accepted, in the drain buffer, or in the queue; and the accepted
batches carry increasing numbers taken from the session's counter. -/
structure Inv (r : EventRecorder E) : Prop where
  accounted : (r.handed.map (·.2)).flatten ++ r.batch ++ r.queue.items = r.pushed
  sorted : (r.handed.map (·.1)).Sorted (· < ·)
  le_counter : ∀ p ∈ r.handed, p.1 ≤ r.storage.batchCounter

theorem Inv.flushBatch {r : EventRecorder E} (h : Inv r) (createdAt : Int)
    (fault : Option FlushFault) : Inv (r.flushBatch codec createdAt fault) := by
  rcases flushBatch_cases codec r createdAt fault with ⟨hb, hh, hc⟩ | ⟨hb, hh, hc⟩
  · exact ⟨by simpa [hb, hh] using h.accounted, hh ▸ h.sorted,
      fun p hp => (h.le_counter p (hh ▸ hp)).trans hc⟩
  · refine ⟨by simpa [hb, hh] using h.accounted, ?_, ?_⟩
    · rw [hh, List.map_append]
      refine List.pairwise_append.mpr ⟨h.sorted, List.pairwise_singleton _ _, ?_⟩
      intro a ha b hb
      obtain ⟨p, hp, rfl⟩ := List.mem_map.mp ha
      rw [List.mem_singleton.mp hb, hc]
      exact Nat.lt_succ_of_le (h.le_counter p hp)
    · intro p hp
      rw [hh, List.mem_append, List.mem_singleton] at hp
      rcases hp with hp | rfl
      · exact (h.le_counter p hp).trans (hc ▸ Nat.le_succ _)
      · exact le_rfl

theorem Inv.record {r : EventRecorder E} (h : Inv r) (e : E) : Inv (r.record e).1 := by
  unfold EventRecorder.record
  rcases EventQueue.push_items r.queue e with ⟨hok, hi⟩ | ⟨herr, hi⟩
  · split
    · rename_i q hq
      have : q.items = r.queue.items ++ [e] := by rw [← hi, hq]
      exact ⟨by simp [this, ← h.accounted], h.sorted, h.le_counter⟩
    · rename_i q _ hq; rw [hq] at hok; cases hok
  · split
    · rename_i q hq; rw [hq] at herr; cases herr
    · rename_i q _ hq
      have : q.items = r.queue.items := by rw [← hi, hq]
      exact ⟨by simp [this, h.accounted], h.sorted, h.le_counter⟩

theorem Inv.drainOne {r : EventRecorder E} (h : Inv r) (createdAt : Int)
    (fault : Option FlushFault) : Inv (r.drainOne codec createdAt fault) := by
  unfold EventRecorder.drainOne
  rcases EventQueue.tryPop_items r.queue with ⟨e, rest, hq, hp, hr⟩ | ⟨-, hp⟩
  · split
    · rename_i e' q hpop
      rw [hpop] at hp hr
      cases hp
      have h' : Inv { r with queue := q, batch := r.batch ++ [e] } :=
        ⟨by simpa [hq, hr] using h.accounted, h.sorted, h.le_counter⟩
      dsimp only
      split
      · exact h'.flushBatch codec createdAt fault
      · exact h'
    · rename_i q hpop; rw [hpop] at hp; cases hp
  · rw [hp]; exact ⟨h.accounted, h.sorted, h.le_counter⟩

/-- Every step keeps `Inv`, whatever the serialization, compression or storage does. -/
theorem Inv.step {r r' : EventRecorder E} {op : RecorderOp E} (h : Inv r)
    (hs : r.step codec op = some r') : Inv r' := by
  cases op with
  | record e => cases hs; exact h.record e
  | runStatsTask =>
    simp only [EventRecorder.step] at hs; split at hs <;> cases hs
    exact ⟨h.accounted, h.sorted, h.le_counter⟩
  | start =>
    simp only [EventRecorder.step] at hs; split at hs <;> cases hs
    exact ⟨h.accounted, h.sorted, h.le_counter⟩
  | notify => cases hs; exact ⟨h.accounted, h.sorted, h.le_counter⟩
  | tick createdAt fault =>
    simp only [EventRecorder.step] at hs; split at hs <;> cases hs
    have := h.flushBatch codec createdAt fault
    exact ⟨this.accounted, this.sorted, this.le_counter⟩
  | notified createdAt fault =>
    simp only [EventRecorder.step] at hs; split at hs <;> cases hs
    have := (show Inv { r with notifyPending := false } from
      ⟨h.accounted, h.sorted, h.le_counter⟩).flushBatch codec createdAt fault
    exact ⟨this.accounted, this.sorted, this.le_counter⟩
  | pop createdAt fault =>
    simp only [EventRecorder.step] at hs; split at hs <;> cases hs
    exact h.drainOne codec createdAt fault
  | abort =>
    simp only [EventRecorder.step] at hs; split at hs <;> cases hs
    exact ⟨h.accounted, h.sorted, h.le_counter⟩

/-- For every run of a recorder, any interleaving of `record` calls with the drain task's
steps and any pattern of serialization, compression or storage failures: the batches
handed to successful `write_batch` calls, in batch-number order, then the drain buffer,
then the queue, are exactly the events whose push succeeded, in push order. (Once
`shutdown` has aborted the task, `batch` is the buffer the aborted task held.) -/
theorem handed_batch_queue_eq_pushed (config : RecorderConfig) (d : Disk)
    (r : EventRecorder E) (hr : Reach (step codec) anyStep (new config d) r) :
    (r.handed.map (·.2)).flatten ++ r.batch ++ r.queue.items = r.pushed ∧
      (r.handed.map (·.1)).Sorted (· < ·) := by
  have := Reach.induct Inv (by exact ⟨by simp [new, EventQueue.new, EventQueue.items,
      ArrayQueue.new], List.sorted_nil, by simp [new]⟩) (fun h _ hs => h.step codec hs) hr
  exact ⟨this.accounted, this.sorted⟩

/-- A codec that serializes every batch to nothing and stores bytes as they are. -/
def Codec.plain : Codec Nat := ⟨fun _ => [], fun data _ => data⟩

/-- Two events recorded, one flushed in a batch of size one, the other still queued. -/
theorem handed_batch_queue_eq_pushed_two_events :
    ∃ r, Reach (step Codec.plain) anyStep (new ⟨1, .fast, 8⟩ Disk.empty) r ∧
      r.pushed = [1, 2] ∧ r.handed = [(1, [1])] ∧ r.queue.items = [2] ∧
      ((r.handed.map (·.2)).flatten ++ r.batch ++ r.queue.items = r.pushed ∧
        (r.handed.map (·.1)).Sorted (· < ·)) := by
  obtain ⟨r, hr, hp⟩ := reach_of_runSteps (step Codec.plain) anyStep
    (new ⟨1, .fast, 8⟩ Disk.empty) [.record 1, .record 2, .start, .tick 0 none, .pop 0 none]
    (fun r => r.pushed == [1, 2] && r.handed == [(1, [1])] && r.queue.items == [2])
    (by decide)
  simp only [Bool.and_eq_true, beq_iff_eq] at hp
  exact ⟨r, hr, hp.1.1, hp.1.2, hp.2,
    handed_batch_queue_eq_pushed Codec.plain ⟨1, .fast, 8⟩ Disk.empty r hr⟩

/-! ## A flush notification does not flush what is popped after it -/

/-- From a recorder whose queue holds one event and whose drain task waits in `select!`
with a flush notification pending, the iteration that consumes the notification (storage
never failing) pops the event into the batch, finds the queue empty and returns to
`select!` with the event still in the batch, not in any indexed batch. -/
theorem notified_iteration_keeps_partial_batch :
    ∃ r₀ r, Reach (step Codec.plain) anyStep (new .default Disk.empty) r₀ ∧
      r₀.task = .running .select ∧ r₀.notifyPending = true ∧ r₀.batch = [] ∧
      r₀.queue.items = [7] ∧
      runSteps (step Codec.plain) anyStep r₀ [.notified 0 none, .pop 0 none, .pop 0 none] =
        some r ∧
      r.task = .running .select ∧ r.batch = [7] ∧ r.handed = [] ∧ r.storage.disk.rows = [] := by
  obtain ⟨r₀, h₀, hp₀⟩ := reach_of_runSteps (step Codec.plain) anyStep
    (new .default Disk.empty) [.record 7, .start, .notify]
    (fun r => r.task == .running .select && r.notifyPending && r.batch.isEmpty &&
      r.queue.items == [7] &&
      ((runSteps (step Codec.plain) anyStep r [.notified 0 none, .pop 0 none, .pop 0 none]).map
        fun r => r.task == .running .select && r.batch == [7] && r.handed.isEmpty &&
          r.storage.disk.rows.isEmpty) == some true)
    (by decide)
  simp only [Bool.and_eq_true, beq_iff_eq, List.isEmpty_iff] at hp₀
  obtain ⟨⟨⟨⟨ht, hn⟩, hb⟩, hq⟩, hrun⟩ := hp₀
  cases hr : runSteps (step Codec.plain) anyStep r₀ [.notified 0 none, .pop 0 none, .pop 0 none]
  with
  | none => simp [hr] at hrun
  | some r =>
    simp only [hr, Option.map_some', Option.some.injEq, Bool.and_eq_true, beq_iff_eq,
      List.isEmpty_iff] at hrun
    exact ⟨r₀, r, h₀, ht, hn, hb, hq, hr, hrun.1.1.1, hrun.1.1.2, hrun.1.2, hrun.2⟩

/-- `shutdown` after a successful `record`: its notification is consumed while the batch is
still empty, the drain loop then pops the event into the batch, and `abort` ends the task
with the event in no indexed batch, although storage never failed. -/
theorem shutdown_loses_recorded_event :
    ∃ r₀ r, Reach (step Codec.plain) anyStep (new .default Disk.empty) r₀ ∧ 7 ∈ r₀.pushed ∧
      runSteps (step Codec.plain) anyStep r₀
        [.notify, .notified 0 none, .pop 0 none, .pop 0 none, .abort] = some r ∧
      r.task = .aborted ∧ 7 ∈ r.pushed ∧ r.handed = [] ∧ r.storage.disk.rows = [] := by
  obtain ⟨r₀, h₀, hp₀⟩ := reach_of_runSteps (step Codec.plain) anyStep
    (new .default Disk.empty) [.record 7, .start]
    (fun r => decide (7 ∈ r.pushed) &&
      ((runSteps (step Codec.plain) anyStep r
          [.notify, .notified 0 none, .pop 0 none, .pop 0 none, .abort]).map
        fun r => r.task == .aborted && decide (7 ∈ r.pushed) && r.handed.isEmpty &&
          r.storage.disk.rows.isEmpty) == some true)
    (by decide)
  simp only [Bool.and_eq_true, beq_iff_eq, decide_eq_true_eq] at hp₀
  obtain ⟨h7, hrun⟩ := hp₀
  cases hr : runSteps (step Codec.plain) anyStep r₀
    [.notify, .notified 0 none, .pop 0 none, .pop 0 none, .abort] with
  | none => simp [hr] at hrun
  | some r =>
    simp only [hr, Option.map_some', Option.some.injEq, Bool.and_eq_true, beq_iff_eq,
      List.isEmpty_iff, decide_eq_true_eq] at hrun
    exact ⟨r₀, r, h₀, h7, hr, hrun.1.1.1, hrun.1.1.2, hrun.1.2, hrun.2⟩

/-! ## The drain buffer -/

section DrainBuffer

variable (r : EventRecorder E) (e : E) (createdAt : Int)

/-- A successful `flush_batch` of a non-empty batch empties it and hands it to storage. -/
theorem flushBatch_none (h : r.batch ≠ []) :
    (r.flushBatch codec createdAt none).batch = [] ∧
      ∃ k, (r.flushBatch codec createdAt none).handed = r.handed ++ [(k, r.batch)] := by
  simp [flushBatch, List.isEmpty_iff, h]

/-- One turn of the `while let` loop whose pop returns `e`, against an `INSERT` that fails:
`e` joins the batch, and the flush of a full batch keeps it, changing only the storage. -/
theorem drainOne_insert {r : EventRecorder E} {e : E} (h : r.queue.tryPop.1 = some e) :
    ∃ storage, r.drainOne codec createdAt (some .insert) =
      { r with queue := r.queue.tryPop.2, batch := r.batch ++ [e], storage := storage } := by
  unfold drainOne
  rcases hp : r.queue.tryPop with ⟨_ | e', q⟩
  · rw [hp] at h; cases h
  · rw [hp] at h; cases h
    dsimp only
    split
    · exact ⟨_, by simp [flushBatch]; rfl⟩
    · exact ⟨r.storage, rfl⟩

/-- `record` changes only the queue, the statistics tasks and the ghost pushes. -/
theorem record_frame : (r.record e).1.batch = r.batch ∧ (r.record e).1.task = r.task ∧
    (r.record e).1.config = r.config ∧ (r.record e).1.handed = r.handed ∧
    (r.record e).1.queue = (r.queue.push e).1 := by
  unfold record; split <;> simp_all

/-- From a drain task in the `while let` loop with an empty queue that has room, a `record`
and a pop whose flush fails at the `INSERT` add the event to the batch and empty the queue
again. -/
theorem record_pop_grows {r : EventRecorder E} (hq : r.queue.items = [])
    (hcap : 0 < r.queue.queue.capacity) (ht : r.task = .running .draining) :
    ∃ r', runSteps (step codec) anyStep r [.record e, .pop createdAt (some .insert)] =
        some r' ∧
      r'.batch = r.batch ++ [e] ∧ r'.queue.items = [] ∧
      r'.queue.queue.capacity = r.queue.queue.capacity ∧ r'.task = r.task := by
  obtain ⟨hb, ht', -, -, hq'⟩ := record_frame r e
  have hpush := EventQueue.push_items r.queue e
  have hok := EventQueue.push_ok_of_lt r.queue e (by rw [hq]; exact hcap)
  rw [hok] at hpush
  simp only [true_and, reduceCtorEq, false_and, or_false, hq, List.nil_append] at hpush
  obtain ⟨e', rest, hitems, hpop, hrest⟩ | ⟨hnil, -⟩ := EventQueue.tryPop_items (r.record e).1.queue
  · rw [hq', hpush] at hitems
    obtain ⟨rfl, rfl⟩ := List.cons.inj hitems
    obtain ⟨storage, hs⟩ := drainOne_insert codec createdAt hpop
    refine ⟨{ (r.record e).1 with
        queue := (r.record e).1.queue.tryPop.2, batch := (r.record e).1.batch ++ [e],
        storage := storage },
      ?_, by simp [hb], hrest, by simp [hq'], ht'⟩
    simp only [runSteps, anyStep, step, ht', ht, ↓reduceIte, Option.some_bind, hs]
  · rw [hq', hpush] at hnil; cases hnil

/-- Under flushes that fail at the `INSERT`, a run of a recorder whose queue has room
reaches a drain buffer of `n` copies of `e`, for every `n`, with the queue empty and the
drain task in the `while let` loop. -/
theorem reach_batch_replicate (config : RecorderConfig) (hcap : 0 < config.maxQueueSize)
    (d : Disk) (e : E) : ∀ n, ∃ r, Reach (step codec) anyStep (new config d) r ∧
      r.batch = List.replicate n e ∧ r.queue.items = [] ∧
      r.queue.queue.capacity = config.maxQueueSize ∧ r.task = .running .draining
  | 0 => ⟨_, .step (a := .tick 0 (some .insert)) (.step (a := .start) .init rfl rfl) rfl rfl,
      rfl, rfl, rfl, rfl⟩
  | n + 1 => by
    obtain ⟨r, hr, hb, hq, hc, ht⟩ := reach_batch_replicate config hcap d e n
    obtain ⟨r', hrun, hb', hq', hc', ht'⟩ := record_pop_grows codec e 0 hq (hc ▸ hcap) ht
    exact ⟨r', hr.runSteps hrun, by rw [hb', hb, List.replicate_succ'], hq', hc'.trans hc,
      ht'.trans ht⟩

/-- For every configuration whose queue has room for one event, every event `e` and every
`n`: while `flush_batch` keeps failing, the drain loop's buffer grows to `n` events, and
once a flush succeeds, `write_batch` is handed all `n + 1` events of a buffer grown so.
Neither is bounded by `batch_size`. -/
theorem failing_flushes_grow_batch (config : RecorderConfig) (hcap : 0 < config.maxQueueSize)
    (d : Disk) (e : E) (n : Nat) :
    (∃ r, Reach (step codec) anyStep (new config d) r ∧ r.batch = List.replicate n e) ∧
      ∃ r k, Reach (step codec) anyStep (new config d) r ∧
        (k, List.replicate (n + 1) e) ∈ r.handed := by
  obtain ⟨r₀, h₀, hb₀, -⟩ := reach_batch_replicate codec config hcap d e n
  obtain ⟨r, hr, hb, hq, -, ht⟩ := reach_batch_replicate codec config hcap d e (n + 1)
  have hnone : r.queue.tryPop = (none, r.queue) := by
    rcases EventQueue.tryPop_items r.queue with ⟨_, _, h, -⟩ | ⟨-, h⟩
    · rw [hq] at h; cases h
    · exact h
  have hs₁ : r.step codec (.pop 0 none) = some { r with task := .running .select } := by
    simp [step, ht, drainOne, hnone]
  obtain ⟨-, k, hh⟩ := flushBatch_none codec { r with task := .running .select } 0
    (by simp [hb])
  refine ⟨⟨r₀, h₀, hb₀⟩, _, k, .step (.step hr rfl hs₁) (a := .tick 0 none) rfl rfl, ?_⟩
  show _ ∈ (flushBatch codec _ 0 none).handed
  rw [hh, ← hb]
  exact List.mem_append_right _ (List.mem_singleton_self _)

/-- A batch size of one and two events: a buffer of two events while flushes fail, and a
batch of three handed over once one succeeds. -/
theorem failing_flushes_grow_batch_past_one :
    0 < (⟨1, .fast, 8⟩ : RecorderConfig).maxQueueSize ∧
      ((∃ r, Reach (step Codec.plain) anyStep (new ⟨1, .fast, 8⟩ Disk.empty) r ∧
          r.batch = List.replicate 2 7) ∧
        ∃ r k, Reach (step Codec.plain) anyStep (new ⟨1, .fast, 8⟩ Disk.empty) r ∧
          (k, List.replicate (2 + 1) 7) ∈ r.handed) :=
  ⟨by decide, failing_flushes_grow_batch Codec.plain ⟨1, .fast, 8⟩ (by decide) Disk.empty 7 2⟩

/-- What the runs in which every flush succeeds keep: the configuration, a drain buffer
below `batch_size`, and batches of at most `batch_size` events handed to storage. -/
structure BoundInv (config : RecorderConfig) (r : EventRecorder E) : Prop where
  config_eq : r.config = config
  batch_lt : r.batch.length < config.batchSize
  handed_le : ∀ p ∈ r.handed, p.2.length ≤ config.batchSize

/-- A successful `flush_batch` of a buffer of at most `batch_size` events restores the
bound. -/
theorem boundInv_flushBatch {config : RecorderConfig} {r : EventRecorder E}
    (hc : r.config = config) (hpos : 0 < config.batchSize)
    (hle : r.batch.length ≤ config.batchSize)
    (hh : ∀ p ∈ r.handed, p.2.length ≤ config.batchSize) :
    BoundInv config (r.flushBatch codec createdAt none) := by
  by_cases hb : r.batch = []
  · have : r.flushBatch codec createdAt none = r := by simp [flushBatch, hb]
    rw [this]
    exact ⟨hc, by simpa [hb] using hpos, hh⟩
  · obtain ⟨hb', k, hh'⟩ := flushBatch_none codec r createdAt hb
    refine ⟨by rw [flushBatch_config, hc], by simpa [hb'] using hpos, fun p hp => ?_⟩
    rw [hh', List.mem_append, List.mem_singleton] at hp
    rcases hp with hp | rfl
    · exact hh p hp
    · exact hle

theorem BoundInv.flushBatch {config : RecorderConfig} {r : EventRecorder E}
    (h : BoundInv config r) : BoundInv config (r.flushBatch codec createdAt none) :=
  boundInv_flushBatch codec createdAt h.config_eq (Nat.zero_lt_of_lt h.batch_lt)
    h.batch_lt.le h.handed_le

theorem BoundInv.drainOne {config : RecorderConfig} {r : EventRecorder E}
    (h : BoundInv config r) : BoundInv config (r.drainOne codec createdAt none) := by
  unfold EventRecorder.drainOne
  split
  · rename_i e q _
    dsimp only
    split
    · exact boundInv_flushBatch codec createdAt h.config_eq (Nat.zero_lt_of_lt h.batch_lt)
        (by simpa using h.batch_lt) h.handed_le
    · rename_i hlt
      exact ⟨h.config_eq, by dsimp only at hlt ⊢; rw [h.config_eq] at hlt; omega, h.handed_le⟩
  · exact ⟨h.config_eq, h.batch_lt, h.handed_le⟩

/-- Every step of a run in which flushes succeed keeps `BoundInv`. -/
theorem BoundInv.step {config : RecorderConfig} {r r' : EventRecorder E} {op : RecorderOp E}
    (h : BoundInv config r) (ha : flushesSucceed r op = true) (hs : r.step codec op = some r') :
    BoundInv config r' := by
  cases op with
  | record e =>
    cases hs
    obtain ⟨hb, -, hc, hh, -⟩ := record_frame r e
    exact ⟨hc ▸ h.config_eq, hb ▸ h.batch_lt, hh ▸ h.handed_le⟩
  | tick createdAt fault =>
    simp only [flushesSucceed, Option.isNone_iff_eq_none] at ha
    subst ha
    simp only [EventRecorder.step] at hs; split at hs <;> cases hs
    have := h.flushBatch codec createdAt
    exact ⟨this.config_eq, this.batch_lt, this.handed_le⟩
  | notified createdAt fault =>
    simp only [flushesSucceed, Option.isNone_iff_eq_none] at ha
    subst ha
    simp only [EventRecorder.step] at hs; split at hs <;> cases hs
    have := (show BoundInv config { r with notifyPending := false } from
      ⟨h.config_eq, h.batch_lt, h.handed_le⟩).flushBatch codec createdAt
    exact ⟨this.config_eq, this.batch_lt, this.handed_le⟩
  | pop createdAt fault =>
    simp only [flushesSucceed, Option.isNone_iff_eq_none] at ha
    subst ha
    simp only [EventRecorder.step] at hs; split at hs <;> cases hs
    exact h.drainOne codec createdAt
  | runStatsTask | start | notify | abort =>
    simp only [EventRecorder.step] at hs
    (try split at hs) <;> cases hs
    all_goals exact ⟨h.config_eq, h.batch_lt, h.handed_le⟩

/-- For every configuration with `batch_size ≥ 1` and every run in which each `flush_batch`
succeeds: the drain buffer holds fewer than `batch_size` events between steps, and every
batch handed to `write_batch` has at most `batch_size` events. -/
theorem batch_bounded_of_flushesSucceed (config : RecorderConfig) (hpos : 0 < config.batchSize)
    (d : Disk) {r : EventRecorder E} (hr : Reach (step codec) flushesSucceed (new config d) r) :
    r.batch.length < config.batchSize ∧ ∀ p ∈ r.handed, p.2.length ≤ config.batchSize := by
  have := Reach.induct (BoundInv config) ⟨rfl, by simpa [new] using hpos, by simp [new]⟩
    (fun h ha hs => h.step codec ha hs) hr
  exact ⟨this.batch_lt, this.handed_le⟩

/-- A batch size of two: two events recorded and handed over together, the bound kept. -/
theorem batch_bounded_of_flushesSucceed_two_events :
    ∃ r, Reach (step Codec.plain) flushesSucceed (new ⟨2, .fast, 8⟩ Disk.empty) r ∧
      r.handed = [(1, [1, 2])] ∧
      (r.batch.length < (⟨2, .fast, 8⟩ : RecorderConfig).batchSize ∧
        ∀ p ∈ r.handed, p.2.length ≤ (⟨2, .fast, 8⟩ : RecorderConfig).batchSize) := by
  obtain ⟨r, hr, h⟩ := reach_of_runSteps (step Codec.plain) flushesSucceed
    (new ⟨2, .fast, 8⟩ Disk.empty)
    [.record 1, .record 2, .start, .tick 0 none, .pop 0 none, .pop 0 none]
    (fun r => r.handed == [(1, [1, 2])]) (by decide)
  exact ⟨r, hr, by simpa using h,
    batch_bounded_of_flushesSucceed Codec.plain _ (by decide) Disk.empty hr⟩

end DrainBuffer

end EventRecorder

end SentraLab.Recording
