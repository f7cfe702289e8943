import SentraLab.Recording.Compressor
import SentraLab.Recording.EventQueue
import SentraLab.Recording.Storage

/-!
# The event recorder

Model of `recording/recorder.rs`: producers call `record`, which pushes onto the
`EventQueue`; one drain task, spawned by `start`, loops

```
select! { interval tick => flush the batch if non-empty,
          flush notification => flush the batch if non-empty }
while let Some(event) = queue.try_pop() { batch.push(event); flush if batch is full }
```

and `flush_batch` serializes, compresses and hands the batch to the session's
`write_batch`, clearing it only on success.

The drain task's steps are the coarse steps of that loop: one `select!` branch with
its flush (`tick`, `notified`), one turn of the `while let` (`pop`), and `abort`. A flush
is one step whose outcome is a choice of the run (`FlushFault`). The model has no clock:
an interval tick may fire whenever the task waits in `select!`, and `flush`'s 50 ms sleep
is whatever steps the other tasks take before the next one. `pushed` and `handed` are
ghost fields: the events whose push succeeded, in push order, and for each successful
`write_batch` the batch number it took and the events it was handed. The model has one
drain task: `start` is enabled only before it has run (see `step`).
-/

namespace SentraLab.Recording

/-- `RecorderConfig`, without `flush_interval_ms` (there is no clock) and without its
`StorageConfig` (the session is opened on a given disk). -/
structure RecorderConfig where
  batchSize : Nat
  compressionLevel : CompressionLevel
  maxQueueSize : Nat
deriving DecidableEq, Repr

/-- `RecorderConfig::default`. -/
def RecorderConfig.default : RecorderConfig := ⟨1000, .fast, 1000000⟩

/-- `RecorderStats`, without its two timing sums. -/
structure RecorderStats where
  eventsRecorded : Nat
  eventsFlushed : Nat
  batchesFlushed : Nat
  bytesWritten : Nat
deriving DecidableEq, Repr

/-- Where the drain task stands: waiting in `select!`, or in the `while let` loop. -/
inductive DrainPc where
  | select
  | draining
deriving DecidableEq, Repr

/-- The drain task: not spawned yet, running, or aborted by `shutdown`. -/
inductive DrainTask where
  | notStarted
  | running (pc : DrainPc)
  | aborted
deriving DecidableEq, Repr

/-- The failures a `flush_batch` call can meet, in the order it meets them. -/
inductive FlushFault where
  | serialize
  | compress
  | fileWrite (left : Option Bytes)
  | insert
deriving DecidableEq, Repr

/-- `EventRecorder`: its configuration, queue and storage session, the drain task's batch
and position, the `flush_notify` permit, the statistics with the `record` updates still
to run, and the two ghost fields. -/
structure EventRecorder (E : Type) where
  config : RecorderConfig
  queue : EventQueue E
  storage : EventStorage
  batch : List E
  task : DrainTask
  notifyPending : Bool
  stats : RecorderStats
  statsTasks : Nat
  pushed : List E
  handed : List (Nat × List E)

/-- The steps of a run: a producer's `record`, a spawned statistics update, `start`,
`flush`'s `notify_one`, the drain task's steps, and `shutdown`'s `abort`. `createdAt` is
the clock reading a successful insert stores. -/
inductive RecorderOp (E : Type) where
  | record (e : E)
  | runStatsTask
  | start
  | notify
  | tick (createdAt : Int) (fault : Option FlushFault)
  | notified (createdAt : Int) (fault : Option FlushFault)
  | pop (createdAt : Int) (fault : Option FlushFault)
  | abort

namespace EventRecorder

variable {E : Type} (codec : Codec E)

/-- `EventRecorder::new`, with the storage session opened on `d`. -/
def new (config : RecorderConfig) (d : Disk) : EventRecorder E :=
  ⟨config, .new config.maxQueueSize, .new d, [], .notStarted, false, ⟨0, 0, 0, 0⟩, 0, [], []⟩

/-- `record`: push onto the queue; on success a statistics update is spawned. -/
def record (r : EventRecorder E) (e : E) : EventRecorder E × Except EngineError Unit :=
  match r.queue.push e with
  | (q, .ok ()) =>
    ({ r with queue := q, statsTasks := r.statsTasks + 1, pushed := r.pushed ++ [e] }, .ok ())
  | (q, .error _) => ({ r with queue := q }, .error (.recordingFailed "Event queue full"))

/-- The statistics after a successful `flush_batch` of `n` events and `bytes` bytes. -/
def RecorderStats.flushed (st : RecorderStats) (n bytes : Nat) : RecorderStats :=
  { st with batchesFlushed := st.batchesFlushed + 1, eventsFlushed := st.eventsFlushed + n,
            bytesWritten := st.bytesWritten + bytes }

/-- `flush_batch`: nothing for an empty batch; otherwise the compressed serialization is
handed to `write_batch`, and the batch is cleared only if every stage succeeds. -/
def flushBatch (r : EventRecorder E) (createdAt : Int) (fault : Option FlushFault) :
    EventRecorder E :=
  if r.batch.isEmpty then r else
  let data := codec.compress r.config.compressionLevel (codec.serialize r.batch)
  match fault with
  | some .serialize => r
  | some .compress => r
  | some (.fileWrite left) =>
    { r with storage := (r.storage.writeBatch data createdAt (.fileWrite left)).1 }
  | some .insert => { r with storage := (r.storage.writeBatch data createdAt .insert).1 }
  | none =>
    let storage := (r.storage.writeBatch data createdAt .none).1
    { r with storage := storage, batch := [],
             stats := RecorderStats.flushed r.stats r.batch.length data.length,
             handed := r.handed ++ [(storage.batchCounter, r.batch)] }

/-- One turn of `while let Some(event) = queue.try_pop()`: the event joins the batch, which
is flushed once it holds `batch_size` events; an empty queue ends the loop. -/
def drainOne (r : EventRecorder E) (createdAt : Int) (fault : Option FlushFault) :
    EventRecorder E :=
  match r.queue.tryPop with
  | (some e, q) =>
    let r' := { r with queue := q, batch := r.batch ++ [e] }
    if r.config.batchSize ≤ r'.batch.length then r'.flushBatch codec createdAt fault else r'
  | (none, _) => { r with task := .running .select }

/-- One step; `none` when it is not enabled. `start` is taken only once, before any drain
step: `EventRecorder::start` has no guard, and a second call, or a call after `shutdown`,
spawns another drain task with an empty buffer beside the first. Runs with more than one
drain task are outside the model. -/
def step (r : EventRecorder E) : RecorderOp E → Option (EventRecorder E)
  | .record e => some (r.record e).1
  | .runStatsTask =>
    if r.statsTasks = 0 then none else
    some { r with statsTasks := r.statsTasks - 1,
                  stats := { r.stats with eventsRecorded := r.stats.eventsRecorded + 1 } }
  | .start => if r.task = .notStarted then some { r with task := .running .select } else none
  | .notify => some { r with notifyPending := true }
  | .tick createdAt fault =>
    if r.task = .running .select then
      some { r.flushBatch codec createdAt fault with task := .running .draining }
    else none
  | .notified createdAt fault =>
    if r.task = .running .select ∧ r.notifyPending then
      some { ({ r with notifyPending := false }).flushBatch codec createdAt fault with
               task := .running .draining }
    else none
  | .pop createdAt fault =>
    if r.task = .running .draining then some (r.drainOne codec createdAt fault) else none
  | .abort =>
    match r.task with
    | .running _ => some { r with task := .aborted }
    | _ => none

/-- Every interleaving of steps. -/
def anyStep : EventRecorder E → RecorderOp E → Bool := fun _ _ => true

/-- The runs in which every `flush_batch` succeeds. -/
def flushesSucceed : EventRecorder E → RecorderOp E → Bool
  | _, .tick _ fault | _, .notified _ fault | _, .pop _ fault => fault.isNone
  | _, _ => true

end EventRecorder

end SentraLab.Recording
