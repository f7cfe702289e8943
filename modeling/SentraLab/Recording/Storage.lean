import Mathlib.Algebra.Order.Ring.Nat
import Mathlib.Data.List.Sort
import SentraLab.Basic

/-!
# The blob store

Model of `recording/storage.rs`: `EventStorage` over a base directory that holds the batch
files `events/batch_NNNNNNNN.zst` and the SQLite index `events.db` with its one table
`event_batches`.

* `Disk` is what outlives a session: the batch files, the rows of `event_batches` in
  `id` order, and the `AUTOINCREMENT` sequence.
* `EventStorage` is one session (`EventStorage::new`) over a disk: its `batch_counter`,
  which `new` sets to `0`, and the `write_batch` calls in flight.
* `write_batch` runs in three steps, split at its awaits: take the counter lock and the next
  id, write the file, insert the row under the database lock. `StorageOp` lists the steps a
  run may take, `StorageOp.apply` is one step, and `StorageRun` the states a run reaches
  from an empty directory, with `reopen` starting a new session on the same disk.

A batch id `format!("batch_{:08}", n)` is represented by its counter value `n`: the
rendering is injective, and the file path `<base>/<events>/batch_<n>.zst` is a function of
it, so a file is keyed by `n` too.
-/

namespace SentraLab.Recording

/-- A row of `event_batches`. `payload` is not a column: it records, for the statements
about the store, the bytes of the `write_batch` call that inserted the row. -/
structure BatchRow where
  id : Nat
  batchNo : Nat
  eventCount : Nat
  compressedSize : Nat
  createdAt : Int
  payload : Bytes
deriving DecidableEq, Repr

/-- What is in the base directory: batch files by batch number, the rows of
`event_batches` in `id` order, and the largest `id` handed out. -/
structure Disk where
  files : Nat → Option Bytes
  rows : List BatchRow
  seq : Nat

/-- A directory with no batch files and an empty index. -/
def Disk.empty : Disk := ⟨fun _ => none, [], 0⟩

/-- The disk with batch file `n` holding `v` (`none`: no file). -/
def Disk.setFile (d : Disk) (n : Nat) (v : Option Bytes) : Disk :=
  { d with files := Function.update d.files n v }

@[simp] theorem Disk.setFile_rows (d : Disk) (n : Nat) (v : Option Bytes) :
    (d.setFile n v).rows = d.rows := rfl

@[simp] theorem Disk.setFile_files (d : Disk) (n : Nat) (v : Option Bytes) :
    (d.setFile n v).files = Function.update d.files n v := rfl

/-- The disk with a row for batch `n` appended under the next `AUTOINCREMENT` id, with
`event_count` `0` and `compressed_size` the byte length of `data`. -/
def Disk.insertRow (d : Disk) (n : Nat) (data : Bytes) (createdAt : Int) : Disk :=
  { d with rows := d.rows ++ [⟨d.seq + 1, n, 0, data.length, createdAt, data⟩],
           seq := d.seq + 1 }

@[simp] theorem Disk.insertRow_files (d : Disk) (n : Nat) (data : Bytes) (createdAt : Int) :
    (d.insertRow n data createdAt).files = d.files := rfl

@[simp] theorem Disk.insertRow_rows (d : Disk) (n : Nat) (data : Bytes) (createdAt : Int) :
    (d.insertRow n data createdAt).rows =
      d.rows ++ [⟨d.seq + 1, n, 0, data.length, createdAt, data⟩] := rfl

/-- A `write_batch` call in flight: the batch number it took and its bytes. -/
structure WriteCall where
  batchNo : Nat
  data : Bytes
deriving DecidableEq, Repr

/-- One storage session: the disk, `batch_counter`, and the `write_batch` calls in flight,
those still writing their file (`allocated`) and those waiting to insert their row
(`written`). -/
structure EventStorage where
  disk : Disk
  batchCounter : Nat
  allocated : List WriteCall
  written : List WriteCall

/-- `BatchMetadata`, as `list_batches` reads it. -/
structure BatchMetadata where
  batchId : Nat
  eventCount : Nat
  compressedSize : Nat
  createdAt : Int
deriving DecidableEq, Repr

namespace EventStorage

/-- `EventStorage::new` on a disk: the directories and the table are created if missing,
rows already there are kept, and `batch_counter` starts at `0`. -/
def new (d : Disk) : EventStorage := ⟨d, 0, [], []⟩

/-- The steps of `write_batch` calls, each naming the call by the batch number it took,
and the start of a new session. A failed file write leaves the file as `left` (absent,
as before, or partly written); a failed insert leaves the index as it was. -/
inductive StorageOp where
  | begin (data : Bytes)
  | writeFile (batchNo : Nat) (failure : Option (Option Bytes))
  | insertRow (batchNo : Nat) (ok : Bool) (createdAt : Int)
  | reopen
deriving DecidableEq, Repr

/-- The first step of `write_batch`: `*counter += 1` under the counter lock. -/
def begin (s : EventStorage) (data : Bytes) : EventStorage :=
  { s with batchCounter := s.batchCounter + 1,
           allocated := ⟨s.batchCounter + 1, data⟩ :: s.allocated }

/-- The session once call `c`'s file write has succeeded: the file holds its bytes and the
call waits for the database lock. -/
def fileWritten (s : EventStorage) (c : WriteCall) : EventStorage :=
  { s with disk := s.disk.setFile c.batchNo (some c.data),
           allocated := s.allocated.erase c, written := c :: s.written }

/-- The session once call `c`'s file write has failed, leaving the file as `left`; the call
has returned `StorageFailed`. -/
def fileFailed (s : EventStorage) (c : WriteCall) (left : Option Bytes) : EventStorage :=
  { s with disk := s.disk.setFile c.batchNo left, allocated := s.allocated.erase c }

/-- The session once call `c`'s insert has run, inserting the row when `ok`; the call has
returned. -/
def rowInserted (s : EventStorage) (c : WriteCall) (ok : Bool) (createdAt : Int) :
    EventStorage :=
  { s with disk := if ok then s.disk.insertRow c.batchNo c.data createdAt else s.disk,
           written := s.written.erase c }

/-- `fs::write(&file_path, compressed_data)` of the call that took `n`. -/
def writeFile (s : EventStorage) (n : Nat) (failure : Option (Option Bytes)) :
    Option EventStorage :=
  match s.allocated.find? (·.batchNo == n) with
  | none => none
  | some c =>
    match failure with
    | none => some (s.fileWritten c)
    | some left => some (s.fileFailed c left)

/-- The `INSERT INTO event_batches` of the call that took `n`. -/
def insertRow (s : EventStorage) (n : Nat) (ok : Bool) (createdAt : Int) :
    Option EventStorage :=
  match s.written.find? (·.batchNo == n) with
  | none => none
  | some c => some (s.rowInserted c ok createdAt)

theorem writeFile_eq_some {s s' : EventStorage} {n : Nat} {failure : Option (Option Bytes)}
    (h : s.writeFile n failure = some s') :
    ∃ c ∈ s.allocated, c.batchNo = n ∧
      ((failure = none ∧ s' = s.fileWritten c) ∨
        ∃ left, failure = some left ∧ s' = s.fileFailed c left) := by
  unfold writeFile at h
  split at h
  · cases h
  · rename_i c hc
    refine ⟨c, List.mem_of_find?_eq_some hc, by simpa using List.find?_some hc, ?_⟩
    cases failure with
    | none => exact .inl ⟨rfl, (Option.some.inj h).symm⟩
    | some left => exact .inr ⟨left, rfl, (Option.some.inj h).symm⟩

theorem insertRow_eq_some {s s' : EventStorage} {n : Nat} {ok : Bool} {createdAt : Int}
    (h : s.insertRow n ok createdAt = some s') :
    ∃ c ∈ s.written, c.batchNo = n ∧ s' = s.rowInserted c ok createdAt := by
  unfold insertRow at h
  split at h
  · cases h
  · rename_i c hc
    exact ⟨c, List.mem_of_find?_eq_some hc, by simpa using List.find?_some hc,
      (Option.some.inj h).symm⟩

/-- One step of a run; `none` when the step is not enabled. `reopen` ends the session
(calls in flight are abandoned) and opens a new one on the same disk. -/
def step (s : EventStorage) : StorageOp → Option EventStorage
  | .begin data => some (s.begin data)
  | .writeFile n failure => s.writeFile n failure
  | .insertRow n ok createdAt => s.insertRow n ok createdAt
  | .reopen => some (new s.disk)

/-- `read_batch`: the file named by the first row with the batch id. -/
def readBatch (s : EventStorage) (batchId : Nat) : Except EngineError Bytes :=
  match s.disk.rows.find? (·.batchNo == batchId) with
  | none => .error (.storageFailed "Batch not found")
  | some r =>
    match s.disk.files r.batchNo with
    | some data => .ok data
    | none => .error (.storageFailed "Failed to read batch file")

/-- `list_batches`: the rows in `id` order. -/
def listBatches (s : EventStorage) : List BatchMetadata :=
  s.disk.rows.map fun r => ⟨r.batchNo, r.eventCount, r.compressedSize, r.createdAt⟩

/-- `StorageStats`. -/
structure StorageStats where
  totalBatches : Nat
  totalSizeBytes : Nat
deriving DecidableEq, Repr

/-- `EventStorage::stats`: `COUNT(*)` and `SUM(compressed_size)` over `event_batches`, each
read as `0` when its query fails. The sum fails when there are no rows (`NULL`, which is `0`
anyway) and when it passes `i64::MAX`, where SQLite reports an integer overflow. -/
def stats (s : EventStorage) : StorageStats :=
  let total := (s.disk.rows.map (·.compressedSize)).sum
  ⟨s.disk.rows.length, if total ≤ 9223372036854775807 then total else 0⟩

/-- The failures a sequential `write_batch` can meet. -/
inductive WriteFault where
  | none
  | fileWrite (left : Option Bytes)
  | insert
deriving DecidableEq, Repr

/-- `write_batch` run to completion with no other call in between, as the recorder's
single drain task calls it. -/
def writeBatch (s : EventStorage) (data : Bytes) (createdAt : Int) (fault : WriteFault) :
    EventStorage × Except EngineError Unit :=
  let n := s.batchCounter + 1
  let after (d : Disk) : EventStorage := { s with disk := d, batchCounter := n }
  match fault with
  | .fileWrite left =>
    (after (s.disk.setFile n left), .error (.storageFailed "Failed to write batch file"))
  | .insert =>
    (after (s.disk.setFile n (some data)),
      .error (.storageFailed "Failed to record batch metadata"))
  | .none => (after ((s.disk.setFile n (some data)).insertRow n data createdAt), .ok ())

@[simp] theorem writeBatch_batchCounter (s : EventStorage) (data : Bytes) (createdAt : Int)
    (fault : WriteFault) :
    (s.writeBatch data createdAt fault).1.batchCounter = s.batchCounter + 1 := by
  cases fault <;> rfl

/-- `write_batch` writes no batch file below the number it takes. -/
theorem writeBatch_files_of_le (s : EventStorage) (data : Bytes) (createdAt : Int)
    (fault : WriteFault) {m : Nat} (hm : m ≤ s.batchCounter) :
    (s.writeBatch data createdAt fault).1.disk.files m = s.disk.files m := by
  have hne : m ≠ s.batchCounter + 1 := by omega
  cases fault <;> simp [writeBatch, Function.update_noteq hne]

/-- A `write_batch` that fails inserts no row. -/
theorem writeBatch_rows_of_ne_none (s : EventStorage) (data : Bytes) (createdAt : Int)
    {fault : WriteFault} (hf : fault ≠ .none) :
    (s.writeBatch data createdAt fault).1.disk.rows = s.disk.rows := by
  cases fault <;> first | exact absurd rfl hf | rfl

/-- Steps of any sequence of sessions on one directory. -/
def anySession : EventStorage → StorageOp → Bool := fun _ _ => true

/-- Steps of one session. -/
def inSession : EventStorage → StorageOp → Bool
  | _, .reopen => false
  | _, _ => true

/-- Steps of one session in which no `write_batch` call starts while another is in
flight. -/
def sequential (s : EventStorage) : StorageOp → Bool
  | .begin _ => s.allocated.isEmpty && s.written.isEmpty
  | .reopen => false
  | _ => true

/-- Steps of one session with calls that neither overlap nor fail. -/
def sequentialOk (s : EventStorage) : StorageOp → Bool
  | .begin _ => s.allocated.isEmpty && s.written.isEmpty
  | .writeFile _ failure => failure.isNone
  | .insertRow _ ok _ => ok
  | .reopen => false

end EventStorage

end SentraLab.Recording
